/-!
# Maps keyed by names

A finite map from names to values, kept as a list in strictly ascending order of the names. Strings
are ordered by their code points, which is the order of their UTF-8 bytes. `find?` is the view: the
other operations are described by what they do to it.
-/

namespace DeviceSlots

/-- The order of the names of two entries. -/
def NameMap.Precedes {α : Type} (x y : String × α) : Prop := x.1 < y.1

/-- A finite map from names to values. -/
structure NameMap (α : Type) where
  entries : List (String × α)
  ascending : entries.Pairwise NameMap.Precedes

namespace NameMap

variable {α β : Type}

/-! ## Lists of entries -/

/-- Looks a name up in a list of entries. -/
def lookup (name : String) : List (String × α) → Option α
  | [] => none
  | (n, a) :: rest => if n = name then some a else lookup name rest

/-- Puts an entry at its place in an ascending list, replacing one of the same name. -/
def place (name : String) (a : α) : List (String × α) → List (String × α)
  | [] => [(name, a)]
  | (n, b) :: rest =>
    if name < n then (name, a) :: (n, b) :: rest
    else if n = name then (name, a) :: rest
    else (n, b) :: place name a rest

/-- Takes the entry of a name out of a list. -/
def remove (name : String) : List (String × α) → List (String × α)
  | [] => []
  | (n, b) :: rest => if n = name then rest else (n, b) :: remove name rest

/-- Changes the value of a name in a list. -/
def change (name : String) (f : α → α) : List (String × α) → List (String × α)
  | [] => []
  | (n, b) :: rest => if n = name then (n, f b) :: rest else (n, b) :: change name f rest

theorem lt_of_not_lt_of_ne {a b : String} (h : ¬ a < b) (hne : b ≠ a) : b < a :=
  Std.lt_of_le_of_ne (String.not_lt.mp h) hne

theorem mem_place {name : String} {a : α} {list : List (String × α)} {x : String × α}
    (h : x ∈ place name a list) : x = (name, a) ∨ x ∈ list := by
  induction list with
  | nil => simpa [place] using h
  | cons y rest ih =>
    obtain ⟨n, b⟩ := y
    simp only [place] at h
    split at h
    · simpa using h
    · split at h
      · rcases List.mem_cons.mp h with h | h
        · exact .inl h
        · exact .inr (List.mem_cons_of_mem _ h)
      · rcases List.mem_cons.mp h with h | h
        · exact .inr (h ▸ List.mem_cons_self)
        · rcases ih h with h | h
          · exact .inl h
          · exact .inr (List.mem_cons_of_mem _ h)

theorem ascending_place (name : String) (a : α) {list : List (String × α)}
    (h : list.Pairwise Precedes) : (place name a list).Pairwise Precedes := by
  induction list with
  | nil => simp [place]
  | cons y rest ih =>
    obtain ⟨n, b⟩ := y
    obtain ⟨hhead, htail⟩ := List.pairwise_cons.mp h
    simp only [place]
    split
    · rename_i hlt
      refine List.pairwise_cons.mpr ⟨fun x hx => ?_, h⟩
      rcases List.mem_cons.mp hx with hx | hx
      · subst hx
        exact hlt
      · exact String.lt_trans hlt (hhead x hx)
    · split
      · rename_i heq
        subst heq
        exact List.pairwise_cons.mpr ⟨fun x hx => hhead x hx, htail⟩
      · rename_i hlt hne
        refine List.pairwise_cons.mpr ⟨fun x hx => ?_, ih htail⟩
        rcases mem_place hx with hx | hx
        · subst hx
          exact lt_of_not_lt_of_ne hlt hne
        · exact hhead x hx

theorem sublist_remove (name : String) (list : List (String × α)) :
    (remove name list).Sublist list := by
  induction list with
  | nil => exact .slnil
  | cons y rest ih =>
    obtain ⟨n, b⟩ := y
    simp only [remove]
    split
    · exact List.sublist_cons_self _ _
    · exact ih.cons_cons _

theorem map_fst_change (name : String) (f : α → α) (list : List (String × α)) :
    (change name f list).map Prod.fst = list.map Prod.fst := by
  induction list with
  | nil => rfl
  | cons y rest ih =>
    obtain ⟨n, b⟩ := y
    simp only [change]
    split <;> simp [ih]

theorem ascending_change (name : String) (f : α → α) {list : List (String × α)}
    (h : list.Pairwise Precedes) : (change name f list).Pairwise Precedes := by
  have key : ∀ l : List (String × α),
      l.Pairwise Precedes ↔ (l.map Prod.fst).Pairwise (· < ·) :=
    fun l => (List.pairwise_map (R := fun a b : String => a < b)).symm
  rw [key, map_fst_change, ← key]
  exact h

/-! ## Maps -/

/-- The map without entries. -/
def empty : NameMap α := ⟨[], .nil⟩

instance : Inhabited (NameMap α) := ⟨empty⟩

/-- The value of a name. -/
def find? (m : NameMap α) (name : String) : Option α := lookup name m.entries

/-- Whether a name has a value. -/
def contains (m : NameMap α) (name : String) : Bool := (m.find? name).isSome

/-- Gives a name a value, replacing the one it has. -/
def insert (m : NameMap α) (name : String) (a : α) : NameMap α :=
  ⟨place name a m.entries, ascending_place name a m.ascending⟩

/-- Takes a name out of the map. -/
def erase (m : NameMap α) (name : String) : NameMap α :=
  ⟨remove name m.entries, m.ascending.sublist (sublist_remove name m.entries)⟩

/-- Changes the value of a name, if it has one. -/
def modify (m : NameMap α) (name : String) (f : α → α) : NameMap α :=
  ⟨change name f m.entries, ascending_change name f m.ascending⟩

/-- The entries in ascending order of their names. -/
def toList (m : NameMap α) : List (String × α) := m.entries

/-- The names in ascending order. -/
def names (m : NameMap α) : List String := m.entries.map Prod.fst

/-- The number of entries. -/
def size (m : NameMap α) : Nat := m.entries.length

/-- Whether there are no entries. -/
def isEmpty (m : NameMap α) : Bool := m.entries.isEmpty

/-! ## What operations do to the view -/

theorem lookup_place (name n : String) (a : α) (list : List (String × α)) :
    lookup n (place name a list) = if n = name then some a else lookup n list := by
  induction list with
  | nil => simp only [place, lookup, eq_comm]
  | cons y rest ih =>
    obtain ⟨k, b⟩ := y
    simp only [place]
    split
    · simp only [lookup, eq_comm]
    · split
      · rename_i hk
        subst hk
        by_cases h : k = n
        · simp [lookup, h]
        · simp [lookup, h, Ne.symm h]
      · rename_i hk
        by_cases h : k = n
        · subst h
          simp [lookup, hk]
        · simp [lookup, h, ih]

theorem lookup_eq_none_of_precedes {name : String} {list : List (String × α)}
    (h : ∀ x ∈ list, name < x.1) : lookup name list = none := by
  induction list with
  | nil => rfl
  | cons y rest ih =>
    obtain ⟨k, b⟩ := y
    have hk : k ≠ name := fun he => String.lt_irrefl name (he ▸ h (k, b) List.mem_cons_self)
    simp only [lookup, hk, if_false]
    exact ih fun x hx => h x (List.mem_cons_of_mem _ hx)

theorem lookup_remove (name n : String) {list : List (String × α)}
    (h : list.Pairwise Precedes) :
    lookup n (remove name list) = if n = name then none else lookup n list := by
  induction list with
  | nil => simp [remove, lookup]
  | cons y rest ih =>
    obtain ⟨k, b⟩ := y
    obtain ⟨hhead, htail⟩ := List.pairwise_cons.mp h
    simp only [remove]
    split
    · rename_i hk
      subst hk
      by_cases hn : n = k
      · subst hn
        simp [lookup_eq_none_of_precedes hhead]
      · simp [lookup, hn, Ne.symm hn]
    · rename_i hk
      by_cases hn : k = n
      · subst hn
        simp [lookup, hk]
      · simp [lookup, hn, ih htail]

theorem lookup_change (name n : String) (f : α → α) (list : List (String × α)) :
    lookup n (change name f list) =
      if n = name then (lookup n list).map f else lookup n list := by
  induction list with
  | nil => simp [change, lookup]
  | cons y rest ih =>
    obtain ⟨k, b⟩ := y
    simp only [change]
    split
    · rename_i hk
      subst hk
      by_cases hn : k = n
      · simp [lookup, hn]
      · simp [lookup, hn, Ne.symm hn]
    · rename_i hk
      by_cases hn : k = n
      · subst hn
        simp [lookup, hk]
      · simp [lookup, hn, ih]

@[simp] theorem find?_empty (n : String) : (empty : NameMap α).find? n = none := rfl

theorem find?_insert (m : NameMap α) (name n : String) (a : α) :
    (m.insert name a).find? n = if n = name then some a else m.find? n :=
  lookup_place name n a m.entries

theorem find?_erase (m : NameMap α) (name n : String) :
    (m.erase name).find? n = if n = name then none else m.find? n :=
  lookup_remove name n m.ascending

theorem find?_modify (m : NameMap α) (name n : String) (f : α → α) :
    (m.modify name f).find? n = if n = name then (m.find? n).map f else m.find? n :=
  lookup_change name n f m.entries

end NameMap

end DeviceSlots
