import DeviceSlots.NameMap

/-!
# Entries of maps

A map's view and its entries say the same: a name has a value exactly if the two stand together in
the list. Names do not repeat, and a function applied to every value leaves them alone. In any list
whose keys do not repeat, a key leads to the one member that has it.
-/

namespace DeviceSlots

/-! ## Keys that do not repeat -/

section

variable {α κ : Type} [DecidableEq κ] {key : α → κ} {list : List α}

/-- Where keys do not repeat, the members with a key are one member. -/
theorem filter_of_nodup (h : (list.map key).Nodup) {a : α} (ha : a ∈ list) :
    list.filter (fun x => key x = key a) = [a] := by
  induction list with
  | nil => simp at ha
  | cons x rest ih =>
    obtain ⟨hfresh, hrest⟩ := List.nodup_cons.mp h
    by_cases hx : key x = key a
    · have hnone : rest.filter (fun y => key y = key a) = [] := by
        rw [List.filter_eq_nil_iff]
        intro y hy hkey
        have hkey' : key y = key x := (of_decide_eq_true hkey).trans hx.symm
        exact hfresh (List.mem_map.mpr ⟨y, hy, hkey'⟩)
      rcases List.mem_cons.mp ha with rfl | ha
      · simp [hnone]
      · exact absurd (List.mem_map.mpr ⟨a, ha, hx.symm⟩) hfresh
    · have ha' : a ∈ rest := by
        rcases List.mem_cons.mp ha with rfl | ha
        · exact absurd rfl hx
        · exact ha
      simp [hx, ih hrest ha']

theorem find?_of_nodup (h : (list.map key).Nodup) {a : α} (ha : a ∈ list) :
    list.find? (fun x => key x = key a) = some a := by
  rw [← List.head?_filter, filter_of_nodup h ha]
  rfl

end

/-! ## Entries -/

namespace NameMap

variable {α β : Type}

theorem lookup_eq_some_iff {name : String} {a : α} {list : List (String × α)}
    (h : list.Pairwise Precedes) : lookup name list = some a ↔ (name, a) ∈ list := by
  induction list with
  | nil => simp [lookup]
  | cons y rest ih =>
    obtain ⟨n, b⟩ := y
    obtain ⟨hhead, htail⟩ := List.pairwise_cons.mp h
    by_cases hn : n = name
    · subst hn
      have hfresh : (n, a) ∉ rest := fun hmem => String.lt_irrefl n (hhead _ hmem)
      simp [lookup, hfresh, eq_comm]
    · simp [lookup, hn, Ne.symm hn, ih htail]

theorem find?_eq_some_iff (m : NameMap α) (name : String) (a : α) :
    m.find? name = some a ↔ (name, a) ∈ m.toList :=
  lookup_eq_some_iff m.ascending

theorem contains_iff (m : NameMap α) (name : String) :
    m.contains name = true ↔ ∃ a, m.find? name = some a := by
  simp [contains, Option.isSome_iff_exists]

theorem pairwise_names (m : NameMap α) : (m.toList.map Prod.fst).Pairwise (· < ·) :=
  List.pairwise_map.mpr m.ascending

theorem nodup_names (m : NameMap α) : (m.toList.map Prod.fst).Nodup := by
  apply m.pairwise_names.imp
  intro a b hlt heq
  exact String.lt_irrefl b (heq ▸ hlt)

theorem nodup_toList (m : NameMap α) : m.toList.Nodup := by
  apply m.ascending.imp
  intro x y hlt heq
  exact String.lt_irrefl y.1 (heq ▸ hlt)

/-- An entry with a lesser name stands before one with a greater name. -/
theorem mem_before_of_lt {m : NameMap α} {before after : List (String × α)} {x y : String × α}
    (hsplit : m.toList = before ++ x :: after) (hy : y ∈ m.toList) (hlt : y.1 < x.1) :
    y ∈ before := by
  have hascending : (before ++ x :: after).Pairwise Precedes := hsplit ▸ m.ascending
  obtain ⟨hlater, -⟩ := List.pairwise_cons.mp (List.pairwise_append.mp hascending).2.1
  rw [hsplit, List.mem_append] at hy
  rcases hy with hy | hy
  · exact hy
  · rcases List.mem_cons.mp hy with rfl | hy
    · exact absurd hlt (String.lt_irrefl _)
    · exact absurd (String.lt_trans hlt (hlater y hy)) (String.lt_irrefl _)

/-- Maps with the same entries are the same. -/
theorem ext_toList {m m' : NameMap α} (h : m.toList = m'.toList) : m = m' := by
  cases m
  cases m'
  cases h
  rfl

/-- Maps with the same view are the same. -/
theorem ext_find? {m m' : NameMap α} (h : ∀ name, m.find? name = m'.find? name) : m = m' := by
  have hperm : m.toList.Perm m'.toList := by
    rw [List.perm_ext_iff_of_nodup m.nodup_toList m'.nodup_toList]
    intro x
    rw [← find?_eq_some_iff, ← find?_eq_some_iff, h]
  apply ext_toList
  apply hperm.eq_of_pairwise _ m.ascending m'.ascending
  intro x y _ _ hxy hyx
  exact absurd (String.lt_trans hxy hyx) (String.lt_irrefl x.1)

/-- A name without a value is not there to be taken out. -/
theorem erase_eq_self {m : NameMap α} {name : String} (h : m.find? name = none) :
    m.erase name = m := by
  apply ext_find?
  intro n
  rw [find?_erase]
  split
  · rename_i hn
    rw [hn, h]
  · rfl

/-- A name without a value makes one entry more. -/
theorem size_insert {m : NameMap α} {name : String} (h : m.find? name = none) (a : α) :
    (m.insert name a).size = m.size + 1 := by
  have hplace : ∀ list : List (String × α), lookup name list = none →
      (place name a list).length = list.length + 1 := by
    intro list hnone
    induction list with
    | nil => rfl
    | cons y rest ih =>
      by_cases hn : y.1 = name
      · simp [lookup, hn] at hnone
      · simp only [lookup, hn, if_false] at hnone
        rw [place]
        split
        · rfl
        · rw [List.length_cons, List.length_cons, ih hnone]
  exact hplace m.entries h

/-! ## Applying a function to every value -/

/-- The map with a function applied to every value. -/
def map (f : α → β) (m : NameMap α) : NameMap β where
  entries := m.entries.map fun x => (x.1, f x.2)
  ascending := by
    rw [List.pairwise_map]
    exact m.ascending

@[simp] theorem toList_map (f : α → β) (m : NameMap α) :
    (m.map f).toList = m.toList.map fun x => (x.1, f x.2) := rfl

@[simp] theorem size_empty : (empty : NameMap α).size = 0 := rfl

@[simp] theorem size_map (f : α → β) (m : NameMap α) : (m.map f).size = m.size :=
  List.length_map _

theorem find?_map (f : α → β) (m : NameMap α) (name : String) :
    (m.map f).find? name = (m.find? name).map f := by
  suffices ∀ list : List (String × α),
      lookup name (list.map fun x => (x.1, f x.2)) = (lookup name list).map f from this m.entries
  intro list
  induction list with
  | nil => rfl
  | cons y rest ih =>
    by_cases hn : y.1 = name
    · simp [lookup, hn]
    · simp [lookup, hn, ih]

theorem map_insert (f : α → β) (m : NameMap α) (name : String) (a : α) :
    (m.insert name a).map f = (m.map f).insert name (f a) := by
  apply ext_find?
  intro n
  rw [find?_map, find?_insert, find?_insert, find?_map]
  split <;> rfl

theorem map_erase (f : α → β) (m : NameMap α) (name : String) :
    (m.erase name).map f = (m.map f).erase name := by
  apply ext_find?
  intro n
  rw [find?_map, find?_erase, find?_erase, find?_map]
  split <;> rfl

/-- A change that a function does not see is not seen in the map of its values. -/
theorem map_modify (f : α → β) (g : α → α) (hg : ∀ a, f (g a) = f a) (m : NameMap α)
    (name : String) : (m.modify name g).map f = m.map f := by
  have hchange : ∀ list : List (String × α),
      (change name g list).map (fun x => (x.1, f x.2)) = list.map fun x => (x.1, f x.2) := by
    intro list
    induction list with
    | nil => rfl
    | cons y rest ih =>
      by_cases hn : y.1 = name
      · simp [change, hn, hg]
      · simp [change, hn, ih]
  exact ext_toList (hchange m.entries)

/-- A function that changes no value changes no map. -/
theorem map_eq_self (f : α → α) (m : NameMap α)
    (h : ∀ name a, m.find? name = some a → f a = a) : m.map f = m := by
  apply ext_toList
  rw [toList_map]
  have hsame : ∀ x ∈ m.toList, (x.1, f x.2) = x := by
    intro x hx
    rw [h x.1 x.2 ((m.find?_eq_some_iff x.1 x.2).mpr hx)]
  simpa using List.map_congr_left hsame

end NameMap

end DeviceSlots
