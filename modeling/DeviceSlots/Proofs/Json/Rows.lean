import DeviceSlots.Json.Reader
import DeviceSlots.Proofs.Json.Tokens
import Mathlib.Data.List.Forall2

/-!
# Rows of values

The rows of tokens of all JSON values: with strings that have no content, with any numbers, and with
objects that have a key more than once. Skipping passes over such a row and over nothing else; so
where a value ends, and which elements or members it has, is known from its row.
-/

namespace DeviceSlots.Json

/-! ## Rows between commas -/

/-- Rows with a comma in front of each, but not of the first one if there is none before it. -/
def listed : (first : Bool) → List (List Token) → List Token
  | _, [] => []
  | first, row :: rows => (if first then [] else [.comma]) ++ (row ++ listed false rows)

theorem separate_eq_listed (rows : List (List Token)) : Value.separate rows = listed true rows := by
  induction rows with
  | nil => rfl
  | cons row rows ih =>
    rw [Value.separate_cons]
    cases rows with
    | nil => rfl
    | cons other rows =>
      rw [ih, if_neg (by simp)]
      rfl

theorem listed_append (first : Bool) (rows rows' : List (List Token)) :
    listed first (rows ++ rows') = listed first rows ++ listed (first && rows.isEmpty) rows' := by
  induction rows generalizing first with
  | nil => simp [listed]
  | cons row rows ih => simp [listed, ih]

/-- Rows take a token each, the first one apart if it has no comma in front. -/
theorem length_le_length_listed (first : Bool) (rows : List (List Token)) :
    rows.length ≤ (listed first rows).length + if first then 1 else 0 := by
  induction rows generalizing first with
  | nil => exact Nat.zero_le _
  | cons row rows ih =>
    have hlater := ih false
    cases first <;> simp [listed] at hlater ⊢ <;> omega

/-! ## Values -/

/-- The tokens of a member with a key and the tokens of a value. -/
def entryRow (entry : Option String × List Token) : List Token :=
  .string entry.1 :: .colon :: entry.2

/-- The tokens of an array. -/
def arrayRow (rows : List (List Token)) : List Token :=
  .openBracket :: (listed true rows ++ [.closeBracket])

/-- The tokens of an object. -/
def objectRow (entries : List (Option String × List Token)) : List Token :=
  .openBrace :: (listed true (entries.map entryRow) ++ [.closeBrace])

/-- The rows of tokens that are values. -/
inductive IsValue : List Token → Prop
  | null : IsValue [.null]
  | bool (b : Bool) : IsValue [.bool b]
  | number (x : Numeral) : IsValue [.number x]
  | string (content : Option String) : IsValue [.string content]
  | array {rows : List (List Token)} (h : ∀ row ∈ rows, IsValue row) : IsValue (arrayRow rows)
  | object {entries : List (Option String × List Token)} (h : ∀ entry ∈ entries, IsValue entry.2) :
      IsValue (objectRow entries)

theorem arrayRow_append (rows : List (List Token)) (rest : List Token) :
    arrayRow rows ++ rest = .openBracket :: (listed true rows ++ .closeBracket :: rest) := by
  rw [arrayRow, List.cons_append, List.append_assoc, List.singleton_append]

theorem objectRow_append (entries : List (Option String × List Token)) (rest : List Token) :
    objectRow entries ++ rest =
      .openBrace :: (listed true (entries.map entryRow) ++ .closeBrace :: rest) := by
  rw [objectRow, List.cons_append, List.append_assoc, List.singleton_append]

/-- No value begins with the end of an array. -/
theorem IsValue.append_ne {row : List Token} (h : IsValue row) (ts us : List Token) :
    row ++ ts ≠ .closeBracket :: us := by
  cases h <;> exact fun heq => nomatch heq

/-! ## Skipping -/

/-- A row is skipped, wherever it stands. -/
def Skipped (row : List Token) : Prop :=
  ∀ around rest, skipValue around (row ++ rest) = skipAfter around rest

theorem skipAfter_items {rows : List (List Token)} (h : ∀ row ∈ rows, Skipped row)
    (around : List Bracket) (rest : List Token) :
    skipAfter (.array :: around) (listed false rows ++ .closeBracket :: rest) =
      skipAfter around rest := by
  induction rows with
  | nil => rw [listed, List.nil_append, skipAfter]
  | cons row rows ih =>
    obtain ⟨hrow, hrows⟩ := List.forall_mem_cons.mp h
    rw [listed, if_neg (by decide), List.singleton_append, List.cons_append, List.append_assoc,
      skipAfter, hrow, ih hrows]

theorem skipAfter_entries {entries : List (Option String × List Token)}
    (h : ∀ entry ∈ entries, Skipped entry.2) (around : List Bracket) (rest : List Token) :
    skipAfter (.object :: around) (listed false (entries.map entryRow) ++ .closeBrace :: rest) =
      skipAfter around rest := by
  induction entries with
  | nil => rw [List.map_nil, listed, List.nil_append, skipAfter]
  | cons entry entries ih =>
    obtain ⟨hentry, hentries⟩ := List.forall_mem_cons.mp h
    rw [List.map_cons, listed, if_neg (by decide), List.singleton_append, List.cons_append,
      List.append_assoc, entryRow, List.cons_append, List.cons_append, skipAfter, hentry,
      ih hentries]

/-- Every value is skipped, and nothing but the value. -/
theorem IsValue.skipped {row : List Token} (h : IsValue row) : Skipped row := by
  induction h with
  | null => intro around rest; rw [List.singleton_append, skipValue]
  | bool b => intro around rest; rw [List.singleton_append, skipValue]
  | number x => intro around rest; rw [List.singleton_append, skipValue]
  | string content => intro around rest; rw [List.singleton_append, skipValue]
  | @array rows hrows ih =>
    intro around rest
    rw [arrayRow_append]
    cases rows with
    | nil => rw [listed, List.nil_append, skipValue]
    | cons row rows =>
      obtain ⟨hrow, hothers⟩ := List.forall_mem_cons.mp ih
      rw [listed, if_pos rfl, List.nil_append, List.append_assoc, skipValue, hrow,
        skipAfter_items hothers]
      exact fun _ => (hrows row List.mem_cons_self).append_ne _ _
  | @object entries _ ih =>
    intro around rest
    rw [objectRow_append]
    cases entries with
    | nil => rw [List.map_nil, listed, List.nil_append, skipValue]
    | cons entry entries =>
      obtain ⟨hentry, hothers⟩ := List.forall_mem_cons.mp ih
      rw [List.map_cons, listed, if_pos rfl, List.nil_append, List.append_assoc, entryRow,
        List.cons_append, List.cons_append, skipValue, hentry, skipAfter_entries hothers]

theorem skip_row {row : List Token} (h : IsValue row) (rest : List Token) :
    skip (row ++ rest) = .ok ((), rest) := by
  rw [skip, h.skipped, skipAfter]
  rfl

/-! ## What skipping takes -/

/-- Skipping a value has passed over the row of a value, and goes on behind it. -/
def SkipsRow (tokens : List Token) : Prop :=
  ∀ {around : List Bracket} {out : List Token}, skipValue around tokens = .ok out →
    ∃ row rest, IsValue row ∧ tokens = row ++ rest ∧ skipAfter around rest = .ok out

/-- Behind an element, skipping passes over the other elements of the array. -/
theorem rows_of_skipAfter {around : List Bracket} {tokens out : List Token}
    (hskip : ∀ shorter : List Token, shorter.length < tokens.length → SkipsRow shorter)
    (h : skipAfter (.array :: around) tokens = .ok out) :
    ∃ rows rest, (∀ row ∈ rows, IsValue row) ∧ tokens = listed false rows ++ .closeBracket :: rest ∧
      skipAfter around rest = .ok out := by
  unfold skipAfter at h
  split at h
  · contradiction
  · rename_i rest heq
    cases heq
    exact ⟨[], rest, by simp, rfl, h⟩
  · rename_i after heq
    cases heq
    obtain ⟨row, rest, hrow, rfl, hrest⟩ := hskip after (by simp) h
    have hshorter : rest.length < (Token.comma :: (row ++ rest)).length := by
      simp only [List.length_cons, List.length_append]
      omega
    obtain ⟨rows, rest, hrows, rfl, hend⟩ :=
      rows_of_skipAfter (fun shorter hlt => hskip shorter (Nat.lt_trans hlt hshorter)) hrest
    refine ⟨row :: rows, rest, List.forall_mem_cons.mpr ⟨hrow, hrows⟩, ?_, hend⟩
    simp [listed]
  · rename_i heq
    cases heq
  · rename_i heq
    cases heq
  · cases h
  termination_by tokens.length

/-- Behind a member, skipping passes over the other members of the object. -/
theorem entries_of_skipAfter {around : List Bracket} {tokens out : List Token}
    (hskip : ∀ shorter : List Token, shorter.length < tokens.length → SkipsRow shorter)
    (h : skipAfter (.object :: around) tokens = .ok out) :
    ∃ (entries : List (Option String × List Token)) (rest : List Token),
      (∀ entry ∈ entries, IsValue entry.2) ∧
      tokens = listed false (entries.map entryRow) ++ .closeBrace :: rest ∧
      skipAfter around rest = .ok out := by
  unfold skipAfter at h
  split at h
  · contradiction
  · rename_i heq
    cases heq
  · rename_i heq
    cases heq
  · rename_i rest heq
    cases heq
    exact ⟨[], rest, by simp, rfl, h⟩
  · rename_i key after heq
    cases heq
    obtain ⟨row, rest, hrow, rfl, hrest⟩ := hskip after (by simp; omega) h
    have hshorter : rest.length < (Token.comma :: .string key :: .colon :: (row ++ rest)).length := by
      simp only [List.length_cons, List.length_append]
      omega
    obtain ⟨entries, rest, hentries, rfl, hend⟩ :=
      entries_of_skipAfter (fun shorter hlt => hskip shorter (Nat.lt_trans hlt hshorter)) hrest
    refine ⟨(key, row) :: entries, rest, List.forall_mem_cons.mpr ⟨hrow, hentries⟩, ?_, hend⟩
    simp [listed, entryRow]
  · cases h
  termination_by tokens.length

/-- Skipping passes over the row of a value. -/
theorem skipsRow (tokens : List Token) : SkipsRow tokens := by
  intro around out h
  have hshorter : ∀ shorter : List Token, shorter.length < tokens.length → SkipsRow shorter :=
    fun shorter _ => skipsRow shorter
  unfold skipValue at h
  split at h
  · exact ⟨[.null], _, .null, rfl, h⟩
  · exact ⟨[.bool _], _, .bool _, rfl, h⟩
  · exact ⟨[.number _], _, .number _, rfl, h⟩
  · exact ⟨[.string _], _, .string _, rfl, h⟩
  · exact ⟨arrayRow [], _, .array (by simp), rfl, h⟩
  · rename_i after _
    obtain ⟨row, rest, hrow, rfl, hrest⟩ := hshorter after (by simp) h
    have hlt : rest.length < (Token.openBracket :: (row ++ rest)).length := by
      simp only [List.length_cons, List.length_append]
      omega
    obtain ⟨rows, rest, hrows, rfl, hend⟩ :=
      rows_of_skipAfter (fun shorter hless => hshorter shorter (Nat.lt_trans hless hlt)) hrest
    refine ⟨arrayRow (row :: rows), rest, .array (List.forall_mem_cons.mpr ⟨hrow, hrows⟩), ?_, hend⟩
    rw [arrayRow_append]
    simp [listed]
  · exact ⟨objectRow [], _, .object (by simp), rfl, h⟩
  · rename_i key after
    obtain ⟨row, rest, hrow, rfl, hrest⟩ := hshorter after (by simp; omega) h
    have hlt : rest.length < (Token.openBrace :: .string key :: .colon :: (row ++ rest)).length := by
      simp only [List.length_cons, List.length_append]
      omega
    obtain ⟨entries, rest, hentries, rfl, hend⟩ :=
      entries_of_skipAfter (fun shorter hless => hshorter shorter (Nat.lt_trans hless hlt)) hrest
    refine ⟨objectRow ((key, row) :: entries), rest,
      .object (List.forall_mem_cons.mpr ⟨hrow, hentries⟩), ?_, hend⟩
    rw [objectRow_append]
    simp [listed, entryRow]
  · cases h
  termination_by tokens.length

/-! ## Ends of rows -/

/-- Where a value ends is known from its row. -/
theorem IsValue.append_inj {row row' : List Token} (h : IsValue row) (h' : IsValue row')
    {ts us : List Token} (heq : row ++ ts = row' ++ us) : row = row' ∧ ts = us := by
  have hskip := skip_row h ts
  rw [heq, skip_row h' us] at hskip
  cases hskip
  exact ⟨List.append_cancel_right heq, rfl⟩

/-- Rows between commas and before a closing token are known if it is known where each ends. -/
theorem listed_inj {P : List Token → Prop} {close : Token} (hclose : close ≠ .comma)
    (hne : ∀ row, P row → ∀ ts us, row ++ ts ≠ close :: us)
    (hinj : ∀ row row', P row → P row' → ∀ ts us, row ++ ts = row' ++ us → row = row' ∧ ts = us)
    {rows rows' : List (List Token)} (h : ∀ row ∈ rows, P row) (h' : ∀ row ∈ rows', P row)
    {first : Bool} {ts us : List Token}
    (heq : listed first rows ++ close :: ts = listed first rows' ++ close :: us) :
    rows = rows' ∧ ts = us := by
  have hfront : ∀ (first : Bool) row, P row → ∀ ts us,
      (if first then [] else [.comma]) ++ (row ++ ts) ≠ close :: us := by
    intro first row hrow ts us hfront
    cases first with
    | true => exact hne row hrow ts us hfront
    | false => exact hclose (List.cons.inj hfront).1.symm
  induction rows generalizing rows' first with
  | nil =>
    cases rows' with
    | nil => exact ⟨rfl, (List.cons.inj heq).2⟩
    | cons row rows' =>
      rw [listed, listed, List.append_assoc, List.append_assoc] at heq
      exact absurd heq.symm (hfront first row (h' row List.mem_cons_self) _ _)
  | cons row rows ih =>
    obtain ⟨hrow, hrows⟩ := List.forall_mem_cons.mp h
    cases rows' with
    | nil =>
      rw [listed, listed, List.append_assoc, List.append_assoc] at heq
      exact absurd heq (hfront first row hrow _ _)
    | cons row' rows' =>
      obtain ⟨hrow', hrows'⟩ := List.forall_mem_cons.mp h'
      rw [listed, listed, List.append_assoc, List.append_assoc, List.append_assoc,
        List.append_assoc] at heq
      obtain ⟨rfl, hrest⟩ := hinj row row' hrow hrow' _ _ (List.append_cancel_left heq)
      obtain ⟨rfl, hend⟩ := ih hrows hrows' hrest
      exact ⟨rfl, hend⟩

/-- The elements of an array are known from its row. -/
theorem arrayRow_inj {rows rows' : List (List Token)} (h : ∀ row ∈ rows, IsValue row)
    (h' : ∀ row ∈ rows', IsValue row) (heq : arrayRow rows = arrayRow rows') : rows = rows' := by
  have hlisted := (List.cons.inj heq).2
  have hne : ∀ row, IsValue row → ∀ ts us, row ++ ts ≠ .closeBracket :: us :=
    fun _ hrow => hrow.append_ne
  have hinj : ∀ row row', IsValue row → IsValue row' → ∀ ts us, row ++ ts = row' ++ us →
      row = row' ∧ ts = us := fun _ _ hrow hrow' _ _ => hrow.append_inj hrow'
  exact (listed_inj (by decide) hne hinj h h' hlisted).1

/-- The members of an object are known from its row. -/
theorem objectRow_inj {entries entries' : List (Option String × List Token)}
    (h : ∀ entry ∈ entries, IsValue entry.2) (h' : ∀ entry ∈ entries', IsValue entry.2)
    (heq : objectRow entries = objectRow entries') : entries = entries' := by
  have hlisted := (List.cons.inj heq).2
  have hne : ∀ row, (∃ entry, row = entryRow entry ∧ IsValue entry.2) → ∀ ts us,
      row ++ ts ≠ .closeBrace :: us := by
    rintro _ ⟨entry, rfl, -⟩ ts us hrow
    cases hrow
  have hinj : ∀ row row', (∃ entry, row = entryRow entry ∧ IsValue entry.2) →
      (∃ entry, row' = entryRow entry ∧ IsValue entry.2) → ∀ ts us, row ++ ts = row' ++ us →
      row = row' ∧ ts = us := by
    rintro _ _ ⟨⟨key, value⟩, rfl, hvalue⟩ ⟨⟨key', value'⟩, rfl, hvalue'⟩ ts us hrow
    obtain ⟨hkey, hrow⟩ := List.cons.inj hrow
    obtain ⟨rfl, hend⟩ := hvalue.append_inj hvalue' (List.cons.inj hrow).2
    cases hkey
    exact ⟨rfl, hend⟩
  have hentryInj : Function.Injective entryRow := by
    rintro ⟨key, value⟩ ⟨key', value'⟩ hentry
    cases hentry
    rfl
  refine List.map_injective_iff.mpr hentryInj (listed_inj (by decide) hne hinj ?_ ?_ hlisted).1
  · exact List.forall_mem_map.mpr fun entry hmem => ⟨entry, rfl, h entry hmem⟩
  · exact List.forall_mem_map.mpr fun entry hmem => ⟨entry, rfl, h' entry hmem⟩

end DeviceSlots.Json
