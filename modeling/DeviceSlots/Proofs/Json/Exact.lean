import DeviceSlots.Proofs.Failing
import DeviceSlots.Proofs.Json.Rows

/-!
# Exact readers

A reader that succeeds has taken the row of a value, and takes the row as the same whatever follows
it. So what is read from an array depends only on what is read from its elements.
-/

namespace DeviceSlots.Json

variable {α : Type}

/-- A reader takes a row as `a`, whatever follows it. -/
def Takes (reader : Reader α) (row : List Token) (a : α) : Prop :=
  ∀ rest, reader (row ++ rest) = .ok (a, rest)

/-- A reader gives nothing but what it takes the row of a value as. -/
def Exact (reader : Reader α) : Prop :=
  ∀ {tokens rest : List Token} {a : α}, reader tokens = .ok (a, rest) →
    ∃ row, IsValue row ∧ tokens = row ++ rest ∧ Takes reader row a

/-- What an exact reader gives for a value it takes the value as. -/
theorem Exact.takes {reader : Reader α} (h : Exact reader) {row : List Token} (hrow : IsValue row)
    {rest rest' : List Token} {a : α} (hread : reader (row ++ rest) = .ok (a, rest')) :
    rest' = rest ∧ Takes reader row a := by
  obtain ⟨row', hrow', heq, htakes⟩ := h hread
  obtain ⟨rfl, rfl⟩ := hrow.append_inj hrow' heq
  exact ⟨rfl, htakes⟩

/-! ## Single values -/

theorem exact_string (wanted : Wanted) : Exact (readString wanted) := by
  intro tokens rest s h
  unfold readString at h
  split at h
  · cases h
    exact ⟨_, .string _, rfl, fun _ => rfl⟩
  · cases h

theorem exact_bool : Exact readBool := by
  intro tokens rest b h
  unfold readBool at h
  split at h
  · cases h
    exact ⟨_, .bool _, rfl, fun _ => rfl⟩
  · cases h

theorem exact_nat (wanted : Wanted) (limit : Nat) : Exact (readNat wanted limit) := by
  intro tokens rest n h
  unfold readNat at h
  split at h
  · rename_i x after
    split at h
    · rename_i m hquantity
      split at h
      · rename_i hlimit
        cases h
        refine ⟨_, .number x, rfl, ?_⟩
        intro rest
        rw [List.singleton_append, readNat, hquantity]
        exact if_pos hlimit
      · cases h
    · cases h
    · cases h
  · cases h

theorem expect_eq_ok {token : Token} {tokens rest : List Token} {u : Unit}
    (h : expect token tokens = .ok (u, rest)) : tokens = token :: rest := by
  cases tokens with
  | nil => cases h
  | cons t tokens =>
    rw [expect] at h
    split at h
    · rename_i hsame
      cases h
      rw [hsame]
    · cases h

theorem readNull_eq_ok {tokens rest : List Token} {u : Unit} (h : readNull tokens = .ok (u, rest)) :
    tokens = .null :: rest := by
  unfold readNull at h
  split at h
  · cases h
    rfl
  · cases h

theorem exact_variant (ofName : String → Option α) (known : List String) :
    Exact (readVariant ofName known) := by
  intro tokens rest a h
  unfold readVariant at h
  split at h
  · rename_i name after
    obtain ⟨b, hname, h⟩ := bind_eq_ok_iff.mp h
    cases h
    refine ⟨_, .string (some name), rfl, ?_⟩
    intro rest
    rw [List.singleton_append, readVariant, hname]
    rfl
  · rename_i name after
    obtain ⟨b, hname, h⟩ := bind_eq_ok_iff.mp h
    obtain ⟨⟨_, _⟩, hcolon, h⟩ := bind_eq_ok_iff.mp h
    obtain ⟨⟨_, _⟩, hnull, h⟩ := bind_eq_ok_iff.mp h
    obtain ⟨⟨_, _⟩, hbrace, h⟩ := bind_eq_ok_iff.mp h
    cases h
    have hafter := expect_eq_ok hcolon
    have hvalue := readNull_eq_ok hnull
    have hend := expect_eq_ok hbrace
    refine ⟨objectRow [(some name, [.null])], .object (by simpa using .null), ?_, ?_⟩
    · rw [hafter, hvalue, hend]
      rfl
    · intro rest
      have hrow : objectRow [(some name, [.null])] ++ rest =
          .openBrace :: .string (some name) :: .colon :: .null :: .closeBrace :: rest := rfl
      rw [hrow, readVariant, hname]
      rfl
  · cases h

theorem exact_skip : Exact skip := by
  intro tokens rest u h
  rw [skip] at h
  cases hskip : skipValue [] tokens with
  | error e =>
    rw [hskip] at h
    cases h
  | ok out =>
    rw [hskip] at h
    cases h
    obtain ⟨row, rest, hrow, rfl, hrest⟩ := skipsRow tokens hskip
    rw [skipAfter] at hrest
    cases hrest
    exact ⟨row, hrow, rfl, skip_row hrow⟩

/-! ## Lists -/

/-- Takes the comma between two parts of an array or an object. -/
def separated (first : Bool) (tokens : List Token) : Except ReadError (List Token) :=
  if first then .ok tokens else (expect .comma tokens).map (·.2)

theorem separated_append (first : Bool) (rest : List Token) :
    separated first ((if first then [] else [.comma]) ++ rest) = .ok rest := by
  cases first <;> rfl

theorem separated_eq_ok {first : Bool} {tokens rest : List Token}
    (h : separated first tokens = .ok rest) : tokens = (if first then [] else [.comma]) ++ rest := by
  cases first with
  | true =>
    cases h
    rfl
  | false =>
    cases hcomma : expect .comma tokens with
    | error e =>
      rw [separated, if_neg (by decide), hcomma] at h
      cases h
    | ok found =>
      rw [separated, if_neg (by decide), hcomma] at h
      cases h
      exact expect_eq_ok hcomma

/-- Where an element stands, a list does not end. -/
theorem IsValue.element_ne {row : List Token} (h : IsValue row) (first : Bool) (ts us : List Token) :
    (if first then [] else [.comma]) ++ (row ++ ts) ≠ .closeBracket :: us := by
  cases first with
  | true => exact h.append_ne ts us
  | false => exact fun heq => nomatch heq

theorem readItems_succ (item : Reader α) (fuel : Nat) (first : Bool) {tokens : List Token}
    (h : ∀ rest, tokens ≠ .closeBracket :: rest) :
    readItems item (fuel + 1) first tokens = (do
      let rest ← separated first tokens
      let (a, rest) ← item rest
      let (as, rest) ← readItems item fuel false rest
      return (a :: as, rest)) := by
  rw [readItems]
  · cases first <;> rfl
  · exact h

/-- Reading elements goes on with the one that stands first. -/
theorem readItems_row (item : Reader α) {row : List Token} (h : IsValue row) (fuel : Nat)
    (first : Bool) (rest : List Token) :
    readItems item (fuel + 1) first ((if first then [] else [.comma]) ++ (row ++ rest)) = (do
      let (a, rest) ← item (row ++ rest)
      let (as, rest) ← readItems item fuel false rest
      return (a :: as, rest)) := by
  rw [readItems_succ item fuel first fun _ => h.element_ne first _ _, separated_append]
  rfl

/-- Elements are read if each of them is taken. -/
theorem readItems_of_takes {item : Reader α} {rows : List (List Token)} {as : List α}
    (hrows : ∀ row ∈ rows, IsValue row) (h : List.Forall₂ (Takes item) rows as) {fuel : Nat}
    (hfuel : rows.length ≤ fuel) (first : Bool) (rest : List Token) :
    readItems item fuel first (listed first rows ++ .closeBracket :: rest) = .ok (as, rest) := by
  induction h generalizing fuel first with
  | nil => cases fuel <;> rfl
  | @cons row a rows as ha _ ih =>
    obtain ⟨fuel, rfl⟩ := Nat.exists_eq_succ_of_ne_zero (Nat.ne_zero_of_lt hfuel)
    obtain ⟨hrow, hothers⟩ := List.forall_mem_cons.mp hrows
    have hitems := ih hothers (Nat.le_of_succ_le_succ hfuel) false
    rw [listed, List.append_assoc, List.append_assoc, readItems_row item hrow, ha]
    simp only [ok_bind, hitems]
    rfl

/-- Elements that are read are those of an array, and each of them is taken. -/
theorem readItems_eq_ok {item : Reader α} (hitem : Exact item) {fuel : Nat} {first : Bool}
    {tokens rest : List Token} {as : List α}
    (h : readItems item fuel first tokens = .ok (as, rest)) :
    ∃ rows, (∀ row ∈ rows, IsValue row) ∧ tokens = listed first rows ++ .closeBracket :: rest ∧
      List.Forall₂ (Takes item) rows as := by
  induction fuel generalizing first tokens as with
  | zero =>
    by_cases hclose : ∃ after, tokens = .closeBracket :: after
    · obtain ⟨after, rfl⟩ := hclose
      cases h
      exact ⟨[], by simp, rfl, .nil⟩
    · rw [readItems] at h
      · cases h
      · exact not_exists.mp hclose
  | succ fuel ih =>
    by_cases hclose : ∃ after, tokens = .closeBracket :: after
    · obtain ⟨after, rfl⟩ := hclose
      cases h
      exact ⟨[], by simp, rfl, .nil⟩
    · rw [readItems_succ item fuel first (not_exists.mp hclose)] at h
      obtain ⟨front, hfront, h⟩ := bind_eq_ok_iff.mp h
      obtain ⟨⟨a, _⟩, ha, h⟩ := bind_eq_ok_iff.mp h
      obtain ⟨⟨as, _⟩, has, h⟩ := bind_eq_ok_iff.mp h
      cases h
      obtain ⟨row, hrow, rfl, htakes⟩ := hitem ha
      obtain ⟨rows, hrows, hlater, hlist⟩ := ih has
      refine ⟨row :: rows, List.forall_mem_cons.mpr ⟨hrow, hrows⟩, ?_, .cons htakes hlist⟩
      rw [separated_eq_ok hfront, hlater, listed, List.append_assoc, List.append_assoc]

theorem takes_list {item : Reader α} {rows : List (List Token)} {as : List α}
    (hrows : ∀ row ∈ rows, IsValue row) (h : List.Forall₂ (Takes item) rows as) :
    Takes (readList item) (arrayRow rows) as := by
  intro rest
  have hlength := length_le_length_listed true rows
  rw [if_pos rfl] at hlength
  rw [arrayRow_append, readList]
  apply readItems_of_takes hrows h
  rw [List.length_append, List.length_cons]
  omega

theorem exact_list {item : Reader α} (hitem : Exact item) : Exact (readList item) := by
  intro tokens rest as h
  unfold readList at h
  split at h
  · obtain ⟨rows, hrows, rfl, hlist⟩ := readItems_eq_ok hitem h
    exact ⟨arrayRow rows, .array hrows, (arrayRow_append rows rest).symm, takes_list hrows hlist⟩
  · cases h

/-- A list is taken from an array if each of its elements is, and only then. -/
theorem takes_list_iff {item : Reader α} (hitem : Exact item) {rows : List (List Token)}
    (hrows : ∀ row ∈ rows, IsValue row) {as : List α} :
    Takes (readList item) (arrayRow rows) as ↔ List.Forall₂ (Takes item) rows as := by
  constructor
  · intro h
    have hread := h []
    rw [arrayRow_append, readList] at hread
    obtain ⟨rows', hrows', heq, hlist⟩ := readItems_eq_ok hitem hread
    have hrow : arrayRow rows = arrayRow rows' := congrArg (List.cons Token.openBracket) heq
    rwa [arrayRow_inj hrows hrows' hrow]
  · exact takes_list hrows

/-! ## Keeping -/

/-- Whatever a reader takes a row as, it takes another row as the same. -/
def Keeps (reader : Reader α) (row row' : List Token) : Prop :=
  ∀ a, Takes reader row a → Takes reader row' a

theorem Keeps.refl (reader : Reader α) (row : List Token) : Keeps reader row row := fun _ h => h

/-- A list is taken as before if each of its elements is. -/
theorem keeps_list {item : Reader α} (hitem : Exact item) {rows rows' : List (List Token)}
    (hrows : ∀ row ∈ rows, IsValue row) (hrows' : ∀ row ∈ rows', IsValue row)
    (h : List.Forall₂ (Keeps item) rows rows') :
    Keeps (readList item) (arrayRow rows) (arrayRow rows') := by
  intro as htakes
  have hlist := (takes_list_iff hitem hrows).mp htakes
  apply takes_list hrows'
  clear hrows hrows' htakes
  induction h generalizing as with
  | nil => exact hlist
  | cons hkeeps _ ih =>
    cases hlist with
    | cons ha hlist => exact .cons (hkeeps _ ha) (ih _ hlist)

end DeviceSlots.Json
