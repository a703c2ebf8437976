import DeviceSlots.Json.Value

/-!
# Tokens of values

A value is known from its tokens, whatever tokens stand behind them.
-/

namespace DeviceSlots.Json

namespace Value

/-! ## Induction -/

/-- What holds of a value if it holds of all values inside it holds of every value. -/
@[induction_eliminator]
theorem induction {motive : Value → Prop} (null : motive .null) (bool : ∀ b, motive (.bool b))
    (number : ∀ n, motive (.number n)) (string : ∀ s, motive (.string s))
    (array : ∀ items, (∀ v ∈ items, motive v) → motive (.array items))
    (object : ∀ members, (∀ member ∈ members, motive member.2) → motive (.object members))
    (v : Value) : motive v := by
  cases v with
  | null => exact null
  | bool b => exact bool b
  | number n => exact number n
  | string s => exact string s
  | array items =>
    apply array
    intro v hv
    have hlt := List.sizeOf_lt_of_mem hv
    exact induction null bool number string array object v
  | object members =>
    apply object
    intro member hmember
    have hlt := List.sizeOf_lt_of_mem hmember
    obtain ⟨key, v⟩ := member
    exact induction null bool number string array object v
  termination_by sizeOf v
  decreasing_by
    · simp only [Value.array.sizeOf_spec]
      omega
    · simp only [Value.object.sizeOf_spec, Prod.mk.sizeOf_spec] at hlt ⊢
      omega

/-! ## Rows -/

/-- The tokens of a member. -/
def memberRow (member : String × Value) : List Token :=
  .string (some member.1) :: .colon :: member.2.tokens

theorem itemTokens_eq (items : List Value) : itemTokens items = items.map tokens := by
  induction items with
  | nil => rfl
  | cons v rest ih => rw [itemTokens, ih, List.map_cons]

theorem memberTokens_eq (members : List (String × Value)) :
    memberTokens members = members.map memberRow := by
  induction members with
  | nil => rfl
  | cons member rest ih => rw [memberTokens, ih, List.map_cons, memberRow]

theorem tokens_array (items : List Value) :
    (array items).tokens = .openBracket :: (separate (items.map tokens) ++ [.closeBracket]) := by
  rw [tokens, itemTokens_eq, List.cons_append]

theorem tokens_object (members : List (String × Value)) :
    (object members).tokens = .openBrace :: (separate (members.map memberRow) ++ [.closeBrace]) := by
  rw [tokens, memberTokens_eq, List.cons_append]

theorem separate_cons (row : List Token) (rows : List (List Token)) :
    separate (row :: rows) = row ++ if rows = [] then [] else .comma :: separate rows := by
  cases rows with
  | nil => simp [separate]
  | cons other rest => simp [separate]

/-! ## Values from tokens -/

/-- A row that stands before other tokens shows where it ends. -/
def Row {α : Type} (row : α → List Token) (a : α) : Prop :=
  ∀ b ts us, row a ++ ts = row b ++ us → a = b ∧ ts = us

/-- Rows between commas and before a closing token are known if each row is. -/
theorem separate_inj {α : Type} {row : α → List Token} {close : Token} (hcomma : close ≠ .comma)
    (hclose : ∀ a ts us, row a ++ ts ≠ close :: us) {as bs : List α} (hrows : ∀ a ∈ as, Row row a)
    {ts us : List Token}
    (h : separate (as.map row) ++ close :: ts = separate (bs.map row) ++ close :: us) :
    as = bs ∧ ts = us := by
  induction as generalizing bs with
  | nil =>
    cases bs with
    | nil => exact ⟨rfl, (List.cons.inj h).2⟩
    | cons b bs =>
      rw [List.map_cons, separate_cons, List.append_assoc] at h
      exact absurd h.symm (hclose b _ _)
  | cons a as ih =>
    cases bs with
    | nil =>
      rw [List.map_cons, separate_cons, List.append_assoc] at h
      exact absurd h (hclose a _ _)
    | cons b bs =>
      rw [List.map_cons, List.map_cons, separate_cons, separate_cons, List.append_assoc,
        List.append_assoc] at h
      obtain ⟨rfl, hrest⟩ := hrows a List.mem_cons_self b _ _ h
      cases as with
      | nil =>
        cases bs with
        | nil => exact ⟨rfl, (List.cons.inj hrest).2⟩
        | cons b bs => exact absurd (List.cons.inj hrest).1 hcomma
      | cons a' as =>
        cases bs with
        | nil => exact absurd (List.cons.inj hrest).1.symm hcomma
        | cons b bs =>
          obtain ⟨hsame, hts⟩ := ih (fun a ha => hrows a (List.mem_cons_of_mem _ ha))
            (List.cons.inj hrest).2
          exact ⟨by rw [hsame], hts⟩

/-- No value begins with a token that closes something. -/
theorem tokens_append_ne (v : Value) (ts us : List Token) {close : Token}
    (hclose : close = .closeBracket ∨ close = .closeBrace) : v.tokens ++ ts ≠ close :: us := by
  intro h
  rcases hclose with rfl | rfl <;> cases v <;> simp [tokens] at h

theorem Numeral.ofNat_inj {n m : Nat} (h : Numeral.ofNat n = Numeral.ofNat m) : n = m := by
  have hdigits : Nat.toDigits 10 n = Nat.toDigits 10 m := congrArg Numeral.whole h
  have hvalue := congrArg (Nat.ofDigitChars 10 · 0) hdigits
  simpa using hvalue

/-- The tokens of a value show where it ends, and what it is. -/
theorem tokens_append_inj (v : Value) : Row tokens v := by
  intro w ts us h
  induction v generalizing w ts us with
  | null =>
    cases w with
    | null => exact ⟨rfl, (List.cons.inj h).2⟩
    | _ => simp [tokens] at h
  | bool b =>
    cases w with
    | bool b' =>
      obtain ⟨hhead, hts⟩ := List.cons.inj h
      exact ⟨congrArg bool (Token.bool.inj hhead), hts⟩
    | _ => simp [tokens] at h
  | number n =>
    cases w with
    | number m =>
      obtain ⟨hhead, hts⟩ := List.cons.inj h
      exact ⟨congrArg number (Numeral.ofNat_inj (Token.number.inj hhead)), hts⟩
    | _ => simp [tokens] at h
  | string s =>
    cases w with
    | string s' =>
      obtain ⟨hhead, hts⟩ := List.cons.inj h
      exact ⟨congrArg string (Option.some.inj (Token.string.inj hhead)), hts⟩
    | _ => simp [tokens] at h
  | array items ih =>
    cases w with
    | array items' =>
      simp only [tokens_array, List.cons_append, List.append_assoc] at h
      obtain ⟨rfl, hts⟩ := separate_inj (by simp) (fun a _ _ => a.tokens_append_ne _ _ (.inl rfl)) ih
        (List.cons.inj h).2
      exact ⟨rfl, hts⟩
    | _ => simp [tokens] at h
  | object members ih =>
    cases w with
    | object members' =>
      simp only [tokens_object, List.cons_append, List.append_assoc] at h
      have hrows : ∀ member ∈ members, Row memberRow member := by
        intro member hmember other ts us hrow
        obtain ⟨hkey, hvalue⟩ := List.cons.inj hrow
        obtain ⟨hsame, hts⟩ := ih member hmember _ _ _ (List.cons.inj hvalue).2
        exact ⟨Prod.ext (Option.some.inj (Token.string.inj hkey)) hsame, hts⟩
      obtain ⟨rfl, hts⟩ := separate_inj (by simp) (fun a _ _ => by simp [memberRow]) hrows
        (List.cons.inj h).2
      exact ⟨rfl, hts⟩
    | _ => simp [tokens] at h

end Value

end DeviceSlots.Json
