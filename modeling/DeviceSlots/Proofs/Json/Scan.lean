import DeviceSlots.Proofs.Json.Spelling
import DeviceSlots.Proofs.Json.Tokens
import Mathlib.Data.List.Chain

/-!
# Scanning what was written

A scanner finds in a text of a value the tokens that were written, however they were spelled. A
numeral has no end of its own, so it is found where what follows it does not go on with it; in a row
of a value's tokens a mark or a blank follows, or nothing.
-/

namespace DeviceSlots.Json

/-! ## Numerals -/

/-- What follows a numeral does not go on with it. -/
def Stops (rest : List Char) : Prop :=
  ∀ c ∈ rest.head?, c.isDigit = false ∧ c ≠ '.' ∧ c ≠ 'e' ∧ c ≠ 'E'

/-- Digits, at least one. -/
def DigitsText (text : List Char) : Prop := text ≠ [] ∧ ∀ c ∈ text, c.isDigit = true

/-- Digits without a leading zero, unless zero is the only one. -/
def WholeText (text : List Char) : Prop :=
  DigitsText text ∧ (text.head? = some '0' → text = ['0'])

theorem DigitsText.exists_cons {text : List Char} (h : DigitsText text) :
    ∃ d ds, text = d :: ds ∧ d.isDigit = true := by
  obtain ⟨d, ds, rfl⟩ := List.exists_cons_of_ne_nil h.1
  exact ⟨d, ds, rfl, h.2 d List.mem_cons_self⟩

/-- A row of digits ends where no digit follows. -/
theorem digits1?_append {text : List Char} (h : DigitsText text) {rest : List Char}
    (hrest : ∀ c ∈ rest.head?, c.isDigit = false) :
    Numeral.digits1? (text ++ rest) = some (text, rest) := by
  have htake : rest.takeWhile Char.isDigit = [] := by
    cases rest with
    | nil => rfl
    | cons c rest => rw [List.takeWhile_cons_of_neg (by simp [hrest c rfl])]
  have hdrop : rest.dropWhile Char.isDigit = rest := by
    cases rest with
    | nil => rfl
    | cons c rest => rw [List.dropWhile_cons_of_neg (by simp [hrest c rfl])]
  have hfound : Numeral.digits (text ++ rest) = (text, rest) := by
    rw [Numeral.digits, List.takeWhile_append_of_pos h.2, List.dropWhile_append_of_pos h.2, htake,
      hdrop, List.append_nil]
  rw [Numeral.digits1?, hfound]
  split
  · rename_i heq
    exact absurd (Prod.mk.inj heq).1 h.1
  · rfl

theorem whole?_append {text : List Char} (h : WholeText text) {rest : List Char}
    (hrest : ∀ c ∈ rest.head?, c.isDigit = false) :
    Numeral.whole? (text ++ rest) = some (text, rest) := by
  rw [Numeral.whole?, digits1?_append h.1 hrest]
  refine if_neg ?_
  simp only [Bool.and_eq_true, decide_eq_true_eq, not_and]
  intro hzero
  rw [h.2 hzero]
  decide

/-- Only zero is written with a zero in front. -/
theorem head?_toDigits {n : Nat} (h : 0 < n) : (Nat.toDigits 10 n).head? ≠ some '0' := by
  have hdigit : ∀ d < 10, 0 < d → [Nat.digitChar d].head? ≠ some '0' := by decide
  induction n using Nat.strongRecOn with
  | _ n ih =>
    by_cases hsmall : n < 10
    · rw [Nat.toDigits_of_lt_base hsmall]
      exact hdigit n hsmall h
    · have hfront := ih (n / 10) (by omega) (by omega)
      obtain ⟨d, ds, hds⟩ := List.exists_cons_of_ne_nil (Nat.toDigits_ne_nil (n := n / 10) (b := 10))
      rw [Nat.toDigits_of_base_le (by decide) (by omega), hds]
      rw [hds] at hfront
      exact hfront

theorem wholeText_toDigits (n : Nat) : WholeText (Nat.toDigits 10 n) := by
  refine ⟨⟨Nat.toDigits_ne_nil, ?_⟩, ?_⟩
  · exact fun c hc => Nat.isDigit_of_mem_toDigits (by decide) (by decide) hc
  · intro hzero
    cases n with
    | zero => rfl
    | succ n => exact absurd hzero (head?_toDigits n.succ_pos)

theorem scan?_toDigits (n : Nat) {rest : List Char} (h : Stops rest) :
    Numeral.scan? (Nat.toDigits 10 n ++ rest) = some (.ofNat n, rest) := by
  have hwhole := whole?_append (wholeText_toDigits n) fun c hc => (h c hc).1
  have hsign : Numeral.sign (Nat.toDigits 10 n ++ rest) = (false, Nat.toDigits 10 n ++ rest) := by
    obtain ⟨d, ds, hds, hdigit⟩ := (wholeText_toDigits n).1.exists_cons
    rw [hds, List.cons_append, Numeral.sign]
    rintro rest heq
    rw [(List.cons.inj heq).1] at hdigit
    contradiction
  have hfraction : Numeral.fraction? rest = some (none, rest) := by
    unfold Numeral.fraction?
    split
    · exact absurd rfl (h _ rfl).2.1
    · rfl
  have hexponent : Numeral.exponent? rest = some (none, rest) := by
    cases rest with
    | nil => rfl
    | cons c rest =>
      obtain ⟨-, -, hlower, hupper⟩ := h c rfl
      rw [Numeral.exponent?, if_neg (by simp [hlower, hupper])]
  rw [Numeral.scan?, hsign]
  simp only [hwhole, hfraction, hexponent, Option.bind_eq_bind, Option.bind_some]
  rfl

/-! ## Tokens -/

theorem scan_of_token? {c : Char} {text after : List Char} {token : Token}
    (hblank : isSpace c = false) (h : token? (c :: text) = some (token, after)) :
    scan (c :: text) = token :: scan after := by
  rw [scan, if_neg (by simp [hblank])]
  split
  · rename_i h'
    rw [h] at h'
    cases h'
    rfl
  · rename_i h'
    rw [h] at h'
    contradiction

theorem scan_space {c : Char} (h : isSpace c = true) (rest : List Char) :
    scan (c :: rest) = scan rest := by
  rw [scan, if_pos h]

theorem scan_string {s : String} {text : List Char} (h : SpellsAll s.toList text)
    (rest : List Char) :
    scan ('"' :: (text ++ ['"']) ++ rest) = .string (some s) :: scan rest := by
  obtain ⟨ps, hread, hcontent⟩ := h.pieces rest
  rw [List.cons_append, List.append_assoc, List.singleton_append]
  apply scan_of_token? rfl
  have hmark : mark? '"' = none := rfl
  simp only [token?, hmark, if_true, hread, Option.map_some, hcontent, String.ofList_toList]

theorem isSpace_of_isDigit {c : Char} (h : c.isDigit = true) : isSpace c = false := by
  rw [Bool.eq_false_iff]
  intro hspace
  simp only [isSpace, Bool.or_eq_true, decide_eq_true_eq] at hspace
  rcases hspace with ((rfl | rfl) | rfl) | rfl <;> contradiction

theorem mark?_of_isDigit {c : Char} (h : c.isDigit = true) : mark? c = none := by
  unfold mark?
  split <;> first | rfl | contradiction

/-- A numeral starts with a digit or with a minus sign. -/
theorem scan_numeral {c : Char} {text after : List Char} {x : Numeral}
    (hc : c = '-' ∨ c.isDigit = true) (h : Numeral.scan? (c :: text) = some (x, after)) :
    scan (c :: text) = .number x :: scan after := by
  have hfront : isSpace c = false ∧ mark? c = none ∧ c ≠ '"' := by
    rcases hc with rfl | hdigit
    · decide
    · refine ⟨isSpace_of_isDigit hdigit, mark?_of_isDigit hdigit, ?_⟩
      rintro rfl
      contradiction
  have hnumeral : (c = '-' || c.isDigit) = true := by simpa using hc
  obtain ⟨hspace, hmark, hquote⟩ := hfront
  apply scan_of_token? hspace
  simp only [token?, hmark, if_neg hquote, hnumeral, if_true, h, Option.map_some]

theorem scan_number (n : Nat) {rest : List Char} (h : Stops rest) :
    scan (Nat.toDigits 10 n ++ rest) = .number (.ofNat n) :: scan rest := by
  have hread := scan?_toDigits n h
  obtain ⟨d, ds, hds, hdigit⟩ := (wholeText_toDigits n).1.exists_cons
  rw [hds, List.cons_append] at hread ⊢
  exact scan_numeral (.inr hdigit) hread

theorem scan_mark {c : Char} {token : Token} (h : mark? c = some token) (rest : List Char) :
    scan (c :: rest) = token :: scan rest := by
  have hblank : isSpace c = false := by
    unfold mark? at h
    split at h <;> first | rfl | contradiction
  exact scan_of_token? hblank (by simp only [token?, h])

/-! ## Rows -/

/-- Brackets, commas and colons. -/
def Token.IsMark (token : Token) : Prop := ∃ c, mark? c = some token

/-- A row in which nothing but a mark follows a number. -/
def Parted (row : List Token) : Prop :=
  row.IsChain fun token next => (∃ x, token = .number x) → next.IsMark

theorem stops_mark {c : Char} {token : Token} (h : mark? c = some token) (rest : List Char) :
    Stops (c :: rest) := by
  intro d hd
  cases hd
  unfold mark? at h
  split at h <;> first | decide | contradiction

theorem stops_space {c : Char} (h : isSpace c = true) (rest : List Char) : Stops (c :: rest) := by
  intro d hd
  cases hd
  simp only [isSpace, Bool.or_eq_true, decide_eq_true_eq] at h
  rcases h with ((rfl | rfl) | rfl) | rfl <;> decide

/-- A mark is spelled by its character. -/
theorem Token.Spelled.of_isMark {token : Token} {spelling : List Char}
    (h : token.Spelled spelling) (hmark : token.IsMark) :
    ∃ c, spelling = [c] ∧ mark? c = some token := by
  obtain ⟨c, hc⟩ := hmark
  cases h with
  | mark h => exact ⟨_, rfl, h⟩
  | _ =>
    unfold mark? at hc
    split at hc <;> cases hc

/-- Where a row starts with a mark, its text goes on with no numeral before it. -/
theorem Written.stops {row : List Token} {text rest : List Char} (h : Written row text)
    (hmark : ∀ token ∈ row.head?, token.IsMark) (hrest : Stops rest) : Stops (text ++ rest) := by
  cases h with
  | nil => exact hrest
  | blank hc _ => exact stops_space hc _
  | token htoken _ =>
    obtain ⟨c, rfl, hc⟩ := htoken.of_isMark (hmark _ rfl)
    exact stops_mark hc _

theorem scan_spelled {token : Token} {spelling rest : List Char} (h : token.Spelled spelling)
    (hstops : (∃ x, token = .number x) → Stops rest) :
    scan (spelling ++ rest) = token :: scan rest := by
  cases h with
  | mark hmark => exact scan_mark hmark rest
  | null => exact scan_of_token? rfl rfl
  | true => exact scan_of_token? rfl rfl
  | false => exact scan_of_token? rfl rfl
  | number n => exact scan_number n (hstops ⟨_, rfl⟩)
  | string hs => exact scan_string hs rest

/-- The tokens that were written are found. -/
theorem scan_written {row : List Token} {text rest : List Char} (h : Written row text)
    (hparted : Parted row) (hrest : Stops rest) : scan (text ++ rest) = row ++ scan rest := by
  induction h with
  | nil => rfl
  | blank hc _ ih =>
    rw [List.cons_append, scan_space hc]
    exact ih hparted
  | token htoken hwritten ih =>
    obtain ⟨hnext, hrow⟩ := List.isChain_cons.mp hparted
    rw [List.append_assoc, scan_spelled htoken, ih hrow, List.cons_append]
    -- Behind a number stands a mark, perhaps after blanks, and neither goes on with it.
    intro hnumber
    exact hwritten.stops (fun next hmem => hnext next hmem hnumber) hrest

/-! ## Values -/

/-- A row as values have it: each of its tokens can be spelled, and its numbers can be told apart. -/
structure Regular (row : List Token) : Prop where
  spelled : ∀ token ∈ row, token.Spelled token.text
  parted : Parted row

theorem text_mark {c : Char} {token : Token} (h : mark? c = some token) : token.text = [c] := by
  unfold mark? at h
  split at h <;> cases h <;> rfl

theorem spelled_mark {c : Char} {token : Token} (h : mark? c = some token) :
    token.Spelled token.text := by
  rw [text_mark h]
  exact .mark h

theorem Regular.nil : Regular [] := ⟨by simp, List.isChain_nil⟩

theorem Regular.singleton {token : Token} (h : token.Spelled token.text) : Regular [token] :=
  ⟨by simpa using h, List.isChain_singleton _⟩

/-- A token that is no number may stand in front of a row. -/
theorem Regular.cons {token : Token} {row : List Token} (h : Regular row)
    (hspelled : token.Spelled token.text) (htoken : ∀ x, token ≠ .number x) :
    Regular (token :: row) := by
  refine ⟨List.forall_mem_cons.mpr ⟨hspelled, h.spelled⟩, List.isChain_cons.mpr ⟨?_, h.parted⟩⟩
  rintro _ _ ⟨x, hnumber⟩
  exact absurd hnumber (htoken x)

/-- A mark goes on with no number, so any two rows may stand at its sides. -/
theorem Regular.append_mark {row rest : List Token} {c : Char} {token : Token} (h : Regular row)
    (hmark : mark? c = some token) (hrest : Regular (token :: rest)) :
    Regular (row ++ token :: rest) := by
  refine ⟨List.forall_mem_append.mpr ⟨h.spelled, hrest.spelled⟩,
    List.isChain_append.mpr ⟨h.parted, hrest.parted, ?_⟩⟩
  intro _ _ next hnext _
  cases hnext
  exact ⟨c, hmark⟩

theorem regular_separate {rows : List (List Token)} (h : ∀ row ∈ rows, Regular row) :
    Regular (Value.separate rows) := by
  induction rows with
  | nil => exact .nil
  | cons row rows ih =>
    obtain ⟨hrow, hrows⟩ := List.forall_mem_cons.mp h
    have hcomma : mark? ',' = some .comma := rfl
    rw [Value.separate_cons]
    split
    · rwa [List.append_nil]
    · exact hrow.append_mark hcomma ((ih hrows).cons (spelled_mark hcomma) (by simp))

/-- Rows may stand between brackets. -/
theorem regular_enclosed {c d : Char} {left right : Token} (hleft : mark? c = some left)
    (hright : mark? d = some right) {rows : List (List Token)} (h : ∀ row ∈ rows, Regular row) :
    Regular (left :: (Value.separate rows ++ [right])) := by
  refine Regular.cons ?_ (spelled_mark hleft) ?_
  · exact (regular_separate h).append_mark hright (.singleton (spelled_mark hright))
  · rintro x rfl
    unfold mark? at hleft
    split at hleft <;> cases hleft

theorem spelled_number (n : Nat) :
    (Token.number (.ofNat n)).Spelled (Token.number (.ofNat n)).text := by
  have htext : (Token.number (.ofNat n)).text = Nat.toDigits 10 n := by
    simp [Token.text, Numeral.text, Numeral.ofNat]
  rw [htext]
  exact .number n

theorem spelled_string (s : String) : (Token.string (some s)).Spelled (Token.string (some s)).text :=
  .string (spellsAll_flatMap_escape s.toList)

theorem regular_tokens (v : Value) : Regular v.tokens := by
  induction v with
  | null => exact .singleton .null
  | bool b =>
    cases b with
    | true => exact .singleton .true
    | false => exact .singleton .false
  | number n => exact .singleton (spelled_number n)
  | string s => exact .singleton (spelled_string s)
  | array items ih =>
    rw [Value.tokens_array]
    exact regular_enclosed (c := '[') (d := ']') rfl rfl (List.forall_mem_map.mpr ih)
  | object members ih =>
    have hrow : ∀ member ∈ members, Regular (Value.memberRow member) := by
      intro member hmember
      have hcolon : mark? ':' = some .colon := rfl
      exact ((ih member hmember).cons (spelled_mark hcolon) (by simp)).cons
        (spelled_string member.1) (by simp)
    rw [Value.tokens_object]
    exact regular_enclosed (c := '\x7b') (d := '\x7d') rfl rfl (List.forall_mem_map.mpr hrow)

/-- The compact text is one of the texts of a value. -/
theorem written_compact (v : Value) : Written v.tokens v.compact.toList := by
  rw [Value.compact, String.toList_ofList]
  exact written_flatMap_text (regular_tokens v).spelled

theorem scan_compact (v : Value) {rest : List Char} (h : Stops rest) :
    scan (v.compact.toList ++ rest) = v.tokens ++ scan rest :=
  scan_written (written_compact v) (regular_tokens v).parted h

/-- The tokens of a value are found in every text of it. -/
theorem scan_tokens {v : Value} {text : List Char} (h : Written v.tokens text) :
    scan text = v.tokens := by
  have hend : Stops [] := by simp [Stops]
  have hscan := scan_written h (regular_tokens v).parted hend
  rwa [List.append_nil, scan, List.append_nil] at hscan

end DeviceSlots.Json
