import DeviceSlots.Json.Token

/-!
# Spellings

JSON can be written in many ways. A character of a string may stand for itself or be escaped, by a
letter or by its code units, with digits of either case; and blanks may stand around every token.
The relations here say which texts spell which row of tokens. All spellings of a string are read
back alike.
-/

namespace DeviceSlots.Json

/-! ## Strings -/

/-- The spellings of a character in a string. -/
inductive Spells (c : Char) : List Char → Prop
  /-- The character itself, unless it has to be escaped. -/
  | plain (hquote : c ≠ '"') (hbackslash : c ≠ '\\') (hcontrol : 32 ≤ c.toNat) : Spells c [c]
  | letter {e : Char} (h : simpleEscape? e = some c) : Spells c ['\\', e]
  /-- The code unit of a character of the basic plane. -/
  | unit {w x y z : Char} (h : codeUnit? w x y z = some c.toNat) : Spells c ['\\', 'u', w, x, y, z]
  /-- The two code units of another character. -/
  | pair {w x y z w' x' y' z' : Char} {high low : Nat} (hhigh : codeUnit? w x y z = some high)
      (hlow : codeUnit? w' x' y' z' = some low) (hleading : 0xD800 ≤ high ∧ high < 0xDC00)
      (htrailing : 0xDC00 ≤ low ∧ low < 0xE000)
      (hjoined : c.toNat = 0x10000 + (high - 0xD800) * 0x400 + (low - 0xDC00)) :
      Spells c ['\\', 'u', w, x, y, z, '\\', 'u', w', x', y', z']

/-- The spellings of a row of characters. -/
inductive SpellsAll : List Char → List Char → Prop
  | nil : SpellsAll [] []
  | cons {c : Char} {cs text texts : List Char} (hc : Spells c text) (hcs : SpellsAll cs texts) :
      SpellsAll (c :: cs) (text ++ texts)

/-- A code unit on its own is a character, so it is no surrogate. -/
theorem no_surrogate (c : Char) : isTrailing c.toNat = false ∧ isLeading c.toNat = false := by
  have hvalid : c.toNat < 0xD800 ∨ 0xDFFF < c.toNat ∧ c.toNat < 0x110000 := c.valid
  simp only [isTrailing, isLeading, Bool.and_eq_false_iff, decide_eq_false_iff_not]
  omega

/-- However a character is spelled, the pieces that are read have it as their content. -/
theorem Spells.pieces {c : Char} {text : List Char} (h : Spells c text) :
    ∃ ps, (∀ rest, pieces? (text ++ rest) =
        (pieces? rest).map fun (qs, after) => (ps ++ qs, after)) ∧
      ∀ qs, content? (ps ++ qs) = (content? qs).map (c :: ·) := by
  cases h with
  | plain hquote hbackslash hcontrol =>
    refine ⟨[.char c], ?_, fun _ => rfl⟩
    intro rest
    rw [List.singleton_append, pieces?, if_neg (by simp [hbackslash, hcontrol])]
    · rfl
    · exact hquote
    · intro _ _ _ _ _ heq _
      exact hbackslash heq
    · intro _ _ heq _
      exact hbackslash heq
  | @letter e hletter =>
    -- The letter of a code unit stands for no character of its own.
    refine ⟨[.char c], ?_, fun _ => rfl⟩
    intro rest
    have hunit : e ≠ 'u' := by
      rintro rfl
      contradiction
    rw [List.cons_append, List.singleton_append, pieces?]
    · rw [hletter]
      rfl
    · intro _ _ _ _ _ heq _
      exact hunit heq
  | unit hunit =>
    obtain ⟨htrailing, hleading⟩ := no_surrogate c
    refine ⟨[.unit c.toNat], ?_, ?_⟩
    · intro rest
      simp only [List.cons_append, List.nil_append, pieces?, hunit]
    · intro qs
      rw [List.singleton_append, content?.eq_def]
      simp only [htrailing, hleading, Bool.false_eq_true, if_false, Char.ofNat_toNat]
  | @pair w x y z w' x' y' z' high low hhigh hlow hleading htrailing hjoined =>
    have hfirst : isTrailing high = false ∧ isLeading high = true := by
      simp only [isTrailing, isLeading, Bool.and_eq_false_iff, Bool.and_eq_true,
        decide_eq_false_iff_not, decide_eq_true_eq]
      omega
    have hsecond : isTrailing low = true := by
      simp only [isTrailing, Bool.and_eq_true, decide_eq_true_eq]
      omega
    refine ⟨[.unit high, .unit low], ?_, ?_⟩
    · intro rest
      simp only [List.cons_append, List.nil_append, pieces?, hhigh, hlow]
      cases pieces? rest <;> rfl
    · intro qs
      simp only [List.cons_append, List.nil_append, content?, hfirst, hsecond, Bool.false_eq_true,
        if_false, if_true, joined, ← hjoined, Char.ofNat_toNat]

/-- The characters of a string are read back, and what follows the closing quote is left. -/
theorem SpellsAll.pieces {cs text : List Char} (h : SpellsAll cs text) (rest : List Char) :
    ∃ ps, pieces? (text ++ '"' :: rest) = some (ps, rest) ∧ content? ps = some cs := by
  induction h with
  | nil => exact ⟨[], rfl, rfl⟩
  | cons hc _ ih =>
    obtain ⟨qs, hread, hcontent⟩ := ih
    obtain ⟨ps, hpieces, hcons⟩ := hc.pieces
    refine ⟨ps ++ qs, ?_, ?_⟩
    · rw [List.append_assoc, hpieces, hread]
      rfl
    · rw [hcons, hcontent]
      rfl

/-- A control character is written as the code unit that it is. -/
theorem codeUnit?_hexadecimal {n : Nat} (h : n < 32) :
    ∃ w x y z, Text.hexadecimal 4 n = [w, x, y, z] ∧ codeUnit? w x y z = some n := by
  refine ⟨Nat.digitChar (n / 16 / 16 / 16 % 16), Nat.digitChar (n / 16 / 16 % 16),
    Nat.digitChar (n / 16 % 16), Nat.digitChar (n % 16), rfl, ?_⟩
  revert n
  decide +kernel

/-- What is written for a character is one of its spellings. -/
theorem spells_escape (c : Char) : Spells c (escape c) := by
  unfold escape
  split
  · exact .letter (by simp [simpleEscape?, *])
  split
  · exact .letter (by simp [simpleEscape?, *])
  split
  · exact .letter (by simp [simpleEscape?, *])
  split
  · exact .letter (by simp [simpleEscape?, *])
  split
  · exact .letter (by simp [simpleEscape?, *])
  split
  · exact .letter (by simp [simpleEscape?, *])
  split
  · exact .letter (by simp [simpleEscape?, *])
  split
  · rename_i hcontrol
    obtain ⟨w, x, y, z, hdigits, hcode⟩ := codeUnit?_hexadecimal hcontrol
    rw [hdigits]
    exact .unit hcode
  · rename_i hquote hbackslash _ _ _ _ _ hcontrol
    exact .plain hquote hbackslash (by omega)

theorem spellsAll_flatMap_escape (cs : List Char) : SpellsAll cs (cs.flatMap escape) := by
  induction cs with
  | nil => exact .nil
  | cons c cs ih => exact .cons (spells_escape c) ih

/-! ## Tokens -/

/-- The spellings of a token of a value. Only strings have more than one. -/
inductive Token.Spelled : Token → List Char → Prop
  | mark {c : Char} {token : Token} (h : mark? c = some token) : Spelled token [c]
  | null : Spelled .null "null".toList
  | true : Spelled (.bool true) "true".toList
  | false : Spelled (.bool false) "false".toList
  | number (n : Nat) : Spelled (.number (.ofNat n)) (Nat.toDigits 10 n)
  | string {s : String} {text : List Char} (h : SpellsAll s.toList text) :
      Spelled (.string (some s)) ('"' :: (text ++ ['"']))

/-- The texts of a row of tokens: a spelling of each, with blanks anywhere around them. -/
inductive Written : List Token → List Char → Prop
  | nil : Written [] []
  | blank {c : Char} {row : List Token} {text : List Char} (hc : isSpace c = true)
      (h : Written row text) : Written row (c :: text)
  | token {token : Token} {row : List Token} {spelling text : List Char}
      (htoken : token.Spelled spelling) (h : Written row text) :
      Written (token :: row) (spelling ++ text)

theorem Written.append {row row' : List Token} {text text' : List Char} (h : Written row text)
    (h' : Written row' text') : Written (row ++ row') (text ++ text') := by
  induction h with
  | nil => exact h'
  | blank hc _ ih => exact .blank hc ih
  | token htoken _ ih =>
    rw [List.append_assoc]
    exact .token htoken ih

/-- A row of tokens is written by their own texts without blanks. -/
theorem written_flatMap_text {row : List Token} (h : ∀ token ∈ row, token.Spelled token.text) :
    Written row (row.flatMap Token.text) := by
  induction row with
  | nil => exact .nil
  | cons token row ih =>
    obtain ⟨htoken, hrow⟩ := List.forall_mem_cons.mp h
    exact .token htoken (ih hrow)

end DeviceSlots.Json
