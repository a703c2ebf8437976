import DeviceSlots.Accessor.Literal

/-!
# Reading literals

How a compiler reads a string literal: up to the closing quote, with escapes of one letter, and with
octal escapes that take as many digits as there are, three at most. Reading the literal of a text
gives the text back, whatever stands behind the literal.
-/

namespace DeviceSlots.Literal

/-- The character that an escape of one letter stands for. -/
def simpleEscape? : Char → Option Char
  | '"' => some '"'
  | '\\' => some '\\'
  | 'n' => some '\n'
  | 't' => some '\t'
  | _ => none

/-- Whether a character is an octal digit. -/
def isOctal (c : Char) : Bool := '0' ≤ c && c ≤ '7'

/-- The character of an escape, from after its backslash, and what follows the escape. -/
def escape? : List Char → Option (Char × List Char)
  | [] => none
  | e :: rest =>
    match simpleEscape? e with
    | some c => some (c, rest)
    | none =>
      let digits := ((e :: rest).take 3).takeWhile isOctal
      if digits.isEmpty then none
      else some (Char.ofNat (Nat.ofDigitChars 8 digits 0), (e :: rest).drop digits.length)

theorem length_of_escape? {text after : List Char} {c : Char} (h : escape? text = some (c, after)) :
    after.length < text.length := by
  cases text with
  | nil => contradiction
  | cons e rest =>
    simp only [escape?] at h
    split at h
    · cases h
      simp
    · split at h
      · contradiction
      · rename_i hdigits
        cases h
        have hpos := List.length_pos_iff.mpr (mt List.isEmpty_iff.mpr hdigits)
        rw [List.length_drop]
        simp only [List.length_cons] at hpos ⊢
        omega

/-- The text of a literal from after its opening quote, and what follows its closing quote. A literal
does not go over the end of a line. -/
def body? (text : List Char) : Option (List Char × List Char) :=
  match text with
  | [] => none
  | c :: rest =>
    if c = '"' then some ([], rest)
    else if c = '\n' then none
    else if c = '\\' then
      match _h : escape? rest with
      | some (d, after) => (body? after).map fun (read, left) => (d :: read, left)
      | none => none
    else (body? rest).map fun (read, left) => (c :: read, left)
  termination_by text.length
  decreasing_by
    · have := length_of_escape? _h
      simp only [List.length_cons]
      omega
    · simp

/-- The text that a literal at the front denotes, and what follows the literal. -/
def read? : List Char → Option (String × List Char)
  | '"' :: rest => (body? rest).map fun (read, left) => (String.ofList read, left)
  | _ => none

/-! ## Reading what was written -/

/-- The three digits of a code below 128 are an escape of their own. -/
theorem octal_digits {n : Nat} (h : n < 128) :
    ∃ a b c, Text.octal 3 n = [a, b, c] ∧ simpleEscape? a = none ∧
      isOctal a = true ∧ isOctal b = true ∧ isOctal c = true ∧
      Nat.ofDigitChars 8 [a, b, c] 0 = n := by
  refine ⟨Nat.digitChar (n / 8 / 8 % 8), Nat.digitChar (n / 8 % 8), Nat.digitChar (n % 8), rfl, ?_⟩
  revert n
  decide +kernel

theorem escape?_octal {n : Nat} (h : n < 128) (rest : List Char) :
    escape? (Text.octal 3 n ++ rest) = some (Char.ofNat n, rest) := by
  obtain ⟨a, b, c, hdigits, hsimple, ha, hb, hc, hvalue⟩ := octal_digits h
  rw [hdigits]
  simp [escape?, hsimple, ha, hb, hc, hvalue]

theorem body?_backslash {rest after : List Char} {c : Char} (h : escape? rest = some (c, after)) :
    body? ('\\' :: rest) = (body? after).map fun (read, left) => (c :: read, left) := by
  rw [body?]
  simp only [Char.reduceEq, if_false, if_true]
  split
  · rename_i h'
    rw [h] at h'
    cases h'
    rfl
  · rename_i h'
    rw [h] at h'
    contradiction

/-- A character is spelled by an escape of one letter, by its three octal digits, or as itself. -/
theorem escape_cases (c : Char) :
    (∃ e, escape c = ['\\', e] ∧ simpleEscape? e = some c) ∨
      (c.toNat < 128 ∧ escape c = '\\' :: Text.octal 3 c.toNat) ∨
      (escape c = [c] ∧ c ≠ '"' ∧ c ≠ '\\' ∧ isControl c = false) := by
  by_cases hquote : c = '"'
  · subst hquote
    exact .inl ⟨'"', rfl, rfl⟩
  by_cases hbackslash : c = '\\'
  · subst hbackslash
    exact .inl ⟨'\\', rfl, rfl⟩
  by_cases hnewline : c = '\n'
  · subst hnewline
    exact .inl ⟨'n', rfl, rfl⟩
  by_cases htab : c = '\t'
  · subst htab
    exact .inl ⟨'t', rfl, rfl⟩
  cases hcontrol : isControl c with
  | true =>
    have hlt : c.toNat < 128 := by
      simp only [isControl, Bool.or_eq_true, decide_eq_true_eq] at hcontrol
      omega
    exact .inr (.inl ⟨hlt, by simp [escape, hquote, hbackslash, hnewline, htab, hcontrol]⟩)
  | false =>
    refine .inr (.inr ⟨?_, hquote, hbackslash, rfl⟩)
    simp [escape, hquote, hbackslash, hnewline, htab, hcontrol]

/-- The spelling of a character is read as the character. -/
theorem body?_escape (c : Char) (rest : List Char) :
    body? (escape c ++ rest) = (body? rest).map fun (read, left) => (c :: read, left) := by
  rcases escape_cases c with ⟨e, hescape, hsimple⟩ | ⟨hlt, hescape⟩ | ⟨hescape, hquote, hslash, hplain⟩
  · rw [hescape]
    exact body?_backslash (by simp [escape?, hsimple])
  · have hread := escape?_octal hlt rest
    rw [Char.ofNat_toNat] at hread
    rw [hescape]
    exact body?_backslash hread
  · have hnewline : c ≠ '\n' := by
      rintro rfl
      contradiction
    rw [hescape, List.singleton_append, body?]
    simp [hquote, hslash, hnewline]

theorem body?_flatMap_escape (text rest : List Char) :
    body? (text.flatMap escape ++ '"' :: rest) = some (text, rest) := by
  induction text with
  | nil =>
    rw [List.flatMap_nil, List.nil_append, body?]
    rfl
  | cons c text ih =>
    rw [List.flatMap_cons, List.append_assoc, body?_escape, ih]
    rfl

/-- The literal of a text denotes the text, whatever follows. -/
theorem read?_quote (text : String) (rest : List Char) :
    read? ((quote text).toList ++ rest) = some (text, rest) := by
  have hquote : (quote text).toList ++ rest =
      '"' :: (text.toList.flatMap escape ++ '"' :: rest) := by
    simp [quote]
  simp only [hquote, read?, body?_flatMap_escape, Option.map_some, String.ofList_toList]

theorem quote_injective {s t : String} (h : quote s = quote t) : s = t := by
  have hs := read?_quote s []
  rw [h, read?_quote t []] at hs
  cases hs
  rfl

/-! ## Characters of literals -/

theorem isControl_of_isOctal {c : Char} (h : isOctal c = true) : isControl c = false := by
  simp only [isOctal, Bool.and_eq_true, decide_eq_true_eq] at h
  have hlow : 48 ≤ c.toNat := h.1
  have hhigh : c.toNat ≤ 55 := h.2
  simp only [isControl, Bool.or_eq_false_iff, decide_eq_false_iff_not]
  omega

/-- The spelling of a character holds no control character, whatever the character is. -/
theorem isControl_of_mem_escape {c d : Char} (h : d ∈ escape c) : isControl d = false := by
  have hslash : isControl '\\' = false := rfl
  rcases escape_cases c with ⟨e, hescape, hsimple⟩ | ⟨hlt, hescape⟩ | ⟨hescape, -, -, hplain⟩
  · have hletter : isControl e = false := by
      unfold simpleEscape? at hsimple
      split at hsimple <;> trivial
    rw [hescape] at h
    grind
  · obtain ⟨x, y, z, hdigits, -, hx, hy, hz, -⟩ := octal_digits hlt
    rw [hescape, hdigits] at h
    grind [isControl_of_isOctal]
  · rw [hescape] at h
    grind

/-- A quote stands in the spelling of a quote only, behind a backslash. -/
theorem escape_of_quote_mem {c : Char} (h : '"' ∈ escape c) : escape c = ['\\', '"'] := by
  rcases escape_cases c with ⟨e, hescape, -⟩ | ⟨hlt, hescape⟩ | ⟨hescape, hquote, -, -⟩
  · rw [hescape] at h
    grind
  · obtain ⟨x, y, z, hdigits, -, hx, hy, hz, -⟩ := octal_digits hlt
    have hoctal : isOctal '"' = false := rfl
    rw [hescape, hdigits] at h
    grind
  · rw [hescape, List.mem_singleton] at h
    exact absurd h.symm hquote

theorem isControl_of_mem_quote {text : String} {c : Char} (h : c ∈ (quote text).toList) :
    isControl c = false := by
  simp only [quote, String.toList_ofList, List.mem_append, List.mem_cons, List.mem_flatMap,
    List.not_mem_nil, or_false] at h
  rcases h with (rfl | ⟨d, -, hd⟩) | rfl
  · decide
  · exact isControl_of_mem_escape hd
  · decide

/-- A literal is on one line. -/
theorem newline_not_mem_quote (text : String) : '\n' ∉ (quote text).toList :=
  fun h => absurd (isControl_of_mem_quote h) (by decide)

/-! ## Literals as codes -/

/-- Where a literal ends is seen from the literal alone. -/
theorem eq_of_quote_prefix {s t : String} (h : (quote s).toList <+: (quote t).toList) : s = t := by
  obtain ⟨rest, hrest⟩ := h
  have hs := read?_quote s rest
  have ht := read?_quote t []
  rw [List.append_nil, ← hrest, hs] at ht
  cases ht
  rfl

/-- A literal denotes its text: it is read up to its last quote and no further, whatever follows. It
holds no control character, and none is the beginning of the literal of another text. -/
theorem quote_faithful :
    (∀ (text : String) (rest : List Char),
        read? ((quote text).toList ++ rest) = some (text, rest)) ∧
      (∀ text : String, (quote text).toList.getLast? = some '"') ∧
      (∀ text : String, ∀ c ∈ (quote text).toList, isControl c = false) ∧
      ∀ s t : String, (quote s).toList <+: (quote t).toList → s = t := by
  refine ⟨read?_quote, ?_, fun text c => isControl_of_mem_quote, fun s t => eq_of_quote_prefix⟩
  intro text
  rw [quote, String.toList_ofList, List.getLast?_concat]

/-- Digits behind a control character, and a quote behind a backslash. -/
def awkwardText : String := "\x7f7\\\"\n"

/-- The literal of `awkwardText`, character by character. -/
def awkwardLiteral : String := "\"\\1777\\\\\\\"\\n\""

theorem quote_faithful_awkward :
    quote awkwardText = awkwardLiteral ∧
      read? (awkwardLiteral.toList ++ ['7', '"']) = some (awkwardText, ['7', '"']) ∧
      (∀ c ∈ awkwardLiteral.toList, isControl c = false) ∧
      ¬ awkwardLiteral.toList <+: (quote (awkwardText ++ "7")).toList := by
  have hliteral : quote awkwardText = awkwardLiteral := by decide
  obtain ⟨hread, -, hplain, hcode⟩ := quote_faithful
  refine ⟨hliteral, ?_, ?_, ?_⟩
  · rw [← hliteral]
    exact hread awkwardText _
  · rw [← hliteral]
    exact hplain awkwardText
  · rw [← hliteral]
    intro hprefix
    exact absurd (hcode _ _ hprefix) (by decide)

end DeviceSlots.Literal
