/-!
# Blank characters

The characters with the Unicode property `White_Space`, and trimming by it. Trimming removes
exactly the blank characters at an end of a text; what stays neither starts nor ends with one.
-/

namespace DeviceSlots.Text

/-- The ranges of code points with the property `White_Space`, ends included, in ascending order. -/
def blankRanges : List (Nat × Nat) :=
  [(0x0009, 0x000D), (0x0020, 0x0020), (0x0085, 0x0085), (0x00A0, 0x00A0), (0x1680, 0x1680),
   (0x2000, 0x200A), (0x2028, 0x2029), (0x202F, 0x202F), (0x205F, 0x205F), (0x3000, 0x3000)]

/-- Whether a character has the property `White_Space`. -/
def isBlank (c : Char) : Bool :=
  blankRanges.any fun (low, high) => low ≤ c.toNat && c.toNat ≤ high

/-- Drops the blank characters at the start. -/
def trimStart (text : List Char) : List Char := text.dropWhile isBlank

/-- Drops the blank characters at the end. -/
def trimEnd (text : List Char) : List Char := (text.reverse.dropWhile isBlank).reverse

/-- Drops the blank characters at both ends. -/
def trim (text : List Char) : List Char := trimEnd (trimStart text)

theorem trimStart_cons (c : Char) (text : List Char) :
    trimStart (c :: text) = if isBlank c then trimStart text else c :: text := by
  cases h : isBlank c <;> simp [trimStart, h]

theorem trimEnd_append_singleton (text : List Char) (c : Char) :
    trimEnd (text ++ [c]) = if isBlank c then trimEnd text else text ++ [c] := by
  cases h : isBlank c <;> simp [trimEnd, h]

end DeviceSlots.Text
