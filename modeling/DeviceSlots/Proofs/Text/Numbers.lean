import DeviceSlots.Proofs.Config
import DeviceSlots.Proofs.Text.Marks

/-!
# Numbers in text

The decimal numbers that stand right after a mark, for reading offsets out of generated code.
-/

namespace DeviceSlots.Text

/-- The decimal number that a text begins with, if it begins with a digit. -/
def leadingNumber? (text : List Char) : Option Nat :=
  let digits := text.takeWhile Char.isDigit
  if digits.isEmpty then none else some (Nat.ofDigitChars 10 digits 0)

/-- The numbers that stand right after each occurrence of a mark, in order. -/
def numbersAfter (mark : List Char) : List Char → List Nat
  | [] => []
  | c :: rest =>
    let here :=
      if mark.isPrefixOf (c :: rest) then leadingNumber? ((c :: rest).drop mark.length) else none
    here.toList ++ numbersAfter mark rest

theorem leadingNumber?_repr (n : Nat) {rest : List Char}
    (h : ∀ c ∈ rest.head?, c.isDigit = false) :
    leadingNumber? ((Nat.repr n).toList ++ rest) = some n := by
  have hdigits : ∀ c ∈ Nat.toDigits 10 n, c.isDigit = true :=
    fun c hc => Nat.isDigit_of_mem_toDigits (by decide) (by decide) hc
  have hrest : rest.takeWhile Char.isDigit = [] := by
    cases rest with
    | nil => rfl
    | cons c rest => simp [h c rfl]
  have htake : ((Nat.repr n).toList ++ rest).takeWhile Char.isDigit = Nat.toDigits 10 n := by
    rw [Nat.toList_repr, List.takeWhile_append_of_pos hdigits, hrest, List.append_nil]
  have hne : Nat.toDigits 10 n ≠ [] := Nat.toDigits_ne_nil
  simp only [leadingNumber?, htake, List.isEmpty_iff, hne, if_false, Nat.ofDigitChars_ten_toDigits]

/-! ## From sign to sign -/

theorem numbersAfter_eq (mark text : List Char) :
    numbersAfter mark text = readAfter leadingNumber? mark text := by
  induction text with
  | nil => rfl
  | cons c rest ih => rw [numbersAfter, readAfter, ih]

variable {sign : Char} {front back before after : List Char}

theorem numbersAfter_eq_nil {mark text : List Char} (hmark : sign ∈ mark) (h : sign ∉ text) :
    numbersAfter mark text = [] := by
  rw [numbersAfter_eq, readAfter_eq_nil hmark h]

/-- A mark occurs before the next sign only where its front ends there. -/
theorem numbersAfter_append_sign (hfront : sign ∉ front) (hne : front ≠ []) (h : sign ∉ before) :
    numbersAfter (front ++ sign :: back) (before ++ sign :: after) =
      (if front <:+ before ∧ back <+: after then (leadingNumber? (after.drop back.length)).toList
        else []) ++ numbersAfter (front ++ sign :: back) after := by
  rw [numbersAfter_eq, numbersAfter_eq, readAfter_append_sign hfront hne h]

end DeviceSlots.Text
