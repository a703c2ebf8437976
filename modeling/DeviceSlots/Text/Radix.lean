/-!
# Numbers as digits

Natural numbers written in base eight and sixteen, and bytes as pairs of hexadecimal digits. Decimal
numbers are written by `Nat.repr`.
-/

namespace DeviceSlots.Text

/-- The `width` last octal digits of a number, most significant first. -/
def octal : (width : Nat) → Nat → List Char
  | 0, _ => []
  | width + 1, n => octal width (n / 8) ++ [Nat.digitChar (n % 8)]

/-- The `width` last hexadecimal digits of a number in lower case, most significant first. -/
def hexadecimal : (width : Nat) → Nat → List Char
  | 0, _ => []
  | width + 1, n => hexadecimal width (n / 16) ++ [Nat.digitChar (n % 16)]

/-- A number in base sixteen without leading zeros. -/
def hex (n : Nat) : String := String.ofList (Nat.toDigits 16 n)

/-- Bytes as two hexadecimal digits each, in order. -/
def hexBytes (bytes : List UInt8) : String :=
  String.ofList (bytes.flatMap fun byte => hexadecimal 2 byte.toNat)

end DeviceSlots.Text
