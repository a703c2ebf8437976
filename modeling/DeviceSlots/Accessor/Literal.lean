import DeviceSlots.Text.Radix

/-!
# String literals

A name is compared on the device with a string literal. Quotes and backslashes are escaped, line
feeds and tabulators have escapes of their own, and every other ASCII control character becomes an
octal escape of three digits, which ends after its third digit whatever follows. All other
characters stand for themselves.
-/

namespace DeviceSlots.Literal

/-- Whether a character is an ASCII control character. -/
def isControl (c : Char) : Bool := c.toNat < 32 || c.toNat = 127

/-- The spelling of one character inside a literal. -/
def escape (c : Char) : List Char :=
  if c = '"' then ['\\', '"']
  else if c = '\\' then ['\\', '\\']
  else if c = '\n' then ['\\', 'n']
  else if c = '\t' then ['\\', 't']
  else if isControl c then '\\' :: Text.octal 3 c.toNat
  else [c]

/-- The literal that denotes a text. -/
def quote (text : String) : String :=
  String.ofList ('"' :: text.toList.flatMap escape ++ ['"'])

end DeviceSlots.Literal
