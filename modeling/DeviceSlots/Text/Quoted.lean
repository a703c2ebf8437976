import DeviceSlots.Text.Radix
import DeviceSlots.Text.Printable

/-!
# Quoted text

A text as it is shown in a diagnostic: between quotes, with characters that could not be told apart
on the page escaped.
-/

namespace DeviceSlots.Text

/-- A character as it is shown between quotes. -/
def shown (c : Char) : String :=
  if c = '"' then "\\\""
  else if c = '\\' then "\\\\"
  else if c = '\n' then "\\n"
  else if c = '\t' then "\\t"
  else if c = '\r' then "\\r"
  else if c.toNat = 0 then "\\0"
  else if isPrintable c then c.toString
  else "\\u\x7b" ++ hex c.toNat ++ "\x7d"

/-- A text between quotes. -/
def quoted (text : String) : String := "\"" ++ String.join (text.toList.map shown) ++ "\""

end DeviceSlots.Text
