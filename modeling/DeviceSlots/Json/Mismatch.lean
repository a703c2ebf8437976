import DeviceSlots.Json.Token
import DeviceSlots.Text.Quoted

/-!
# Mismatches

How a JSON text can be well formed and still not be what a reader wants. Each mismatch has one
wording, which names what was found and what was wanted.
-/

namespace DeviceSlots.Json

/-- The value that stands where another one was wanted. -/
inductive Found
  | null
  | bool (b : Bool)
  | integer (n : Int)
  | real (negative : Bool) (magnitude : Binary64)
  | string (s : String)
  | array
  | object
  deriving DecidableEq, Repr

/-- The kind of value that a reader wants. -/
inductive Wanted
  /-- A number below `2 ^ 64`. -/
  | word64
  /-- A number below `2 ^ 32`. -/
  | word32
  | string
  | bool
  | null
  | array
  /-- A record of the given name. -/
  | record (name : String)
  deriving DecidableEq, Repr

/-- A well-formed text that is not what was wanted. -/
inductive Mismatch
  | wrongType (found : Found) (wanted : Wanted)
  | wrongValue (found : Found) (wanted : Wanted)
  /-- An array is too short for the record of the given name and number of fields. -/
  | wrongLength (length : Nat) (record : String) (fields : Nat)
  | missingField (field : String)
  | duplicateField (field : String)
  | unknownField (field : String) (known : List String)
  | unknownVariant (variant : String) (known : List String)
  deriving DecidableEq, Repr

/-- The wording of what was found. -/
def Found.phrase : Found → String
  | null => "null"
  | bool b => s!"boolean `{b}`"
  | integer n => s!"integer `{n}`"
  | real negative magnitude =>
    let mark := if negative then "-" else ""
    s!"floating point `{mark}{magnitude.text}`"
  | string s => s!"string {Text.quoted s}"
  | array => "sequence"
  | object => "map"

/-- The wording of what was wanted. -/
def Wanted.phrase : Wanted → String
  | word64 => "usize"
  | word32 => "u32"
  | string => "a string"
  | bool => "a boolean"
  | null => "unit"
  | array => "a sequence"
  | record name => s!"struct {name}"

/-- Names as a choice. -/
def oneOf (names : List String) : String :=
  "one of " ++ String.intercalate ", " (names.map fun name => s!"`{name}`")

/-- The wording of a mismatch. -/
def Mismatch.message : Mismatch → String
  | wrongType found wanted => s!"invalid type: {found.phrase}, expected {wanted.phrase}"
  | wrongValue found wanted => s!"invalid value: {found.phrase}, expected {wanted.phrase}"
  | wrongLength length record fields =>
    s!"invalid length {length}, expected struct {record} with {fields} elements"
  | missingField field => s!"missing field `{field}`"
  | duplicateField field => s!"duplicate field `{field}`"
  | unknownField field known => s!"unknown field `{field}`, expected {oneOf known}"
  | unknownVariant variant known => s!"unknown variant `{variant}`, expected {oneOf known}"

/-- Why a text could not be read. -/
inductive ReadError
  /-- The text is no JSON, or its brackets do not enclose what they should. -/
  | malformed
  | mismatch (m : Mismatch)
  deriving DecidableEq, Repr

end DeviceSlots.Json
