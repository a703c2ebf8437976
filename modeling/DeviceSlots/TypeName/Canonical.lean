import DeviceSlots.Text.Blank
import DeviceSlots.TypeName.Scalar
import DeviceSlots.TypeName.Token

/-!
# Canonical type names

Host and device may spell one type differently: with a qualifier or without, with a platform
keyword, with blanks here or there. The canonical name drops qualifiers, spells the 64-bit integer
portably, puts one blank between neighbouring words and after each comma, and none elsewhere.
-/

namespace DeviceSlots.TypeName

/-- The portable spelling of the 64-bit integer type. -/
def portableInt64 : String := "long long int"

/-- The canonical text of a list of tokens. `afterWord` says whether the last thing written was a
word or a number, so that another one needs a blank before it. -/
def spell : (afterWord : Bool) → List Token → List Char
  | _, [] => []
  | afterWord, .qualifier _ :: rest => spell afterWord rest
  | afterWord, .int64 :: rest => gap afterWord ++ portableInt64.toList ++ spell true rest
  | afterWord, .word text :: rest => gap afterWord ++ text ++ spell true rest
  | afterWord, .number text :: rest => gap afterWord ++ text ++ spell true rest
  | _, .scope :: rest => ':' :: ':' :: spell false rest
  | _, .comma :: rest => ',' :: ' ' :: spell false rest
  | _, .mark c :: rest => c :: spell false rest
  | _, .stray c :: rest => c :: spell false rest
where
  /-- The blank before a word that follows another one. -/
  gap (afterWord : Bool) : List Char := if afterWord then [' '] else []

/-- The canonical name of a raw type name. A name that is, up to blanks at its ends, the short
spelling of a scalar type becomes the device spelling of that type. -/
def canonical (raw : String) : String :=
  let text := Text.trim raw.toList
  match Scalar.ofShortName? (String.ofList text) with
  | some s => s.deviceName
  | none => String.ofList (Text.trimEnd (spell false (scan text)))

end DeviceSlots.TypeName

namespace DeviceSlots

/-- The canonical name of a type together with the size of one value in bytes. -/
structure TypeDescriptor where
  name : String
  byteSize : Nat
  deriving DecidableEq, Repr

namespace TypeDescriptor

/-- Describes a type that is known by a raw name and a size. -/
def ofRaw (raw : String) (byteSize : Nat) : TypeDescriptor := ⟨TypeName.canonical raw, byteSize⟩

/-- Describes a scalar type. -/
def ofScalar (s : Scalar) : TypeDescriptor := ofRaw s.shortName s.byteSize

end TypeDescriptor

end DeviceSlots
