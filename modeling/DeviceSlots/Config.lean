import DeviceSlots.Error

/-!
# Generator configuration

The choices that shape a generated header: the size of the environment region, the checks that
accessors make, and the names that the header shares with the code around it.
-/

namespace DeviceSlots

/-- The size of a slot, and of a device address, in bytes. -/
def slotSize : Nat := 8

/-- How the checks of accessors are emitted. Without checks a failed access is silent: a load gives
a zero value and a store does nothing. -/
inductive Seatbelts
  /-- Checks are emitted. -/
  | enabled
  /-- No checks are emitted. -/
  | disabled
  /-- Both forms are emitted, and the compilation of the header chooses. -/
  | preprocessor
  deriving DecidableEq, Repr

namespace Seatbelts

/-- All policies. -/
def all : List Seatbelts := [.enabled, .disabled, .preprocessor]

/-- The policy's name in configurations and on the command line. -/
def key : Seatbelts → String
  | .enabled => "enabled"
  | .disabled => "disabled"
  | .preprocessor => "preprocessor"

/-- The policy with the given name. -/
def ofKey? (key : String) : Option Seatbelts := all.find? fun s => s.key = key

@[simp] theorem ofKey?_key (s : Seatbelts) : ofKey? s.key = some s := by cases s <;> rfl

end Seatbelts

/-- The configuration of a generator. -/
structure Config where
  /-- The size of the environment region in bytes. -/
  environmentCapacity : Nat := 10240
  seatbelts : Seatbelts := .enabled
  /-- Whether scalar accessors may move a whole array as one aggregate value. -/
  vectorTypes : Bool := false
  /-- The name of the device buffer. -/
  symbolName : String := "curve_rtc_data"
  /-- The macro that reports a failed check. -/
  faultMacro : String := "DTHROW"
  deriving DecidableEq, Repr

/-- Whether a text is an identifier: an ASCII letter or underscore, then ASCII letters, digits and
underscores. -/
def isIdentifier (text : String) : Bool :=
  match text.toList with
  | [] => false
  | c :: rest => (c.isAlpha || c = '_') && rest.all fun d => d.isAlphanum || d = '_'

namespace Config

/-- Accepts a configuration whose environment region is a whole number of slots and whose two names
are identifiers, and reports the first rule that is broken. -/
def validate (config : Config) : Except Error Unit :=
  if config.environmentCapacity % slotSize ≠ 0 then
    .error (.misalignedCapacity config.environmentCapacity)
  else if !isIdentifier config.symbolName then
    .error (.badSymbolName config.symbolName)
  else if !isIdentifier config.faultMacro then
    .error (.badFaultMacro config.faultMacro)
  else
    .ok ()

/-- The namespace around everything in a generated header. -/
def deviceNamespace : String := "curve_rtc"

/-- The name under which a compiled module knows the device buffer. -/
def deviceSymbol (config : Config) : String := s!"{deviceNamespace}::{config.symbolName}"

end Config

end DeviceSlots
