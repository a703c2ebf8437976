import DeviceSlots.Header.Point
import DeviceSlots.Text.Radix

/-!
# Errors

Every way in which an operation can fail is a cause. Each cause belongs to one category and has one
wording; `Error.message` is the category's opening followed by that wording.
-/

namespace DeviceSlots

/-- The change to a registry that a closed registry refuses. -/
inductive RegistryChange
  | registerVariable | unregisterVariable | registerProperty | unregisterProperty
  deriving DecidableEq, Repr

/-- The change as a phrase. -/
def RegistryChange.phrase : RegistryChange → String
  | .registerVariable => "register a variable"
  | .unregisterVariable => "unregister a variable"
  | .registerProperty => "register an environment property"
  | .unregisterProperty => "unregister an environment property"

/-- A group of errors that callers treat alike. -/
inductive ErrorCategory
  | alreadyExists | notFound | invalidOperation | internalError | invalidConfig | device
  deriving DecidableEq, Repr

/-- The opening of every message of the category. -/
def ErrorCategory.opening : ErrorCategory → String
  | .alreadyExists | .notFound => ""
  | .invalidOperation => "invalid operation: "
  | .internalError => "internal error: "
  | .invalidConfig => "invalid configuration: "
  | .device => "device error: "

/-- The causes of failure. -/
inductive Error
  /-- A name is registered twice. -/
  | alreadyRegistered (subject : Subject) (name : String)
  /-- A name is not registered. -/
  | notRegistered (subject : Subject) (name : String)
  /-- A declaration has no name. -/
  | emptyName (subject : Subject)
  /-- A declared type has no size. -/
  | zeroSize (subject : Subject) (name : String)
  /-- A declaration has no elements. -/
  | zeroElements (subject : Subject) (name : String)
  /-- A property's end is not an address. -/
  | extentOverflow (name : String) (offset : Nat)
  /-- A property ends outside the environment region. -/
  | beyondCapacity (name : String) (offset finish capacity : Nat)
  /-- The environment region does not end at a slot boundary. -/
  | misalignedCapacity (capacity : Nat)
  /-- The buffer's name is not an identifier. -/
  | badSymbolName (name : String)
  /-- The fault macro's name is not an identifier. -/
  | badFaultMacro (name : String)
  /-- The registries are frozen. -/
  | registriesClosed (change : RegistryChange)
  /-- The header exists already. -/
  | headerExists
  /-- The buffer is asked for before the header. -/
  | headerMissing
  /-- The buffer exists already. -/
  | bufferExists
  /-- The buffer is asked for before a layout. -/
  | layoutNotComputed
  /-- The header is handed off before the buffer exists. -/
  | finalizedEarly
  /-- The buffer is used before it exists. -/
  | bufferMissing
  /-- A slot is used before slots are assigned. -/
  | slotUnassigned (kind : Kind) (name : String)
  /-- A buffer of no bytes is asked for. -/
  | emptyBuffer
  /-- An environment snapshot does not fill the environment region. -/
  | shortSnapshot (held needed : Nat)
  /-- A slot does not lie in the buffer. -/
  | slotOutside (offset : Nat)
  /-- The environment region does not lie in the buffer. -/
  | regionOutside (capacity held : Nat)
  /-- A variable of the layout is not registered any more. -/
  | variableVanished (kind : Kind) (name : String)
  /-- The layout is gone after it was computed. -/
  | layoutLost
  /-- The layout is gone during generation. -/
  | layoutLostInGeneration
  /-- The header is gone at hand-off. -/
  | headerLost
  /-- The header has no such fill point. -/
  | unknownPoint (point : FillPoint)
  /-- A fill point is filled twice. -/
  | filledTwice (point : FillPoint)
  /-- A fill point is left open. -/
  | neverFilled (point : FillPoint)
  /-- A device module has no such global. -/
  | symbolNotFound (name : String)
  /-- A global is smaller than the buffer. -/
  | symbolTooSmall (name : String) (held needed : Nat)
  /-- No global starts at an address. -/
  | noGlobalAt (address : Nat)
  /-- A copy is longer than the global it goes to. -/
  | copyOverrun (count address : Nat)
  deriving DecidableEq, Repr

namespace Error

/-- The category of a cause. -/
def category : Error → ErrorCategory
  | alreadyRegistered .. => .alreadyExists
  | notRegistered .. => .notFound
  | emptyName .. | zeroSize .. | zeroElements .. | extentOverflow .. | beyondCapacity ..
  | misalignedCapacity .. | badSymbolName .. | badFaultMacro .. => .invalidConfig
  | registriesClosed .. | headerExists | headerMissing | bufferExists | layoutNotComputed
  | finalizedEarly | bufferMissing | slotUnassigned .. | emptyBuffer | shortSnapshot .. =>
    .invalidOperation
  | slotOutside .. | regionOutside .. | variableVanished .. | layoutLost | layoutLostInGeneration
  | headerLost | unknownPoint .. | filledTwice .. | neverFilled .. => .internalError
  | symbolNotFound .. | symbolTooSmall .. | noGlobalAt .. | copyOverrun .. => .device

/-- The wording of a cause. -/
def wording : Error → String
  | alreadyRegistered subject name => s!"{subject.label} '{name}' is already registered"
  | notRegistered subject name => s!"{subject.label} '{name}' was not found"
  | emptyName subject => s!"{subject.label} name must not be empty"
  | zeroSize subject name => s!"{subject.label} '{name}' has a zero type size"
  | zeroElements subject name => s!"{subject.label} '{name}' has zero elements"
  | extentOverflow name offset =>
    s!"{Subject.environment.label} '{name}' at offset {offset} overflows the address space"
  | beyondCapacity name offset finish capacity =>
    s!"{Subject.environment.label} '{name}' spans bytes {offset}..{finish}, " ++
      s!"beyond capacity {capacity}"
  | misalignedCapacity capacity => s!"environment capacity {capacity} is not a multiple of 8"
  | badSymbolName name => s!"symbol name '{name}' is not a valid identifier"
  | badFaultMacro name => s!"fault macro '{name}' is not a valid identifier"
  | registriesClosed change => s!"cannot {change.phrase} once header generation has started"
  | headerExists => "the header has already been generated for this instance"
  | headerMissing => "the header must be generated before the buffer is initialized"
  | bufferExists => "the host buffer can only be initialized once"
  | layoutNotComputed => "layout has not been computed"
  | finalizedEarly => "cannot finalize before the host buffer is initialized"
  | bufferMissing => "the host buffer is not initialized"
  | slotUnassigned kind name => s!"{kind.label} '{name}' has no slot before buffer initialization"
  | emptyBuffer => "cannot allocate a zero-sized host buffer"
  | shortSnapshot held needed =>
    s!"environment snapshot holds {held} bytes, expected at least {needed}"
  | slotOutside offset => s!"slot offset {offset} outside buffer"
  | regionOutside capacity held =>
    s!"range end index {capacity} out of range for slice of length {held}"
  | variableVanished kind name =>
    s!"{kind.label} '{name}' vanished between layout and buffer initialization"
  | layoutLost => "layout missing after computation"
  | layoutLostInGeneration => "layout missing during generation"
  | headerLost => "header missing at finalization"
  | unknownPoint point => s!"fill point {point.display} does not exist in the header template"
  | filledTwice point => s!"fill point {point.display} was filled twice"
  | neverFilled point => s!"fill point {point.display} was never filled"
  | symbolNotFound name => s!"symbol '{name}' not found in module"
  | symbolTooSmall name held needed =>
    s!"symbol '{name}' holds {held} bytes, host buffer has {needed}"
  | noGlobalAt address => s!"no global at address 0x{Text.hex address}"
  | copyOverrun count address =>
    s!"copy of {count} bytes overruns global at 0x{Text.hex address}"

/-- The text of an error. -/
def message (e : Error) : String := e.category.opening ++ e.wording

end Error

end DeviceSlots
