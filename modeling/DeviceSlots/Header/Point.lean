import DeviceSlots.Kind

/-!
# Accesses and fill points

A generated header offers six ways to access a variable and three to access an environment property.
Its text has one open place for each access that it offers, and one for the buffer's declaration:
the fill points.
-/

namespace DeviceSlots

/-- A way to access the variables of a kind. The cached forms read through the read-only cache. -/
inductive Access
  | get | getCached | getArray | getArrayCached | set | setArray
  deriving DecidableEq, Repr

namespace Access

/-- All accesses. -/
def all : List Access := [.get, .getCached, .getArray, .getArrayCached, .set, .setArray]

/-- Whether the access reads. -/
def isGet : Access → Bool
  | .set | .setArray => false
  | _ => true

/-- Whether the access is to one element of an array variable. -/
def isArray : Access → Bool
  | .getArray | .getArrayCached | .setArray => true
  | _ => false

/-- Whether the access reads through the read-only cache. -/
def isCached : Access → Bool
  | .getCached | .getArrayCached => true
  | _ => false

/-- The name of the access in diagnostics. -/
def display : Access → String
  | .get => "Get"
  | .getCached => "GetLdg"
  | .getArray => "GetArray"
  | .getArrayCached => "GetArrayLdg"
  | .set => "Set"
  | .setArray => "SetArray"

end Access

/-- A way to access the environment properties. -/
inductive PropertyAccess
  | get | getArray | contains
  deriving DecidableEq, Repr

namespace PropertyAccess

/-- All accesses. -/
def all : List PropertyAccess := [.get, .getArray, .contains]

/-- The name of the access in diagnostics. -/
def display : PropertyAccess → String
  | .get => "Get"
  | .getArray => "GetArray"
  | .contains => "Contains"

end PropertyAccess

/-- The name of the kind in diagnostics. -/
def Kind.display : Kind → String
  | .agent => "Agent"
  | .messageIn => "MessageIn"
  | .messageOut => "MessageOut"
  | .newAgent => "NewAgent"

/-- A place in the header that generated text goes to. -/
inductive FillPoint
  /-- The declaration of the device buffer. -/
  | declaration
  /-- The body of an environment accessor. -/
  | environment (access : PropertyAccess)
  /-- The body of a variable accessor. -/
  | accessor (kind : Kind) (access : Access)
  deriving DecidableEq, Repr

namespace FillPoint

/-- The kinds that device code may store to. -/
def storedKinds : List Kind := [.agent, .messageOut, .newAgent]

/-- The kinds that device code may load from. -/
def loadedKinds : List Kind := [.agent, .messageIn]

/-- The fill points of the header, in the order in which they are filled: the declaration, then the
environment, then the accessors that store and those that load. -/
def all : List FillPoint :=
  [declaration] ++ PropertyAccess.all.map environment ++
    storedKinds.flatMap (fun kind => [Access.set, .setArray].map (accessor kind)) ++
    loadedKinds.flatMap fun kind =>
      [Access.get, .getCached, .getArray, .getArrayCached].map (accessor kind)

/-- The name of the fill point in diagnostics. -/
def display : FillPoint → String
  | declaration => "Variables"
  | environment access => s!"Environment({access.display})"
  | accessor kind access => s!"Accessor({kind.display}, {access.display})"

theorem nodup_all : all.Nodup := by decide

end FillPoint

end DeviceSlots
