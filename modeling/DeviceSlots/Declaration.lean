import DeviceSlots.Error
import DeviceSlots.TypeName.Canonical

/-!
# Declarations

What a model declares: variables, each with a slot of its own in the host buffer, and environment
properties, each stored at a fixed place in the environment region. A declaration has the type name
as it was written; what is registered has the canonical one.
-/

namespace DeviceSlots

/-- One past the greatest address: addresses and sizes are below it. -/
def addressLimit : Nat := UInt64.size

/-- A number as a machine word holds it. Sums and products that nothing bounds are not checked for
overflow, but wrap around. -/
def wrap (n : Nat) : Nat := n % addressLimit

theorem wrap_lt (n : Nat) : wrap n < addressLimit := Nat.mod_lt n (by decide)

theorem wrap_of_lt {n : Nat} (h : n < addressLimit) : wrap n = n := Nat.mod_eq_of_lt h

/-- One past the greatest number of elements. -/
def elementLimit : Nat := UInt32.size

/-- A request to register a variable. -/
structure VariableDecl where
  name : String
  /-- The type's name as it was written. -/
  typeName : String
  /-- The size of one element in bytes. -/
  typeSize : Nat
  elements : Nat := 1
  /-- Whether device code may load the variable. -/
  read : Bool := true
  /-- Whether device code may store to the variable. -/
  write : Bool := true
  deriving DecidableEq, Repr

namespace VariableDecl

/-- A variable of one value of a scalar type, open to loads and stores. -/
def ofScalar (name : String) (s : Scalar) : VariableDecl :=
  let type := TypeDescriptor.ofScalar s
  { name, typeName := type.name, typeSize := type.byteSize }

/-- The declaration with another number of elements. -/
def withElements (decl : VariableDecl) (elements : Nat) : VariableDecl := { decl with elements }

/-- The declaration, open to loads only. -/
def readOnly (decl : VariableDecl) : VariableDecl := { decl with read := true, write := false }

/-- The declaration, open to stores only. -/
def writeOnly (decl : VariableDecl) : VariableDecl := { decl with read := false, write := true }

end VariableDecl

/-- A registered variable. -/
structure Variable where
  /-- The canonical name of the type. -/
  typeName : String
  typeSize : Nat
  elements : Nat
  read : Bool
  write : Bool
  /-- Where the variable's slot starts in the host buffer, once there is one. -/
  slot : Option Nat := none
  deriving DecidableEq, Repr

/-- The variable that a declaration registers. -/
def VariableDecl.register (decl : VariableDecl) : Variable where
  typeName := TypeName.canonical decl.typeName
  typeSize := decl.typeSize
  elements := decl.elements
  read := decl.read
  write := decl.write

/-- The variable without its slot. -/
def Variable.eraseSlot (v : Variable) : Variable := { v with slot := none }

/-- A request to register an environment property. -/
structure PropertyDecl where
  name : String
  /-- Where the property starts in the environment region. -/
  offset : Nat
  /-- The type's name as it was written. -/
  typeName : String
  /-- The size of one element in bytes. -/
  typeSize : Nat
  elements : Nat := 1
  deriving DecidableEq, Repr

/-- A registered environment property. -/
structure Property where
  /-- The canonical name of the type. -/
  typeName : String
  typeSize : Nat
  elements : Nat
  offset : Nat
  deriving DecidableEq, Repr

/-- The property that a declaration registers. -/
def PropertyDecl.register (decl : PropertyDecl) : Property where
  typeName := TypeName.canonical decl.typeName
  typeSize := decl.typeSize
  elements := decl.elements
  offset := decl.offset

/-- One past the last of `elements` values of `typeSize` bytes from `offset` on, if that is an
address. -/
def extentEnd? (offset typeSize elements : Nat) : Option Nat :=
  let finish := offset + typeSize * elements
  if finish < addressLimit then some finish else none

/-- One past the property's last byte, if that is an address. -/
def Property.end? (p : Property) : Option Nat := extentEnd? p.offset p.typeSize p.elements

/-- Accepts a declaration that has a name, a type of some size, and an element. -/
def checkShape (subject : Subject) (name : String) (typeSize elements : Nat) :
    Except Error Unit :=
  if name.isEmpty then .error (.emptyName subject)
  else if typeSize = 0 then .error (.zeroSize subject name)
  else if elements = 0 then .error (.zeroElements subject name)
  else .ok ()

theorem extentEnd?_eq_some_iff {offset typeSize elements finish : Nat} :
    extentEnd? offset typeSize elements = some finish ↔
      offset + typeSize * elements = finish ∧ finish < addressLimit := by
  simp only [extentEnd?]
  split <;> grind

end DeviceSlots
