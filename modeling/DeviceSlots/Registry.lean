import DeviceSlots.Declaration
import DeviceSlots.Method
import DeviceSlots.NameMap

/-!
# Registries

A model has five registries: one of variables for each kind, and one of environment properties. Each
maps names to what was registered under them, and never overwrites an entry. The registries are
independent of each other, and listing one goes through the names in ascending order.
-/

namespace DeviceSlots

/-- The five registries of a model. -/
structure Registries where
  tables : ByKind (NameMap Variable)
  environment : NameMap Property

namespace Registries

/-- Registries without entries. -/
def empty : Registries := ⟨.ofFn fun _ => .empty, .empty⟩

instance : Inhabited Registries := ⟨empty⟩

/-! ## Variables -/

/-- The registries with another registry of a kind. -/
def setTable (r : Registries) (kind : Kind) (table : NameMap Variable) : Registries :=
  { r with tables := r.tables.set kind table }

/-- Registers a variable of a kind, if its declaration is in shape and its name is free. -/
def addVariable (kind : Kind) (decl : VariableDecl) : Method Registries Unit := do
  ofExcept (checkShape (.variable kind) decl.name decl.typeSize decl.elements)
  if ((← get).tables.get kind).contains decl.name then
    throw (.alreadyRegistered (.variable kind) decl.name)
  modify fun r => r.setTable kind ((r.tables.get kind).insert decl.name decl.register)

/-- The registries with one more variable. -/
def registerVariable (r : Registries) (kind : Kind) (decl : VariableDecl) :
    Except Error Registries :=
  (addVariable kind decl).leaves r

/-- Takes a variable out of its registry, and reports afterwards if there was none. -/
def removeVariable (kind : Kind) (name : String) : Method Registries Variable := do
  let found := ((← get).tables.get kind).find? name
  modify fun r => r.setTable kind ((r.tables.get kind).erase name)
  match found with
  | some v => return v
  | none => throw (.notRegistered (.variable kind) name)

/-- A registered variable, and the registries without it. -/
def unregisterVariable (r : Registries) (kind : Kind) (name : String) :
    Except Error (Variable × Registries) :=
  (removeVariable kind name).outcome r

/-- The variable that is registered under a name. -/
def findVariable? (r : Registries) (kind : Kind) (name : String) : Option Variable :=
  (r.tables.get kind).find? name

/-- The slot that a registered variable was given, if it was given one. -/
def cachedSlot (r : Registries) (kind : Kind) (name : String) : Except Error (Option Nat) :=
  match r.findVariable? kind name with
  | some v => .ok v.slot
  | none => .error (.notRegistered (.variable kind) name)

/-- Gives a registered variable a slot. -/
def assignSlot (kind : Kind) (name : String) (offset : Nat) : Method Registries Unit := do
  if ((← get).tables.get kind).contains name then
    modify fun r => r.setTable kind
      ((r.tables.get kind).modify name fun v => { v with slot := some offset })
  else
    throw (.variableVanished kind name)

/-! ## Environment properties -/

/-- Registers an environment property, if its declaration is in shape, its end is an address, and
its name is free. -/
def addProperty (decl : PropertyDecl) : Method Registries Unit := do
  ofExcept (checkShape .environment decl.name decl.typeSize decl.elements)
  if (extentEnd? decl.offset decl.typeSize decl.elements).isNone then
    throw (.extentOverflow decl.name decl.offset)
  if (← get).environment.contains decl.name then
    throw (.alreadyRegistered .environment decl.name)
  modify fun r => { r with environment := r.environment.insert decl.name decl.register }

/-- The registries with one more environment property. -/
def registerProperty (r : Registries) (decl : PropertyDecl) : Except Error Registries :=
  (addProperty decl).leaves r

/-- Takes an environment property out of its registry, and reports afterwards if there was none. -/
def removeProperty (name : String) : Method Registries Property := do
  let found := (← get).environment.find? name
  modify fun r => { r with environment := r.environment.erase name }
  match found with
  | some p => return p
  | none => throw (.notRegistered .environment name)

/-- A registered environment property, and the registries without it. -/
def unregisterProperty (r : Registries) (name : String) : Except Error (Property × Registries) :=
  (removeProperty name).outcome r

/-- The environment property that is registered under a name. -/
def findProperty? (r : Registries) (name : String) : Option Property := r.environment.find? name

/-! ## All registries -/

/-- Whether no registry has an entry. -/
def isEmpty (r : Registries) : Bool :=
  Kind.all.all (fun kind => (r.tables.get kind).isEmpty) && r.environment.isEmpty

end Registries

end DeviceSlots
