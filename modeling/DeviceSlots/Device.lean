import DeviceSlots.Config
import DeviceSlots.Method

/-!
# Device modules

A compiled device module holds named globals, each a row of bytes at an address of its own. The host
resolves a global by its name and copies the buffer to it. Declaring a name anew gives the name a
new global at a fresh address, and the old one is gone.
-/

namespace DeviceSlots

/-- Where a global lies and how many bytes it has. -/
structure DeviceSymbol where
  address : Nat
  size : Nat
  deriving DecidableEq, Repr

/-- A global of a device module. -/
structure Global where
  name : String
  address : Nat
  bytes : List UInt8
  deriving DecidableEq

/-- The global after bytes have been copied to an address. -/
def Global.receive (address : Nat) (bytes : List UInt8) (g : Global) : Global :=
  if g.address = address then { g with bytes := bytes ++ g.bytes.drop bytes.length } else g

/-- A device module whose memory is at hand. -/
structure DeviceModule where
  globals : List Global := []
  /-- The address of the next global to be declared. -/
  nextAddress : Nat := 0x1000
  /-- The number of copies made so far. -/
  copies : Nat := 0
  deriving DecidableEq

namespace DeviceModule

/-- The alignment of globals in bytes. -/
def alignment : Nat := 256

/-- The number of bytes that a global of the given size takes up: whole units of the alignment, at
least one. -/
def footprint (size : Nat) : Nat := (max size 1 + (alignment - 1)) / alignment * alignment

/-- Declares a global of zero bytes. -/
def declare (m : DeviceModule) (name : String) (size : Nat) : DeviceSymbol × DeviceModule :=
  let fresh : Global := ⟨name, m.nextAddress, List.replicate size 0⟩
  (⟨m.nextAddress, size⟩,
    { m with
      globals := m.globals.filter (fun g => g.name ≠ name) ++ [fresh]
      nextAddress := m.nextAddress + footprint size })

/-- The global with the given name. -/
def find? (m : DeviceModule) (name : String) : Option Global :=
  m.globals.find? fun g => g.name = name

/-- The bytes of the global with the given name. -/
def contents? (m : DeviceModule) (name : String) : Option (List UInt8) :=
  (m.find? name).map (·.bytes)

/-- The place of the global with the given name. -/
def resolve (m : DeviceModule) (name : String) : Except Error DeviceSymbol :=
  match m.find? name with
  | some g => .ok ⟨g.address, g.bytes.length⟩
  | none => .error (.symbolNotFound name)

/-- The module after bytes have been copied to an address. -/
def receive (m : DeviceModule) (address : Nat) (bytes : List UInt8) : DeviceModule :=
  { m with globals := m.globals.map (Global.receive address bytes), copies := m.copies + 1 }

/-- Copies bytes to the start of the global at an address. -/
def copyBytes (address : Nat) (bytes : List UInt8) : Method DeviceModule Unit := do
  match (← get).globals.find? fun g => g.address = address with
  | none => throw (.noGlobalAt address)
  | some g =>
    if g.bytes.length < bytes.length then throw (.copyOverrun bytes.length address)
    modify fun m => m.receive address bytes

/-- The module with bytes at the start of the global at an address. -/
def copyTo (m : DeviceModule) (address : Nat) (bytes : List UInt8) : Except Error DeviceModule :=
  (copyBytes address bytes).leaves m

/-- Copies bytes to the global with the given name, which has to hold them all. -/
def pushBytes (name : String) (bytes : List UInt8) : Method DeviceModule DeviceSymbol := do
  let symbol ← ofExcept ((← get).resolve name)
  if symbol.size < bytes.length then
    throw (.symbolTooSmall name symbol.size bytes.length)
  copyBytes symbol.address bytes
  return symbol

/-- The place of the global with the given name, and the module with bytes at its start. -/
def push (m : DeviceModule) (name : String) (bytes : List UInt8) :
    Except Error (DeviceSymbol × DeviceModule) :=
  (pushBytes name bytes).outcome m

end DeviceModule

end DeviceSlots
