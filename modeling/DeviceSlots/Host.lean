import DeviceSlots.Accessor.Generator
import DeviceSlots.Buffer
import DeviceSlots.Device

/-!
# Hosts

A host owns the registries of a model, the header generated from them, and the buffer that the
header's accessors read on the device. It goes through four stages, in one direction only:

* fresh: registries are open, and nothing is generated;
* generating: registries are frozen, and the header is there;
* buffer ready: the buffer is there, and every variable has its slot;
* finalized: the header is handed off.

An operation is run on a host and leaves a host behind, whether it succeeds or fails.
-/

namespace DeviceSlots

/-- How far a host has come. -/
inductive Stage
  | fresh | generating | bufferReady | finalized
  deriving DecidableEq, Repr

/-- The registries of a model with what has been made from them. -/
structure Host where
  config : Config
  registries : Registries := .empty
  stage : Stage := .fresh
  layout : Option Layout := none
  header : Option String := none
  buffer : Option Buffer := none

/-- A step of a host that may fail. -/
abbrev Operation (α : Type) := Method Host α

namespace Host

/-- A fresh host for a valid configuration. -/
def create (config : Config) : Except Error Host := do
  config.validate
  return { config }

/-! ## Registration -/

/-- Refuses a change once the registries are frozen. -/
def requireOpen (change : RegistryChange) : Operation Unit := do
  if (← get).stage ≠ .fresh then throw (.registriesClosed change)

/-- Works on the registries. -/
def onRegistries {α : Type} (x : Method Registries α) : Operation α :=
  x.on Host.registries fun host registries => { host with registries }

/-- Drops the layout, which is that of registries before they were changed. -/
def dropLayout : Operation Unit := modify fun host => { host with layout := none }

/-- Registers a variable. -/
def registerVariable (kind : Kind) (decl : VariableDecl) : Operation Unit := do
  requireOpen .registerVariable
  onRegistries (Registries.addVariable kind decl)
  dropLayout

/-- Takes a variable out of its registry. -/
def unregisterVariable (kind : Kind) (name : String) : Operation Unit := do
  requireOpen .unregisterVariable
  discard (onRegistries (Registries.removeVariable kind name))
  dropLayout

/-- Registers an environment property. -/
def registerProperty (decl : PropertyDecl) : Operation Unit := do
  requireOpen .registerProperty
  onRegistries (Registries.addProperty decl)
  dropLayout

/-- Takes an environment property out of its registry. -/
def unregisterProperty (name : String) : Operation Unit := do
  requireOpen .unregisterProperty
  discard (onRegistries (Registries.removeProperty name))
  dropLayout

/-! ## Layout and header -/

/-- Computes the layout and gives its sections. Once the registries are frozen, the layout that is
there is kept. -/
def computeLayout : Operation SectionOffsets := do
  let host ← get
  if host.stage = .fresh || host.layout.isNone then
    let layout ← ofExcept (Layout.compute host.config.environmentCapacity host.registries)
    modify fun host => { host with layout := some layout }
  match (← get).layout with
  | some layout => return layout.offsets
  | none => throw .layoutLost

/-- Freezes the registries and generates the header. -/
def generateHeader : Operation String := do
  if (← get).stage ≠ .fresh then throw .headerExists
  discard computeLayout
  modify fun host => { host with stage := .generating }
  let host ← get
  match host.layout with
  | none => throw .layoutLostInGeneration
  | some layout =>
    let text ← ofExcept (Generator.header host.config layout host.registries.environment)
    modify fun host => { host with header := some text }
    return text

/-! ## Buffer -/

/-- The variables of a layout with their kinds, in the order of their slots. -/
def slotOwners (layout : Layout) : List (Kind × OrdinalEntry) :=
  Kind.sections.flatMap fun kind => (layout.ordinals.get kind).map fun entry => (kind, entry)

/-- Gives variables their slots. -/
def assignSlots (offsets : SectionOffsets) : List (Kind × OrdinalEntry) → Operation Unit
  | [] => return ()
  | (kind, entry) :: rest => do
    onRegistries
      (Registries.assignSlot kind entry.name (offsets.slotOffset kind entry.ordinal))
    assignSlots offsets rest

/-- Allocates the buffer and gives every variable its slot. -/
def initializeBuffer : Operation Unit := do
  let host ← get
  match host.stage with
  | .fresh => throw .headerMissing
  | .bufferReady | .finalized => throw .bufferExists
  | .generating =>
    if host.buffer.isSome then throw .bufferExists
    match host.layout with
    | none => throw .layoutNotComputed
    | some layout =>
      let buffer ← ofExcept (Buffer.allocate layout.offsets.total)
      assignSlots layout.offsets (slotOwners layout)
      modify fun host => { host with buffer := some buffer, stage := .bufferReady }

/-- Hands the header off. -/
def finalize : Operation String := do
  match (← get).stage with
  | .fresh | .generating => throw .finalizedEarly
  | .bufferReady | .finalized =>
    modify fun host => { host with stage := .finalized }
    match (← get).header with
    | some text => return text
    | none => throw .headerLost

/-- Goes through all stages at once and gives the header. -/
def dynamicHeader : Operation String := do
  discard generateHeader
  initializeBuffer
  finalize

/-! ## Slots -/

/-- The size of the buffer according to the layout, or zero without one. -/
def bufferSize (host : Host) : Nat :=
  match host.layout with
  | some layout => layout.offsets.total
  | none => 0

/-- The buffer, which has to be there. -/
def requireBuffer (host : Host) : Except Error Buffer :=
  match host.buffer with
  | some buffer => .ok buffer
  | none => .error .bufferMissing

/-- Where the slot of a variable starts, if it was given one. -/
def slotOffset (host : Host) (kind : Kind) (name : String) : Except Error (Option Nat) :=
  host.registries.cachedSlot kind name

/-- Where a variable's slot starts in the buffer, checked to lie within it, if it was given one. -/
def slotPointer (host : Host) (kind : Kind) (name : String) : Except Error (Option Nat) := do
  match ← host.slotOffset kind name with
  | none => return none
  | some offset =>
    let buffer ← host.requireBuffer
    return some (← buffer.slotPointer offset)

/-- The slot of a variable, which has to have one. -/
def assignedSlot (host : Host) (kind : Kind) (name : String) : Except Error Nat := do
  match ← host.slotOffset kind name with
  | some offset => return offset
  | none => throw (.slotUnassigned kind name)

/-- Works on the buffer, which has to be there. -/
def onBuffer (x : Method Buffer Unit) : Operation Unit := do
  let buffer ← ofExcept (← get).requireBuffer
  x.on (fun _ => buffer) fun host buffer => { host with buffer := some buffer }

/-- Stores the device address of a variable's data in its slot. -/
def writeSlot (kind : Kind) (name : String) (address : UInt64) : Operation Unit := do
  let offset ← ofExcept ((← get).assignedSlot kind name)
  onBuffer (Buffer.storeSlot offset address)

/-- The address in the slot of a variable. -/
def readSlot (host : Host) (kind : Kind) (name : String) : Except Error UInt64 := do
  let offset ← host.assignedSlot kind name
  let buffer ← host.requireBuffer
  buffer.readSlot offset

/-- Stores up to eight bytes at the start of a variable's slot, and says whether it has one. -/
def patchSlot (kind : Kind) (name : String) (patch : List UInt8) : Operation Bool := do
  match ← ofExcept ((← get).slotPointer kind name) with
  | none => return false
  | some offset =>
    onBuffer (Buffer.storePatch offset patch)
    return true

/-! ## Synchronization -/

/-- Copies a snapshot of the environment to the buffer. Without a snapshot nothing happens. -/
def refreshEnvironment : Option (List UInt8) → Operation Unit
  | none => return ()
  | some snapshot => do
    let capacity := (← get).config.environmentCapacity
    onBuffer (Buffer.storeEnvironment snapshot capacity)

/-- Copies the whole buffer to the device. -/
def pushBuffer (host : Host) : Method DeviceModule DeviceSymbol := do
  let buffer ← ofExcept host.requireBuffer
  DeviceModule.pushBytes host.config.deviceSymbol buffer.bytes

/-- The place of the buffer on the device, and the device with the buffer there. -/
def push (host : Host) (m : DeviceModule) : Except Error (DeviceSymbol × DeviceModule) :=
  host.pushBuffer.outcome m

end Host

end DeviceSlots
