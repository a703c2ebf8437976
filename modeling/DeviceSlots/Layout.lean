import DeviceSlots.Config
import DeviceSlots.Registry

/-!
# Buffer layout

The host buffer starts with the environment region. After it comes one section of slots for each
kind, in the order of `Kind.sections`, and in a section one slot for each variable, in ascending
order of the names. A layout freezes this arrangement, so that everything that needs the place of a
slot reads it from one value.
-/

namespace DeviceSlots

/-- Where the sections of the buffer start, and where the last one ends. -/
structure SectionOffsets where
  environmentCapacity : Nat
  agent : Nat
  messageOut : Nat
  messageIn : Nat
  newAgent : Nat
  total : Nat
  deriving DecidableEq, Repr

namespace SectionOffsets

/-- The sections for the given numbers of variables, after an environment region of `capacity`
bytes, which has to be a whole number of slots. Offsets are words, and where the buffer would reach
beyond the last address they wrap around. -/
def compute (capacity : Nat) (count : Kind → Nat) : Except Error SectionOffsets :=
  if capacity % slotSize ≠ 0 then
    .error (.misalignedCapacity capacity)
  else
    let messageOut := wrap (capacity + count .agent * slotSize)
    let messageIn := wrap (messageOut + count .messageOut * slotSize)
    let newAgent := wrap (messageIn + count .messageIn * slotSize)
    let total := wrap (newAgent + count .newAgent * slotSize)
    .ok {
      environmentCapacity := capacity, agent := capacity
      messageOut, messageIn, newAgent, total }

/-- Where the section of a kind starts. -/
def start (offsets : SectionOffsets) : Kind → Nat
  | .agent => offsets.agent
  | .messageOut => offsets.messageOut
  | .messageIn => offsets.messageIn
  | .newAgent => offsets.newAgent

/-- Where the slot of the given ordinal in a kind's section starts. -/
def slotOffset (offsets : SectionOffsets) (kind : Kind) (ordinal : Nat) : Nat :=
  wrap (offsets.start kind + ordinal * slotSize)

end SectionOffsets

/-- A variable with its place among the variables of its kind. -/
structure OrdinalEntry where
  name : String
  ordinal : Nat
  details : Variable
  deriving DecidableEq, Repr

/-- The variables of every kind, numbered in ascending order of their names. -/
abbrev OrdinalTable := ByKind (List OrdinalEntry)

namespace OrdinalTable

/-- Numbers entries from `first` on. -/
def number : (first : Nat) → List (String × Variable) → List OrdinalEntry
  | _, [] => []
  | first, (name, v) :: rest => ⟨name, first, v⟩ :: number (first + 1) rest

/-- The table of all registered variables. -/
def ofRegistries (r : Registries) : OrdinalTable :=
  .ofFn fun kind => number 0 (r.tables.get kind).toList

/-- The number of a variable. -/
def ordinal? (table : OrdinalTable) (kind : Kind) (name : String) : Option Nat :=
  ((table.get kind).find? fun entry => entry.name = name).map (·.ordinal)

end OrdinalTable

/-- The places of all slots, with the table they were computed from. -/
structure Layout where
  offsets : SectionOffsets
  ordinals : OrdinalTable
  deriving DecidableEq

/-- A slot as it is reported. -/
structure SlotReport where
  name : String
  ordinal : Nat
  offset : Nat
  deriving DecidableEq, Repr

/-- All sections and slots of a layout. -/
structure LayoutReport where
  offsets : SectionOffsets
  slots : ByKind (List SlotReport)
  deriving DecidableEq

namespace Layout

/-- Accepts properties that all end within the environment region; else the first one that does not,
in ascending order of the names, is reported. -/
def checkExtents (capacity : Nat) : List (String × Property) → Except Error Unit
  | [] => .ok ()
  | (name, p) :: rest =>
    match p.end? with
    | none => .error (.extentOverflow name p.offset)
    | some finish =>
      if finish ≤ capacity then checkExtents capacity rest
      else .error (.beyondCapacity name p.offset finish capacity)

/-- The layout of registries whose environment region has `capacity` bytes. -/
def compute (capacity : Nat) (r : Registries) : Except Error Layout := do
  checkExtents capacity r.environment.toList
  let ordinals := OrdinalTable.ofRegistries r
  let offsets ← SectionOffsets.compute capacity fun kind => (ordinals.get kind).length
  return { offsets, ordinals }

/-- Where the slot of a variable starts, if it has one. -/
def slotOffset? (layout : Layout) (kind : Kind) (name : String) : Option Nat :=
  (layout.ordinals.ordinal? kind name).map (layout.offsets.slotOffset kind)

/-- The sections and slots of the layout. -/
def report (layout : Layout) : LayoutReport where
  offsets := layout.offsets
  slots := .ofFn fun kind => (layout.ordinals.get kind).map fun entry =>
    ⟨entry.name, entry.ordinal, layout.offsets.slotOffset kind entry.ordinal⟩

end Layout

end DeviceSlots
