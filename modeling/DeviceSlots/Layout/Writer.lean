import DeviceSlots.Json.Value
import DeviceSlots.Layout

/-!
# Writing layout reports

The sections and slots of a layout as a JSON value.
-/

namespace DeviceSlots

open Json (Value)

/-- The sections of a buffer as JSON. -/
def SectionOffsets.toJson (offsets : SectionOffsets) : Value :=
  .object [
    ("environment_capacity", .number offsets.environmentCapacity),
    ("agent", .number offsets.agent),
    ("message_out", .number offsets.messageOut),
    ("message_in", .number offsets.messageIn),
    ("new_agent", .number offsets.newAgent),
    ("total", .number offsets.total)]

/-- A slot as JSON. -/
def SlotReport.toJson (slot : SlotReport) : Value :=
  .object [
    ("name", .string slot.name),
    ("ordinal", .number slot.ordinal),
    ("offset", .number slot.offset)]

/-- A layout report as JSON. -/
def LayoutReport.toJson (report : LayoutReport) : Value :=
  .object [
    ("offsets", report.offsets.toJson),
    ("pointer_size", .number slotSize),
    ("slots", .object (Kind.all.map fun kind =>
      (kind.key, .array ((report.slots.get kind).map SlotReport.toJson))))]

/-- The text of a layout report. -/
def LayoutReport.text (report : LayoutReport) : String := report.toJson.indented ++ "\n"

end DeviceSlots
