import DeviceSlots.Json.Value
import DeviceSlots.Manifest.Basic

/-!
# Writing manifests

Configurations, declarations and whole manifests as JSON values, with all members in the order of
their fields.
-/

namespace DeviceSlots

open Json (Value)

/-- A configuration as JSON. -/
def Config.toJson (c : Config) : Value :=
  .object [
    ("environment_capacity", .number c.environmentCapacity),
    ("seatbelts", .string c.seatbelts.key),
    ("vector_types", .bool c.vectorTypes),
    ("symbol_name", .string c.symbolName),
    ("fault_macro", .string c.faultMacro)]

/-- A declaration of a variable as JSON. -/
def VariableDecl.toJson (d : VariableDecl) : Value :=
  .object [
    ("name", .string d.name),
    ("type", .string d.typeName),
    ("size", .number d.typeSize),
    ("elements", .number d.elements),
    ("read", .bool d.read),
    ("write", .bool d.write)]

/-- A declaration of an environment property as JSON. -/
def PropertyDecl.toJson (d : PropertyDecl) : Value :=
  .object [
    ("name", .string d.name),
    ("offset", .number d.offset),
    ("type", .string d.typeName),
    ("size", .number d.typeSize),
    ("elements", .number d.elements)]

/-- A manifest as JSON, with all members. -/
def Manifest.toJson (m : Manifest) : Value :=
  .object [
    ("config", m.config.toJson),
    ("agent", .array (m.agent.map VariableDecl.toJson)),
    ("message_in", .array (m.messageIn.map VariableDecl.toJson)),
    ("message_out", .array (m.messageOut.map VariableDecl.toJson)),
    ("new_agent", .array (m.newAgent.map VariableDecl.toJson)),
    ("environment", .array (m.environment.map PropertyDecl.toJson))]

end DeviceSlots
