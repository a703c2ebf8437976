import DeviceSlots.Json.Value
import DeviceSlots.Registry

/-!
# Writing registries

All registries as one JSON value, with names in ascending order and without slots, so that the text
depends on nothing but what is registered.
-/

namespace DeviceSlots

open Json (Value)

/-- A variable as JSON, without its slot. -/
def Variable.toJson (v : Variable) : Value :=
  .object [
    ("type", .string v.typeName),
    ("type_size", .number v.typeSize),
    ("elements", .number v.elements),
    ("read", .bool v.read),
    ("write", .bool v.write)]

/-- An environment property as JSON. -/
def Property.toJson (p : Property) : Value :=
  .object [
    ("type", .string p.typeName),
    ("type_size", .number p.typeSize),
    ("elements", .number p.elements),
    ("offset", .number p.offset)]

/-- A map as JSON, with its names in ascending order. -/
def NameMap.toJson {α : Type} (entry : α → Value) (m : NameMap α) : Value :=
  .object (m.toList.map fun (name, a) => (name, entry a))

/-- All registries as JSON. -/
def Registries.toJson (r : Registries) : Value :=
  .object (
    Kind.all.map (fun kind => (kind.key, (r.tables.get kind).toJson Variable.toJson)) ++
      [("environment", r.environment.toJson Property.toJson)])

/-- The canonical text of all registries. -/
def Registries.canonicalJson (r : Registries) : String := r.toJson.compact

end DeviceSlots
