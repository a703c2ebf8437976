import DeviceSlots.Manifest.Writer
import DeviceSlots.Proofs.Json.Reading

/-!
# Encodings of manifests

A manifest has many encodings: the members of each record come in any order, and members with their
default value may be left out. What is written for a manifest is one of them.
-/

namespace DeviceSlots

open Json (EncodedList EncodedRecord Member Value)

/-! ## Encodings -/

/-- A value encodes a policy: it is the policy's name, alone or mapped to null. -/
def Seatbelts.Encoded (s : Seatbelts) (v : Value) : Prop :=
  v = .string s.key ∨ v = .object [(s.key, .null)]

/-- The members of a configuration. Each may be left out if it is the standard one. -/
def Config.members (c : Config) : List Member :=
  let standard : Config := {}
  [⟨"environment_capacity", c.environmentCapacity = standard.environmentCapacity,
      (· = .number c.environmentCapacity)⟩,
    ⟨"seatbelts", c.seatbelts = standard.seatbelts, c.seatbelts.Encoded⟩,
    ⟨"vector_types", c.vectorTypes = standard.vectorTypes, (· = .bool c.vectorTypes)⟩,
    ⟨"symbol_name", c.symbolName = standard.symbolName, (· = .string c.symbolName)⟩,
    ⟨"fault_macro", c.faultMacro = standard.faultMacro, (· = .string c.faultMacro)⟩]

/-- A value encodes a configuration. -/
def Config.Encoded (c : Config) : Value → Prop := EncodedRecord c.members

/-- The members of a variable's declaration. -/
def VariableDecl.members (d : VariableDecl) : List Member :=
  [⟨"name", False, (· = .string d.name)⟩,
    ⟨"type", False, (· = .string d.typeName)⟩,
    ⟨"size", False, (· = .number d.typeSize)⟩,
    ⟨"elements", d.elements = 1, (· = .number d.elements)⟩,
    ⟨"read", d.read = true, (· = .bool d.read)⟩,
    ⟨"write", d.write = true, (· = .bool d.write)⟩]

/-- A value encodes a variable's declaration. -/
def VariableDecl.Encoded (d : VariableDecl) : Value → Prop := EncodedRecord d.members

/-- The members of an environment property's declaration. -/
def PropertyDecl.members (d : PropertyDecl) : List Member :=
  [⟨"name", False, (· = .string d.name)⟩,
    ⟨"offset", False, (· = .number d.offset)⟩,
    ⟨"type", False, (· = .string d.typeName)⟩,
    ⟨"size", False, (· = .number d.typeSize)⟩,
    ⟨"elements", d.elements = 1, (· = .number d.elements)⟩]

/-- A value encodes an environment property's declaration. -/
def PropertyDecl.Encoded (d : PropertyDecl) : Value → Prop := EncodedRecord d.members

/-- The members of a manifest. A list may be left out if it is empty. -/
def Manifest.members (m : Manifest) : List Member :=
  [⟨"config", m.config = {}, m.config.Encoded⟩,
    ⟨"agent", m.agent = [], EncodedList VariableDecl.Encoded m.agent⟩,
    ⟨"message_in", m.messageIn = [], EncodedList VariableDecl.Encoded m.messageIn⟩,
    ⟨"message_out", m.messageOut = [], EncodedList VariableDecl.Encoded m.messageOut⟩,
    ⟨"new_agent", m.newAgent = [], EncodedList VariableDecl.Encoded m.newAgent⟩,
    ⟨"environment", m.environment = [], EncodedList PropertyDecl.Encoded m.environment⟩]

/-- A value encodes a manifest. -/
def Manifest.Encoded (m : Manifest) : Value → Prop := EncodedRecord m.members

/-! ## Names -/

theorem Config.nodup_members (c : Config) : (c.members.map Member.name).Nodup := by
  simp [members]

theorem VariableDecl.nodup_members (d : VariableDecl) : (d.members.map Member.name).Nodup := by
  simp [members]

theorem PropertyDecl.nodup_members (d : PropertyDecl) : (d.members.map Member.name).Nodup := by
  simp [members]

theorem Manifest.nodup_members (m : Manifest) : (m.members.map Member.name).Nodup := by
  simp [members]

/-! ## What is written -/

theorem Config.encoded_toJson (c : Config) : c.Encoded c.toJson := by
  apply EncodedRecord.of_all c.nodup_members
  simp [members, Seatbelts.Encoded]

theorem VariableDecl.encoded_toJson (d : VariableDecl) : d.Encoded d.toJson := by
  apply EncodedRecord.of_all d.nodup_members
  simp [members]

theorem PropertyDecl.encoded_toJson (d : PropertyDecl) : d.Encoded d.toJson := by
  apply EncodedRecord.of_all d.nodup_members
  simp [members]

/-- What is written for a manifest encodes it. -/
theorem Manifest.encoded_toJson (m : Manifest) : m.Encoded m.toJson := by
  have hvariables := EncodedList.map VariableDecl.encoded_toJson
  have hproperties := EncodedList.map PropertyDecl.encoded_toJson
  apply EncodedRecord.of_all m.nodup_members
  simp [members, m.config.encoded_toJson, hvariables, hproperties]

end DeviceSlots
