import DeviceSlots.Json.Reader
import DeviceSlots.Manifest.Basic

/-!
# Reading manifests

How configurations, declarations and whole manifests are read from JSON. Members that have a default
may be left out. Members that are no fields are skipped inside declarations and configurations, and
refused in the manifest itself.
-/

namespace DeviceSlots

open Json (RecordField Reader Record)

/-- A field that keeps what it reads in an optional part of the draft. -/
def draftField {δ α : Type} (name : String) (part : δ → Option α) (put : δ → α → δ)
    (reader : Reader α) : RecordField δ where
  name := name
  isSet draft := (part draft).isSome
  read draft := fun tokens => do
    let (a, rest) ← reader tokens
    return (put draft a, rest)

/-- The value of a required field. -/
def require {α : Type} (name : String) (part : Option α) : Except String α :=
  match part with
  | some a => .ok a
  | none => .error name

/-- What has been read of a configuration. -/
structure ConfigDraft where
  environmentCapacity : Option Nat := none
  seatbelts : Option Seatbelts := none
  vectorTypes : Option Bool := none
  symbolName : Option String := none
  faultMacro : Option String := none

/-- How a configuration is read. Every field has a default, and further members are skipped. -/
def configRecord : Record ConfigDraft Config where
  name := "GeneratorConfig"
  fields := [
    draftField "environment_capacity" (·.environmentCapacity)
      (fun d n => { d with environmentCapacity := some n }) Json.readWord64,
    draftField "seatbelts" (·.seatbelts) (fun d s => { d with seatbelts := some s })
      (Json.readVariant Seatbelts.ofKey? (Seatbelts.all.map Seatbelts.key)),
    draftField "vector_types" (·.vectorTypes) (fun d b => { d with vectorTypes := some b })
      Json.readBool,
    draftField "symbol_name" (·.symbolName) (fun d s => { d with symbolName := some s })
      (Json.readString .string),
    draftField "fault_macro" (·.faultMacro) (fun d s => { d with faultMacro := some s })
      (Json.readString .string)]
  start := {}
  strict := false
  finish d :=
    let standard : Config := {}
    .ok {
      environmentCapacity := d.environmentCapacity.getD standard.environmentCapacity
      seatbelts := d.seatbelts.getD standard.seatbelts
      vectorTypes := d.vectorTypes.getD standard.vectorTypes
      symbolName := d.symbolName.getD standard.symbolName
      faultMacro := d.faultMacro.getD standard.faultMacro }

/-- What has been read of a variable's declaration. -/
structure VariableDraft where
  name : Option String := none
  typeName : Option String := none
  typeSize : Option Nat := none
  elements : Option Nat := none
  read : Option Bool := none
  write : Option Bool := none

/-- How a variable's declaration is read. Its name, type and size are required, and further members
are skipped. -/
def variableRecord : Record VariableDraft VariableDecl where
  name := "VariableDecl"
  fields := [
    draftField "name" (·.name) (fun d s => { d with name := some s }) (Json.readString .string),
    draftField "type" (·.typeName) (fun d s => { d with typeName := some s })
      (Json.readString .string),
    draftField "size" (·.typeSize) (fun d n => { d with typeSize := some n }) Json.readWord64,
    draftField "elements" (·.elements) (fun d n => { d with elements := some n }) Json.readWord32,
    draftField "read" (·.read) (fun d b => { d with read := some b }) Json.readBool,
    draftField "write" (·.write) (fun d b => { d with write := some b }) Json.readBool]
  start := {}
  strict := false
  finish d := do
    let name ← require "name" d.name
    let typeName ← require "type" d.typeName
    let typeSize ← require "size" d.typeSize
    return {
      name, typeName, typeSize
      elements := d.elements.getD 1
      read := d.read.getD true
      write := d.write.getD true }

/-- What has been read of an environment property's declaration. -/
structure PropertyDraft where
  name : Option String := none
  offset : Option Nat := none
  typeName : Option String := none
  typeSize : Option Nat := none
  elements : Option Nat := none

/-- How an environment property's declaration is read. All but the number of elements is required,
and further members are skipped. -/
def propertyRecord : Record PropertyDraft PropertyDecl where
  name := "EnvPropertyDecl"
  fields := [
    draftField "name" (·.name) (fun d s => { d with name := some s }) (Json.readString .string),
    draftField "offset" (·.offset) (fun d n => { d with offset := some n }) Json.readWord64,
    draftField "type" (·.typeName) (fun d s => { d with typeName := some s })
      (Json.readString .string),
    draftField "size" (·.typeSize) (fun d n => { d with typeSize := some n }) Json.readWord64,
    draftField "elements" (·.elements) (fun d n => { d with elements := some n }) Json.readWord32]
  start := {}
  strict := false
  finish d := do
    let name ← require "name" d.name
    let offset ← require "offset" d.offset
    let typeName ← require "type" d.typeName
    let typeSize ← require "size" d.typeSize
    return { name, offset, typeName, typeSize, elements := d.elements.getD 1 }

/-- What has been read of a manifest. -/
structure ManifestDraft where
  config : Option Config := none
  agent : Option (List VariableDecl) := none
  messageIn : Option (List VariableDecl) := none
  messageOut : Option (List VariableDecl) := none
  newAgent : Option (List VariableDecl) := none
  environment : Option (List PropertyDecl) := none

/-- How a manifest is read. Every field has a default, and further members are refused, so that a
misspelt section does not go unnoticed. -/
def manifestRecord : Record ManifestDraft Manifest where
  name := "Manifest"
  fields := [
    draftField "config" (·.config) (fun d c => { d with config := some c }) configRecord.read,
    draftField "agent" (·.agent) (fun d l => { d with agent := some l })
      (Json.readList variableRecord.read),
    draftField "message_in" (·.messageIn) (fun d l => { d with messageIn := some l })
      (Json.readList variableRecord.read),
    draftField "message_out" (·.messageOut) (fun d l => { d with messageOut := some l })
      (Json.readList variableRecord.read),
    draftField "new_agent" (·.newAgent) (fun d l => { d with newAgent := some l })
      (Json.readList variableRecord.read),
    draftField "environment" (·.environment) (fun d l => { d with environment := some l })
      (Json.readList propertyRecord.read)]
  start := {}
  strict := true
  finish d :=
    .ok {
      config := d.config.getD {}
      agent := d.agent.getD []
      messageIn := d.messageIn.getD []
      messageOut := d.messageOut.getD []
      newAgent := d.newAgent.getD []
      environment := d.environment.getD [] }

/-- The configuration that a JSON text describes. -/
def Config.ofJson (text : String) : Except Json.ReadError Config :=
  Json.readText configRecord.read text

/-- The manifest that a JSON text describes. -/
def Manifest.ofJson (text : String) : Except Json.ReadError Manifest :=
  Json.readText manifestRecord.read text

end DeviceSlots
