import DeviceSlots.Manifest.Reader
import DeviceSlots.Proofs.Manifest.Encoding

/-!
# Reading manifests back

Whatever encoding of a manifest is read, and however its text is spelled, the manifest comes back.
Each draft is known from the members that have been read: it has their values, and nothing else.
-/

namespace DeviceSlots

open Json (EncodedList FieldReads Member Reader RecordReads Value)

/-! ## Drafts -/

section

variable {names : List String} {name other : String} {α δ : Type} {a standard : α}

/-- A part of a draft, which is there once the member of its name has been read. -/
def part (names : List String) (name : String) (a : α) : Option α :=
  if name ∈ names then some a else none

@[simp] theorem part_cons_self : part (name :: names) name a = some a := by simp [part]

@[simp] theorem part_cons_of_ne (h : name ≠ other) :
    part (other :: names) name a = part names name a := by
  simp [part, h]

theorem part_of_notMem (h : name ∉ names) : part names name a = none := if_neg h

/-- A required part has to have been read. -/
theorem require_part (h : name ∈ names ∨ False) : require name (part names name a) = .ok a := by
  rw [part, if_pos (h.resolve_right id)]
  rfl

/-- Another part has its standard value if it has not been read. -/
theorem getD_part (h : name ∈ names ∨ a = standard) : (part names name a).getD standard = a := by
  by_cases hmem : name ∈ names
  · rw [part, if_pos hmem, Option.getD_some]
  · rw [part, if_neg hmem, Option.getD_none]
    exact (h.resolve_left hmem).symm

/-- A field of a draft reads its member if the draft has the part of that name. -/
theorem fieldReads_draftField {draft : List String → δ} {get : δ → Option α} {put : δ → α → δ}
    {reader : Reader α} {Optional : Prop} {Encoded : Value → Prop}
    (hget : ∀ names, get (draft names) = part names name a)
    (hput : ∀ names, put (draft names) a = draft (name :: names))
    (hreads : ∀ v, Encoded v → Json.Reads reader v a) :
    FieldReads draft (draftField name get put reader) ⟨name, Optional, Encoded⟩ where
  name := rfl
  unset names hnames := by
    have hnone : get (draft names) = none := by rw [hget, part_of_notMem hnames]
    simp only [draftField, hnone, Option.isSome_none]
  read names v hv rest := by
    simp only [draftField, hreads v hv rest, bind, Except.bind, hput]
    rfl

theorem fieldReads_value {draft : List String → δ} {get : δ → Option α} {put : δ → α → δ}
    {reader : Reader α} {Optional : Prop} {v : Value}
    (hget : ∀ names, get (draft names) = part names name a)
    (hput : ∀ names, put (draft names) a = draft (name :: names)) (hreads : Json.Reads reader v a) :
    FieldReads draft (draftField name get put reader) ⟨name, Optional, (· = v)⟩ := by
  apply fieldReads_draftField hget hput
  rintro _ rfl
  exact hreads

end

/-! ## Numbers and policies -/

theorem reads_word64 {n : Nat} (h : n < addressLimit) : Json.Reads Json.readWord64 (.number n) n :=
  Json.reads_nat .word64 (Nat.le_refl _) h

theorem reads_word32 {n : Nat} (h : n < elementLimit) : Json.Reads Json.readWord32 (.number n) n :=
  Json.reads_nat .word32 (by decide) h

theorem Seatbelts.Encoded.reads {s : Seatbelts} {v : Value} (h : s.Encoded v) :
    Json.Reads (Json.readVariant Seatbelts.ofKey? (Seatbelts.all.map Seatbelts.key)) v s := by
  rcases h with rfl | rfl
  · exact Json.reads_variant s.ofKey?_key
  · exact Json.reads_variant_null s.ofKey?_key

/-! ## Records -/

/-- A configuration whose number fits a word. -/
def Config.Representable (c : Config) : Prop := c.environmentCapacity < addressLimit

/-- A declaration whose numbers fit their words. -/
structure VariableDecl.Representable (d : VariableDecl) : Prop where
  typeSize : d.typeSize < addressLimit
  elements : d.elements < elementLimit

/-- A declaration whose numbers fit their words. -/
structure PropertyDecl.Representable (d : PropertyDecl) : Prop where
  offset : d.offset < addressLimit
  typeSize : d.typeSize < addressLimit
  elements : d.elements < elementLimit

/-- A manifest whose numbers fit their words. -/
structure Manifest.Representable (m : Manifest) : Prop where
  config : m.config.Representable
  declarations : ∀ kind, ∀ d ∈ m.declarations kind, d.Representable
  properties : ∀ d ∈ m.environment, d.Representable

/-- What has been read of a configuration. -/
def Config.draft (c : Config) (names : List String) : ConfigDraft where
  environmentCapacity := part names "environment_capacity" c.environmentCapacity
  seatbelts := part names "seatbelts" c.seatbelts
  vectorTypes := part names "vector_types" c.vectorTypes
  symbolName := part names "symbol_name" c.symbolName
  faultMacro := part names "fault_macro" c.faultMacro

theorem Config.recordReads {c : Config} (h : c.Representable) :
    RecordReads configRecord c.draft c.members c where
  start := rfl
  nodup := c.nodup_members
  fields :=
    .cons (fieldReads_value (fun _ => rfl) (fun _ => by simp [draft]) (reads_word64 h)) <|
    .cons (fieldReads_draftField (fun _ => rfl) (fun _ => by simp [draft])
      fun _ => Seatbelts.Encoded.reads) <|
    .cons (fieldReads_value (fun _ => rfl) (fun _ => by simp [draft]) (Json.reads_bool _)) <|
    .cons (fieldReads_value (fun _ => rfl) (fun _ => by simp [draft]) (Json.reads_string _ _)) <|
    .cons (fieldReads_value (fun _ => rfl) (fun _ => by simp [draft]) (Json.reads_string _ _)) .nil
  finish names hnames := by
    simp only [members, List.forall_mem_cons] at hnames
    obtain ⟨hcapacity, hseatbelts, hvector, hsymbol, hmacro, -⟩ := hnames
    simp only [configRecord, draft, getD_part hcapacity, getD_part hseatbelts, getD_part hvector,
      getD_part hsymbol, getD_part hmacro]

/-- What has been read of a variable's declaration. -/
def VariableDecl.draft (d : VariableDecl) (names : List String) : VariableDraft where
  name := part names "name" d.name
  typeName := part names "type" d.typeName
  typeSize := part names "size" d.typeSize
  elements := part names "elements" d.elements
  read := part names "read" d.read
  write := part names "write" d.write

theorem VariableDecl.recordReads {d : VariableDecl} (h : d.Representable) :
    RecordReads variableRecord d.draft d.members d where
  start := rfl
  nodup := d.nodup_members
  fields :=
    .cons (fieldReads_value (fun _ => rfl) (fun _ => by simp [draft]) (Json.reads_string _ _)) <|
    .cons (fieldReads_value (fun _ => rfl) (fun _ => by simp [draft]) (Json.reads_string _ _)) <|
    .cons (fieldReads_value (fun _ => rfl) (fun _ => by simp [draft]) (reads_word64 h.typeSize)) <|
    .cons (fieldReads_value (fun _ => rfl) (fun _ => by simp [draft]) (reads_word32 h.elements)) <|
    .cons (fieldReads_value (fun _ => rfl) (fun _ => by simp [draft]) (Json.reads_bool _)) <|
    .cons (fieldReads_value (fun _ => rfl) (fun _ => by simp [draft]) (Json.reads_bool _)) .nil
  finish names hnames := by
    simp only [members, List.forall_mem_cons] at hnames
    obtain ⟨hname, htype, hsize, helements, hread, hwrite, -⟩ := hnames
    simp only [variableRecord, draft, require_part hname, require_part htype, require_part hsize,
      getD_part helements, getD_part hread, getD_part hwrite]
    rfl

/-- What has been read of an environment property's declaration. -/
def PropertyDecl.draft (d : PropertyDecl) (names : List String) : PropertyDraft where
  name := part names "name" d.name
  offset := part names "offset" d.offset
  typeName := part names "type" d.typeName
  typeSize := part names "size" d.typeSize
  elements := part names "elements" d.elements

theorem PropertyDecl.recordReads {d : PropertyDecl} (h : d.Representable) :
    RecordReads propertyRecord d.draft d.members d where
  start := rfl
  nodup := d.nodup_members
  fields :=
    .cons (fieldReads_value (fun _ => rfl) (fun _ => by simp [draft]) (Json.reads_string _ _)) <|
    .cons (fieldReads_value (fun _ => rfl) (fun _ => by simp [draft]) (reads_word64 h.offset)) <|
    .cons (fieldReads_value (fun _ => rfl) (fun _ => by simp [draft]) (Json.reads_string _ _)) <|
    .cons (fieldReads_value (fun _ => rfl) (fun _ => by simp [draft]) (reads_word64 h.typeSize)) <|
    .cons (fieldReads_value (fun _ => rfl) (fun _ => by simp [draft]) (reads_word32 h.elements)) .nil
  finish names hnames := by
    simp only [members, List.forall_mem_cons] at hnames
    obtain ⟨hname, hoffset, htype, hsize, helements, -⟩ := hnames
    simp only [propertyRecord, draft, require_part hname, require_part hoffset, require_part htype,
      require_part hsize, getD_part helements]
    rfl

/-- What has been read of a manifest. -/
def Manifest.draft (m : Manifest) (names : List String) : ManifestDraft where
  config := part names "config" m.config
  agent := part names "agent" m.agent
  messageIn := part names "message_in" m.messageIn
  messageOut := part names "message_out" m.messageOut
  newAgent := part names "new_agent" m.newAgent
  environment := part names "environment" m.environment

namespace Manifest

variable {m : Manifest}

theorem Representable.reads_config (h : m.Representable) {v : Value} (hv : m.config.Encoded v) :
    Json.Reads configRecord.read v m.config :=
  (Config.recordReads h.config).reads hv

theorem Representable.reads_declarations (h : m.Representable) (kind : Kind) {v : Value}
    (hv : EncodedList VariableDecl.Encoded (m.declarations kind) v) :
    Json.Reads (Json.readList variableRecord.read) v (m.declarations kind) :=
  hv.reads fun d hd _ => (VariableDecl.recordReads (h.declarations kind d hd)).reads

theorem Representable.reads_environment (h : m.Representable) {v : Value}
    (hv : EncodedList PropertyDecl.Encoded m.environment v) :
    Json.Reads (Json.readList propertyRecord.read) v m.environment :=
  hv.reads fun d hd _ => (PropertyDecl.recordReads (h.properties d hd)).reads

theorem recordReads (h : m.Representable) :
    RecordReads manifestRecord m.draft m.members m where
  start := rfl
  nodup := m.nodup_members
  fields :=
    .cons (fieldReads_draftField (fun _ => rfl) (fun _ => by simp [draft])
      fun _ => h.reads_config) <|
    .cons (fieldReads_draftField (fun _ => rfl) (fun _ => by simp [draft])
      fun _ => h.reads_declarations .agent) <|
    .cons (fieldReads_draftField (fun _ => rfl) (fun _ => by simp [draft])
      fun _ => h.reads_declarations .messageIn) <|
    .cons (fieldReads_draftField (fun _ => rfl) (fun _ => by simp [draft])
      fun _ => h.reads_declarations .messageOut) <|
    .cons (fieldReads_draftField (fun _ => rfl) (fun _ => by simp [draft])
      fun _ => h.reads_declarations .newAgent) <|
    .cons (fieldReads_draftField (fun _ => rfl) (fun _ => by simp [draft])
      fun _ => h.reads_environment) .nil
  finish names hnames := by
    simp only [members, List.forall_mem_cons] at hnames
    obtain ⟨hconfig, hagent, hin, hout, hnew, henvironment, -⟩ := hnames
    simp only [manifestRecord, draft, getD_part hconfig, getD_part hagent, getD_part hin,
      getD_part hout, getD_part hnew, getD_part henvironment]

/-- A manifest is read back from every text of every encoding of it. -/
theorem ofJson_of_encoded (h : m.Representable) {v : Value} (hv : m.Encoded v) {text : String}
    (htext : Json.Written v.tokens text.toList) : ofJson text = .ok m :=
  ((recordReads h).reads hv).readText htext

/-- A manifest whose numbers fit their words is read back from every text that encodes it: whatever
the order of members, whichever members with default values are left out, however strings are
spelled, and wherever blanks stand. Among these texts is the one that is written for it. -/
theorem decoding_undoes_encoding (h : m.Representable) :
    (∀ v text, m.Encoded v → Json.Written v.tokens text.toList → ofJson text = .ok m) ∧
      ofJson m.toJson.compact = .ok m := by
  refine ⟨?_, ?_⟩
  · intro v text hv htext
    exact ofJson_of_encoded h hv htext
  · exact ofJson_of_encoded h m.encoded_toJson (Json.written_compact m.toJson)

/-- A manifest with a variable whose name is outside the basic plane. -/
def astral : Manifest where
  config := { environmentCapacity := 64 }
  agent := [{ name := "😀", typeName := "float", typeSize := 4, write := false }]

/-- An encoding of it without default values, with members in another order. -/
def astralValue : Value :=
  .object [
    ("agent", .array [
      .object [
        ("write", .bool false), ("size", .number 4), ("type", .string "float"),
        ("name", .string "😀")]]),
    ("config", .object [("environment_capacity", .number 64)])]

/-- A text of it with the name as a pair of code units, and with a blank. -/
def astralText : String :=
  "\x7b\"agent\":[\x7b\"write\":false,\"size\":4,\"type\":\"float\",\"name\": \"\\uD83D\\ude00\"\x7d]," ++
  "\"config\":\x7b\"environment_capacity\":64\x7d\x7d"

theorem astral_encoded : astral.Encoded astralValue := by
  have hconfig : astral.config.Encoded (.object [("environment_capacity", .number 64)]) := by
    refine ⟨_, rfl, by simp, ?_, ?_⟩
    · simp [Config.members, astral]
    · simp [Config.members, astral]
  have hagent : EncodedList VariableDecl.Encoded astral.agent (.array [
      .object [
        ("write", .bool false), ("size", .number 4), ("type", .string "float"),
        ("name", .string "😀")]]) := by
    refine ⟨_, rfl, .cons ⟨_, rfl, by simp, ?_, ?_⟩ .nil⟩
    · simp [VariableDecl.members]
    · simp [VariableDecl.members]
  refine ⟨_, rfl, by simp, ?_, ?_⟩
  · simp [members, hconfig, hagent]
  · simp [members, astral]

theorem astral_written : Json.Written astralValue.tokens astralText.toList := by
  -- All tokens but the name are written by their own texts.
  have hown := (Json.regular_tokens astralValue).spelled
  have hfront := Json.written_flatMap_text fun token hmem =>
    hown token (List.mem_of_mem_take (i := 19) hmem)
  have hback := Json.written_flatMap_text fun token hmem =>
    hown token (List.mem_of_mem_drop (i := 20) hmem)
  have hhigh : Json.codeUnit? 'D' '8' '3' 'D' = some 0xD83D := by decide
  have hlow : Json.codeUnit? 'd' 'e' '0' '0' = some 0xDE00 := by decide
  have hchar : Json.Spells '😀' "\\uD83D\\ude00".toList :=
    .pair hhigh hlow (by decide) (by decide) (by decide)
  have hall : Json.SpellsAll "😀".toList ("\\uD83D\\ude00".toList ++ []) := .cons hchar .nil
  have hname : Json.Written [.string (some "😀")] " \"\\uD83D\\ude00\"".toList :=
    .blank rfl (.token (.string hall) .nil)
  have htokens : astralValue.tokens = astralValue.tokens.take 19 ++
      ([.string (some "😀")] ++ astralValue.tokens.drop 20) := rfl
  have htext : astralText.toList = (astralValue.tokens.take 19).flatMap Json.Token.text ++
      (" \"\\uD83D\\ude00\"".toList ++
        (astralValue.tokens.drop 20).flatMap Json.Token.text) := by cbv
  rw [htokens, htext]
  exact hfront.append (hname.append hback)

theorem decoding_undoes_encoding_astral :
    astral.Representable ∧ astral.Encoded astralValue ∧
      Json.Written astralValue.tokens astralText.toList ∧ ofJson astralText = .ok astral ∧
      ofJson astral.toJson.compact = .ok astral := by
  have h : astral.Representable := by
    have hcapacity : astral.config.environmentCapacity < addressLimit := by decide
    refine ⟨hcapacity, ?_, by simp [astral]⟩
    intro kind
    cases kind with
    | agent => simpa [declarations, astral] using ⟨by decide, by decide⟩
    | _ => simp [declarations, astral]
  have hread := decoding_undoes_encoding h
  exact ⟨h, astral_encoded, astral_written, hread.1 _ _ astral_encoded astral_written, hread.2⟩

end Manifest

end DeviceSlots
