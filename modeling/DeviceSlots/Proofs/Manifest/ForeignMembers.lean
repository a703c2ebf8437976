import DeviceSlots.Manifest.Reader
import DeviceSlots.Proofs.Json.Changes
import DeviceSlots.Proofs.Json.Soundness

/-!
# Members that are no fields

Inside a configuration and inside the declarations of a manifest, a member that is no field does no
harm, whatever value it has. In the manifest itself it is refused, so that no misspelt section is
passed over.
-/

namespace DeviceSlots

open Json

/-! ## Fields -/

section Fields

variable {δ α : Type} {name : String} {part : δ → Option α} {put : δ → α → δ} {reader : Reader α}

theorem read_draftField (draft : δ) (tokens : List Token) :
    (draftField name part put reader).read draft tokens =
      (reader tokens).map fun (a, rest) => (put draft a, rest) := by
  change (reader tokens >>= _) = _
  cases reader tokens <;> rfl

/-- A field takes what its reader takes. -/
theorem draftField_eq_ok {draft next : δ} {tokens rest : List Token}
    (h : (draftField name part put reader).read draft tokens = .ok (next, rest)) :
    ∃ a, reader tokens = .ok (a, rest) ∧ next = put draft a := by
  rw [read_draftField] at h
  cases hread : reader tokens with
  | error e =>
    rw [hread] at h
    cases h
  | ok found =>
    rw [hread] at h
    cases h
    exact ⟨_, rfl, rfl⟩

theorem takes_draftField {row : List Token} {a : α} (h : Takes reader row a) (draft : δ) :
    Takes ((draftField name part put reader).read draft) row (put draft a) := by
  intro rest
  rw [read_draftField, h]
  rfl

theorem exact_draftField (h : Exact reader) (draft : δ) :
    Exact ((draftField name part put reader).read draft) := by
  intro tokens rest next hread
  obtain ⟨a, ha, rfl⟩ := draftField_eq_ok hread
  obtain ⟨row, hrow, hsplit, htakes⟩ := h ha
  exact ⟨row, hrow, hsplit, takes_draftField htakes draft⟩

/-- What the reader of a field keeps the field keeps. -/
theorem keeps_draftField (h : Exact reader) {row row' : List Token} (hrow : IsValue row)
    (hkeeps : Keeps reader row row') (draft : δ) :
    Keeps ((draftField name part put reader).read draft) row row' := by
  intro next htakes
  obtain ⟨a, ha, rfl⟩ := draftField_eq_ok (htakes [])
  exact takes_draftField (hkeeps a (h.takes hrow ha).2) draft

end Fields

theorem fieldsExact_config : configRecord.FieldsExact := by
  intro f hf
  simp only [configRecord, List.mem_cons, List.not_mem_nil, or_false] at hf
  rcases hf with rfl | rfl | rfl | rfl | rfl
  · exact exact_draftField (exact_nat _ _)
  · exact exact_draftField (exact_variant _ _)
  · exact exact_draftField exact_bool
  · exact exact_draftField (exact_string _)
  · exact exact_draftField (exact_string _)

theorem fieldsExact_variable : variableRecord.FieldsExact := by
  intro f hf
  simp only [variableRecord, List.mem_cons, List.not_mem_nil, or_false] at hf
  rcases hf with rfl | rfl | rfl | rfl | rfl | rfl
  · exact exact_draftField (exact_string _)
  · exact exact_draftField (exact_string _)
  · exact exact_draftField (exact_nat _ _)
  · exact exact_draftField (exact_nat _ _)
  · exact exact_draftField exact_bool
  · exact exact_draftField exact_bool

theorem fieldsExact_property : propertyRecord.FieldsExact := by
  intro f hf
  simp only [propertyRecord, List.mem_cons, List.not_mem_nil, or_false] at hf
  rcases hf with rfl | rfl | rfl | rfl | rfl
  · exact exact_draftField (exact_string _)
  · exact exact_draftField (exact_nat _ _)
  · exact exact_draftField (exact_string _)
  · exact exact_draftField (exact_nat _ _)
  · exact exact_draftField (exact_nat _ _)

theorem exact_variables : Exact (readList variableRecord.read) :=
  exact_list (Record.exact_read fieldsExact_variable)

theorem exact_properties : Exact (readList propertyRecord.read) :=
  exact_list (Record.exact_read fieldsExact_property)

theorem fieldsExact_manifest : manifestRecord.FieldsExact := by
  intro f hf
  simp only [manifestRecord, List.mem_cons, List.not_mem_nil, or_false] at hf
  rcases hf with rfl | rfl | rfl | rfl | rfl | rfl
  · exact exact_draftField (Record.exact_read fieldsExact_config)
  · exact exact_draftField exact_variables
  · exact exact_draftField exact_variables
  · exact exact_draftField exact_variables
  · exact exact_draftField exact_variables
  · exact exact_draftField exact_properties

namespace Manifest

/-! ## Further members -/

/-- Inside a manifest, an object gets a further member whose name is none of the fields that the
object has for its place. The object is the configuration, or declares a variable or a property of
the environment. -/
inductive ForeignInside (name : String) : List Char → List Char → Prop
  | inConfig {text text' : List Char}
      (h : InMember "config" (Around (MemberAdded configRecord.fieldNames name)) text text') :
      ForeignInside name text text'
  | inVariable {kind : Kind} {text text' : List Char}
      (h : InMember kind.key (Around (InElement (Around
        (MemberAdded variableRecord.fieldNames name)))) text text') :
      ForeignInside name text text'
  | inProperty {text text' : List Char}
      (h : InMember "environment" (Around (InElement (Around
        (MemberAdded propertyRecord.fieldNames name)))) text text') :
      ForeignInside name text text'

theorem find?_section (kind : Kind) :
    ∃ part put, (manifestRecord.fields.find? fun f => f.name = kind.key) =
      some (draftField kind.key part put (readList variableRecord.read)) := by
  cases kind <;> exact ⟨_, _, rfl⟩

theorem ForeignInside.lifted {name : String} {text text' : List Char}
    (h : ForeignInside name text text') : Lifted (Keeps manifestRecord.read) text text' := by
  cases h with
  | inConfig h =>
    have hexact : Exact configRecord.read := Record.exact_read fieldsExact_config
    refine InMember.lifted fieldsExact_manifest rfl (keeps_draftField hexact) ?_ h
    exact Around.lifted (MemberAdded.lifted fieldsExact_config rfl)
  | @inVariable kind _ _ h =>
    obtain ⟨part, put, hfield⟩ := find?_section kind
    refine InMember.lifted fieldsExact_manifest hfield (keeps_draftField exact_variables) ?_ h
    apply Around.lifted
    apply InElement.lifted (Record.exact_read fieldsExact_variable)
    exact Around.lifted (MemberAdded.lifted fieldsExact_variable rfl)
  | inProperty h =>
    refine InMember.lifted fieldsExact_manifest rfl (keeps_draftField exact_properties) ?_ h
    apply Around.lifted
    apply InElement.lifted (Record.exact_read fieldsExact_property)
    exact Around.lifted (MemberAdded.lifted fieldsExact_property rfl)

/-- An accepted text is a text of JSON. With a member in it that is no field, it is accepted as the
same manifest if the member is inside the configuration or a declaration; and if the member is in
the manifest itself, it is refused with an error that names the member. -/
theorem ofJson_foreign {text : String} {m : Manifest} (h : ofJson text = .ok m) :
    ValueText text.toList ∧ ∀ (name : String) (text' : String),
      (Around (ForeignInside name) text.toList text'.toList → ofJson text' = .ok m) ∧
        (Around (MemberAdded manifestRecord.fieldNames name) text.toList text'.toList →
          ofJson text' = .error (.mismatch (.unknownField name manifestRecord.fieldNames))) := by
  have hexact : Exact manifestRecord.read := Record.exact_read fieldsExact_manifest
  refine ⟨valueText_of_readText hexact h, ?_⟩
  intro name text'
  constructor
  · intro hinside
    exact readText_of_lifted hexact (hinside.lifted ForeignInside.lifted) h
  · intro hadded
    exact readText_of_refuses fieldsExact_manifest
      (hadded.lifted (MemberAdded.refused fieldsExact_manifest rfl)) h

/-- A member whose name is spelled with an escape, and whose value has a repeated key, inside the
configuration; and one between the sections. -/
theorem ofJson_foreign_repeated :
    ofJson "\x7b\"agent\":[],\"config\":\x7b\x7d\x7d" = .ok {} ∧
      ofJson "\x7b\"agent\":[],\"config\":\x7b\"n\\u006fte\":\x7b\"a\":true,\"a\":null\x7d\x7d\x7d" =
        .ok {} ∧
      ofJson "\x7b\"agent\":[],\"note\":null,\"config\":\x7b\x7d\x7d" =
        .error (.mismatch (.unknownField "note" manifestRecord.fieldNames)) := by
  have haccepted : ofJson "\x7b\"agent\":[],\"config\":\x7b\x7d\x7d" = .ok {} := by decide +kernel
  have hagent : IsMember (quote "agent", arrayText [] []) :=
    ⟨(keyText_quote "agent").of_spelled, .array blank_nil (by simp)⟩
  have hconfig : IsMember (quote "config", objectText [] []) :=
    ⟨(keyText_quote "config").of_spelled, .object blank_nil (by simp) (by simp)⟩
  obtain ⟨-, hforeign⟩ := ofJson_foreign haccepted
  refine ⟨haccepted, (hforeign "note" _).1 ?_, (hforeign "note" _).2 ?_⟩
  · have hcode : codeUnit? '0' '0' '6' 'f' = some 'o'.toNat := by decide
    have hspelled : SpellsAll "note".toList "n\\u006fte".toList :=
      .cons (.plain (by decide) (by decide) (by decide))
        (.cons (.unit hcode) (spellsAll_flatMap_escape "te".toList))
    have hkey : KeyText (SpellsAll "note".toList) "\"n\\u006fte\"".toList :=
      .mk blank_nil hspelled blank_nil
    have ha : KeyText StringText (quote "a") := (keyText_quote "a").of_spelled
    have hvalue : ValueText
        (objectText [] [(quote "a", "true".toList), (quote "a", "null".toList)]) :=
      .object blank_nil (by simpa using ha) (by simpa using ⟨.true, .null⟩)
    have hadded : MemberAdded configRecord.fieldNames "note" (objectText [] ([] ++ [])) _ :=
      .mk (by decide) blank_nil (by simp) hkey hvalue
    have hothers : ∀ other ∈ [(quote "agent", arrayText [] [])] ++ [], IsMember other := by
      simpa using hagent
    exact .of_change (.inConfig (.mk hothers (keyText_quote "config") (Around.of_change hadded)))
  · have hothers : ∀ other ∈ [(quote "agent", arrayText [] [])] ++
        [(quote "config", objectText [] [])], IsMember other := by
      simpa using ⟨hagent, hconfig⟩
    have hadded : MemberAdded manifestRecord.fieldNames "note" _ _ :=
      .mk (by decide) blank_nil hothers (keyText_quote "note") .null
    exact .of_change hadded

end Manifest

end DeviceSlots
