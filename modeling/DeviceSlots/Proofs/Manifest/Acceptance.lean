import DeviceSlots.Proofs.Manifest.Building

/-!
# Acceptance of manifests

A manifest's declarations stand in one row, list after list. A host is built if the configuration is
valid, every declaration of the row is admissible and no two of them clash; it then holds what is
declared and nothing else. Otherwise the configuration is reported, or the first declaration of the
row that is refused.
-/

namespace DeviceSlots

namespace Manifest

open Registries

/-! ## Clashes -/

theorem distinct_variables_iff (kind : Kind) (decls : List VariableDecl) :
    ((decls.map (.ofVariable kind)).Pairwise fun (decl other : Declaration) =>
      ¬ decl.Clashes other) ↔ (decls.map VariableDecl.name).Nodup := by
  simp [List.Nodup, List.pairwise_map, Declaration.Clashes, Declaration.subject, Declaration.name]

theorem distinct_properties_iff (decls : List PropertyDecl) :
    ((decls.map .ofProperty).Pairwise fun (decl other : Declaration) => ¬ decl.Clashes other) ↔
      (decls.map PropertyDecl.name).Nodup := by
  simp [List.Nodup, List.pairwise_map, Declaration.Clashes, Declaration.subject, Declaration.name]

/-- Declarations clash within a list only, where they have one name. -/
theorem distinct_declared_iff (m : Manifest) :
    (m.declared.Pairwise fun decl other => ¬ decl.Clashes other) ↔
      (∀ kind, ((m.declarations kind).map VariableDecl.name).Nodup) ∧
        (m.environment.map PropertyDecl.name).Nodup := by
  -- declarations of different lists are for different registries
  have hkinds : Kind.sections.Pairwise fun kind kind' =>
      ∀ decl ∈ (m.declarations kind).map (Declaration.ofVariable kind),
        ∀ other ∈ (m.declarations kind').map (.ofVariable kind'), ¬ decl.Clashes other := by
    refine Kind.nodup_sections.imp ?_
    simp only [List.forall_mem_map]
    intro kind kind' hne decl _ other _ hclash
    exact hne (Subject.variable.inj hclash.1)
  have hregions : ∀ decl ∈ Kind.sections.flatMap fun kind =>
        (m.declarations kind).map (Declaration.ofVariable kind),
      ∀ other ∈ m.environment.map .ofProperty, ¬ decl.Clashes other := by
    simp only [List.forall_mem_flatMap, List.forall_mem_map]
    intro kind _ decl _ other _ hclash
    cases hclash.1
  rw [declared, List.pairwise_append, List.pairwise_flatMap, distinct_properties_iff,
    and_iff_left hkinds, and_iff_left hregions]
  simp only [distinct_variables_iff, Kind.mem_sections, forall_const]

/-! ## Building -/

/-- What is asked of a manifest. -/
structure Sound (m : Manifest) : Prop where
  valid : m.config.validate = .ok ()
  inShape : ∀ decl ∈ m.declared, decl.InShape
  addressable : ∀ decl ∈ m.environment, decl.offset + decl.typeSize * decl.elements < addressLimit
  distinctVariables : ∀ kind, ((m.declarations kind).map VariableDecl.name).Nodup
  distinctProperties : (m.environment.map PropertyDecl.name).Nodup

/-- A fresh host whose registries hold what a manifest declares, and nothing else. -/
structure Describes (m : Manifest) (host : Host) : Prop where
  config : host.config = m.config
  fresh : host.stage = .fresh
  noLayout : host.layout = none
  noHeader : host.header = none
  noBuffer : host.buffer = none
  holdsVariables : ∀ kind name v, host.registries.findVariable? kind name = some v ↔
    ∃ decl ∈ m.declarations kind, decl.name = name ∧ decl.Stores v
  holdsProperties : ∀ name p, host.registries.findProperty? name = some p ↔
    ∃ decl ∈ m.environment, decl.name = name ∧ decl.Stores p

variable {m : Manifest}

theorem accepted_declared_iff :
    m.config.validate = .ok () ∧ Accepted m.declared ↔ m.Sound := by
  constructor
  · rintro ⟨hvalid, hadmissible, hdistinct⟩
    obtain ⟨hvariables, hproperties⟩ := (distinct_declared_iff m).mp hdistinct
    exact ⟨hvalid, fun decl hdecl => (hadmissible decl hdecl).inShape,
      fun decl hdecl => (hadmissible _ (mem_declared_property.mpr hdecl)).addressable, hvariables,
      hproperties⟩
  · intro hsound
    refine ⟨hsound.valid, ?_,
      (distinct_declared_iff m).mpr ⟨hsound.distinctVariables, hsound.distinctProperties⟩⟩
    intro decl hdecl
    refine ⟨hsound.inShape decl hdecl, ?_⟩
    cases decl with
    | ofVariable kind decl => trivial
    | ofProperty decl => exact hsound.addressable decl (mem_declared_property.mp hdecl)

theorem describes_of_registries {r : Registries} (h : m.registries = .ok r) :
    m.Describes (.withRegistries m.config r) where
  config := rfl
  fresh := rfl
  noLayout := rfl
  noHeader := rfl
  noBuffer := rfl
  holdsVariables := by
    intro kind name v
    simp only [VariableDecl.stores_iff]
    exact find?_variable_registries h
  holdsProperties := by
    intro name p
    simp only [PropertyDecl.stores_iff]
    exact find?_property_registries h

/-- A manifest is built into a host if it is sound, and the host then holds what it declares. If it
is not, the fault of its configuration is reported, or else that of the first declaration that is
refused. -/
theorem buildHost_decides (m : Manifest) :
    ((∃ host, m.buildHost = .ok host) ↔ m.Sound) ∧
    (∀ host, m.buildHost = .ok host → m.Describes host) ∧
    ∀ e, m.buildHost = .error e ↔
      m.config.validate = .error e ∨
        m.config.validate = .ok () ∧ FirstRefused m.declared e := by
  refine ⟨?_, ?_, ?_⟩
  · rw [← accepted_declared_iff, ← registerAll_empty_succeeds_iff, ← registries]
    simp only [buildHost_eq_ok_iff]
    constructor
    · rintro ⟨_, hvalid, r, hregistries, -⟩
      exact ⟨hvalid, r, hregistries⟩
    · rintro ⟨hvalid, r, hregistries⟩
      exact ⟨_, hvalid, r, hregistries, rfl⟩
  · intro host hbuilt
    obtain ⟨-, r, hregistries, rfl⟩ := buildHost_eq_ok_iff.mp hbuilt
    exact describes_of_registries hregistries
  · intro e
    rw [← registerAll_empty_eq_error_iff, ← registries, buildHost_eq]
    cases hvalid : m.config.validate with
    | error e' => simp
    | ok u =>
      cases hregistries : m.registries <;> simp [Except.map]

/-- A name that is declared in two lists, and a property that ends at the greatest address. -/
def brimming : Manifest where
  agent := [{ name := "x", typeName := "float", typeSize := 4 }]
  messageIn := [{ name := "x", typeName := "float", typeSize := 4, write := false }]
  environment :=
    [{ name := "g", offset := addressLimit - 9, typeName := "double", typeSize := 8 }]

/-- The property stands one byte further, and after it one without a name. -/
def overflowing : Manifest where
  agent := brimming.agent
  messageIn := brimming.messageIn
  environment := [
    { name := "g", offset := addressLimit - 8, typeName := "double", typeSize := 8 },
    { name := "", offset := 0, typeName := "double", typeSize := 8 }]

theorem buildHost_decides_brimming :
    (∃ host, brimming.buildHost = .ok host ∧ brimming.Describes host ∧
      ∃ v, host.registries.findVariable? .messageIn "x" = some v ∧ v.write = false) ∧
    FirstRefused overflowing.declared (.extentOverflow "g" (addressLimit - 8)) := by
  have hvalid : overflowing.config.validate = .ok () := rfl
  have hrefused : overflowing.buildHost = .error (.extentOverflow "g" (addressLimit - 8)) := rfl
  refine ⟨⟨_, rfl, (buildHost_decides brimming).2.1 _ rfl, _, rfl, rfl⟩, ?_⟩
  rcases ((buildHost_decides overflowing).2.2 _).mp hrefused with hconfig | ⟨-, hfirst⟩
  · rw [hvalid] at hconfig
    contradiction
  · exact hfirst

end Manifest

end DeviceSlots
