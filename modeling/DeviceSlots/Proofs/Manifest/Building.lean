import DeviceSlots.Manifest.Basic
import DeviceSlots.Proofs.Host.Run
import DeviceSlots.Proofs.Registry.Listing

/-!
# Building hosts

The declarations of a manifest stand in one row, list after list, and a host is built by registering
them from the first to the last. So it is a fresh host whose registries hold what the row declares, or
the first failure in the row.
-/

namespace DeviceSlots

/-- A fresh host with registries. -/
def Host.withRegistries (config : Config) (registries : Registries) : Host := { config, registries }

@[simp] theorem Host.registries_withRegistries (config : Config) (r : Registries) :
    (withRegistries config r).registries = r := rfl

/-- Registers what is declared. -/
def Declaration.operation : Declaration → Operation Unit
  | .ofVariable kind decl => Host.registerVariable kind decl
  | .ofProperty decl => Host.registerProperty decl

namespace Manifest

variable (m : Manifest)

/-! ## The row of a manifest -/

/-- What a manifest declares, in the order in which it is registered. -/
def declared : List Declaration :=
  (Kind.sections.flatMap fun kind => (m.declarations kind).map (.ofVariable kind)) ++
    m.environment.map .ofProperty

variable {m} in
theorem mem_declared_variable {kind : Kind} {decl : VariableDecl} :
    .ofVariable kind decl ∈ m.declared ↔ decl ∈ m.declarations kind := by
  simp [declared, Kind.mem_sections]

variable {m} in
theorem mem_declared_property {decl : PropertyDecl} :
    .ofProperty decl ∈ m.declared ↔ decl ∈ m.environment := by
  simp [declared]

theorem registerVariables_eq (kind : Kind) (decls : List VariableDecl) :
    registerVariables kind decls =
      forM (decls.map (Declaration.ofVariable kind)) Declaration.operation := by
  induction decls with
  | nil => rfl
  | cons decl rest ih =>
    rw [registerVariables, ih, List.map_cons, List.forM_cons]
    rfl

theorem registerProperties_eq (decls : List PropertyDecl) :
    registerProperties decls = forM (decls.map Declaration.ofProperty) Declaration.operation := by
  induction decls with
  | nil => rfl
  | cons decl rest ih =>
    rw [registerProperties, ih, List.map_cons, List.forM_cons]
    rfl

theorem registerKinds_eq (kinds : List Kind) :
    m.registerKinds kinds =
      forM (kinds.flatMap fun kind => (m.declarations kind).map (Declaration.ofVariable kind))
        Declaration.operation := by
  induction kinds with
  | nil => rfl
  | cons kind rest ih =>
    rw [registerKinds, ih, registerVariables_eq, List.flatMap_cons, List.forM_append]

theorem register_eq : m.register = forM m.declared Declaration.operation := by
  rw [register, registerKinds_eq, registerProperties_eq, declared, List.forM_append]

/-! ## Registering the row -/

theorem leaves_operation (config : Config) (r : Registries) (decl : Declaration) :
    decl.operation.leaves (.withRegistries config r) =
      (r.register decl).map (.withRegistries config) := by
  cases decl with
  | ofVariable kind decl =>
    rw [Declaration.operation, Registries.register_ofVariable, Method.leaves, Method.outcome,
      Host.run_registerVariable, Host.changeRegistries_fresh rfl,
      Host.registries_withRegistries]
    cases r.registerVariable kind decl <;> rfl
  | ofProperty decl =>
    rw [Declaration.operation, Registries.register_ofProperty, Method.leaves, Method.outcome,
      Host.run_registerProperty, Host.changeRegistries_fresh rfl,
      Host.registries_withRegistries]
    cases r.registerProperty decl <;> rfl

theorem leaves_operations (config : Config) (r : Registries) (decls : List Declaration) :
    Method.leaves (forM decls Declaration.operation) (.withRegistries config r) =
      (r.registerAll decls).map (.withRegistries config) := by
  induction decls generalizing r with
  | nil => rfl
  | cons decl rest ih =>
    rw [List.forM_cons, Method.leaves_bind, leaves_operation, Registries.registerAll,
      List.foldlM_cons]
    cases r.register decl with
    | error e => rfl
    | ok r' => exact ih r'

/-- The registries that a manifest describes. -/
def registries : Except Error Registries := Registries.empty.registerAll m.declared

theorem buildHost_eq :
    m.buildHost =
      m.config.validate >>= fun _ => m.registries.map (.withRegistries m.config) := by
  cases hvalid : m.config.validate with
  | error e => simp only [buildHost, Host.create, hvalid, error_bind]
  | ok _ =>
    have hcreate : Host.create m.config = .ok (.withRegistries m.config .empty) :=
      Host.create_eq_ok_iff.mpr ⟨hvalid, rfl⟩
    rw [ok_bind, registries, ← leaves_operations, ← register_eq, buildHost, hcreate, ok_bind,
      Method.leaves, Method.outcome]
    cases m.register (.withRegistries m.config .empty) <;> rfl

variable {m}

theorem buildHost_eq_ok_iff {host : Host} :
    m.buildHost = .ok host ↔
      m.config.validate = .ok () ∧ ∃ r, m.registries = .ok r ∧
        host = .withRegistries m.config r := by
  rw [buildHost_eq, bind_eq_ok_iff]
  simp only [map_eq_ok_iff, eq_comm (a := host)]
  constructor
  · rintro ⟨⟨⟩, hvalid, hregistries⟩
    exact ⟨hvalid, hregistries⟩
  · rintro ⟨hvalid, hregistries⟩
    exact ⟨(), hvalid, hregistries⟩

/-! ## What is registered -/

theorem find?_variable_registries {r : Registries} (h : m.registries = .ok r) {kind : Kind}
    {name : String} {v : Variable} :
    r.findVariable? kind name = some v ↔
      ∃ decl ∈ m.declarations kind, decl.name = name ∧ decl.register = v := by
  refine Registries.find?_table_variable.symm.trans ?_
  simp only [Registries.find?_registerAll h, Registries.find?_table_empty, reduceCtorEq, false_or]
  constructor
  · rintro ⟨decl, hdecl, hsubject, hname, hentry⟩
    cases decl with
    | ofVariable kind' decl =>
      cases hsubject
      exact ⟨decl, mem_declared_variable.mp hdecl, hname, Entry.ofVariable.inj hentry⟩
    | ofProperty decl => cases hsubject
  · rintro ⟨decl, hdecl, rfl, rfl⟩
    exact ⟨_, mem_declared_variable.mpr hdecl, rfl, rfl, rfl⟩

theorem find?_property_registries {r : Registries} (h : m.registries = .ok r) {name : String}
    {p : Property} :
    r.findProperty? name = some p ↔ ∃ decl ∈ m.environment, decl.name = name ∧ decl.register = p := by
  refine Registries.find?_table_environment.symm.trans ?_
  simp only [Registries.find?_registerAll h, Registries.find?_table_empty, reduceCtorEq, false_or]
  constructor
  · rintro ⟨decl, hdecl, hsubject, hname, hentry⟩
    cases decl with
    | ofVariable kind decl => cases hsubject
    | ofProperty decl =>
      exact ⟨decl, mem_declared_property.mp hdecl, hname, Entry.ofProperty.inj hentry⟩
  · rintro ⟨decl, hdecl, rfl, rfl⟩
    exact ⟨_, mem_declared_property.mpr hdecl, rfl, rfl, rfl⟩

end Manifest

end DeviceSlots
