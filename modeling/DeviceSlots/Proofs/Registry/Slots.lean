import DeviceSlots.Layout
import DeviceSlots.Proofs.Method
import DeviceSlots.Proofs.NameMap

/-!
# Slots in registries

Registering and unregistering are changes of the view of one registry, and leave the registries as
they were where they fail. A new variable has no slot, and giving variables their slots changes
nothing else, so that registries without their slots stay what they were.
-/

namespace DeviceSlots

namespace ByKind

theorem set_get_self {α : Type} (table : ByKind α) (k : Kind) :
    table.set k (table.get k) = table := by
  apply ext_get
  intro k'
  rw [get_set]
  split
  · rename_i h
    rw [h]
  · rfl

theorem map_set {α β : Type} (f : α → β) (table : ByKind α) (k : Kind) (a : α) :
    (table.set k a).map f = (table.map f).set k (f a) := by
  apply ext_get
  intro k'
  simp only [get_map, get_set]
  split <;> rfl

end ByKind

namespace Registries

variable {r r' : Registries} {kind : Kind} {name : String}

/-- Registries with one variable. -/
def ofVariable (kind : Kind) (name : String) (v : Variable) : Registries :=
  empty.setTable kind (NameMap.empty.insert name v)

theorem setTable_self (r : Registries) (kind : Kind) : r.setTable kind (r.tables.get kind) = r := by
  rw [setTable, ByKind.set_get_self]

theorem findVariable?_setTable (table : NameMap Variable) (kind' : Kind) (name' : String) :
    (r.setTable kind table).findVariable? kind' name' =
      if kind' = kind then table.find? name' else r.findVariable? kind' name' := by
  simp only [findVariable?, setTable, ByKind.get_set]
  split <;> rfl

/-! ## What the methods do -/

section

open Method

/-- A declaration is checked before anything is changed. -/
theorem atomic_addVariable (kind : Kind) (decl : VariableDecl) : (addVariable kind decl).Atomic := by
  refine (inspects_ofExcept _).bind_atomic fun _ => inspects_get.bind_atomic fun _ => ?_
  exact .ite (atomic_throw_bind _ _) (atomic_modify _)

theorem atomic_addProperty (decl : PropertyDecl) : (addProperty decl).Atomic := by
  refine (inspects_ofExcept _).bind_atomic fun _ => .ite (atomic_throw_bind _ _) ?_
  exact inspects_get.bind_atomic fun _ => .ite (atomic_throw_bind _ _) (atomic_modify _)

/-- A name is taken out before it is known whether it was there. If it was not, nothing has gone. -/
theorem run_removeVariable (kind : Kind) (name : String) (r : Registries) :
    removeVariable kind name r =
      match r.findVariable? kind name with
      | some v => .ok v (r.setTable kind ((r.tables.get kind).erase name))
      | none => .error (.notRegistered (.variable kind) name) r := by
  simp only [removeVariable, run_bind, run_get, run_modify, findVariable?]
  cases hfind : (r.tables.get kind).find? name with
  | some v => rfl
  | none =>
    simp only [run_throw]
    rw [NameMap.erase_eq_self hfind, setTable_self]

theorem run_removeProperty (name : String) (r : Registries) :
    removeProperty name r =
      match r.findProperty? name with
      | some p => .ok p { r with environment := r.environment.erase name }
      | none => .error (.notRegistered .environment name) r := by
  simp only [removeProperty, run_bind, run_get, run_modify, findProperty?]
  cases hfind : r.environment.find? name with
  | some p => rfl
  | none =>
    simp only [run_throw]
    rw [NameMap.erase_eq_self hfind]

theorem atomic_removeVariable (kind : Kind) (name : String) : (removeVariable kind name).Atomic := by
  intro r e left h
  rw [run_removeVariable] at h
  split at h
  · contradiction
  · cases h
    rfl

theorem atomic_removeProperty (name : String) : (removeProperty name).Atomic := by
  intro r e left h
  rw [run_removeProperty] at h
  split at h
  · contradiction
  · cases h
    rfl

theorem registerVariable_eq (r : Registries) (kind : Kind) (decl : VariableDecl) :
    r.registerVariable kind decl = do
      checkShape (.variable kind) decl.name decl.typeSize decl.elements
      if (r.tables.get kind).contains decl.name then
        throw (.alreadyRegistered (.variable kind) decl.name)
      return r.setTable kind ((r.tables.get kind).insert decl.name decl.register) := by
  cases hshape : checkShape (.variable kind) decl.name decl.typeSize decl.elements with
  | error e =>
    simp only [registerVariable, addVariable, leaves, outcome, run_bind, hshape, run_ofExcept_error]
    rfl
  | ok u =>
    by_cases h : (r.tables.get kind).contains decl.name <;>
      simp [registerVariable, addVariable, leaves, outcome, run_bind, hshape, h] <;> rfl

theorem registerProperty_eq (r : Registries) (decl : PropertyDecl) :
    r.registerProperty decl = do
      checkShape .environment decl.name decl.typeSize decl.elements
      if (extentEnd? decl.offset decl.typeSize decl.elements).isNone then
        throw (.extentOverflow decl.name decl.offset)
      if r.environment.contains decl.name then
        throw (.alreadyRegistered .environment decl.name)
      return { r with environment := r.environment.insert decl.name decl.register } := by
  cases hshape : checkShape .environment decl.name decl.typeSize decl.elements with
  | error e =>
    simp only [registerProperty, addProperty, leaves, outcome, run_bind, hshape, run_ofExcept_error]
    rfl
  | ok u =>
    by_cases hend : (extentEnd? decl.offset decl.typeSize decl.elements).isNone <;>
      by_cases h : r.environment.contains decl.name <;>
      simp [registerProperty, addProperty, leaves, outcome, run_bind, hshape, hend, h] <;> rfl

theorem unregisterVariable_eq (r : Registries) (kind : Kind) (name : String) :
    r.unregisterVariable kind name =
      match r.findVariable? kind name with
      | some v => .ok (v, r.setTable kind ((r.tables.get kind).erase name))
      | none => .error (.notRegistered (.variable kind) name) := by
  rw [unregisterVariable, outcome, run_removeVariable]
  cases r.findVariable? kind name <;> rfl

theorem unregisterProperty_eq (r : Registries) (name : String) :
    r.unregisterProperty name =
      match r.findProperty? name with
      | some p => .ok (p, { r with environment := r.environment.erase name })
      | none => .error (.notRegistered .environment name) := by
  rw [unregisterProperty, outcome, run_removeProperty]
  cases r.findProperty? name <;> rfl

end

/-! ## Registering and unregistering -/

theorem registerVariable_eq_ok_iff {decl : VariableDecl} :
    r.registerVariable kind decl = .ok r' ↔
      checkShape (.variable kind) decl.name decl.typeSize decl.elements = .ok () ∧
      r.findVariable? kind decl.name = none ∧
      r' = r.setTable kind ((r.tables.get kind).insert decl.name decl.register) := by
  simp only [registerVariable_eq, findVariable?]
  cases checkShape (.variable kind) decl.name decl.typeSize decl.elements with
  | error e => simp [bind, Except.bind]
  | ok u =>
    cases hfind : (r.tables.get kind).find? decl.name <;>
      simp [bind, Except.bind, pure, Except.pure, NameMap.contains, hfind, eq_comm]

theorem unregisterVariable_eq_ok_iff {v : Variable} :
    r.unregisterVariable kind name = .ok (v, r') ↔
      r.findVariable? kind name = some v ∧
      r' = r.setTable kind ((r.tables.get kind).erase name) := by
  rw [unregisterVariable_eq]
  cases r.findVariable? kind name <;> simp [eq_comm]

theorem registerProperty_eq_ok_iff {decl : PropertyDecl} :
    r.registerProperty decl = .ok r' ↔
      checkShape .environment decl.name decl.typeSize decl.elements = .ok () ∧
      (∃ finish, decl.register.end? = some finish) ∧ r.findProperty? decl.name = none ∧
      r' = { r with environment := r.environment.insert decl.name decl.register } := by
  simp only [registerProperty_eq, findProperty?, Property.end?, PropertyDecl.register]
  cases checkShape .environment decl.name decl.typeSize decl.elements with
  | error e => simp [bind, Except.bind]
  | ok u =>
    cases hend : extentEnd? decl.offset decl.typeSize decl.elements <;>
      cases hfind : r.environment.find? decl.name <;>
      simp [bind, Except.bind, pure, Except.pure, NameMap.contains, hfind, eq_comm]

theorem unregisterProperty_eq_ok_iff {p : Property} :
    r.unregisterProperty name = .ok (p, r') ↔
      r.findProperty? name = some p ∧
      r' = { r with environment := r.environment.erase name } := by
  rw [unregisterProperty_eq]
  cases r.findProperty? name <;> simp [eq_comm]

theorem tables_registerProperty {decl : PropertyDecl} (h : r.registerProperty decl = .ok r') :
    r'.tables = r.tables := by
  obtain ⟨-, -, -, rfl⟩ := registerProperty_eq_ok_iff.mp h
  rfl

theorem tables_unregisterProperty {p : Property} (h : r.unregisterProperty name = .ok (p, r')) :
    r'.tables = r.tables := by
  obtain ⟨-, rfl⟩ := unregisterProperty_eq_ok_iff.mp h
  rfl

/-! ## Registries without slots -/

/-- No variable has a slot. -/
def Unslotted (r : Registries) : Prop :=
  ∀ kind name v, r.findVariable? kind name = some v → v.slot = none

theorem unslotted_empty : empty.Unslotted := by
  intro kind name v h
  simp [empty, findVariable?] at h

theorem unslotted_registerVariable {decl : VariableDecl} (hr : r.Unslotted)
    (h : r.registerVariable kind decl = .ok r') : r'.Unslotted := by
  obtain ⟨-, -, rfl⟩ := registerVariable_eq_ok_iff.mp h
  intro kind' name' v hv
  rw [findVariable?_setTable] at hv
  split at hv
  · rename_i hkind
    subst hkind
    rw [NameMap.find?_insert] at hv
    split at hv
    · cases hv
      rfl
    · exact hr _ _ _ hv
  · exact hr _ _ _ hv

theorem unslotted_unregisterVariable {v : Variable} (hr : r.Unslotted)
    (h : r.unregisterVariable kind name = .ok (v, r')) : r'.Unslotted := by
  obtain ⟨-, rfl⟩ := unregisterVariable_eq_ok_iff.mp h
  intro kind' name' v' hv
  rw [findVariable?_setTable] at hv
  split at hv
  · rename_i hkind
    subst hkind
    rw [NameMap.find?_erase] at hv
    split at hv
    · contradiction
    · exact hr _ _ _ hv
  · exact hr _ _ _ hv

theorem Unslotted.of_tables (hr : r.Unslotted) (h : r'.tables = r.tables) : r'.Unslotted := by
  intro kind name v hv
  rw [findVariable?, h] at hv
  exact hr kind name v hv

/-- The registries without their slots. -/
def eraseSlots (r : Registries) : Registries :=
  { r with tables := r.tables.map (NameMap.map Variable.eraseSlot) }

@[simp] theorem environment_eraseSlots : r.eraseSlots.environment = r.environment := rfl

theorem get_tables_eraseSlots (r : Registries) (kind : Kind) :
    r.eraseSlots.tables.get kind = (r.tables.get kind).map Variable.eraseSlot := by
  simp [eraseSlots]

theorem findVariable?_eraseSlots (r : Registries) (kind : Kind) (name : String) :
    r.eraseSlots.findVariable? kind name = (r.findVariable? kind name).map Variable.eraseSlot := by
  rw [findVariable?, get_tables_eraseSlots, NameMap.find?_map]
  rfl

theorem eraseSlots_eq_self (h : r.Unslotted) : r.eraseSlots = r := by
  have htables : r.eraseSlots.tables = r.tables := by
    apply ByKind.ext_get
    intro kind
    rw [get_tables_eraseSlots]
    apply NameMap.map_eq_self
    intro name v hv
    have hslot := h kind name v hv
    cases v
    cases hslot
    rfl
  exact congrArg (Registries.mk · r.environment) htables

/-! ## Giving slots -/

/-- The registries with a slot for one variable. -/
def placeSlot (r : Registries) (kind : Kind) (name : String) (offset : Nat) : Registries :=
  r.setTable kind ((r.tables.get kind).modify name fun v => { v with slot := some offset })

theorem run_assignSlot {v : Variable} (h : r.findVariable? kind name = some v) (offset : Nat) :
    assignSlot kind name offset r = .ok () (r.placeSlot kind name offset) := by
  have hcontains : (r.tables.get kind).contains name = true :=
    ((r.tables.get kind).contains_iff name).mpr ⟨v, h⟩
  simp [assignSlot, Method.run_bind, placeSlot, hcontains]

theorem findVariable?_placeSlot (r : Registries) (kind : Kind) (name : String) (offset : Nat)
    (kind' : Kind) (name' : String) :
    (r.placeSlot kind name offset).findVariable? kind' name' =
      if kind' = kind ∧ name' = name then
        (r.findVariable? kind' name').map fun v => { v with slot := some offset }
      else r.findVariable? kind' name' := by
  rw [placeSlot, findVariable?_setTable]
  by_cases hkind : kind' = kind
  · subst hkind
    simp [NameMap.find?_modify, findVariable?]
  · simp [hkind]

theorem eraseSlots_placeSlot (offset : Nat) :
    (r.placeSlot kind name offset).eraseSlots = r.eraseSlots := by
  have hmap := NameMap.map_modify Variable.eraseSlot (fun v => { v with slot := some offset })
    (fun _ => rfl) (r.tables.get kind) name
  have htables : (r.placeSlot kind name offset).tables.map (NameMap.map Variable.eraseSlot) =
      r.tables.map (NameMap.map Variable.eraseSlot) := by
    rw [placeSlot, setTable, ByKind.map_set, hmap,
      ← ByKind.get_map (NameMap.map Variable.eraseSlot)]
    exact ByKind.set_get_self _ _
  exact congrArg (Registries.mk · r.environment) htables

/-- The registries with slots for the variables of the given entries. -/
def placeSlots (offsets : SectionOffsets) :
    List (Kind × OrdinalEntry) → Registries → Registries
  | [], r => r
  | (kind, e) :: rest, r =>
    placeSlots offsets rest (r.placeSlot kind e.name (offsets.slotOffset kind e.ordinal))

theorem eraseSlots_placeSlots (offsets : SectionOffsets) (owners : List (Kind × OrdinalEntry))
    (r : Registries) :
    (placeSlots offsets owners r).eraseSlots = r.eraseSlots := by
  induction owners generalizing r with
  | nil => rfl
  | cons owner rest ih => rw [placeSlots, ih, eraseSlots_placeSlot]

/-- A variable that has its slot, or is still to get it, has it in the end. -/
theorem slot_placeSlots {offsets : SectionOffsets} {owners : List (Kind × OrdinalEntry)}
    (place : Kind → String → Nat)
    (hplace : ∀ owner ∈ owners,
      offsets.slotOffset owner.1 owner.2.ordinal = place owner.1 owner.2.name)
    {r : Registries} {v : Variable} (hv : r.findVariable? kind name = some v)
    (h : v.slot = some (place kind name) ∨
      ∃ owner ∈ owners, owner.1 = kind ∧ owner.2.name = name) :
    ∃ v', (placeSlots offsets owners r).findVariable? kind name = some v' ∧
      v'.slot = some (place kind name) := by
  induction owners generalizing r v with
  | nil =>
    rcases h with h | ⟨owner, hmem, -⟩
    · exact ⟨v, hv, h⟩
    · simp at hmem
  | cons owner rest ih =>
    obtain ⟨k, e⟩ := owner
    have hoffset : offsets.slotOffset k e.ordinal = place k e.name := hplace _ List.mem_cons_self
    have hrest := fun o ho => hplace o (List.mem_cons_of_mem _ ho)
    have hfind := r.findVariable?_placeSlot k e.name (offsets.slotOffset k e.ordinal) kind name
    rw [hv, Option.map_some] at hfind
    by_cases hthis : kind = k ∧ name = e.name
    · -- the slot is given here, and later entries give the same one
      rw [if_pos hthis] at hfind
      refine ih hrest hfind (.inl ?_)
      rw [hthis.1, hthis.2, ← hoffset]
    · rw [if_neg hthis] at hfind
      refine ih hrest hfind ?_
      rcases h with h | ⟨owner, hmem, hkind, hname⟩
      · exact .inl h
      · rcases List.mem_cons.mp hmem with rfl | hmem
        · exact absurd ⟨hkind.symm, hname.symm⟩ hthis
        · exact .inr ⟨owner, hmem, hkind, hname⟩

end Registries

end DeviceSlots
