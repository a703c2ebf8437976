import DeviceSlots.Proofs.Failing
import DeviceSlots.Proofs.Registry.Slots

/-!
# Histories of registries

Registries are built by registrations and removals. What empty registries have and each such edit
keeps, all built registries have.
-/

namespace DeviceSlots

theorem checkShape_eq_ok_iff {subject : Subject} {name : String} {typeSize elements : Nat} :
    checkShape subject name typeSize elements = .ok () ↔
      name ≠ "" ∧ typeSize ≠ 0 ∧ elements ≠ 0 := by
  unfold checkShape
  by_cases hname : name = ""
  · simp [hname]
  · by_cases hsize : typeSize = 0
    · simp [hname, hsize]
    · by_cases helements : elements = 0 <;> simp [hname, hsize, helements]

namespace Registries

variable {r r' : Registries} {name : String}

/-! ## Histories -/

/-- One registration or removal that succeeds. -/
inductive Edit (r : Registries) : Registries → Prop
  | registerVariable {kind : Kind} {decl : VariableDecl} {r' : Registries}
      (h : r.registerVariable kind decl = .ok r') : Edit r r'
  | unregisterVariable {kind : Kind} {name : String} {v : Variable} {r' : Registries}
      (h : r.unregisterVariable kind name = .ok (v, r')) : Edit r r'
  | registerProperty {decl : PropertyDecl} {r' : Registries}
      (h : r.registerProperty decl = .ok r') : Edit r r'
  | unregisterProperty {name : String} {p : Property} {r' : Registries}
      (h : r.unregisterProperty name = .ok (p, r')) : Edit r r'

/-- Registries that come from empty ones by edits. -/
inductive Built : Registries → Prop
  | empty : Built empty
  | edit {r r' : Registries} (h : Built r) (hedit : r.Edit r') : Built r'

/-- An edit gives no slots. -/
theorem Edit.unslotted (h : r.Edit r') (hr : r.Unslotted) : r'.Unslotted := by
  cases h with
  | registerVariable h => exact unslotted_registerVariable hr h
  | unregisterVariable h => exact unslotted_unregisterVariable hr h
  | registerProperty h => exact hr.of_tables (tables_registerProperty h)
  | unregisterProperty h => exact hr.of_tables (tables_unregisterProperty h)

/-- Every property has elements of some size. -/
def Occupied (r : Registries) : Prop :=
  ∀ name p, r.findProperty? name = some p → 0 < p.typeSize * p.elements

end Registries

end DeviceSlots
