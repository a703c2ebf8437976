import DeviceSlots.Proofs.Host.Transition
import DeviceSlots.Proofs.Layout.Tiling
import DeviceSlots.Proofs.Manifest.Building

/-!
# What is registered

The host that is built from a manifest can be reached by calls, and its registries hold an entry for
every declaration of the manifest and no other. Where it cannot be built, the configuration or a
declaration is at fault.
-/

namespace DeviceSlots

namespace Manifest

open Registries

variable {m : Manifest} {r : Registries}

/-- The number of variables that a manifest declares. -/
def variableCount (m : Manifest) : Nat :=
  m.agent.length + m.messageOut.length + m.messageIn.length + m.newAgent.length

theorem size_table (h : m.registries = .ok r) (kind : Kind) :
    (r.tables.get kind).size = (m.declarations kind).length := by
  have hsize := size_registerAll h (.variable kind)
  have hcount : m.declared.countP (·.subject = .variable kind) = (m.declarations kind).length := by
    cases kind <;>
      simp [declared, declarations, Kind.sections, List.countP_map, Function.comp_def,
        Declaration.subject]
  rw [hcount, size_table_empty, Nat.zero_add, table, NameMap.size_map] at hsize
  exact hsize

theorem length_row (h : m.registries = .ok r) : r.row.length = m.variableCount := by
  rw [Registries.length_row]
  simp only [size_table h, Kind.sections, List.map_cons, List.map_nil, List.sum_cons, List.sum_nil,
    declarations, variableCount]
  omega

/-- Whether the whole buffer has addresses can be seen in the manifest. -/
theorem addressable_iff (h : m.registries = .ok r) {capacity : Nat} :
    r.Addressable capacity ↔ capacity + slotSize * m.variableCount < addressLimit := by
  rw [← length_row h, Registries.length_row]
  rfl

/-! ## Built hosts -/

theorem built_of_registries (h : m.registries = .ok r) : r.Built := by
  refine foldlM_keeps (fun r decl r' hr hregister => hr.edit ?_) .empty h
  cases decl with
  | ofVariable kind decl => exact .registerVariable hregister
  | ofProperty decl => exact .registerProperty hregister

/-- A host that is built can be reached by calls. -/
theorem reachable_of_buildHost {host : Host} (h : m.buildHost = .ok host) : host.Reachable := by
  obtain ⟨hvalid, r, hregistries, rfl⟩ := buildHost_eq_ok_iff.mp h
  refine foldlM_keeps (P := fun r => (Host.withRegistries m.config r).Reachable) ?_ ?_ hregistries
  · intro r decl r' hreachable hregister
    have hleaves := leaves_operation m.config r decl
    rw [hregister] at hleaves
    have hleft := Method.left_of_leaves hleaves
    cases decl with
    | ofVariable kind decl => exact hleft ▸ hreachable.after (.registerVariable kind decl)
    | ofProperty decl => exact hleft ▸ hreachable.after (.registerProperty decl)
  · exact .created (Host.create_eq_ok_iff.mpr ⟨hvalid, rfl⟩)

/-! ## Manifests that cannot be built -/

theorem objection_validate (config : Config) : FailsOnly Objection config.validate := by
  unfold Config.validate
  split
  · exact .error (.inl rfl)
  · split
    · exact .error (.inl rfl)
    · split
      · exact .error (.inl rfl)
      · exact .ok ()

/-- A manifest that cannot be built is at fault itself. -/
theorem objection_buildHost (m : Manifest) : FailsOnly Objection m.buildHost := by
  have hregistries : FailsOnly Objection m.registries := .foldlM objection_register m.declared _
  rw [buildHost_eq]
  exact (objection_validate m.config).bind fun _ _ => hregistries.map _

end Manifest

end DeviceSlots
