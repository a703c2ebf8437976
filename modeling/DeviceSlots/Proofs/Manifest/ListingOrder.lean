import Mathlib.Data.List.Perm.Basic
import DeviceSlots.Command.Run
import DeviceSlots.Proofs.Host.Coherence
import DeviceSlots.Proofs.Manifest.Building

/-!
# The order of lists

A manifest may list its declarations in any order: whether a host can be built does not depend on
it, and neither does anything that is generated from the host.
-/

namespace DeviceSlots

open Method

/-- Manifests that list the same declarations, each list in an order of its own. -/
structure Manifest.Relisted (m m' : Manifest) : Prop where
  config : m.config = m'.config
  declarations : ∀ kind, (m.declarations kind).Perm (m'.declarations kind)
  environment : m.environment.Perm m'.environment

/-- Hosts that give the same results to whoever asks them for an output. -/
structure Host.SameOutputs (host host' : Host) : Prop where
  canonicalJson : host.registries.canonicalJson = host'.registries.canonicalJson
  /-- The places of the sections, or why there is no layout. -/
  layout : result (computeLayout host) = result (computeLayout host')
  report : (left (computeLayout host)).layout.map Layout.report =
    (left (computeLayout host')).layout.map Layout.report
  /-- The header's text, or why there is no header. -/
  header : result (dynamicHeader host) = result (dynamicHeader host')
  /-- The texts that are digested, and the size of the buffer, before anything is generated. -/
  layoutText : Provenance.layoutText host = Provenance.layoutText host'
  bufferSize : host.bufferSize = host'.bufferSize
  /-- The same once the header has been asked for. -/
  layoutText_after : Provenance.layoutText (left (dynamicHeader host)) =
    Provenance.layoutText (left (dynamicHeader host'))
  headerText_after : (left (dynamicHeader host)).header = (left (dynamicHeader host')).header
  bufferSize_after : (left (dynamicHeader host)).bufferSize =
    (left (dynamicHeader host')).bufferSize
  provenance_after : Provenance.ofHost (left (dynamicHeader host)) =
    Provenance.ofHost (left (dynamicHeader host'))
  /-- The bytes that a command puts out, those of the pushed buffer among them. -/
  emit : ∀ snapshot output,
    result (Command.emit snapshot output host) = result (Command.emit snapshot output host')

theorem Host.SameOutputs.refl (host : Host) : host.SameOutputs host :=
  ⟨rfl, rfl, rfl, rfl, rfl, rfl, rfl, rfl, rfl, rfl, fun _ _ => rfl⟩

namespace Manifest

variable {m m' : Manifest}

theorem Relisted.symm (h : m.Relisted m') : m'.Relisted m where
  config := h.config.symm
  declarations kind := (h.declarations kind).symm
  environment := h.environment.symm

/-- The rows of the manifests have the same declarations. -/
theorem Relisted.declared (h : m.Relisted m') : m.declared.Perm m'.declared := by
  refine .append (.flatMap_left _ fun kind _ => ?_) (h.environment.map _)
  exact (h.declarations kind).map _

theorem Relisted.registries (h : m.Relisted m') {r : Registries} (hm : m.registries = .ok r) :
    m'.registries = .ok r :=
  Registries.registerAll_perm h.declared hm

/-- The host that is built does not depend on the order of the lists. -/
theorem Relisted.buildHost (h : m.Relisted m') {host : Host} (hm : m.buildHost = .ok host) :
    m'.buildHost = .ok host := by
  obtain ⟨hvalid, r, hregistries, rfl⟩ := buildHost_eq_ok_iff.mp hm
  rw [h.config] at hvalid
  refine buildHost_eq_ok_iff.mpr ⟨hvalid, r, h.registries hregistries, ?_⟩
  rw [h.config]

/-- Manifests that list the same declarations in different orders build hosts alike, and hosts built
from them give the same outputs, or fail to in the same way. -/
theorem listing_order_irrelevant (h : m.Relisted m') :
    ((∃ host, m.buildHost = .ok host) ↔ ∃ host, m'.buildHost = .ok host) ∧
      ∀ host host', m.buildHost = .ok host → m'.buildHost = .ok host' →
        host.SameOutputs host' := by
  refine ⟨⟨?_, ?_⟩, ?_⟩
  · rintro ⟨host, hm⟩
    exact ⟨host, h.buildHost hm⟩
  · rintro ⟨host, hm'⟩
    exact ⟨host, h.symm.buildHost hm'⟩
  · intro host host' hm hm'
    have hsame : Except.ok host = .ok host' := (h.buildHost hm).symm.trans hm'
    rw [Except.ok.inj hsame]
    exact .refl host'

/-- A manifest with a name in several lists. -/
def crowded : Manifest where
  agent := [
    { name := "y", typeName := "float", typeSize := 4 },
    { name := "x", typeName := "unsigned  int", typeSize := 4 }]
  messageIn := [{ name := "x", typeName := "int", typeSize := 4, write := false }]
  messageOut := [
    { name := "z", typeName := "int", typeSize := 4 },
    { name := "x", typeName := "double", typeSize := 8, elements := 3 },
    { name := "y", typeName := "int", typeSize := 4 }]
  environment := [
    { name := "width", offset := 8, typeName := "float", typeSize := 4 },
    { name := "height", offset := 0, typeName := "double", typeSize := 8 }]

/-- The same, listed backwards. -/
def crowdedBackwards : Manifest :=
  { crowded with
    agent := crowded.agent.reverse
    messageOut := crowded.messageOut.reverse
    environment := crowded.environment.reverse }

theorem listing_order_irrelevant_crowded :
    crowded.Relisted crowdedBackwards ∧
      ∃ host host', crowded.buildHost = .ok host ∧ crowdedBackwards.buildHost = .ok host' ∧
        host.SameOutputs host' := by
  have h : crowded.Relisted crowdedBackwards := by
    refine ⟨rfl, ?_, (List.reverse_perm _).symm⟩
    intro kind
    cases kind with
    | agent | messageOut => exact (List.reverse_perm _).symm
    | messageIn | newAgent => exact .refl _
  have hbuilt : crowded.buildHost = .ok _ := rfl
  have hbuilt' : crowdedBackwards.buildHost = .ok _ := rfl
  exact ⟨h, _, _, hbuilt, hbuilt', (listing_order_irrelevant h).2 _ _ hbuilt hbuilt'⟩

end Manifest

end DeviceSlots
