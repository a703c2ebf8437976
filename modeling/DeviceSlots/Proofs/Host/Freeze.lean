import DeviceSlots.Proofs.Host.Transition
import DeviceSlots.Provenance

/-!
# Freezing

Stages follow each other in one direction. What a host holds when it leaves the first stage is fixed:
no later call changes what is registered, the layout, or the header, and once the buffer is there, its
size and the slots are fixed as well.
-/

namespace DeviceSlots

/-! ## Registries without slots in texts -/

/-- The canonical text depends on nothing but what is registered. -/
theorem Registries.canonicalJson_eraseSlots (r : Registries) :
    r.eraseSlots.canonicalJson = r.canonicalJson := by
  have htable (kind : Kind) : (r.eraseSlots.tables.get kind).toJson Variable.toJson =
      (r.tables.get kind).toJson Variable.toJson := by
    rw [get_tables_eraseSlots, NameMap.toJson, NameMap.toJson, NameMap.toList_map, List.map_map]
    rfl
  simp only [canonicalJson, toJson, htable, environment_eraseSlots]

/-- How far a stage is from the start. -/
def Stage.rank : Stage → Nat
  | .fresh => 0
  | .generating => 1
  | .bufferReady => 2
  | .finalized => 3

theorem Stage.rank_le (stage : Stage) : stage.rank ≤ Stage.finalized.rank := by
  cases stage <;> simp [rank]

theorem Stage.ne_fresh_iff {stage : Stage} : stage ≠ .fresh ↔ 0 < stage.rank := by
  cases stage <;> simp [rank]

namespace Host

/-! ## Points of a run -/

/-- What a host keeps up to a later point of its run. -/
structure Precedes (host later : Host) : Prop where
  config : later.config = host.config
  stage : host.stage.rank ≤ later.stage.rank
  /-- From the second stage on, nothing is registered or generated any more. -/
  frozen : host.stage ≠ .fresh →
    later.registries.eraseSlots = host.registries.eraseSlots ∧ later.layout = host.layout ∧
      later.header = host.header
  /-- Beside a buffer, slots stay as well, and so does its size. -/
  slots : ∀ buffer, host.buffer = some buffer → later.registries = host.registries ∧
    ∃ buffer', later.buffer = some buffer' ∧ buffer'.size = buffer.size

variable {host later last : Host}

theorem Precedes.refl (host : Host) : host.Precedes host :=
  ⟨rfl, Nat.le_refl _, fun _ => ⟨rfl, rfl, rfl⟩, fun buffer h => ⟨rfl, buffer, h, rfl⟩⟩

theorem Precedes.ne_fresh (h : host.Precedes later) (hstage : host.stage ≠ .fresh) :
    later.stage ≠ .fresh := by
  rw [Stage.ne_fresh_iff] at hstage ⊢
  exact Nat.lt_of_lt_of_le hstage h.stage

theorem Precedes.trans (h : host.Precedes later) (h' : later.Precedes last) :
    host.Precedes last := by
  refine ⟨h'.config.trans h.config, Nat.le_trans h.stage h'.stage, ?_, ?_⟩
  · intro hstage
    obtain ⟨hregistries, hlayout, hheader⟩ := h.frozen hstage
    obtain ⟨hregistries', hlayout', hheader'⟩ := h'.frozen (h.ne_fresh hstage)
    exact ⟨hregistries'.trans hregistries, hlayout'.trans hlayout, hheader'.trans hheader⟩
  · intro buffer hbuffer
    obtain ⟨hregistries, buffer', hbuffer', hsize⟩ := h.slots buffer hbuffer
    obtain ⟨hregistries', buffer'', hbuffer'', hsize'⟩ := h'.slots buffer' hbuffer'
    exact ⟨hregistries'.trans hregistries, buffer'', hbuffer'', hsize'.trans hsize⟩

/-- A fresh host may change anything but its configuration. -/
theorem Coherent.precedes_of_fresh (h : host.Coherent) (hstage : host.stage = .fresh)
    (hconfig : later.config = host.config) : host.Precedes later := by
  refine ⟨hconfig, ?_, fun hfrozen => absurd hstage hfrozen, ?_⟩
  · rw [hstage]
    exact Nat.zero_le _
  · intro buffer hbuffer
    rw [(h.no_buffer_of_fresh hstage).2] at hbuffer
    contradiction

theorem Coherent.precedes_transition (h : host.Coherent) (ht : Transition host later) :
    host.Precedes later := by
  cases ht with
  | registries hstage => exact h.precedes_of_fresh hstage rfl
  | layout hstage => exact h.precedes_of_fresh hstage rfl
  | header hstage => exact h.precedes_of_fresh hstage rfl
  | buffer hstage hlayout hallocate =>
    obtain ⟨-, -, -, -, hnone⟩ := h.layout_of_generating hstage
    refine ⟨rfl, ?_, ?_, ?_⟩
    · rw [hstage]
      exact Nat.le_succ 1
    · intro _
      exact ⟨Registries.eraseSlots_placeSlots _ _ _, rfl, rfl⟩
    · intro buffer hbuffer
      rw [hnone] at hbuffer
      contradiction
  | finalized hstage =>
    refine ⟨rfl, host.stage.rank_le, ?_, ?_⟩
    · intro _
      exact ⟨rfl, rfl, rfl⟩
    · intro buffer hbuffer
      exact ⟨rfl, buffer, hbuffer, rfl⟩
  | @bytes buffer buffer' hbuffer hsize =>
    refine ⟨rfl, Nat.le_refl _, ?_, ?_⟩
    · intro _
      exact ⟨rfl, rfl, rfl⟩
    · intro before hbefore
      rw [hbuffer] at hbefore
      cases hbefore
      exact ⟨rfl, buffer', rfl, hsize⟩

theorem Coherent.precedes_transitions (h : host.Coherent) (ht : Transitions host later) :
    host.Precedes later := by
  induction ht with
  | refl => exact .refl host
  | tail hrow hstep ih => exact ih.trans ((h.transitions hrow).precedes_transition hstep)

theorem Reachable.precedes_run (h : host.Reachable) (calls : List Call) :
    host.Precedes (host.run calls) := by
  induction calls generalizing host with
  | nil => exact .refl host
  | cons call rest ih =>
    have hcall := h.coherent.precedes_transitions (h.coherent.transitions_after call)
    exact hcall.trans (ih (h.after call))

/-! ## Calls that come too late -/

/-- The change to the registries that a call asks for. -/
def Call.change? : Call → Option RegistryChange
  | .registerVariable .. => some .registerVariable
  | .unregisterVariable .. => some .unregisterVariable
  | .registerProperty .. => some .registerProperty
  | .unregisterProperty .. => some .unregisterProperty
  | _ => none

theorem run_closed (hstage : host.stage ≠ .fresh) {call : Call} {change : RegistryChange}
    (h : call.change? = some change) :
    call.operation host = .error (.registriesClosed change) host := by
  cases call with
  | registerVariable kind decl =>
    cases h
    rw [Call.operation, run_registerVariable, changeRegistries_frozen hstage]
  | unregisterVariable kind name =>
    cases h
    rw [Call.operation, run_unregisterVariable, changeRegistries_frozen hstage]
  | registerProperty decl =>
    cases h
    rw [Call.operation, run_registerProperty, changeRegistries_frozen hstage]
  | unregisterProperty name =>
    cases h
    rw [Call.operation, run_unregisterProperty, changeRegistries_frozen hstage]
  | _ => contradiction

/-- Whatever a host has registered and generated is still there, and calls that would change what is
registered are refused. -/
structure FrozenSince (later host : Host) : Prop where
  registered : later.registries.eraseSlots = host.registries.eraseSlots
  canonicalJson : later.registries.canonicalJson = host.registries.canonicalJson
  layoutText : Provenance.layoutText later = Provenance.layoutText host
  layout : later.layout = host.layout
  header : later.header = host.header
  closed : ∀ call change, Call.change? call = some change →
    call.operation later = .error (.registriesClosed change) later ∧
      (Error.registriesClosed change).category = .invalidOperation

/-- The buffer is still the one of a host, though its bytes may be others, and it is not allocated
anew. -/
structure SlottedSince (later host : Host) (buffer : Buffer) : Prop where
  size : ∃ buffer', later.buffer = some buffer' ∧ buffer'.size = buffer.size
  slot : ∀ kind name, later.slotOffset kind name = host.slotOffset kind name
  refused : Host.initializeBuffer later = .error .bufferExists later

theorem Precedes.frozenSince (h : host.Precedes later) (hstage : host.stage ≠ .fresh) :
    later.FrozenSince host := by
  obtain ⟨hregistries, hlayout, hheader⟩ := h.frozen hstage
  have hlater : later.stage ≠ .fresh := h.ne_fresh hstage
  have htext : later.registries.canonicalJson = host.registries.canonicalJson := by
    rw [← Registries.canonicalJson_eraseSlots, hregistries, Registries.canonicalJson_eraseSlots]
  refine ⟨hregistries, htext, ?_, hlayout, hheader, ?_⟩
  · rw [Provenance.layoutText, Provenance.layoutText, htext, h.config]
  · intro call change hchange
    exact ⟨run_closed hlater hchange, rfl⟩

theorem Precedes.slottedSince (h : host.Precedes later) (hlater : later.Coherent) {buffer : Buffer}
    (hbuffer : host.buffer = some buffer) : later.SlottedSince host buffer := by
  obtain ⟨hregistries, buffer', hbuffer', hsize⟩ := h.slots buffer hbuffer
  refine ⟨⟨buffer', hbuffer', hsize⟩, ?_, ?_⟩
  · intro kind name
    rw [slotOffset, slotOffset, hregistries]
  · exact run_initializeBuffer_again (hlater.ready_of_buffer hbuffer')

/-- In every run the stages go forward only. Once the first one is left, nothing that is registered or
generated changes, and once there is a buffer, its slots stay where they are, whatever calls follow. -/
theorem stages_forward (h : Reachable host) (calls : List Call) :
    host.stage.rank ≤ (host.run calls).stage.rank ∧
    (host.stage ≠ .fresh → (host.run calls).FrozenSince host) ∧
    ∀ buffer, host.buffer = some buffer → (host.run calls).SlottedSince host buffer := by
  have hprecedes : host.Precedes (host.run calls) := h.precedes_run calls
  refine ⟨hprecedes.stage, hprecedes.frozenSince, ?_⟩
  intro buffer hbuffer
  exact hprecedes.slottedSince (h.run calls).coherent hbuffer

/-- A host that has written to a slot of its buffer. -/
def addressed : Host :=
  Host.run { config := { environmentCapacity := 8 } } [
    .registerVariable .newAgent { name := "id", typeName := "unsigned int", typeSize := 4 },
    .generateHeader,
    .initializeBuffer,
    .writeSlot .newAgent "id" 0x2a]

/-- Calls that would have an effect on a fresh host. -/
def lateCalls : List Call := [
  .registerVariable .agent { name := "x", typeName := "float", typeSize := 4 },
  .unregisterVariable .newAgent "id",
  .computeLayout,
  .dynamicHeader,
  .finalize,
  .initializeBuffer]

theorem stages_forward_lateCalls :
    addressed.Reachable ∧ addressed.stage = .bufferReady ∧
      (addressed.run lateCalls).stage = .finalized ∧
      (addressed.run lateCalls).FrozenSince addressed ∧
      ∃ buffer, addressed.buffer = some buffer ∧
        (addressed.run lateCalls).SlottedSince addressed buffer := by
  have hreachable : addressed.Reachable :=
    (@Reachable.created { environmentCapacity := 8 } _ rfl).run _
  obtain ⟨-, hfrozen, hslotted⟩ := stages_forward hreachable lateCalls
  exact ⟨hreachable, rfl, rfl, hfrozen (by decide), _, rfl, hslotted _ rfl⟩

end Host

end DeviceSlots
