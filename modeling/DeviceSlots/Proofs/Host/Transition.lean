import Mathlib.Logic.Relation
import DeviceSlots.Proofs.Host.Coherence
import DeviceSlots.Proofs.Registry.History

/-!
# Transitions of hosts

There are six ways in which a host changes. A call that succeeds is a row of such transitions, and a
call that fails changes nothing, one case apart in which it is a transition as well. What each
transition keeps, every call keeps: so every host that can be reached is coherent, and its
registries, slots aside, were built by registrations and removals.
-/

namespace DeviceSlots.Host

/-- The host with the header of a layout. -/
def withHeader (host : Host) (layout : Layout) : Host :=
  { host with
    stage := .generating
    layout := some layout
    header := some (Text.unlines
      (Generator.headerLines host.config layout host.registries.environment)) }

/-- The host with a buffer, and with the slots of a layout. -/
def withBuffer (host : Host) (layout : Layout) (buffer : Buffer) : Host :=
  { host with
    registries := host.registries.placeSlots layout.offsets (slotOwners layout)
    buffer := some buffer
    stage := .bufferReady }

/-- One change of a host. -/
inductive Transition (host : Host) : Host → Prop
  | registries {r : Registries} (hstage : host.stage = .fresh) (hedit : host.registries.Edit r) :
      Transition host { host with registries := r, layout := none }
  | layout {layout : Layout} (hstage : host.stage = .fresh)
      (hlayout : Layout.compute host.config.environmentCapacity host.registries = .ok layout) :
      Transition host { host with layout := some layout }
  | header {layout : Layout} (hstage : host.stage = .fresh)
      (hlayout : Layout.compute host.config.environmentCapacity host.registries = .ok layout) :
      Transition host (host.withHeader layout)
  | buffer {layout : Layout} {buffer : Buffer} (hstage : host.stage = .generating)
      (hlayout : host.layout = some layout)
      (hbuffer : Buffer.allocate layout.offsets.total = .ok buffer) :
      Transition host (host.withBuffer layout buffer)
  | finalized (hstage : host.stage = .bufferReady ∨ host.stage = .finalized) :
      Transition host { host with stage := .finalized }
  | bytes {buffer buffer' : Buffer} (hbuffer : host.buffer = some buffer)
      (hsize : buffer'.size = buffer.size) :
      Transition host { host with buffer := some buffer' }

/-- A row of changes. -/
abbrev Transitions : Host → Host → Prop := Relation.ReflTransGen Transition

variable {host : Host}

/-! ## All stages at once -/

theorem run_generateHeader_eq_ok (hstage : host.stage = .fresh) {layout : Layout}
    (hlayout : Layout.compute host.config.environmentCapacity host.registries = .ok layout) :
    generateHeader host =
      .ok (Text.unlines (Generator.headerLines host.config layout host.registries.environment))
        (host.withHeader layout) := by
  rw [run_generateHeader, if_pos hstage, hlayout]
  rfl

/-- From a fresh host with a layout, only the allocation of the buffer can fail, and it leaves the
host with its header. -/
theorem Coherent.run_dynamicHeader (h : host.Coherent) (hstage : host.stage = .fresh)
    {layout : Layout}
    (hlayout : Layout.compute host.config.environmentCapacity host.registries = .ok layout) :
    Host.dynamicHeader host =
      match Buffer.allocate layout.offsets.total with
      | .ok buffer =>
        .ok (Text.unlines (Generator.headerLines host.config layout host.registries.environment))
          { (host.withHeader layout).withBuffer layout buffer with stage := .finalized }
      | .error e => .error e (host.withHeader layout) := by
  have hgenerated : (host.withHeader layout).Coherent := h.generateHeader hstage hlayout
  have hnone : (host.withHeader layout).buffer = none := (h.no_buffer_of_fresh hstage).2
  have hinitialize := @run_initializeBuffer (host.withHeader layout) layout rfl hnone rfl
    (hgenerated.find?_slotOwners rfl)
  rw [Host.dynamicHeader, Method.run_bind, Method.run_discard,
    run_generateHeader_eq_ok hstage hlayout]
  simp only [Method.run_bind, hinitialize]
  cases Buffer.allocate layout.offsets.total with
  | error e => rfl
  | ok buffer => exact run_finalize (.inl rfl) rfl

/-- Where the header is not generated, nothing else is done. -/
theorem run_dynamicHeader_error {e : Error} {left : Host}
    (h : generateHeader host = .error e left) : dynamicHeader host = .error e left := by
  rw [dynamicHeader, Method.run_bind, Method.run_discard, h]

theorem run_generateHeader_frozen (hstage : host.stage ≠ .fresh) :
    generateHeader host = .error .headerExists host := by
  rw [run_generateHeader, if_neg hstage]

/-- What may come of going through all stages: a failure before the header changes nothing, a failure
after it is about a buffer without bytes, and a success is a row of three steps. -/
theorem Coherent.dynamicHeader_cases (h : host.Coherent) :
    (∃ e, Host.dynamicHeader host = .error e host) ∨
    ∃ layout, host.stage = .fresh ∧
      Layout.compute host.config.environmentCapacity host.registries = .ok layout ∧
      (layout.offsets.total = 0 ∧
          Host.dynamicHeader host = .error .emptyBuffer (host.withHeader layout) ∨
        ∃ buffer text, Buffer.allocate layout.offsets.total = .ok buffer ∧
          Host.dynamicHeader host = .ok text
            { (host.withHeader layout).withBuffer layout buffer with stage := .finalized }) := by
  by_cases hstage : host.stage = .fresh
  · cases hlayout : Layout.compute host.config.environmentCapacity host.registries with
    | error e =>
      refine .inl ⟨e, run_dynamicHeader_error ?_⟩
      rw [run_generateHeader, if_pos hstage, hlayout]
    | ok layout =>
      refine .inr ⟨layout, hstage, rfl, ?_⟩
      rw [h.run_dynamicHeader hstage hlayout]
      by_cases htotal : layout.offsets.total = 0
      · refine .inl ⟨htotal, ?_⟩
        rw [Buffer.allocate, if_pos htotal]
      · have hallocate := Buffer.allocate_eq_ok_iff.mpr ⟨htotal, rfl⟩
        rw [hallocate]
        exact .inr ⟨_, _, rfl, rfl⟩
  · exact .inl ⟨_, run_dynamicHeader_error (run_generateHeader_frozen hstage)⟩

/-- The buffer is allocated by a host that has its header, or nothing is changed. -/
theorem Coherent.initializeBuffer_cases (h : host.Coherent) :
    (∃ e, Host.initializeBuffer host = .error e host) ∨
    ∃ layout buffer, host.stage = .generating ∧ host.layout = some layout ∧
      Buffer.allocate layout.offsets.total = .ok buffer ∧
      Host.initializeBuffer host = .ok () (host.withBuffer layout buffer) := by
  by_cases hstage : host.stage = .generating
  · obtain ⟨layout, -, hlayout, -, hbuffer⟩ := h.layout_of_generating hstage
    rw [run_initializeBuffer hstage hbuffer hlayout (h.find?_slotOwners hlayout)]
    cases hallocate : Buffer.allocate layout.offsets.total with
    | error e => exact .inl ⟨e, rfl⟩
    | ok buffer => exact .inr ⟨layout, buffer, hstage, hlayout, hallocate, rfl⟩
  · exact .inl (run_initializeBuffer_closed hstage)

/-! ## What comes of a call -/

/-- What comes of a call: it succeeds after a row of transitions, or it fails and changes nothing. -/
inductive Outcome {α : Type} (host : Host) : EStateM.Result Error Host α → Prop
  | ok {a : α} {left : Host} (h : Transitions host left) : Outcome host (.ok a left)
  | error {e : Error} : Outcome host (.error e host)

theorem Outcome.transitions {α : Type} {result : EStateM.Result Error Host α}
    (h : Outcome host result) : Transitions host (Method.left result) := by
  cases h with
  | ok h => exact h
  | error => exact .refl

theorem Outcome.discard {α : Type} {x : Operation α} (h : Outcome host (x host)) :
    Outcome host ((discard x : Operation Unit) host) := by
  rw [Method.run_discard]
  cases hx : x host with
  | ok a left =>
    rw [hx] at h
    cases h with
    | ok h => exact .ok h
  | error e left =>
    rw [hx] at h
    cases h with
    | error => exact .error

/-- An operation that only looks at the host changes nothing. -/
theorem outcome_inspect {α : Type} (f : Host → Except Error α) :
    Outcome host ((do discard (ofExcept (f (← get)) : Operation α) : Operation Unit) host) := by
  rw [Method.run_bind, Method.run_get]
  apply Outcome.discard
  cases f host with
  | ok a => exact .ok .refl
  | error e => exact .error

namespace Coherent

theorem outcome_changeRegistries (change : RegistryChange) {changed : Except Error Registries}
    (hedit : ∀ r, changed = .ok r → host.registries.Edit r) :
    Outcome host (host.changeRegistries change changed) := by
  unfold Host.changeRegistries
  by_cases hstage : host.stage = .fresh
  · rw [if_pos hstage]
    cases changed with
    | ok r => exact .ok (.single (.registries hstage (hedit r rfl)))
    | error e => exact .error
  · rw [if_neg hstage]
    exact .error

theorem outcome_changeBuffer {write : Buffer → Except Error Buffer}
    (hsize : ∀ buffer buffer', host.buffer = some buffer → write buffer = .ok buffer' →
      buffer'.size = buffer.size) :
    Outcome host (host.changeBuffer (host.requireBuffer >>= write)) := by
  cases hrequire : host.requireBuffer with
  | error e => exact .error
  | ok buffer =>
    have hbuffer := requireBuffer_eq_ok_iff.mp hrequire
    rw [ok_bind]
    cases hwrite : write buffer with
    | error e => exact .error
    | ok buffer' => exact .ok (.single (.bytes hbuffer (hsize buffer buffer' hbuffer hwrite)))

theorem outcome_computeLayout (h : host.Coherent) : Outcome host (Host.computeLayout host) := by
  by_cases hstage : host.stage = .fresh
  · rw [run_computeLayout_fresh hstage]
    cases hlayout : Layout.compute host.config.environmentCapacity host.registries with
    | ok layout => exact .ok (.single (.layout hstage hlayout))
    | error e => exact .error
  · obtain ⟨layout, hlayout⟩ := h.layout_of_frozen hstage
    rw [run_computeLayout_kept hstage hlayout]
    exact .ok .refl

theorem outcome_generateHeader : Outcome host (Host.generateHeader host) := by
  rw [run_generateHeader]
  by_cases hstage : host.stage = .fresh
  · rw [if_pos hstage]
    cases hlayout : Layout.compute host.config.environmentCapacity host.registries with
    | ok layout => exact .ok (.single (.header hstage hlayout))
    | error e => exact .error
  · rw [if_neg hstage]
    exact .error

theorem outcome_initializeBuffer (h : host.Coherent) :
    Outcome host (Host.initializeBuffer host) := by
  rcases h.initializeBuffer_cases with ⟨e, hrun⟩ | ⟨layout, buffer, hstage, hlayout, hbuffer, hrun⟩
  · rw [hrun]
    exact .error
  · rw [hrun]
    exact .ok (.single (.buffer hstage hlayout hbuffer))

theorem outcome_finalize (h : host.Coherent) : Outcome host (Host.finalize host) := by
  by_cases hstage : host.stage = .bufferReady ∨ host.stage = .finalized
  · obtain ⟨-, text, -, -, htext, -⟩ := h.buffer_of_ready hstage
    rw [run_finalize hstage htext]
    exact .ok (.single (.finalized hstage))
  · have hearly : host.stage = .fresh ∨ host.stage = .generating := by
      cases hs : host.stage <;> simp_all
    rw [run_finalize_early hearly]
    exact .error

/-- Going through all stages at once is the one call that may fail halfway: where the buffer would
have no bytes, the header stays. -/
theorem outcome_dynamicHeader (h : host.Coherent) :
    Outcome host (Host.dynamicHeader host) ∨
      ∃ layout, host.stage = .fresh ∧
        Layout.compute host.config.environmentCapacity host.registries = .ok layout ∧
        layout.offsets.total = 0 ∧
        Host.dynamicHeader host = .error .emptyBuffer (host.withHeader layout) := by
  rcases h.dynamicHeader_cases with ⟨e, hrun⟩ | ⟨layout, hstage, hlayout, hempty | hfull⟩
  · left
    rw [hrun]
    exact .error
  · exact .inr ⟨layout, hstage, hlayout, hempty⟩
  · left
    obtain ⟨buffer, text, hbuffer, hrun⟩ := hfull
    have hheader : Transitions host (host.withHeader layout) := .single (.header hstage hlayout)
    rw [hrun]
    exact .ok ((hheader.tail (.buffer rfl rfl hbuffer)).tail (.finalized (.inl rfl)))

theorem outcome_writeSlot (kind : Kind) (name : String) (address : UInt64) :
    Outcome host (Host.writeSlot kind name address host) := by
  rw [run_writeSlot]
  cases host.assignedSlot kind name with
  | error e => exact .error
  | ok offset =>
    rw [ok_bind]
    exact outcome_changeBuffer fun _ _ _ => Buffer.size_writeSlot

theorem outcome_patchSlot (kind : Kind) (name : String) (patch : List UInt8) :
    Outcome host (Host.patchSlot kind name patch host) := by
  rw [run_patchSlot]
  cases host.slotPointer kind name with
  | error e => exact .error
  | ok slot =>
    cases slot with
    | none => exact .ok .refl
    | some offset =>
      have hwrite : Outcome host (host.changeBuffer
          (host.requireBuffer >>= fun buffer => buffer.patchSlot offset patch)) :=
        outcome_changeBuffer fun _ _ _ => Buffer.size_patchSlot
      dsimp only
      generalize host.changeBuffer _ = result at hwrite ⊢
      cases hwrite with
      | ok h => exact .ok h
      | error => exact .error

theorem outcome_refreshEnvironment (snapshot : Option (List UInt8)) :
    Outcome host (Host.refreshEnvironment snapshot host) := by
  cases snapshot with
  | none => exact .ok .refl
  | some snapshot =>
    rw [run_refreshEnvironment]
    exact outcome_changeBuffer fun _ _ _ => Buffer.size_writeEnvironment

/-- Every call but the one that goes through all stages succeeds after a row of transitions, or fails
and changes nothing. -/
theorem outcome (h : host.Coherent) {call : Call} (hcall : call ≠ .dynamicHeader) :
    Outcome host (call.operation host) := by
  cases call with
  | registerVariable kind decl =>
    rw [Call.operation, run_registerVariable]
    exact outcome_changeRegistries _ fun _ hregister => .registerVariable hregister
  | unregisterVariable kind name =>
    rw [Call.operation, run_unregisterVariable]
    refine outcome_changeRegistries _ fun r hremove => ?_
    obtain ⟨⟨v, _⟩, hremoved, rfl⟩ := map_eq_ok_iff.mp hremove
    exact .unregisterVariable hremoved
  | registerProperty decl =>
    rw [Call.operation, run_registerProperty]
    exact outcome_changeRegistries _ fun _ hregister => .registerProperty hregister
  | unregisterProperty name =>
    rw [Call.operation, run_unregisterProperty]
    refine outcome_changeRegistries _ fun r hremove => ?_
    obtain ⟨⟨p, _⟩, hremoved, rfl⟩ := map_eq_ok_iff.mp hremove
    exact .unregisterProperty hremoved
  | computeLayout => exact h.outcome_computeLayout.discard
  | generateHeader => exact outcome_generateHeader.discard
  | initializeBuffer => exact h.outcome_initializeBuffer
  | finalize => exact h.outcome_finalize.discard
  | dynamicHeader => exact absurd rfl hcall
  | slotPointer kind name => exact outcome_inspect fun host => host.slotPointer kind name
  | patchSlot kind name patch => exact (outcome_patchSlot kind name patch).discard
  | writeSlot kind name address => exact outcome_writeSlot kind name address
  | readSlot kind name => exact outcome_inspect fun host => host.readSlot kind name
  | refreshEnvironment snapshot => exact outcome_refreshEnvironment snapshot
  | push m => exact outcome_inspect fun host => host.push m

/-- Every call, whether it succeeds or fails, is a row of transitions. -/
theorem transitions_after (h : host.Coherent) (call : Call) :
    Transitions host (host.after call) := by
  by_cases hcall : call = .dynamicHeader
  · subst hcall
    rw [Host.after, Call.operation]
    rcases h.outcome_dynamicHeader with houtcome | ⟨layout, hstage, hlayout, -, hrun⟩
    · exact houtcome.discard.transitions
    · rw [Method.run_discard, hrun]
      exact .single (.header hstage hlayout)
  · exact (h.outcome hcall).transitions

/-- A transition of a coherent host leads to a coherent host. -/
theorem transition {left : Host} (h : host.Coherent) (ht : Transition host left) :
    left.Coherent := by
  cases ht with
  | registries hstage hedit =>
    have hslots := h.unslotted (h.no_buffer_of_fresh hstage).2
    exact h.changeRegistries hstage (hedit.unslotted hslots)
  | layout hstage hlayout => exact h.computeLayout hstage hlayout
  | header hstage hlayout => exact h.generateHeader hstage hlayout
  | buffer hstage hlayout hbuffer => exact h.initializeBuffer hstage hlayout hbuffer
  | finalized hstage => exact h.finalize hstage
  | bytes hbuffer hsize => exact h.changeBuffer hbuffer hsize

theorem transitions {left : Host} (h : host.Coherent) (ht : Transitions host left) :
    left.Coherent := by
  induction ht with
  | refl => exact h
  | tail _ hstep ih => exact ih.transition hstep

end Coherent

/-! ## Hosts that can be reached -/

theorem Reachable.coherent (h : host.Reachable) : host.Coherent := by
  induction h with
  | created hcreate => exact coherent_of_create hcreate
  | after _ call ih => exact ih.transitions (ih.transitions_after call)

/-- What created hosts have and transitions of coherent hosts keep, every host that can be reached
has. -/
theorem Reachable.invariant {P : Host → Prop} (hcreated : ∀ config, P { config })
    (hkept : ∀ host left, Coherent host → Transition host left → P host → P left)
    (h : host.Reachable) : P host := by
  induction h with
  | created hcreate =>
    obtain ⟨-, rfl⟩ := create_eq_ok_iff.mp hcreate
    exact hcreated _
  | @after host hreach call ih =>
    have hcoherent := hreach.coherent
    have hrow : ∀ left, Transitions host left → P left := by
      intro left ht
      induction ht with
      | refl => exact ih
      | tail hrow hstep ih => exact hkept _ _ (hcoherent.transitions hrow) hstep ih
    exact hrow _ (hcoherent.transitions_after call)

/-- The registries of a host, slots aside, are built by registrations and removals. -/
theorem Reachable.built (h : host.Reachable) : host.registries.eraseSlots.Built := by
  refine h.invariant (P := fun host => host.registries.eraseSlots.Built) ?_ ?_
  · intro config
    rw [Registries.eraseSlots_eq_self Registries.unslotted_empty]
    exact .empty
  · intro host left hcoherent ht hbuilt
    cases ht with
    | registries hstage hedit =>
      have hslots := hcoherent.unslotted (hcoherent.no_buffer_of_fresh hstage).2
      rw [Registries.eraseSlots_eq_self hslots] at hbuilt
      rw [Registries.eraseSlots_eq_self (hedit.unslotted hslots)]
      exact hbuilt.edit hedit
    | buffer =>
      rw [withBuffer, Registries.eraseSlots_placeSlots]
      exact hbuilt
    | _ => exact hbuilt

end DeviceSlots.Host
