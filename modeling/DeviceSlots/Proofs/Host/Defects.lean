import DeviceSlots.Proofs.Device.Addresses
import DeviceSlots.Proofs.Host.Transition
import DeviceSlots.Proofs.Registry.Declarations

/-!
# Defects

Some causes of failure are no fault of the caller: a fill point that is missing or filled twice, a
variable, layout or header that is gone, a slot outside the buffer. No call on a host that can be
reached fails for one of these, whatever its arguments.
-/

namespace DeviceSlots

/-! ## Computations without defects -/

/-- A computation that may fail, though never through a defect of the program. -/
def Defectless {α : Type} (x : Except Error α) : Prop :=
  ∀ e, x = .error e → e.category ≠ .internalError

namespace Defectless

variable {α β : Type} {x : Except Error α}

theorem ok (a : α) : Defectless (.ok a : Except Error α) := FailsOnly.ok a

theorem error {e : Error} (h : e.category ≠ .internalError) :
    Defectless (.error e : Except Error α) := FailsOnly.error h

theorem bind {f : α → Except Error β} (hx : Defectless x) (hf : ∀ a, x = .ok a → Defectless (f a)) :
    Defectless (x >>= f) := FailsOnly.bind hx hf

theorem map (hx : Defectless x) (f : α → β) : Defectless (x.map f) := FailsOnly.map hx f

end Defectless

/-! ## Registries and layouts -/

theorem Objection.defectless {α : Type} {x : Except Error α} (h : FailsOnly Objection x) :
    Defectless x := by
  refine h.mono ?_
  rintro e (he | he) <;> rw [he] <;> nofun

namespace Registries

variable (r : Registries)

theorem registerVariable_defectless (kind : Kind) (decl : VariableDecl) :
    Defectless (r.registerVariable kind decl) :=
  Objection.defectless (objection_register r (.ofVariable kind decl))

theorem unregisterVariable_defectless (kind : Kind) (name : String) :
    Defectless (r.unregisterVariable kind name) := by
  rw [unregisterVariable_eq]
  split
  · exact .ok _
  · exact .error nofun

theorem registerProperty_defectless (decl : PropertyDecl) :
    Defectless (r.registerProperty decl) :=
  Objection.defectless (objection_register r (.ofProperty decl))

theorem unregisterProperty_defectless (name : String) :
    Defectless (r.unregisterProperty name) := by
  rw [unregisterProperty_eq]
  split
  · exact .ok _
  · exact .error nofun

theorem cachedSlot_defectless (kind : Kind) (name : String) :
    Defectless (r.cachedSlot kind name) := by
  unfold cachedSlot
  split
  · exact .ok _
  · exact .error nofun

end Registries

namespace Layout

theorem checkExtents_defectless (capacity : Nat) (properties : List (String × Property)) :
    Defectless (checkExtents capacity properties) := by
  induction properties with
  | nil => exact .ok ()
  | cons x rest ih =>
    unfold checkExtents
    split
    · exact .error nofun
    · split
      · exact ih
      · exact .error nofun

theorem compute_defectless (capacity : Nat) (r : Registries) :
    Defectless (compute capacity r) := by
  refine (checkExtents_defectless _ _).bind ?_
  intro _ _
  refine Defectless.bind ?_ fun offsets _ => .ok _
  unfold SectionOffsets.compute
  split
  · exact .error nofun
  · exact .ok _

end Layout

/-! ## Buffers and devices -/

namespace Buffer

theorem allocate_defectless (size : Nat) : Defectless (allocate size) := by
  unfold allocate
  split
  · exact .error nofun
  · exact .ok _

theorem writeEnvironment_defectless {buffer : Buffer} (snapshot : List UInt8) {capacity : Nat}
    (h : capacity ≤ buffer.size) : Defectless (buffer.writeEnvironment snapshot capacity) := by
  rw [writeEnvironment_eq, if_neg (Nat.not_lt.mpr h)]
  split
  · exact .error nofun
  · exact .ok _

end Buffer

theorem DeviceModule.push_defectless (m : DeviceModule) (name : String) (bytes : List UInt8) :
    Defectless (m.push name bytes) := by
  have hresolve : Defectless (m.resolve name) := by
    unfold resolve
    split
    · exact .ok _
    · exact .error nofun
  have hcopy (address : Nat) : Defectless (m.copyTo address bytes) := by
    rw [copyTo_eq]
    split
    · exact .error nofun
    · split
      · exact .error nofun
      · exact .ok _
  rw [push_eq]
  refine hresolve.bind fun symbol _ => ?_
  split
  · exact .error nofun
  · exact (hcopy symbol.address).map _

namespace Host

open Method

variable {host : Host}

/-! ## Slots -/

/-- A slot that a variable has lies in the buffer. -/
theorem Coherent.slot_inside (h : host.Coherent) (hfits : host.Addressable) {kind : Kind}
    {name : String} {offset : Nat} (hslot : host.slotOffset kind name = .ok (some offset)) :
    ∃ buffer, host.buffer = some buffer ∧ buffer.slotPointer offset = .ok offset := by
  cases hv : host.registries.findVariable? kind name with
  | none =>
    simp only [slotOffset, Registries.cachedSlot, hv] at hslot
    contradiction
  | some v =>
    have hfound : v.slot = some offset := by
      simp only [slotOffset, Registries.cachedSlot, hv] at hslot
      exact Except.ok.inj hslot
    cases hbuffer : host.buffer with
    | none =>
      rw [h.unslotted hbuffer kind name v hv] at hfound
      contradiction
    | some buffer =>
      exact ⟨buffer, rfl, Buffer.slotPointer_eq_ok (h.slot_within hfits hbuffer hv hfound)⟩

theorem requireBuffer_defectless (host : Host) : Defectless host.requireBuffer := by
  unfold requireBuffer
  split
  · exact .ok _
  · exact .error nofun

/-- What is done with the slot of a variable is done within the buffer. -/
theorem Coherent.slot_defectless (h : host.Coherent) (hfits : host.Addressable) {β : Type}
    {kind : Kind} {name : String} {offset : Nat} (hslot : host.slotOffset kind name = .ok (some offset))
    {access : Buffer → Except Error β}
    (haccess : ∀ buffer, buffer.slotPointer offset = .ok offset → Defectless (access buffer)) :
    Defectless (host.requireBuffer >>= access) := by
  obtain ⟨buffer, hbuffer, hpointer⟩ := h.slot_inside hfits hslot
  rw [requireBuffer_eq_ok_iff.mpr hbuffer, ok_bind]
  exact haccess buffer hpointer

/-- The place of a slot is always given out. -/
theorem Coherent.slotPointer_eq (h : host.Coherent) (hfits : host.Addressable) (kind : Kind)
    (name : String) :
    host.slotPointer kind name = host.slotOffset kind name := by
  cases hslot : host.slotOffset kind name with
  | error e => rw [slotPointer, hslot, error_bind]
  | ok slot =>
    cases slot with
    | none =>
      rw [slotPointer, hslot, ok_bind]
      rfl
    | some offset =>
      obtain ⟨buffer, hbuffer, hpointer⟩ := h.slot_inside hfits hslot
      simp only [slotPointer, hslot, requireBuffer_eq_ok_iff.mpr hbuffer, hpointer, ok_bind]
      rfl

theorem Coherent.assignedSlot_defectless (h : host.Coherent) (hfits : host.Addressable) {β : Type}
    {kind : Kind} {name : String} {access : Nat → Buffer → Except Error β}
    (haccess : ∀ offset buffer, buffer.slotPointer offset = .ok offset →
      Defectless (access offset buffer)) :
    Defectless (do
      let offset ← host.assignedSlot kind name
      let buffer ← host.requireBuffer
      access offset buffer) := by
  cases hslot : host.slotOffset kind name with
  | error e =>
    simp only [assignedSlot, hslot, error_bind]
    exact .error (host.registries.cachedSlot_defectless kind name e hslot)
  | ok slot =>
    cases slot with
    | none =>
      simp only [assignedSlot, hslot, ok_bind]
      exact .error nofun
    | some offset =>
      simp only [assignedSlot, hslot, ok_bind]
      exact h.slot_defectless hfits hslot (haccess offset)

/-! ## Operations -/

theorem result_changeRegistries (change : RegistryChange) {changed : Except Error Registries}
    (h : Defectless changed) :
    Defectless (result (host.changeRegistries change changed)) := by
  unfold changeRegistries
  split
  · cases changed with
    | ok registries => exact .ok ()
    | error e => exact .error (h e rfl)
  · exact .error nofun

theorem result_changeBuffer {changed : Except Error Buffer} (h : Defectless changed) :
    Defectless (result (host.changeBuffer changed)) := by
  cases changed with
  | ok buffer => exact .ok ()
  | error e => exact .error (h e rfl)

namespace Coherent

theorem result_computeLayout (h : host.Coherent) :
    Defectless (result (Host.computeLayout host)) := by
  by_cases hstage : host.stage = .fresh
  · have hcompute :=
      Layout.compute_defectless host.config.environmentCapacity host.registries
    rw [run_computeLayout_fresh hstage]
    split
    · exact .ok _
    · rename_i e hlayout
      exact .error (hcompute e hlayout)
  · obtain ⟨layout, hlayout⟩ := h.layout_of_frozen hstage
    rw [run_computeLayout_kept hstage hlayout]
    exact .ok _

theorem result_generateHeader : Defectless (result (Host.generateHeader host)) := by
  have hcompute := Layout.compute_defectless host.config.environmentCapacity host.registries
  rw [run_generateHeader]
  split
  · split
    · exact .ok _
    · rename_i e hlayout
      exact .error (hcompute e hlayout)
  · exact .error nofun

theorem result_initializeBuffer (h : host.Coherent) :
    Defectless (result (Host.initializeBuffer host)) := by
  cases hstage : host.stage with
  | fresh =>
    rw [run_initializeBuffer_early hstage]
    exact .error nofun
  | generating =>
    obtain ⟨layout, -, hlayout, -, hbuffer⟩ := h.layout_of_generating hstage
    have hallocate := Buffer.allocate_defectless layout.offsets.total
    rw [run_initializeBuffer hstage hbuffer hlayout (h.find?_slotOwners hlayout)]
    split
    · exact .ok ()
    · rename_i e hfailed
      exact .error (hallocate e hfailed)
  | bufferReady =>
    rw [run_initializeBuffer_again (.inl hstage)]
    exact .error nofun
  | finalized =>
    rw [run_initializeBuffer_again (.inr hstage)]
    exact .error nofun

theorem result_finalize (h : host.Coherent) :
    Defectless (result (Host.finalize host)) := by
  by_cases hstage : host.stage = .bufferReady ∨ host.stage = .finalized
  · obtain ⟨-, text, -, -, htext, -⟩ := h.buffer_of_ready hstage
    rw [run_finalize hstage htext]
    exact .ok text
  · have hearly : host.stage = .fresh ∨ host.stage = .generating := by
      cases hs : host.stage <;> simp_all
    rw [run_finalize_early hearly]
    exact .error nofun

theorem result_dynamicHeader (h : host.Coherent) :
    Defectless (result (Host.dynamicHeader host)) := by
  cases hgenerate : Host.generateHeader host with
  | error e left =>
    rw [run_dynamicHeader_error hgenerate]
    have hheader : Defectless (result (Host.generateHeader host)) := result_generateHeader
    rw [hgenerate] at hheader
    exact hheader
  | ok text left =>
    obtain ⟨hstage, layout, hlayout⟩ := layout_of_generateHeader hgenerate
    have hallocate := Buffer.allocate_defectless layout.offsets.total
    rw [h.run_dynamicHeader hstage hlayout]
    split
    · exact .ok _
    · rename_i e hfailed
      exact .error (hallocate e hfailed)

theorem result_writeSlot (h : host.Coherent) (hfits : host.Addressable) (kind : Kind) (name : String)
    (address : UInt64) :
    Defectless (result (Host.writeSlot kind name address host)) := by
  rw [run_writeSlot]
  apply result_changeBuffer
  apply h.assignedSlot_defectless hfits
  intro offset buffer hpointer
  rw [Buffer.writeSlot_eq, hpointer]
  exact .ok _

theorem readSlot_defectless (h : host.Coherent) (hfits : host.Addressable) (kind : Kind)
    (name : String) :
    Defectless (host.readSlot kind name) := by
  apply h.assignedSlot_defectless hfits
  intro offset buffer hpointer
  rw [Buffer.readSlot, hpointer]
  exact .ok _

theorem result_patchSlot (h : host.Coherent) (hfits : host.Addressable) (kind : Kind) (name : String)
    (patch : List UInt8) :
    Defectless (result (Host.patchSlot kind name patch host)) := by
  have hlookup := host.registries.cachedSlot_defectless kind name
  rw [run_patchSlot, h.slotPointer_eq hfits]
  split
  · exact .ok false
  · rename_i offset hslot
    have hpatch : Defectless (result
        (host.changeBuffer (host.requireBuffer >>= fun buffer => buffer.patchSlot offset patch))) := by
      apply result_changeBuffer
      apply h.slot_defectless hfits hslot
      intro buffer hpointer
      rw [Buffer.patchSlot_eq, hpointer]
      exact .ok _
    split
    · exact .ok true
    · rename_i e left hfailed
      rw [hfailed] at hpatch
      exact .error (hpatch e rfl)
  · rename_i e hfailed
    exact .error (hlookup e hfailed)

theorem result_refreshEnvironment (h : host.Coherent) (hfits : host.Addressable)
    (snapshot : Option (List UInt8)) :
    Defectless (result (Host.refreshEnvironment snapshot host)) := by
  cases snapshot with
  | none => exact .ok ()
  | some snapshot =>
    rw [run_refreshEnvironment]
    apply result_changeBuffer
    apply (requireBuffer_defectless host).bind
    intro buffer hbuffer
    exact Buffer.writeEnvironment_defectless snapshot
      (h.capacity_le_size hfits (requireBuffer_eq_ok_iff.mp hbuffer))

theorem push_defectless (host : Host) (m : DeviceModule) : Defectless (host.push m) := by
  rw [push_eq_bind]
  exact (requireBuffer_defectless host).bind fun buffer _ => m.push_defectless _ _

/-! ## Calls -/

/-- No call fails through a defect. -/
theorem result_operation (h : host.Coherent) (hfits : host.Addressable) (call : Call) :
    Defectless (result (call.operation host)) := by
  cases call with
  | registerVariable kind decl =>
    rw [Call.operation, run_registerVariable]
    exact result_changeRegistries _ (host.registries.registerVariable_defectless kind decl)
  | unregisterVariable kind name =>
    rw [Call.operation, run_unregisterVariable]
    exact result_changeRegistries _
      ((host.registries.unregisterVariable_defectless kind name).map Prod.snd)
  | registerProperty decl =>
    rw [Call.operation, run_registerProperty]
    exact result_changeRegistries _ (host.registries.registerProperty_defectless decl)
  | unregisterProperty name =>
    rw [Call.operation, run_unregisterProperty]
    exact result_changeRegistries _
      ((host.registries.unregisterProperty_defectless name).map Prod.snd)
  | computeLayout => exact result_discard _ host ▸ h.result_computeLayout.map _
  | generateHeader => exact result_discard _ host ▸ result_generateHeader.map _
  | initializeBuffer => exact h.result_initializeBuffer
  | finalize => exact result_discard _ host ▸ h.result_finalize.map _
  | dynamicHeader => exact result_discard _ host ▸ h.result_dynamicHeader.map _
  | slotPointer kind name =>
    rw [Call.operation, result_inspect fun host : Host => host.slotPointer kind name]
    rw [h.slotPointer_eq hfits]
    exact (host.registries.cachedSlot_defectless kind name).map _
  | patchSlot kind name patch =>
    exact result_discard _ host ▸ (h.result_patchSlot hfits kind name patch).map _
  | writeSlot kind name address => exact h.result_writeSlot hfits kind name address
  | readSlot kind name =>
    rw [Call.operation, result_inspect fun host : Host => host.readSlot kind name]
    exact (h.readSlot_defectless hfits kind name).map _
  | refreshEnvironment snapshot => exact h.result_refreshEnvironment hfits snapshot
  | push m =>
    rw [Call.operation, result_inspect fun host : Host => host.push m]
    exact (push_defectless host m).map _

end Coherent

/-- No call on a host that can be reached fails through a defect of the program, and no lookup of a
slot does. A refresh writes within the buffer: it is at least as long as the environment region. Only
the buffer as a whole has to have addresses. -/
theorem defects_unreachable (h : Reachable host) (hfits : host.Addressable) :
    (∀ call e left, Call.operation call host = .error e left → e.category ≠ .internalError) ∧
    (∀ kind name e, host.slotOffset kind name = .error e → e.category ≠ .internalError) ∧
    ∀ buffer, host.buffer = some buffer → host.config.environmentCapacity ≤ buffer.size := by
  refine ⟨?_, ?_, ?_⟩
  · intro call e left hfailed
    exact h.coherent.result_operation hfits call e (congrArg result hfailed)
  · intro kind name
    exact host.registries.cachedSlot_defectless kind name
  · intro buffer hbuffer
    exact h.coherent.capacity_le_size hfits hbuffer

/-- A host with a buffer of an environment region and one slot. -/
def allocated : Host :=
  Host.run { config := { environmentCapacity := 16 } } [
    .registerVariable .messageOut { name := "x", typeName := "float", typeSize := 4 },
    .registerProperty { name := "seed", offset := 8, typeName := "unsigned int", typeSize := 4 },
    .dynamicHeader]

theorem defects_unreachable_allocated :
    allocated.Reachable ∧ allocated.Addressable ∧
      (∀ call e left, Call.operation call allocated = .error e left →
        e.category ≠ .internalError) ∧
      Call.operation (.refreshEnvironment (some [1, 2, 3])) allocated =
        .error (.shortSnapshot 3 16) allocated ∧
      ∃ buffer, allocated.buffer = some buffer ∧ buffer.size = 24 ∧
        allocated.config.environmentCapacity ≤ buffer.size := by
  have hreachable : allocated.Reachable :=
    (@Reachable.created { environmentCapacity := 16 } _ rfl).run _
  have hfits : allocated.Addressable := by decide +kernel
  obtain ⟨hcalls, -, hwithin⟩ := defects_unreachable hreachable hfits
  exact ⟨hreachable, hfits, hcalls, rfl, _, rfl, rfl, hwithin _ rfl⟩

end Host

end DeviceSlots
