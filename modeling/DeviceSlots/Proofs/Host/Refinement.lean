import DeviceSlots.Proofs.Host.Contents
import DeviceSlots.Proofs.Host.Transition
import DeviceSlots.Proofs.Patch

/-!
# The buffer as contents

From its allocation on, the buffer of a host holds contents: every call, in whatever order and whether
it succeeds or fails, does to the bytes what it does to the contents. So no write reaches another
slot or another region, and a slot is read as the value that was written last.
-/

namespace DeviceSlots

namespace Host

open Method

variable {host : Host} {contents : Contents} {kind : Kind} {name : String} {v : Variable}

/-! ## Hosts that hold contents -/

/-- The buffer of a host has the bytes of contents. -/
structure Holds (host : Host) (contents : Contents) : Prop where
  bytes : host.buffer = some ⟨contents.bytes host.registries⟩
  environment : contents.environment.length = host.config.environmentCapacity

/-- The host with the bytes of contents in its buffer. -/
def filled (host : Host) (contents : Contents) : Host :=
  { host with buffer := some ⟨contents.bytes host.registries⟩ }

theorem Holds.filled_eq (h : host.Holds contents) : host.filled contents = host := by
  rw [filled, ← h.bytes]

/-- A buffer that has just been allocated holds no addresses and an empty image. -/
theorem holds_withBuffer {layout : Layout} {buffer : Buffer}
    (hlayout : Layout.compute host.config.environmentCapacity host.registries.eraseSlots =
      .ok layout)
    (hfits : host.Addressable) (hbuffer : Buffer.allocate layout.offsets.total = .ok buffer) :
    (host.withBuffer layout buffer).Holds (.initial host.config.environmentCapacity) := by
  obtain ⟨-, rfl⟩ := Buffer.allocate_eq_ok_iff.mp hbuffer
  refine ⟨?_, List.length_replicate⟩
  rw [Contents.bytes_initial, withBuffer, Registries.row_placeSlots,
    Layout.total_eq hlayout (Registries.addressable_eraseSlots.mpr hfits), Registries.row_eraseSlots]

/-- Only where no slot wraps around can a buffer hold contents. -/
theorem Coherent.addressable_of_holds (h : host.Coherent) (hholds : host.Holds contents) :
    host.Addressable := by
  obtain ⟨layout, hlayout, hsize, -⟩ := h.slotted _ hholds.bytes
  have hlimit := SectionOffsets.total_lt (Layout.compute_eq_ok_iff.mp (h.layout layout hlayout)).2.2
  rw [← hsize, Buffer.size, Contents.bytes, List.length_append, hholds.environment,
    Contents.length_slots, Registries.length_row] at hlimit
  exact hlimit

/-! ## Slots of variables -/

theorem assignedSlot_eq_ok (hv : host.registries.findVariable? kind name = some v) {offset : Nat}
    (hslot : v.slot = some offset) : host.assignedSlot kind name = .ok offset := by
  simp only [assignedSlot, slotOffset, Registries.cachedSlot, hv, hslot, ok_bind]
  rfl

theorem assignedSlot_eq_error (hv : host.registries.findVariable? kind name = none) :
    host.assignedSlot kind name = .error (.notRegistered (.variable kind) name) := by
  simp only [assignedSlot, slotOffset, Registries.cachedSlot, hv, error_bind]

theorem slotPointer_eq_ok (hv : host.registries.findVariable? kind name = some v) {offset : Nat}
    (hslot : v.slot = some offset) {buffer : Buffer} (hbuffer : host.buffer = some buffer)
    (hpointer : buffer.slotPointer offset = .ok offset) :
    host.slotPointer kind name = .ok (some offset) := by
  simp only [slotPointer, slotOffset, Registries.cachedSlot, hv, hslot, ok_bind,
    requireBuffer_eq_ok_iff.mpr hbuffer, hpointer]
  rfl

theorem slotPointer_eq_error (hv : host.registries.findVariable? kind name = none) :
    host.slotPointer kind name = .error (.notRegistered (.variable kind) name) := by
  simp only [slotPointer, slotOffset, Registries.cachedSlot, hv, error_bind]

namespace Coherent

/-- A variable's value stands at its slot, and the bytes around it do not depend on it. -/
theorem slot_split (h : host.Coherent) (hholds : host.Holds contents)
    (hv : host.registries.findVariable? kind name = some v) :
    ∃ before after, v.slot = some before.length ∧
      host.buffer = some ⟨before ++ Word.toBytes (contents.value kind name) ++ after⟩ ∧
      ∀ word, (contents.setValue kind name word).bytes host.registries =
        before ++ Word.toBytes word ++ after := by
  have hfits := Registries.addressable_eraseSlots.mpr (h.addressable_of_holds hholds)
  obtain ⟨layout, offset, hlayout, hoffset, hslot⟩ := h.exists_slot hholds.bytes hv
  obtain ⟨i, hi, rfl⟩ := (Layout.slotOffset?_eq_some_iff (h.layout layout hlayout) hfits).mp hoffset
  rw [Registries.row_eraseSlots] at hi
  obtain ⟨before, after, hlength, hsplit⟩ := contents.bytes_split hi
  rw [hholds.environment] at hlength
  refine ⟨before, after, hlength ▸ hslot, ?_, hsplit⟩
  rw [hholds.bytes, ← hsplit, Contents.setValue_value]

theorem readSlot_eq_ok (h : host.Coherent) (hholds : host.Holds contents)
    (hv : host.registries.findVariable? kind name = some v) :
    host.readSlot kind name = .ok (contents.value kind name) := by
  obtain ⟨before, after, hslot, hbuffer, -⟩ := h.slot_split hholds hv
  rw [readSlot, assignedSlot_eq_ok hv hslot, ok_bind, requireBuffer_eq_ok_iff.mpr hbuffer, ok_bind,
    Buffer.readSlot_word]

theorem writeSlot_eq_ok (h : host.Coherent) (hholds : host.Holds contents)
    (hv : host.registries.findVariable? kind name = some v) (address : UInt64) :
    Host.writeSlot kind name address host =
      .ok () (host.filled (contents.setValue kind name address)) := by
  obtain ⟨before, after, hslot, hbuffer, hsplit⟩ := h.slot_split hholds hv
  rw [run_writeSlot, assignedSlot_eq_ok hv hslot, ok_bind, requireBuffer_eq_ok_iff.mpr hbuffer,
    ok_bind, Buffer.writeSlot_word, filled, hsplit]
  rfl

theorem patchSlot_eq_ok (h : host.Coherent) (hholds : host.Holds contents)
    (hv : host.registries.findVariable? kind name = some v) (patch : List UInt8) :
    Host.patchSlot kind name patch host =
      .ok true (host.filled (contents.setValue kind name
        (Word.patch (contents.value kind name) (patch.take slotSize)))) := by
  obtain ⟨before, after, hslot, hbuffer, hsplit⟩ := h.slot_split hholds hv
  rw [run_patchSlot, slotPointer_eq_ok hv hslot hbuffer (Buffer.slotPointer_word _)]
  simp only [requireBuffer_eq_ok_iff.mpr hbuffer, ok_bind, Buffer.patchSlot_word, filled, hsplit]
  rfl

end Coherent

theorem refreshEnvironment_eq_ok (hholds : host.Holds contents) {snapshot : List UInt8}
    (h : host.config.environmentCapacity ≤ snapshot.length) :
    Host.refreshEnvironment (some snapshot) host =
      .ok () (host.filled
        { contents with environment := snapshot.take host.config.environmentCapacity }) := by
  rw [← hholds.environment] at h
  rw [run_refreshEnvironment, requireBuffer_eq_ok_iff.mpr hholds.bytes, ok_bind,
    ← hholds.environment, Contents.bytes, Buffer.writeEnvironment_append h]
  rfl

theorem writeSlot_eq_error (hv : host.registries.findVariable? kind name = none)
    (address : UInt64) :
    Host.writeSlot kind name address host =
      .error (.notRegistered (.variable kind) name) host := by
  rw [run_writeSlot, assignedSlot_eq_error hv]
  rfl

theorem patchSlot_eq_error (hv : host.registries.findVariable? kind name = none)
    (patch : List UInt8) :
    Host.patchSlot kind name patch host =
      .error (.notRegistered (.variable kind) name) host := by
  rw [run_patchSlot, slotPointer_eq_error hv]

theorem refreshEnvironment_eq_error (hholds : host.Holds contents) {snapshot : List UInt8}
    (h : ¬ host.config.environmentCapacity ≤ snapshot.length) :
    Host.refreshEnvironment (some snapshot) host =
      .error (.shortSnapshot snapshot.length host.config.environmentCapacity) host := by
  rw [run_refreshEnvironment, requireBuffer_eq_ok_iff.mpr hholds.bytes, ok_bind,
    Buffer.writeEnvironment_eq, if_pos (Nat.lt_of_not_le h)]
  rfl

/-! ## Calls that write nothing -/

namespace Coherent

/-- Beside a buffer, a call that does not write to it changes the stage at most. -/
theorem after_silent (h : host.Coherent) {buffer : Buffer} (hbuffer : host.buffer = some buffer)
    {call : Call} (hcall : call.silent = true) :
    ∃ stage, host.after call = { host with stage } := by
  have hready := h.ready_of_buffer hbuffer
  obtain ⟨hfrozen, hclosed⟩ : host.stage ≠ .fresh ∧ host.stage ≠ .generating := by
    rcases hready with hstage | hstage <;> simp [hstage]
  cases call with
  | registerVariable kind decl =>
    rw [Host.after, Call.operation, run_registerVariable, changeRegistries_frozen hfrozen]
    exact ⟨host.stage, rfl⟩
  | unregisterVariable kind name =>
    rw [Host.after, Call.operation, run_unregisterVariable, changeRegistries_frozen hfrozen]
    exact ⟨host.stage, rfl⟩
  | registerProperty decl =>
    rw [Host.after, Call.operation, run_registerProperty, changeRegistries_frozen hfrozen]
    exact ⟨host.stage, rfl⟩
  | unregisterProperty name =>
    rw [Host.after, Call.operation, run_unregisterProperty, changeRegistries_frozen hfrozen]
    exact ⟨host.stage, rfl⟩
  | computeLayout =>
    obtain ⟨layout, hlayout⟩ := h.layout_of_frozen hfrozen
    rw [Host.after, Call.operation, left_discard, run_computeLayout_kept hfrozen hlayout]
    exact ⟨host.stage, rfl⟩
  | generateHeader =>
    rw [Host.after, Call.operation, left_discard, run_generateHeader_frozen hfrozen]
    exact ⟨host.stage, rfl⟩
  | initializeBuffer =>
    obtain ⟨e, hfailed⟩ := run_initializeBuffer_closed hclosed
    rw [Host.after, Call.operation, hfailed]
    exact ⟨host.stage, rfl⟩
  | finalize =>
    obtain ⟨-, text, -, -, htext, -⟩ := h.buffer_of_ready hready
    rw [Host.after, Call.operation, left_discard, run_finalize hready htext]
    exact ⟨.finalized, rfl⟩
  | dynamicHeader =>
    rw [Host.after, Call.operation, left_discard,
      run_dynamicHeader_error (run_generateHeader_frozen hfrozen)]
    exact ⟨host.stage, rfl⟩
  | slotPointer kind name =>
    rw [Host.after, Call.operation, left_inspect fun host : Host => host.slotPointer kind name]
    exact ⟨host.stage, rfl⟩
  | readSlot kind name =>
    rw [Host.after, Call.operation, left_inspect fun host : Host => host.readSlot kind name]
    exact ⟨host.stage, rfl⟩
  | push m =>
    rw [Host.after, Call.operation, left_inspect fun host : Host => host.push m]
    exact ⟨host.stage, rfl⟩
  | patchSlot => contradiction
  | writeSlot => contradiction
  | refreshEnvironment => contradiction

/-! ## Runs -/

theorem after_writeSlot (h : host.Coherent) (hholds : host.Holds contents) (kind : Kind)
    (name : String) (address : UInt64) :
    host.after (.writeSlot kind name address) =
      host.filled (contents.after host.config.environmentCapacity host.registries
        (.writeSlot kind name address)) := by
  rw [Host.after, Call.operation, Contents.after]
  cases hv : host.registries.findVariable? kind name with
  | none =>
    rw [if_neg (by simp), hholds.filled_eq, writeSlot_eq_error hv]
    rfl
  | some v =>
    rw [if_pos (by simp), h.writeSlot_eq_ok hholds hv]
    rfl

theorem after_patchSlot (h : host.Coherent) (hholds : host.Holds contents) (kind : Kind)
    (name : String) (patch : List UInt8) :
    host.after (.patchSlot kind name patch) =
      host.filled (contents.after host.config.environmentCapacity host.registries
        (.patchSlot kind name patch)) := by
  rw [Host.after, Call.operation, left_discard, Contents.after]
  cases hv : host.registries.findVariable? kind name with
  | none =>
    rw [if_neg (by simp), hholds.filled_eq, patchSlot_eq_error hv]
    rfl
  | some v =>
    rw [if_pos (by simp), h.patchSlot_eq_ok hholds hv]
    rfl

theorem after_refreshEnvironment (hholds : host.Holds contents)
    (snapshot : Option (List UInt8)) :
    host.after (.refreshEnvironment snapshot) =
      host.filled (contents.after host.config.environmentCapacity host.registries
        (.refreshEnvironment snapshot)) := by
  cases snapshot with
  | none => exact hholds.filled_eq.symm
  | some snapshot =>
    rw [Host.after, Call.operation, Contents.after]
    by_cases hle : host.config.environmentCapacity ≤ snapshot.length
    · rw [if_pos hle, refreshEnvironment_eq_ok hholds hle]
      rfl
    · rw [if_neg hle, hholds.filled_eq, refreshEnvironment_eq_error hholds hle]
      rfl

/-- A call does to the buffer what it does to its contents, and changes nothing else but the stage. -/
theorem after_holds (h : host.Coherent) (hholds : host.Holds contents) (call : Call) :
    ∃ stage, host.after call =
      { host.filled (contents.after host.config.environmentCapacity host.registries call) with
        stage } := by
  cases hcall : call.silent with
  | true =>
    rw [contents.after_silent hcall, hholds.filled_eq]
    exact h.after_silent hholds.bytes hcall
  | false =>
    refine ⟨host.stage, ?_⟩
    cases call with
    | writeSlot kind name address => exact h.after_writeSlot hholds kind name address
    | patchSlot kind name patch => exact h.after_patchSlot hholds kind name patch
    | refreshEnvironment snapshot => exact after_refreshEnvironment hholds snapshot
    | _ => contradiction

end Coherent

/-- What a host holds after a row of calls is what its contents are after them. -/
theorem Reachable.run_holds (h : host.Reachable) (hholds : host.Holds contents)
    (calls : List Call) :
    (host.run calls).registries = host.registries ∧ (host.run calls).config = host.config ∧
      (host.run calls).Holds
        (contents.run host.config.environmentCapacity host.registries calls) := by
  -- the registries and the capacity stay, so the contents go on with those of the host before
  induction calls generalizing host contents with
  | nil => exact ⟨rfl, rfl, hholds⟩
  | cons call rest ih =>
    obtain ⟨stage, hafter⟩ := h.coherent.after_holds hholds call
    have hregistries : (host.after call).registries = host.registries := by
      rw [hafter]
      rfl
    have hconfig : (host.after call).config = host.config := by
      rw [hafter]
      rfl
    have hnext : (host.after call).Holds
        (contents.after host.config.environmentCapacity host.registries call) := by
      refine ⟨?_, ?_⟩
      · rw [hafter]
        rfl
      · rw [hconfig]
        exact Contents.length_environment_after hholds.environment _ _
    have hrest := ih (h.after call) hnext
    rw [hregistries, hconfig] at hrest
    exact hrest

/-! ## From the allocation on -/

/-- A buffer that has just been allocated holds the initial contents. -/
theorem Coherent.holds_of_initializeBuffer (h : host.Coherent) (hfits : host.Addressable)
    {ready : Host} (hready : Host.initializeBuffer host = .ok () ready) :
    ready.Holds (.initial ready.config.environmentCapacity) := by
  rcases h.initializeBuffer_cases with ⟨e, hrun⟩ | ⟨layout, buffer, -, hlayout, hbuffer, hrun⟩
  · rw [hrun] at hready
    contradiction
  · rw [hrun] at hready
    cases hready
    exact holds_withBuffer (h.layout layout hlayout) hfits hbuffer

theorem Coherent.holds_of_dynamicHeader (h : host.Coherent) (hfits : host.Addressable)
    {text : String} {ready : Host} (hready : Host.dynamicHeader host = .ok text ready) :
    ready.Holds (.initial ready.config.environmentCapacity) := by
  rcases h.dynamicHeader_cases with
    ⟨e, hrun⟩ | ⟨layout, hstage, hlayout, ⟨-, hrun⟩ | ⟨buffer, text, hbuffer, hrun⟩⟩
  · rw [hrun] at hready
    contradiction
  · rw [hrun] at hready
    contradiction
  · rw [hrun] at hready
    cases hready
    have hgenerated : (host.withHeader layout).Coherent := h.generateHeader hstage hlayout
    have hholds := holds_withBuffer (hgenerated.layout layout rfl) hfits hbuffer
    exact ⟨hholds.bytes, hholds.environment⟩

/-- What a host with a buffer shows of it agrees with contents. -/
structure Mirrors (host : Host) (contents : Contents) : Prop where
  bytes : host.buffer = some ⟨contents.bytes host.registries⟩
  environment : contents.environment.length = host.config.environmentCapacity
  /-- Slots are read as the values of their variables. -/
  read : ∀ kind name v, host.registries.findVariable? kind name = some v →
    host.readSlot kind name = .ok (contents.value kind name)
  /-- Slots of variables that are registered can be written to, and no others. -/
  write : ∀ kind name address, (∃ left, Host.writeSlot kind name address host = .ok () left) ↔
    ∃ v, host.registries.findVariable? kind name = some v
  patch : ∀ kind name patch, (∃ left, Host.patchSlot kind name patch host = .ok true left) ↔
    ∃ v, host.registries.findVariable? kind name = some v
  /-- The image is replaced by snapshots that are long enough, and no others. -/
  refresh : ∀ snapshot, (∃ left, Host.refreshEnvironment (some snapshot) host = .ok () left) ↔
    host.config.environmentCapacity ≤ snapshot.length

theorem Coherent.mirrors (h : host.Coherent) (hholds : host.Holds contents) :
    host.Mirrors contents where
  bytes := hholds.bytes
  environment := hholds.environment
  read := fun _ _ _ => h.readSlot_eq_ok hholds
  write := by
    intro kind name address
    constructor
    · rintro ⟨left, hrun⟩
      cases hv : host.registries.findVariable? kind name with
      | none =>
        rw [writeSlot_eq_error hv] at hrun
        contradiction
      | some v => exact ⟨v, rfl⟩
    · rintro ⟨v, hv⟩
      exact ⟨_, h.writeSlot_eq_ok hholds hv address⟩
  patch := by
    intro kind name patch
    constructor
    · rintro ⟨left, hrun⟩
      cases hv : host.registries.findVariable? kind name with
      | none =>
        rw [patchSlot_eq_error hv] at hrun
        contradiction
      | some v => exact ⟨v, rfl⟩
    · rintro ⟨v, hv⟩
      exact ⟨_, h.patchSlot_eq_ok hholds hv patch⟩
  refresh := by
    intro snapshot
    constructor
    · rintro ⟨left, hrun⟩
      by_contra hshort
      rw [refreshEnvironment_eq_error hholds hshort] at hrun
      contradiction
    · intro hle
      exact ⟨_, refreshEnvironment_eq_ok hholds hle⟩

/-- A host with one name in two kinds, before its buffer is allocated. -/
def oneNameTwice : Host :=
  Host.run { config := { environmentCapacity := 8 } } [
    .registerVariable .messageIn { name := "x", typeName := "int", typeSize := 4 },
    .registerVariable .agent { name := "x", typeName := "float", typeSize := 4, elements := 2 },
    .generateHeader]

/-- Writes to the two slots and the environment region, and calls that fail between them. -/
def mixedCalls : List Call := [
  .writeSlot .messageIn "x" 0x1122334455667788,
  .writeSlot .agent "y" 1,
  .refreshEnvironment (some [1, 2, 3]),
  .patchSlot .messageIn "x" [0xaa, 0xbb],
  .refreshEnvironment (some [1, 2, 3, 4, 5, 6, 7, 8, 9]),
  .unregisterVariable .agent "x",
  .finalize,
  .writeSlot .agent "x" 0x0102,
  .dynamicHeader]

/-- A host with two variables after an environment region that ends at the last slot of all, before its
buffer is allocated. -/
def overfull : Host :=
  Host.run { config := { environmentCapacity := addressLimit - slotSize } } [
    .registerVariable .agent { name := "a", typeName := "float", typeSize := 4 },
    .registerVariable .agent { name := "b", typeName := "float", typeSize := 4 },
    .generateHeader]

end Host

end DeviceSlots
