import DeviceSlots.Command.Run
import DeviceSlots.Proofs.Config
import DeviceSlots.Proofs.Device.Delivery
import DeviceSlots.Proofs.Host.Refinement
import DeviceSlots.Proofs.Layout.Existence
import DeviceSlots.Proofs.Manifest.Registered

/-!
# Emission

What a host built from a manifest puts out, if all of its buffer has addresses. Three things may go
wrong, and no others: a property ends beyond the environment region, there is nothing to put in a
buffer, or a snapshot does not fill the environment region. Otherwise the bytes that end up on the
device are the image of the environment and zeros after it.
-/

namespace DeviceSlots

open Method

/-! ## Layouts of what is registered -/

/-- One past the last byte of a declared property. -/
def PropertyDecl.finish (decl : PropertyDecl) : Nat := decl.offset + decl.typeSize * decl.elements

namespace Manifest

variable {m : Manifest} {r : Registries}

/-- After an aligned environment region there is a layout, unless a property ends beyond the region. -/
theorem compute_cases (h : m.registries = .ok r) {capacity : Nat} (haligned : slotSize ∣ capacity)
    (haddressable : capacity + slotSize * m.variableCount < addressLimit) :
    (∃ decl ∈ m.environment, capacity < decl.finish ∧ Layout.compute capacity r =
        .error (.beyondCapacity decl.name decl.offset decl.finish capacity)) ∨
      (∀ decl ∈ m.environment, decl.finish ≤ capacity) ∧
        ∃ layout, Layout.compute capacity r = .ok layout ∧
          layout.offsets.total = capacity + slotSize * m.variableCount := by
  have hbuilt := built_of_registries h
  by_cases hfits : r.Fits capacity
  · obtain ⟨layout, hlayout⟩ := Layout.compute_of_fits hbuilt hfits haligned
    have htotal := Layout.total_eq hlayout ((addressable_iff h).mpr haddressable)
    refine .inr ⟨?_, layout, hlayout, by rw [htotal, length_row h]⟩
    intro decl hdecl
    exact hfits decl.name decl.register ((find?_property_registries h).mpr ⟨decl, hdecl, rfl, rfl⟩)
  · obtain ⟨name, p, hfirst, hcompute⟩ := Layout.compute_of_not_fits hbuilt hfits
    obtain ⟨decl, hdecl, rfl, rfl⟩ := (find?_property_registries h).mp hfirst.registered
    exact .inl ⟨decl, hdecl, hfirst.beyond, hcompute⟩

end Manifest

namespace Command

/-! ## What may go wrong -/

/-- Why a complete model gives no output. -/
inductive Fails (m : Manifest) (snapshot : Option (List UInt8)) (output : Output) : Error → Prop
  /-- A property ends beyond the environment region. -/
  | beyond {decl : PropertyDecl} (hdecl : decl ∈ m.environment)
      (hbeyond : m.config.environmentCapacity < decl.finish) :
      Fails m snapshot output
        (.beyondCapacity decl.name decl.offset decl.finish m.config.environmentCapacity)
  /-- A buffer is needed, and would have no bytes. -/
  | empty (houtput : output ≠ .layout)
      (hsize : m.config.environmentCapacity + slotSize * m.variableCount = 0) :
      Fails m snapshot output .emptyBuffer
  /-- The snapshot does not fill the environment region that it is to be copied to. -/
  | short {bytes : List UInt8} (houtput : output = .buffer) (hsnapshot : snapshot = some bytes)
      (hshort : bytes.length < m.config.environmentCapacity) :
      Fails m snapshot output (.shortSnapshot bytes.length m.config.environmentCapacity)

/-- The image of the environment after a snapshot, if there is one, has been copied to it. -/
def image (capacity : Nat) : Option (List UInt8) → List UInt8
  | none => List.replicate capacity 0
  | some bytes => bytes.take capacity

theorem length_image {capacity : Nat} {snapshot : Option (List UInt8)}
    (h : ∀ bytes, snapshot = some bytes → capacity ≤ bytes.length) :
    (image capacity snapshot).length = capacity := by
  cases snapshot with
  | none => exact List.length_replicate
  | some bytes => exact List.length_take_of_le (h bytes rfl)

/-! ## Outputs of a host -/

variable {host : Host} {snapshot : Option (List UInt8)} {output : Output} {e : Error}

/-- Without a layout there is no output. -/
theorem emit_of_layout_error (hstage : host.stage = .fresh)
    (hlayout : Layout.compute host.config.environmentCapacity host.registries = .error e) :
    emit snapshot output host = .error e host := by
  have hcompute : Host.computeLayout host = .error e host := by
    rw [Host.run_computeLayout_fresh hstage, hlayout]
  have hheader : Host.dynamicHeader host = .error e host := by
    apply Host.run_dynamicHeader_error
    rw [Host.run_generateHeader, if_pos hstage, hlayout]
  cases output <;> simp [emit, pushedBuffer, run_bind, run_discard, hcompute, hheader]

/-- Without a header there is no output but the layout. -/
theorem emit_of_header_error {left : Host} (houtput : output ≠ .layout)
    (hheader : Host.dynamicHeader host = .error e left) :
    emit snapshot output host = .error e left := by
  cases output with
  | layout => contradiction
  | _ => simp [emit, pushedBuffer, run_bind, run_discard, hheader]

theorem emit_layout (snapshot : Option (List UInt8)) (hstage : host.stage = .fresh)
    {layout : Layout}
    (hlayout : Layout.compute host.config.environmentCapacity host.registries = .ok layout) :
    ∃ bytes left, emit snapshot .layout host = .ok bytes left := by
  have hcompute := Host.run_computeLayout_fresh hstage
  rw [hlayout] at hcompute
  simp [emit, run_bind, run_discard, hcompute]

theorem emit_of_header (snapshot : Option (List UInt8)) {text : String} {ready : Host}
    (hlayout : output ≠ .layout) (hbuffer : output ≠ .buffer)
    (hheader : Host.dynamicHeader host = .ok text ready) :
    ∃ bytes left, emit snapshot output host = .ok bytes left := by
  cases output with
  | layout | buffer => contradiction
  | header | buildInfo => simp [emit, run_bind, run_map, run_discard, hheader]

/-- What is pushed is what the buffer holds after the refresh. -/
theorem pushedBuffer_eq_ok {text : String} {ready left : Host} {buffer : Buffer}
    (hheader : Host.dynamicHeader host = .ok text ready)
    (hrefresh : Host.refreshEnvironment snapshot ready = .ok () left)
    (hbuffer : left.buffer = some buffer) (hsize : left.bufferSize = buffer.bytes.length) :
    pushedBuffer snapshot host = .ok buffer.bytes left := by
  obtain ⟨symbol, m', hpush, hcontents⟩ :=
    DeviceModule.laid_empty.push_declare left.config.deviceSymbol buffer.bytes
  simp [pushedBuffer, run_bind, run_map, run_discard, hheader, hrefresh, hsize,
    Host.push_eq hbuffer, hpush, hcontents]

theorem pushedBuffer_eq_error {text : String} {ready left : Host}
    (hheader : Host.dynamicHeader host = .ok text ready)
    (hrefresh : Host.refreshEnvironment snapshot ready = .error e left) :
    pushedBuffer snapshot host = .error e left := by
  simp [pushedBuffer, run_bind, run_discard, hheader, hrefresh]

/-! ## Hosts built from manifests -/

/-- A host that has gone through all stages and holds nothing but zeros. -/
structure Ready (m : Manifest) (ready : Host) : Prop where
  config : ready.config = m.config
  holds : ready.Holds (.initial m.config.environmentCapacity)
  row : ready.registries.row.length = m.variableCount
  size : ready.bufferSize = m.config.environmentCapacity + slotSize * m.variableCount

variable {m : Manifest}

/-- With a layout, all stages can be gone through, unless the buffer would have no bytes. -/
theorem dynamicHeader_cases (hbuilt : m.buildHost = .ok host)
    (haddressable : m.config.environmentCapacity + slotSize * m.variableCount < addressLimit)
    {layout : Layout}
    (hlayout : Layout.compute host.config.environmentCapacity host.registries = .ok layout)
    (htotal : layout.offsets.total = m.config.environmentCapacity + slotSize * m.variableCount) :
    m.config.environmentCapacity + slotSize * m.variableCount = 0 ∧
        (∃ left, Host.dynamicHeader host = .error .emptyBuffer left) ∨
      m.config.environmentCapacity + slotSize * m.variableCount ≠ 0 ∧
        ∃ text ready, Host.dynamicHeader host = .ok text ready ∧ Ready m ready := by
  have hcoherent := (Manifest.reachable_of_buildHost hbuilt).coherent
  obtain ⟨-, r, hregistries, rfl⟩ := Manifest.buildHost_eq_ok_iff.mp hbuilt
  have hfits : (Host.withRegistries m.config r).Addressable :=
    (Manifest.addressable_iff hregistries).mpr haddressable
  have hrun := hcoherent.run_dynamicHeader rfl hlayout
  rw [← htotal]
  by_cases hzero : layout.offsets.total = 0
  · rw [Buffer.allocate, if_pos hzero] at hrun
    exact .inl ⟨hzero, _, hrun⟩
  · rw [Buffer.allocate_eq_ok_iff.mpr ⟨hzero, rfl⟩] at hrun
    refine .inr ⟨hzero, _, _, hrun, rfl, hcoherent.holds_of_dynamicHeader hfits hrun, ?_, htotal⟩
    rw [← Manifest.length_row hregistries]
    exact congrArg List.length (Registries.row_placeSlots _ _ r)

/-- A snapshot that fills the environment region is copied to it, and no other. -/
theorem Ready.refresh_cases {ready : Host} (hready : Ready m ready)
    (snapshot : Option (List UInt8)) :
    (∃ bytes, snapshot = some bytes ∧ bytes.length < m.config.environmentCapacity ∧
        Host.refreshEnvironment snapshot ready =
          .error (.shortSnapshot bytes.length m.config.environmentCapacity) ready) ∨
      (∀ bytes, snapshot = some bytes → m.config.environmentCapacity ≤ bytes.length) ∧
        ∃ left, Host.refreshEnvironment snapshot ready = .ok () left ∧
          left.bufferSize = ready.bufferSize ∧
          left.buffer = some ⟨image m.config.environmentCapacity snapshot ++
            List.replicate (slotSize * m.variableCount) 0⟩ := by
  cases snapshot with
  | none =>
    refine .inr ⟨nofun, ready, rfl, rfl, ?_⟩
    rw [hready.holds.bytes, Contents.bytes_initial, hready.row, image,
      List.replicate_append_replicate]
  | some bytes =>
    by_cases hle : m.config.environmentCapacity ≤ bytes.length
    · have hrefresh := Host.refreshEnvironment_eq_ok hready.holds (hready.config ▸ hle)
      refine .inr ⟨?_, _, hrefresh, rfl, ?_⟩
      · intro bytes' hbytes
        cases hbytes
        exact hle
      · have hslots := Contents.slots_initial m.config.environmentCapacity ready.registries.row
        rw [hready.row] at hslots
        rw [Host.filled, image, ← hslots, hready.config]
        rfl
    · have hrefresh := Host.refreshEnvironment_eq_error hready.holds (hready.config ▸ hle)
      rw [hready.config] at hrefresh
      exact .inl ⟨bytes, rfl, Nat.lt_of_not_le hle, hrefresh⟩

/-- What a buffer of zeros holds after the refresh ends up on the device. -/
theorem Ready.pushedBuffer_cases {text : String} {ready : Host} (hready : Ready m ready)
    (hheader : Host.dynamicHeader host = .ok text ready) (snapshot : Option (List UInt8)) :
    (∃ bytes, snapshot = some bytes ∧ bytes.length < m.config.environmentCapacity ∧
        pushedBuffer snapshot host =
          .error (.shortSnapshot bytes.length m.config.environmentCapacity) ready) ∨
      (∀ bytes, snapshot = some bytes → m.config.environmentCapacity ≤ bytes.length) ∧
        ∃ left, pushedBuffer snapshot host =
          .ok (image m.config.environmentCapacity snapshot ++
            List.replicate (slotSize * m.variableCount) 0) left := by
  obtain ⟨bytes, hsnapshot, hshort, hrefresh⟩ | ⟨hlong, left, hrefresh, hsize, hleft⟩ :=
    hready.refresh_cases snapshot
  · exact .inl ⟨bytes, hsnapshot, hshort, pushedBuffer_eq_error hheader hrefresh⟩
  · have hbytes : left.bufferSize = (image m.config.environmentCapacity snapshot ++
        List.replicate (slotSize * m.variableCount) 0).length := by
      rw [hsize, hready.size, List.length_append, length_image hlong, List.length_replicate]
    exact .inr ⟨hlong, left, pushedBuffer_eq_ok hheader hrefresh hleft hbytes⟩

/-- Where no property ends beyond the environment region, only a buffer can go wrong. -/
theorem Fails.of_within (h : Fails m snapshot output e)
    (hwithin : ∀ decl ∈ m.environment, decl.finish ≤ m.config.environmentCapacity) :
    output ≠ .layout ∧
      (m.config.environmentCapacity + slotSize * m.variableCount = 0 ∨
        output = .buffer ∧
          ∃ bytes, snapshot = some bytes ∧ bytes.length < m.config.environmentCapacity) := by
  cases h with
  | beyond hdecl hbeyond => exact absurd (hwithin _ hdecl) (Nat.not_le_of_lt hbeyond)
  | empty houtput hsize => exact ⟨houtput, .inl hsize⟩
  | short houtput hsnapshot hshort =>
    exact ⟨by rw [houtput]; nofun, .inr ⟨houtput, _, hsnapshot, hshort⟩⟩

/-- A host built from a manifest puts out what is asked for, unless one of three things goes wrong
with the model or the snapshot. -/
theorem emit_cases (hbuilt : m.buildHost = .ok host)
    (haddressable : m.config.environmentCapacity + slotSize * m.variableCount < addressLimit)
    (snapshot : Option (List UInt8)) (output : Output) :
    (∃ e left, Fails m snapshot output e ∧ emit snapshot output host = .error e left) ∨
      (∀ e, ¬ Fails m snapshot output e) ∧
        ∃ bytes left, emit snapshot output host = .ok bytes left ∧
          (output = .buffer → bytes = image m.config.environmentCapacity snapshot ++
            List.replicate (slotSize * m.variableCount) 0) := by
  obtain ⟨hvalid, r, hregistries, rfl⟩ := Manifest.buildHost_eq_ok_iff.mp hbuilt
  have haligned : slotSize ∣ m.config.environmentCapacity :=
    Nat.dvd_of_mod_eq_zero (m.config.validate_eq_ok_iff.mp hvalid).1
  obtain ⟨decl, hdecl, hbeyond, hlayout⟩ | ⟨hwithin, layout, hlayout, htotal⟩ :=
    Manifest.compute_cases hregistries haligned haddressable
  · exact .inl ⟨_, _, .beyond hdecl hbeyond, emit_of_layout_error rfl hlayout⟩
  by_cases hlayoutOnly : output = .layout
  · subst hlayoutOnly
    have hemit : ∃ bytes left, emit snapshot .layout (.withRegistries m.config r) = .ok bytes left :=
      emit_layout snapshot rfl hlayout
    obtain ⟨bytes, left, hemit⟩ := hemit
    exact .inr ⟨fun e h => (h.of_within hwithin).1 rfl, bytes, left, hemit, nofun⟩
  obtain ⟨hzero, left, hheader⟩ | ⟨hsome, text, ready, hheader, hready⟩ :=
    dynamicHeader_cases hbuilt haddressable hlayout htotal
  · exact .inl ⟨_, _, .empty hlayoutOnly hzero, emit_of_header_error hlayoutOnly hheader⟩
  by_cases hbuffer : output = .buffer
  · subst hbuffer
    obtain ⟨bytes, hsnapshot, hshort, hpushed⟩ | ⟨hlong, left, hpushed⟩ :=
      hready.pushedBuffer_cases hheader snapshot
    · exact .inl ⟨_, _, .short rfl hsnapshot hshort, hpushed⟩
    · refine .inr ⟨?_, _, left, hpushed, fun _ => rfl⟩
      intro e h
      rcases (h.of_within hwithin).2 with hzero | ⟨-, bytes, hsnapshot, hshort⟩
      · exact hsome hzero
      · exact absurd (hlong bytes hsnapshot) (Nat.not_le_of_lt hshort)
  · obtain ⟨bytes, left, hemit⟩ := emit_of_header snapshot hlayoutOnly hbuffer hheader
    refine .inr ⟨?_, bytes, left, hemit, fun h => absurd h hbuffer⟩
    intro e h
    rcases (h.of_within hwithin).2 with hzero | ⟨hbuffer', -⟩
    · exact hsome hzero
    · exact hbuffer hbuffer'

end Command

end DeviceSlots
