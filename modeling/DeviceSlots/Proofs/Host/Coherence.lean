import DeviceSlots.Proofs.Buffer
import DeviceSlots.Proofs.Host.Run
import DeviceSlots.Proofs.Layout.Slots

/-!
# Coherent hosts

A host is coherent if what it holds fits together: the layout is that of its registries, the header
is the one generated from its layout, and the buffer has the layout's size and a slot for every
variable. A created host is coherent, and so is a coherent host after each of the changes that calls
of operations are made of.
-/

namespace DeviceSlots

namespace Host

/-! ## Runs -/

/-- A call of an operation, with its arguments. -/
inductive Call
  | registerVariable (kind : Kind) (decl : VariableDecl)
  | unregisterVariable (kind : Kind) (name : String)
  | registerProperty (decl : PropertyDecl)
  | unregisterProperty (name : String)
  | computeLayout
  | generateHeader
  | initializeBuffer
  | finalize
  | dynamicHeader
  | slotPointer (kind : Kind) (name : String)
  | patchSlot (kind : Kind) (name : String) (patch : List UInt8)
  | writeSlot (kind : Kind) (name : String) (address : UInt64)
  | readSlot (kind : Kind) (name : String)
  | refreshEnvironment (snapshot : Option (List UInt8))
  | push (m : DeviceModule)

/-- The operation that is called, without its result. -/
def Call.operation : Call → Operation Unit
  | registerVariable kind decl => Host.registerVariable kind decl
  | unregisterVariable kind name => Host.unregisterVariable kind name
  | registerProperty decl => Host.registerProperty decl
  | unregisterProperty name => Host.unregisterProperty name
  | computeLayout => discard Host.computeLayout
  | generateHeader => discard Host.generateHeader
  | initializeBuffer => Host.initializeBuffer
  | finalize => discard Host.finalize
  | dynamicHeader => discard Host.dynamicHeader
  | slotPointer kind name => do discard (ofExcept ((← get).slotPointer kind name))
  | patchSlot kind name patch => discard (Host.patchSlot kind name patch)
  | writeSlot kind name address => Host.writeSlot kind name address
  | readSlot kind name => do discard (ofExcept ((← get).readSlot kind name))
  | refreshEnvironment snapshot => Host.refreshEnvironment snapshot
  | push m => do discard (ofExcept ((← get).push m))

/-- The host after a call, which may have failed. -/
def after (host : Host) (call : Call) : Host := Method.left (call.operation host)

/-- The host after a row of calls. -/
def run (host : Host) (calls : List Call) : Host := calls.foldl after host

/-- A host that comes from creation by calls of operations. -/
inductive Reachable : Host → Prop
  | created {config : Config} {host : Host} (h : create config = .ok host) : Reachable host
  | after {host : Host} (h : Reachable host) (call : Call) : Reachable (host.after call)

theorem Reachable.run {host : Host} (h : Reachable host) (calls : List Call) :
    Reachable (host.run calls) := by
  induction calls generalizing host with
  | nil => exact h
  | cons call rest ih => exact ih (h.after call)

/-! ## The invariant -/

/-- The whole buffer of a host has addresses, so that no slot wraps around. -/
def Addressable (host : Host) : Prop :=
  host.registries.Addressable host.config.environmentCapacity

instance (host : Host) : Decidable host.Addressable :=
  inferInstanceAs (Decidable (Registries.Addressable _ _))

/-- The parts that a host has at its stage. -/
def Staged (host : Host) : Prop :=
  match host.stage with
  | .fresh => host.header = none ∧ host.buffer = none
  | .generating => host.layout.isSome ∧ host.header.isSome ∧ host.buffer = none
  | .bufferReady | .finalized => host.layout.isSome ∧ host.header.isSome ∧ host.buffer.isSome

/-- What a host holds fits together. -/
structure Coherent (host : Host) : Prop where
  valid : host.config.validate = .ok ()
  staged : host.Staged
  /-- The layout is that of the registries. -/
  layout : ∀ layout, host.layout = some layout →
    Layout.compute host.config.environmentCapacity host.registries.eraseSlots = .ok layout
  /-- The header is generated from the layout. -/
  header : ∀ text, host.header = some text → ∃ layout, host.layout = some layout ∧
    text = Text.unlines (Generator.headerLines host.config layout host.registries.environment)
  /-- Without a buffer there are no slots. -/
  unslotted : host.buffer = none → host.registries.Unslotted
  /-- The buffer has the size and the slots of the layout. -/
  slotted : ∀ buffer, host.buffer = some buffer → ∃ layout, host.layout = some layout ∧
    buffer.size = layout.offsets.total ∧
    ∀ kind name v, host.registries.findVariable? kind name = some v →
      v.slot = layout.slotOffset? kind name

variable {host : Host}

/-- A fresh host holds no header and no buffer, so only its layout has to fit. -/
theorem coherent_of_fresh (hvalid : host.config.validate = .ok ()) (hstage : host.stage = .fresh)
    (hempty : host.header = none ∧ host.buffer = none) (hslots : host.registries.Unslotted)
    (hlayout : ∀ layout, host.layout = some layout →
      Layout.compute host.config.environmentCapacity host.registries = .ok layout) :
    host.Coherent := by
  obtain ⟨hheader, hbuffer⟩ := hempty
  exact {
    valid := hvalid
    staged := by
      rw [Staged, hstage]
      exact ⟨hheader, hbuffer⟩
    layout := by
      rw [Registries.eraseSlots_eq_self hslots]
      exact hlayout
    header := by
      intro text htext
      rw [hheader] at htext
      contradiction
    unslotted := fun _ => hslots
    slotted := by
      intro buffer hsome
      rw [hbuffer] at hsome
      contradiction }

theorem coherent_of_create {config : Config} (h : create config = .ok host) : host.Coherent := by
  obtain ⟨hvalid, rfl⟩ := create_eq_ok_iff.mp h
  exact coherent_of_fresh hvalid rfl ⟨rfl, rfl⟩ Registries.unslotted_empty (by simp)

namespace Coherent

theorem no_buffer_of_fresh (h : host.Coherent) (hstage : host.stage = .fresh) :
    host.header = none ∧ host.buffer = none := by
  have hs := h.staged
  rw [Staged, hstage] at hs
  exact hs

theorem layout_of_generating (h : host.Coherent) (hstage : host.stage = .generating) :
    ∃ layout text, host.layout = some layout ∧ host.header = some text ∧ host.buffer = none := by
  have hs := h.staged
  rw [Staged, hstage] at hs
  obtain ⟨hlayout, hheader, hbuffer⟩ := hs
  obtain ⟨layout, hlayout⟩ := Option.isSome_iff_exists.mp hlayout
  obtain ⟨text, hheader⟩ := Option.isSome_iff_exists.mp hheader
  exact ⟨layout, text, hlayout, hheader, hbuffer⟩

theorem buffer_of_ready (h : host.Coherent)
    (hstage : host.stage = .bufferReady ∨ host.stage = .finalized) :
    ∃ layout text buffer,
      host.layout = some layout ∧ host.header = some text ∧ host.buffer = some buffer := by
  have hs : host.layout.isSome ∧ host.header.isSome ∧ host.buffer.isSome := by
    have hs := h.staged
    rcases hstage with hstage | hstage <;> (rw [Staged, hstage] at hs; exact hs)
  obtain ⟨hlayout, hheader, hbuffer⟩ := hs
  obtain ⟨layout, hlayout⟩ := Option.isSome_iff_exists.mp hlayout
  obtain ⟨text, hheader⟩ := Option.isSome_iff_exists.mp hheader
  obtain ⟨buffer, hbuffer⟩ := Option.isSome_iff_exists.mp hbuffer
  exact ⟨layout, text, buffer, hlayout, hheader, hbuffer⟩

/-- A host has a buffer only at the last two stages. -/
theorem ready_of_buffer (h : host.Coherent) {buffer : Buffer} (hbuffer : host.buffer = some buffer) :
    host.stage = .bufferReady ∨ host.stage = .finalized := by
  cases hstage : host.stage with
  | fresh =>
    obtain ⟨-, hnone⟩ := h.no_buffer_of_fresh hstage
    rw [hnone] at hbuffer
    contradiction
  | generating =>
    obtain ⟨-, -, -, -, hnone⟩ := h.layout_of_generating hstage
    rw [hnone] at hbuffer
    contradiction
  | bufferReady => exact .inl rfl
  | finalized => exact .inr rfl

theorem layout_of_frozen (h : host.Coherent) (hstage : host.stage ≠ .fresh) :
    ∃ layout, host.layout = some layout := by
  cases hs : host.stage with
  | fresh => exact absurd hs hstage
  | generating =>
    obtain ⟨layout, -, hlayout, -⟩ := h.layout_of_generating hs
    exact ⟨layout, hlayout⟩
  | bufferReady =>
    obtain ⟨layout, -, -, hlayout, -⟩ := h.buffer_of_ready (.inl hs)
    exact ⟨layout, hlayout⟩
  | finalized =>
    obtain ⟨layout, -, -, hlayout, -⟩ := h.buffer_of_ready (.inr hs)
    exact ⟨layout, hlayout⟩

/-- While registries are open, nothing but the layout depends on them. -/
theorem changeRegistries (h : host.Coherent) (hstage : host.stage = .fresh)
    {registries : Registries} (hslots : registries.Unslotted) :
    Coherent { host with registries, layout := none } :=
  coherent_of_fresh h.valid hstage (h.no_buffer_of_fresh hstage) hslots (by simp)

/-- A buffer may take the place of one of its size. -/
theorem changeBuffer (h : host.Coherent) {buffer buffer' : Buffer}
    (hbuffer : host.buffer = some buffer) (hsize : buffer'.size = buffer.size) :
    Coherent { host with buffer := some buffer' } := by
  obtain ⟨layout, hlayout, htotal, hslots⟩ := h.slotted buffer hbuffer
  exact {
    valid := h.valid
    staged := by
      have hs := h.staged
      cases hstage : host.stage <;> simp_all [Staged]
    layout := h.layout
    header := h.header
    unslotted := nofun
    slotted := by
      intro b hb
      cases hb
      exact ⟨layout, hlayout, hsize.trans htotal, hslots⟩ }

theorem computeLayout (h : host.Coherent) (hstage : host.stage = .fresh) {layout : Layout}
    (hlayout : Layout.compute host.config.environmentCapacity host.registries = .ok layout) :
    Coherent { host with layout := some layout } := by
  have hempty := h.no_buffer_of_fresh hstage
  refine coherent_of_fresh h.valid hstage hempty (h.unslotted hempty.2) ?_
  intro l hl
  cases hl
  exact hlayout

theorem generateHeader (h : host.Coherent) (hstage : host.stage = .fresh) {layout : Layout}
    (hlayout : Layout.compute host.config.environmentCapacity host.registries = .ok layout) :
    Coherent { host with
      stage := .generating
      layout := some layout
      header := some (Text.unlines
        (Generator.headerLines host.config layout host.registries.environment)) } := by
  obtain ⟨-, hbuffer⟩ := h.no_buffer_of_fresh hstage
  exact {
    valid := h.valid
    staged := ⟨rfl, rfl, hbuffer⟩
    layout := (h.computeLayout hstage hlayout).layout
    header := by
      intro text htext
      cases htext
      exact ⟨layout, rfl, rfl⟩
    unslotted := h.unslotted
    slotted := by
      intro buffer hsome
      rw [hbuffer] at hsome
      contradiction }

/-- The variables of the layout are registered. -/
theorem find?_slotOwners (h : host.Coherent) {layout : Layout} (hlayout : host.layout = some layout) :
    ∀ owner ∈ slotOwners layout,
      ∃ v, host.registries.eraseSlots.findVariable? owner.1 owner.2.name = some v := by
  intro owner hmem
  simp only [slotOwners, List.mem_flatMap, List.mem_map] at hmem
  obtain ⟨kind, -, e, he, rfl⟩ := hmem
  exact ⟨e.details, Layout.find?_of_mem (h.layout layout hlayout) he⟩

/-- Once slots are given out, every variable has the slot that the layout has for its name. -/
theorem slot_placeSlots (h : host.Coherent) {layout : Layout} (hlayout : host.layout = some layout)
    {kind : Kind} {name : String} {v : Variable}
    (hv : (host.registries.placeSlots layout.offsets (slotOwners layout)).findVariable? kind name =
      some v) :
    v.slot = layout.slotOffset? kind name := by
  have hcompute := h.layout layout hlayout
  -- the place of a name, which all entries of the layout agree with
  have hplace : ∀ owner ∈ slotOwners layout, layout.offsets.slotOffset owner.1 owner.2.ordinal =
      (layout.slotOffset? owner.1 owner.2.name).getD 0 := by
    intro owner hmem
    simp only [slotOwners, List.mem_flatMap, List.mem_map] at hmem
    obtain ⟨kind, -, e, he, rfl⟩ := hmem
    rw [Layout.slotOffset?_of_mem hcompute he, Option.getD_some]
  -- the variable was registered before, so the layout has an entry for it
  have hfind := congrArg (·.findVariable? kind name)
    (Registries.eraseSlots_placeSlots layout.offsets (slotOwners layout) host.registries)
  simp only [Registries.findVariable?_eraseSlots, hv, Option.map_some] at hfind
  obtain ⟨u, hu, -⟩ := Option.map_eq_some_iff.mp hfind.symm
  have hu' : host.registries.eraseSlots.findVariable? kind name = some u.eraseSlot := by
    rw [Registries.findVariable?_eraseSlots, hu, Option.map_some]
  obtain ⟨e, he, hname, -⟩ := Layout.exists_entry hcompute hu'
  have howner : (kind, e) ∈ slotOwners layout :=
    List.mem_flatMap.mpr ⟨kind, kind.mem_sections, List.mem_map.mpr ⟨e, he, rfl⟩⟩
  obtain ⟨v', hv', hslot⟩ := Registries.slot_placeSlots
    (fun kind name => (layout.slotOffset? kind name).getD 0) hplace hu
    (.inr ⟨(kind, e), howner, rfl, hname⟩)
  rw [hv] at hv'
  cases hv'
  rw [hslot, ← hname, Layout.slotOffset?_of_mem hcompute he, Option.getD_some]

theorem initializeBuffer (h : host.Coherent) (hstage : host.stage = .generating) {layout : Layout}
    (hlayout : host.layout = some layout) {buffer : Buffer}
    (hbuffer : Buffer.allocate layout.offsets.total = .ok buffer) :
    Coherent { host with
      registries := host.registries.placeSlots layout.offsets (slotOwners layout)
      buffer := some buffer
      stage := .bufferReady } := by
  obtain ⟨-, text, -, htext, -⟩ := h.layout_of_generating hstage
  have herase := Registries.eraseSlots_placeSlots layout.offsets (slotOwners layout) host.registries
  have henvironment := congrArg Registries.environment herase
  simp only [Registries.environment_eraseSlots] at henvironment
  exact {
    valid := h.valid
    staged := ⟨by rw [hlayout]; rfl, by rw [htext]; rfl, rfl⟩
    layout := by
      intro l hl
      rw [herase]
      exact h.layout l hl
    header := by
      intro t ht
      rw [henvironment]
      exact h.header t ht
    unslotted := nofun
    slotted := by
      intro b hb
      cases hb
      exact ⟨layout, hlayout, Buffer.size_allocate hbuffer, fun _ _ _ => h.slot_placeSlots hlayout⟩ }

theorem finalize (h : host.Coherent)
    (hstage : host.stage = .bufferReady ∨ host.stage = .finalized) :
    Coherent { host with stage := .finalized } := by
  obtain ⟨layout, text, buffer, hlayout, htext, hbuffer⟩ := h.buffer_of_ready hstage
  exact {
    valid := h.valid
    staged := ⟨by rw [hlayout]; rfl, by rw [htext]; rfl, by rw [hbuffer]; rfl⟩
    layout := h.layout
    header := h.header
    unslotted := h.unslotted
    slotted := h.slotted }

/-- Beside a buffer, every variable has a slot, the one that the layout has for it. -/
theorem exists_slot (h : host.Coherent) {buffer : Buffer} (hbuffer : host.buffer = some buffer)
    {kind : Kind} {name : String} {v : Variable}
    (hv : host.registries.findVariable? kind name = some v) :
    ∃ layout offset, host.layout = some layout ∧ layout.slotOffset? kind name = some offset ∧
      v.slot = some offset := by
  obtain ⟨layout, hlayout, -, hslots⟩ := h.slotted buffer hbuffer
  have hcompute := h.layout layout hlayout
  have hregistered : host.registries.eraseSlots.findVariable? kind name = some v.eraseSlot := by
    rw [Registries.findVariable?_eraseSlots, hv, Option.map_some]
  obtain ⟨e, he, rfl, -⟩ := Layout.exists_entry hcompute hregistered
  have hoffset := Layout.slotOffset?_of_mem hcompute he
  exact ⟨layout, _, hlayout, hoffset, (hslots kind e.name v hv).trans hoffset⟩

section

variable (h : host.Coherent) (hfits : host.Addressable) {buffer : Buffer}
  (hbuffer : host.buffer = some buffer)
include h hfits hbuffer

/-- The environment region lies within the buffer. -/
theorem capacity_le_size : host.config.environmentCapacity ≤ buffer.size := by
  obtain ⟨layout, hlayout, hsize, -⟩ := h.slotted buffer hbuffer
  obtain ⟨-, -, hoffsets⟩ := Layout.compute_eq_ok_iff.mp (h.layout layout hlayout)
  rw [hsize]
  exact SectionOffsets.capacity_le_total hoffsets (Registries.addressable_eraseSlots.mpr hfits)

/-- The slots of variables lie within the buffer. -/
theorem slot_within {kind : Kind} {name : String} {v : Variable} {offset : Nat}
    (hv : host.registries.findVariable? kind name = some v) (hslot : v.slot = some offset) :
    offset + slotSize ≤ buffer.size := by
  obtain ⟨layout, hlayout, hsize, hslots⟩ := h.slotted buffer hbuffer
  rw [hsize]
  exact Layout.slotOffset?_add_le_total (h.layout layout hlayout)
    (Registries.addressable_eraseSlots.mpr hfits) ((hslots kind name v hv).symm.trans hslot)

end

end Coherent

end Host

end DeviceSlots
