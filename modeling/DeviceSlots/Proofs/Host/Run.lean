import DeviceSlots.Host
import DeviceSlots.Proofs.Buffer
import DeviceSlots.Proofs.Failing
import DeviceSlots.Proofs.Header.Assembly
import DeviceSlots.Proofs.Registry.Slots

/-!
# Runs of operations

What each operation of a host does, as one equation: the result and the host that is left. Where an
operation fails, the host that is left is part of the equation as well.
-/

namespace DeviceSlots

namespace Host

open Method

variable {host : Host}

theorem create_eq_ok_iff {config : Config} :
    create config = .ok host ↔ config.validate = .ok () ∧ host = { config } := by
  simp only [create]
  cases config.validate with
  | error e => simp [bind, Except.bind]
  | ok u => simp [bind, Except.bind, pure, Except.pure, eq_comm]

/-! ## Registration -/

/-- The outcome of a change to the registries. While they are open, a result takes their place, and
the layout of the registries before is dropped. -/
def changeRegistries (host : Host) (change : RegistryChange) (changed : Except Error Registries) :
    EStateM.Result Error Host Unit :=
  if host.stage = .fresh then
    match changed with
    | .ok registries => .ok () { host with registries, layout := none }
    | .error e => .error e host
  else .error (.registriesClosed change) host

theorem changeRegistries_fresh (hstage : host.stage = .fresh) (change : RegistryChange)
    (changed : Except Error Registries) :
    host.changeRegistries change changed =
      match changed with
      | .ok registries => .ok () { host with registries, layout := none }
      | .error e => .error e host :=
  if_pos hstage

theorem changeRegistries_frozen (hstage : host.stage ≠ .fresh) (change : RegistryChange)
    (changed : Except Error Registries) :
    host.changeRegistries change changed = .error (.registriesClosed change) host :=
  if_neg hstage

theorem run_onRegistries {α : Type} {x : Method Registries α} (hx : x.Atomic) :
    onRegistries x host =
      match x.outcome host.registries with
      | .ok (a, registries) => .ok a { host with registries }
      | .error e => .error e host := by
  rw [onRegistries, hx.run_on rfl]
  cases x.outcome host.registries <;> rfl

/-- All changes are made in one way: a method that leaves the registries as they were where it fails
works on them, and the layout is dropped. -/
theorem run_change (change : RegistryChange) {x : Method Registries Unit} (hx : x.Atomic) :
    (do requireOpen change; onRegistries x; dropLayout) host =
      host.changeRegistries change (x.leaves host.registries) := by
  by_cases h : host.stage = .fresh
  · cases hr : x.outcome host.registries <;>
      simp [requireOpen, dropLayout, changeRegistries, run_bind, run_onRegistries hx, leaves, h, hr,
        Except.map]
  · simp [requireOpen, changeRegistries, run_bind, h]

theorem run_registerVariable (kind : Kind) (decl : VariableDecl) :
    registerVariable kind decl host =
      host.changeRegistries .registerVariable (host.registries.registerVariable kind decl) :=
  run_change _ (Registries.atomic_addVariable kind decl)

theorem run_unregisterVariable (kind : Kind) (name : String) :
    unregisterVariable kind name host =
      host.changeRegistries .unregisterVariable
        ((host.registries.unregisterVariable kind name).map Prod.snd) := by
  have hx := Registries.atomic_removeVariable kind name
  rw [Registries.unregisterVariable, ← leaves_discard, ← run_change _ hx.discard, unregisterVariable,
    onRegistries, discard_on]
  rfl

theorem run_registerProperty (decl : PropertyDecl) :
    registerProperty decl host =
      host.changeRegistries .registerProperty (host.registries.registerProperty decl) :=
  run_change _ (Registries.atomic_addProperty decl)

theorem run_unregisterProperty (name : String) :
    unregisterProperty name host =
      host.changeRegistries .unregisterProperty
        ((host.registries.unregisterProperty name).map Prod.snd) := by
  have hx := Registries.atomic_removeProperty name
  rw [Registries.unregisterProperty, ← leaves_discard, ← run_change _ hx.discard, unregisterProperty,
    onRegistries, discard_on]
  rfl

/-! ## Layout and header -/

/-- A fresh host computes its layout anew. -/
theorem run_computeLayout_fresh (h : host.stage = .fresh) :
    computeLayout host =
      match Layout.compute host.config.environmentCapacity host.registries with
      | .ok layout => .ok layout.offsets { host with layout := some layout }
      | .error e => .error e host := by
  cases hc : Layout.compute host.config.environmentCapacity host.registries <;>
    simp [computeLayout, run_bind, h, hc]

/-- Once the registries are frozen, the layout is kept. -/
theorem run_computeLayout_kept (h : host.stage ≠ .fresh) {layout : Layout}
    (hlayout : host.layout = some layout) : computeLayout host = .ok layout.offsets host := by
  simp [computeLayout, run_bind, h, hlayout]

theorem run_generateHeader :
    generateHeader host =
      if host.stage = .fresh then
        match Layout.compute host.config.environmentCapacity host.registries with
        | .ok layout =>
          let text := Text.unlines
            (Generator.headerLines host.config layout host.registries.environment)
          .ok text
            { host with stage := .generating, layout := some layout, header := some text }
        | .error e => .error e host
      else .error .headerExists host := by
  by_cases h : host.stage = .fresh
  · cases hc : Layout.compute host.config.environmentCapacity host.registries <;>
      simp [generateHeader, run_bind, run_map, run_discard, run_computeLayout_fresh, h, hc,
        Generator.header_eq_ok]
  · simp [generateHeader, run_bind, h]

/-- A header comes with a layout of the registries. -/
theorem layout_of_generateHeader {text : String} {left : Host}
    (h : generateHeader host = .ok text left) :
    host.stage = .fresh ∧ ∃ layout,
      Layout.compute host.config.environmentCapacity host.registries = .ok layout := by
  rw [run_generateHeader] at h
  split at h
  · rename_i hstage
    split at h
    · rename_i layout hlayout
      exact ⟨hstage, layout, hlayout⟩
    · contradiction
  · contradiction

/-! ## Buffer -/

/-- Registered variables all get their slots. -/
theorem run_assignSlots {offsets : SectionOffsets} {owners : List (Kind × OrdinalEntry)}
    (h : ∀ owner ∈ owners,
      ∃ v, host.registries.eraseSlots.findVariable? owner.1 owner.2.name = some v) :
    assignSlots offsets owners host =
      .ok () { host with registries := host.registries.placeSlots offsets owners } := by
  induction owners generalizing host with
  | nil => rfl
  | cons owner rest ih =>
    obtain ⟨kind, e⟩ := owner
    obtain ⟨v', hv'⟩ := h _ List.mem_cons_self
    rw [Registries.findVariable?_eraseSlots] at hv'
    obtain ⟨v, hv, -⟩ := Option.map_eq_some_iff.mp hv'
    simp only [assignSlots, onRegistries, Method.on, run_bind, Registries.run_assignSlot hv]
    apply ih
    intro owner hmem
    rw [Registries.eraseSlots_placeSlot]
    exact h owner (List.mem_cons_of_mem _ hmem)

/-- The buffer is allocated once, by a host that has its layout and no buffer yet. -/
theorem run_initializeBuffer {layout : Layout} (hstage : host.stage = .generating)
    (hbuffer : host.buffer = none) (hlayout : host.layout = some layout)
    (h : ∀ owner ∈ slotOwners layout,
      ∃ v, host.registries.eraseSlots.findVariable? owner.1 owner.2.name = some v) :
    initializeBuffer host =
      match Buffer.allocate layout.offsets.total with
      | .ok buffer => .ok () { host with
          registries := host.registries.placeSlots layout.offsets (slotOwners layout)
          buffer := some buffer
          stage := .bufferReady }
      | .error e => .error e host := by
  cases ha : Buffer.allocate layout.offsets.total <;>
    simp [initializeBuffer, run_bind, hstage, hbuffer, hlayout, ha, run_assignSlots h]

/-- A buffer comes after the header. -/
theorem run_initializeBuffer_early (hstage : host.stage = .fresh) :
    initializeBuffer host = .error .headerMissing host := by
  simp [initializeBuffer, run_bind, hstage]

/-- A buffer that is there is not allocated anew. -/
theorem run_initializeBuffer_again
    (hstage : host.stage = .bufferReady ∨ host.stage = .finalized) :
    initializeBuffer host = .error .bufferExists host := by
  rcases hstage with h | h <;> simp [initializeBuffer, run_bind, h]

/-- At every other stage the buffer is refused. -/
theorem run_initializeBuffer_closed (hstage : host.stage ≠ .generating) :
    ∃ e, initializeBuffer host = .error e host := by
  cases h : host.stage with
  | generating => exact absurd h hstage
  | fresh => exact ⟨.headerMissing, run_initializeBuffer_early h⟩
  | bufferReady => exact ⟨.bufferExists, run_initializeBuffer_again (.inl h)⟩
  | finalized => exact ⟨.bufferExists, run_initializeBuffer_again (.inr h)⟩

/-- A host with a buffer hands its header off. -/
theorem run_finalize {text : String} (hstage : host.stage = .bufferReady ∨ host.stage = .finalized)
    (hheader : host.header = some text) :
    finalize host = .ok text { host with stage := .finalized } := by
  rcases hstage with h | h <;> simp [finalize, run_bind, h, hheader]

theorem run_finalize_early (hstage : host.stage = .fresh ∨ host.stage = .generating) :
    finalize host = .error .finalizedEarly host := by
  rcases hstage with h | h <;> simp [finalize, run_bind, h]

/-! ## Slots and synchronization -/

/-- The outcome of a change to the buffer: a result takes its place. -/
def changeBuffer (host : Host) : Except Error Buffer → EStateM.Result Error Host Unit
  | .ok buffer => .ok () { host with buffer := some buffer }
  | .error e => .error e host

theorem requireBuffer_eq_ok_iff {buffer : Buffer} :
    host.requireBuffer = .ok buffer ↔ host.buffer = some buffer := by
  rw [requireBuffer]
  cases host.buffer <;> simp

/-- What leaves the buffer as it was where it fails leaves the host as it was there. -/
theorem run_onBuffer {x : Method Buffer Unit} (hx : x.Atomic) :
    onBuffer x host = host.changeBuffer (do x.leaves (← host.requireBuffer)) := by
  cases hb : host.requireBuffer with
  | error e => simp [onBuffer, run_bind, changeBuffer, hb]
  | ok buffer =>
    have hbuffer : { host with buffer := some buffer } = host := by
      rw [← requireBuffer_eq_ok_iff.mp hb]
    rw [onBuffer, run_bind, run_get]
    simp only [run_bind, hb, run_ofExcept_ok, ok_bind]
    rw [hx.run_on hbuffer, leaves]
    cases x.outcome buffer <;> rfl

theorem run_writeSlot (kind : Kind) (name : String) (address : UInt64) :
    writeSlot kind name address host =
      host.changeBuffer (do
        let offset ← host.assignedSlot kind name
        let buffer ← host.requireBuffer
        buffer.writeSlot offset address) := by
  cases hs : host.assignedSlot kind name with
  | error e => simp [writeSlot, run_bind, changeBuffer, hs]
  | ok offset =>
    have hx := Buffer.atomic_storeSlot offset address
    simp only [writeSlot, run_bind, run_get, hs, run_ofExcept_ok, run_onBuffer hx, ok_bind]
    rfl

theorem run_patchSlot (kind : Kind) (name : String) (patch : List UInt8) :
    patchSlot kind name patch host =
      match host.slotPointer kind name with
      | .ok none => .ok false host
      | .ok (some offset) =>
        match host.changeBuffer (do (← host.requireBuffer).patchSlot offset patch) with
        | .ok _ left => .ok true left
        | .error e left => .error e left
      | .error e => .error e host := by
  cases hs : host.slotPointer kind name with
  | error e => simp [patchSlot, run_bind, hs]
  | ok slot =>
    cases slot with
    | none => simp [patchSlot, run_bind, hs]
    | some offset =>
      have hx := Buffer.atomic_storePatch offset patch
      simp only [patchSlot, Buffer.patchSlot, run_bind, run_get, hs, run_ofExcept_ok,
        run_onBuffer hx, run_pure]
      cases host.changeBuffer (do (Buffer.storePatch offset patch).leaves (← host.requireBuffer)) <;>
        rfl

theorem run_refreshEnvironment (snapshot : List UInt8) :
    refreshEnvironment (some snapshot) host =
      host.changeBuffer (do
        (← host.requireBuffer).writeEnvironment snapshot host.config.environmentCapacity) := by
  have hx := Buffer.atomic_storeEnvironment snapshot host.config.environmentCapacity
  simp only [refreshEnvironment, run_bind, run_get, run_onBuffer hx]
  rfl

theorem push_eq_bind (host : Host) (m : DeviceModule) :
    host.push m = host.requireBuffer >>= fun buffer => m.push host.config.deviceSymbol buffer.bytes :=
  outcome_ofExcept_bind _ _ m

end Host

end DeviceSlots
