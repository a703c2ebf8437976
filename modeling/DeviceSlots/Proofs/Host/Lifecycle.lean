import DeviceSlots.Proofs.Host.Transition

/-!
# The life cycle of a host

The stage of a host says which parts it holds, and the parts are always those of its present
configuration and registries: the layout is the one that the registries give, and the header is the
template with the text of each fill point in its place. This holds of every host that can be reached,
also by calls that fail.
-/

namespace DeviceSlots

/-! ## Headers point by point -/

/-- The template with each fill point replaced by a text. -/
def Template.instantiate (text : FillPoint → String) : String :=
  String.join (segments.map fun
    | .fixed lines => Text.unlines lines
    | .fill point => text point)

/-- The lines of a header are the template with the text of each point in its place. -/
theorem Generator.unlines_headerLines (config : Config) (layout : Layout)
    (environment : NameMap Property) :
    Text.unlines (headerLines config layout environment) =
      Template.instantiate (text config layout environment) := by
  have hsegment : ∀ segment ∈ Template.segments,
      Text.unlines (segment.lines (lines config layout environment)) =
        match segment with
        | .fixed lines => Text.unlines lines
        | .fill point => text config layout environment point := by
    intro segment _
    cases segment <;> rfl
  rw [headerLines, Template.lines, Text.unlines_flatMap, List.map_congr_left hsegment]
  rfl

namespace Host

/-! ## Parts by stages -/

/-- What a host holds at its stage. -/
def Holdings (host : Host) : Prop :=
  match host.stage with
  | .fresh => host.header = none ∧ host.buffer = none ∧ host.registries.Unslotted
  | .generating =>
    (∃ layout text, host.layout = some layout ∧ host.header = some text) ∧
      host.buffer = none ∧ host.registries.Unslotted
  | .bufferReady | .finalized =>
    ∃ layout text buffer,
      host.layout = some layout ∧ host.header = some text ∧ host.buffer = some buffer ∧
      buffer.size = layout.offsets.total ∧
      ∀ kind name v, host.registries.findVariable? kind name = some v →
        ∃ offset, v.slot = some offset

/-- The layout is that of the registries without their slots. -/
def CurrentLayout (host : Host) : Prop :=
  ∀ layout, host.layout = some layout →
    Layout.compute host.config.environmentCapacity host.registries.eraseSlots = .ok layout

/-- The header is what the generator gives for the host as it is. -/
def CurrentHeader (host : Host) : Prop :=
  ∀ header, host.header = some header → ∃ layout, host.layout = some layout ∧
    header = Template.instantiate
      (Generator.text host.config layout host.registries.environment) ∧
    Generator.header host.config layout host.registries.environment = .ok header

variable {host : Host}

theorem Coherent.holdings (h : host.Coherent) : host.Holdings := by
  have hready (hstage : host.stage = .bufferReady ∨ host.stage = .finalized) :
      ∃ layout text buffer,
        host.layout = some layout ∧ host.header = some text ∧ host.buffer = some buffer ∧
        buffer.size = layout.offsets.total ∧
        ∀ kind name v, host.registries.findVariable? kind name = some v →
          ∃ offset, v.slot = some offset := by
    obtain ⟨-, text, buffer, -, htext, hbuffer⟩ := h.buffer_of_ready hstage
    obtain ⟨layout, hlayout, hsize, -⟩ := h.slotted buffer hbuffer
    refine ⟨layout, text, buffer, hlayout, htext, hbuffer, hsize, ?_⟩
    intro kind name v hv
    obtain ⟨-, offset, -, -, hslot⟩ := h.exists_slot hbuffer hv
    exact ⟨offset, hslot⟩
  unfold Holdings
  cases hstage : host.stage with
  | fresh =>
    obtain ⟨hheader, hbuffer⟩ := h.no_buffer_of_fresh hstage
    exact ⟨hheader, hbuffer, h.unslotted hbuffer⟩
  | generating =>
    obtain ⟨layout, text, hlayout, htext, hbuffer⟩ := h.layout_of_generating hstage
    exact ⟨⟨layout, text, hlayout, htext⟩, hbuffer, h.unslotted hbuffer⟩
  | bufferReady => exact hready (.inl hstage)
  | finalized => exact hready (.inr hstage)

theorem Coherent.currentHeader (h : host.Coherent) : host.CurrentHeader := by
  intro header hheader
  obtain ⟨layout, hlayout, rfl⟩ := h.header header hheader
  refine ⟨layout, hlayout, Generator.unlines_headerLines _ _ _, ?_⟩
  exact Generator.header_eq_ok host.config layout host.registries.environment

/-- Every host that can be reached holds the parts of its stage, and none of them is stale. -/
theorem lifecycle (h : Reachable host) :
    host.Holdings ∧ host.CurrentLayout ∧ host.CurrentHeader :=
  ⟨h.coherent.holdings, h.coherent.layout, h.coherent.currentHeader⟩

/-- A host with its buffer, which some of the calls before have failed on. -/
def oftenRefused : Host :=
  Host.run { config := { environmentCapacity := 16 } } [
    .registerVariable .agent { name := "x", typeName := "float", typeSize := 4 },
    .registerVariable .agent { name := "x", typeName := "int", typeSize := 4 },
    .registerProperty { name := "seed", offset := 8, typeName := "unsigned int", typeSize := 4 },
    .computeLayout,
    .registerVariable .messageIn { name := "x", typeName := "double", typeSize := 8, write := false },
    .initializeBuffer,
    .generateHeader,
    .unregisterVariable .agent "x",
    .finalize,
    .initializeBuffer,
    .writeSlot .messageIn "x" 7,
    .refreshEnvironment (some [1, 2, 3])]

theorem reachable_oftenRefused : oftenRefused.Reachable :=
  (@Reachable.created { environmentCapacity := 16 } _ rfl).run _

theorem lifecycle_oftenRefused :
    oftenRefused.stage = .bufferReady ∧ oftenRefused.Holdings ∧ oftenRefused.CurrentLayout ∧
      oftenRefused.CurrentHeader :=
  ⟨rfl, lifecycle reachable_oftenRefused⟩

end Host

end DeviceSlots
