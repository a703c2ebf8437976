import DeviceSlots.Proofs.Host.Transition
import DeviceSlots.Proofs.Layout.Tiling
import DeviceSlots.Proofs.Registry.Declarations

/-!
# Calls that fail

A call that fails leaves the host as it was. The one exception is a call that goes through all stages
where the buffer would have no bytes: the header, which comes first, stays. Where the buffer as a
whole has addresses, it has no bytes exactly if there is nothing to put in it, neither an environment
region nor a variable; where it has not, its size may wrap around to nothing.
-/

namespace DeviceSlots

/-! ## Layouts without bytes -/

theorem Registries.isEmpty_iff {r : Registries} :
    r.isEmpty = true ↔ r.row = [] ∧ r.environment.toList = [] := by
  have hvariables : (Kind.all.all fun kind => (r.tables.get kind).isEmpty) = true ↔ r.row = [] := by
    simp only [List.all_eq_true, row, List.flatMap_eq_nil_iff, rowOf, List.map_eq_nil_iff,
      NameMap.names, NameMap.isEmpty, List.isEmpty_iff]
    constructor
    · intro h kind _
      exact h kind kind.mem_all
    · intro h kind _
      exact h kind kind.mem_sections
  rw [isEmpty, Bool.and_eq_true, hvariables, NameMap.isEmpty, List.isEmpty_iff]
  rfl

/-- Properties of some size do not fit an environment region of no bytes. -/
theorem Layout.environment_eq_nil {r : Registries} (hoccupied : r.Occupied)
    (h : checkExtents 0 r.environment.toList = .ok ()) : r.environment.toList = [] := by
  apply List.eq_nil_iff_forall_not_mem.mpr
  rintro ⟨name, p⟩ hmem
  obtain ⟨finish, hend, hle⟩ := checkExtents_eq_ok_iff.mp h _ hmem
  have hpos := hoccupied name p ((r.environment.find?_eq_some_iff name p).mpr hmem)
  obtain ⟨hfinish, -⟩ := extentEnd?_eq_some_iff.mp hend
  simp only at hfinish
  omega

namespace Host

variable {host : Host}

/-- A fresh host whose buffer would have no bytes. -/
structure Bufferless (host : Host) : Prop where
  fresh : host.stage = .fresh
  layout : ∃ layout,
    Layout.compute host.config.environmentCapacity host.registries = .ok layout ∧
      layout.offsets.total = 0

/-- There is neither an environment region nor an entry. -/
structure Vacant (host : Host) : Prop where
  capacity : host.config.environmentCapacity = 0
  empty : host.registries.isEmpty = true

/-- Where no slot wraps around, a buffer has no bytes only if there is nothing to put in it. -/
theorem Bufferless.vacant (h : host.Bufferless) (hoccupied : host.registries.Occupied)
    (hfits : host.Addressable) : host.Vacant := by
  obtain ⟨layout, hlayout, htotal⟩ := h.layout
  rw [Layout.total_eq hlayout hfits, slotSize] at htotal
  have hcapacity : host.config.environmentCapacity = 0 := by omega
  have hrow : host.registries.row = [] := List.length_eq_zero_iff.mp (by omega)
  obtain ⟨hextents, -, -⟩ := Layout.compute_eq_ok_iff.mp hlayout
  rw [hcapacity] at hextents
  have henvironment := Layout.environment_eq_nil hoccupied hextents
  exact ⟨hcapacity, Registries.isEmpty_iff.mpr ⟨hrow, henvironment⟩⟩

theorem Vacant.bufferless (h : host.Vacant) (hstage : host.stage = .fresh) : host.Bufferless := by
  obtain ⟨hrow, henvironment⟩ := Registries.isEmpty_iff.mp h.empty
  have hlayout : ∃ layout, Layout.compute 0 host.registries = .ok layout := by
    refine ⟨⟨_, _⟩, Layout.compute_eq_ok_iff.mpr ⟨?_, rfl, rfl⟩⟩
    rw [henvironment]
    rfl
  obtain ⟨layout, hlayout⟩ := hlayout
  refine ⟨hstage, layout, by rw [h.capacity, hlayout], ?_⟩
  rw [Layout.total_eq_wrap hlayout, hrow]
  rfl

/-! ## Failures -/

/-- A call that fails changes nothing, unless it goes through all stages of a host whose buffer would
have no bytes. -/
theorem Coherent.left_of_error (h : host.Coherent) {call : Call} {e : Error} {left : Host}
    (hfailed : call.operation host = .error e left) :
    left = host ∨ call = .dynamicHeader ∧ host.Bufferless := by
  by_cases hcall : call = .dynamicHeader
  · subst hcall
    rcases h.outcome_dynamicHeader with houtcome | ⟨layout, hstage, hlayout, htotal, -⟩
    · left
      have hdiscard := houtcome.discard
      rw [Call.operation] at hfailed
      rw [hfailed] at hdiscard
      cases hdiscard
      rfl
    · exact .inr ⟨rfl, hstage, layout, hlayout, htotal⟩
  · left
    have houtcome := h.outcome hcall
    rw [hfailed] at houtcome
    cases houtcome
    rfl

/-- A host whose buffer would have no bytes keeps the header that its failed run through all stages
has generated. -/
theorem Coherent.dynamicHeader_of_bufferless (h : host.Coherent) (hbufferless : host.Bufferless) :
    ∃ text left,
      Host.dynamicHeader host = .error .emptyBuffer left ∧ Host.generateHeader host = .ok text left ∧
        left.stage = .generating ∧ left.header = some text ∧ left.buffer = none := by
  obtain ⟨layout, hlayout, htotal⟩ := hbufferless.layout
  obtain ⟨-, hbuffer⟩ := h.no_buffer_of_fresh hbufferless.fresh
  refine ⟨_, _, ?_, run_generateHeader_eq_ok hbufferless.fresh hlayout, rfl, rfl, hbuffer⟩
  rw [h.run_dynamicHeader hbufferless.fresh hlayout, Buffer.allocate, if_pos htotal]

/-- A host with nothing to put in a buffer. -/
def nothingToHold : Host := { config := { environmentCapacity := 0 } }

/-- A host with entries, of which the property ends behind the environment region. -/
def cramped : Host :=
  Host.run { config := { environmentCapacity := 8 } } [
    .registerVariable .agent { name := "x", typeName := "float", typeSize := 4 },
    .registerProperty { name := "seed", offset := 8, typeName := "unsigned int", typeSize := 4 }]

/-- Calls that it refuses. -/
def refusedCalls : List Call := [
  .registerVariable .agent { name := "x", typeName := "int", typeSize := 4 },
  .unregisterVariable .agent "y",
  .registerProperty { name := "seed", offset := 0, typeName := "unsigned int", typeSize := 4 },
  .unregisterProperty "width",
  .computeLayout,
  .generateHeader,
  .initializeBuffer,
  .finalize,
  .dynamicHeader,
  .writeSlot .agent "x" 1,
  .slotPointer .messageIn "x",
  .refreshEnvironment (some [1, 2, 3]),
  .push {}]

/-- A fresh host with one variable after an environment region that ends at the last slot of all. -/
def brimfull : Host :=
  Host.run { config := { environmentCapacity := addressLimit - slotSize } } [
    .registerVariable .agent { name := "x", typeName := "float", typeSize := 4 }]

end Host

end DeviceSlots
