import DeviceSlots.Proofs.Accessor.Bodies
import DeviceSlots.Proofs.Accessor.WrittenOffset
import DeviceSlots.Proofs.Header.Reading
import DeviceSlots.Proofs.Host.Transition

/-!
# Agreement on slots

Several parts of a host say where a variable's slot is: the registry, the layout, its report, the
buffer, and the code in the header. They were made at different times, each from its own selection of
the variables, and they all say the same.
-/

namespace DeviceSlots

open Text

/-! ## The declared length -/

/-- What stands before the length of the device buffer on the line that declares it. -/
def declarationMark (symbol : String) : List Char := ("__constant__ char " ++ symbol ++ "[").toList

/-- The length of the device buffer that a line declares, if it does. -/
def declaredLength? (symbol line : String) : Option Nat :=
  let rest := line.toList.drop (declarationMark symbol).length
  if (declarationMark symbol).isPrefixOf line.toList ∧ rest.dropWhile Char.isDigit = "];".toList then
    leadingNumber? rest
  else none

/-- The lengths of the device buffer that the lines of a header declare. -/
def declaredLengths (symbol text : String) : List Nat :=
  (Text.lines text).filterMap (declaredLength? symbol)

theorem declaredLength?_eq_none {symbol line : String}
    (h : line.toList.take 3 ≠ ['_', '_', 'c']) : declaredLength? symbol line = none := by
  apply if_neg
  rintro ⟨hstarts, -⟩
  obtain ⟨rest, hrest⟩ := List.isPrefixOf_iff_prefix.mp hstarts
  apply h
  rw [← hrest, declarationMark, String.toList_append, String.toList_append]
  rfl

theorem declaredLength?_of_isCode {symbol line : String} (h : IsCode 0 line) :
    declaredLength? symbol line = none := by
  obtain ⟨margin, code, hmargin, rfl, -⟩ := h
  apply declaredLength?_eq_none
  obtain ⟨n, rfl⟩ := Nat.exists_eq_succ_of_ne_zero (Nat.ne_of_gt hmargin)
  simp [toList_indented, List.replicate_succ]

namespace Generator

variable {config : Config} (layout : Layout) (environment : NameMap Property)

theorem declaredLength?_declaration :
    declaredLength? config.symbolName (declaration config layout) = some layout.offsets.total := by
  have htext : (declaration config layout).toList = declarationMark config.symbolName ++
      ((Nat.repr layout.offsets.total).toList ++ "];".toList) := by
    unfold declaration
    simp only [toString_self, String.toList_append, declarationMark, List.append_assoc]
    rfl
  have hdigits : ∀ c ∈ (Nat.repr layout.offsets.total).toList, c.isDigit = true := by
    intro c hc
    rw [Nat.toList_repr] at hc
    exact Nat.isDigit_of_mem_toDigits (by decide) (by decide) hc
  simp only [declaredLength?, htext, List.drop_left, List.dropWhile_append_of_pos hdigits]
  rw [if_pos ⟨List.isPrefixOf_iff_prefix.mpr (List.prefix_append _ _), by decide⟩]
  exact leadingNumber?_repr _ (by simp)

/-- The lengths that the lines of a point declare. -/
theorem declaredLengths_lines (hvalid : config.validate = .ok ()) (point : FillPoint) :
    (lines config layout environment point).filterMap (declaredLength? config.symbolName) =
      if point = .declaration then [layout.offsets.total] else [] := by
  have hdirective : ∀ line ∈ directives, line.toList.take 3 ≠ ['_', '_', 'c'] := by decide
  have hbody : ∀ line, config.seatbelts = .preprocessor ∧ line ∈ directives ∨ IsCode 0 line →
      declaredLength? config.symbolName line = none := by
    rintro line (⟨-, hmem⟩ | hcode)
    · exact declaredLength?_eq_none (hdirective line hmem)
    · exact declaredLength?_of_isCode hcode
  cases point with
  | declaration => simp [lines, declaredLength?_declaration]
  | environment access =>
    rw [if_neg (by simp), List.filterMap_eq_nil_iff]
    intro line hline
    have hlegible := legible_environmentBody config environment access
    exact hbody line (Body.line_isCode hlegible hvalid hline)
  | accessor kind access =>
    rw [if_neg (by simp), List.filterMap_eq_nil_iff]
    intro line hline
    have hlegible := legible_variableBody config layout kind access
    exact hbody line (Body.line_isCode hlegible hvalid hline)

/-- A header declares the device buffer once, with the length of the layout. -/
theorem declaredLengths_header (hvalid : config.validate = .ok ()) :
    declaredLengths config.symbolName (unlines (headerLines config layout environment)) =
      [layout.offsets.total] := by
  have haround : ∀ line ∈ Template.start ++ [Template.finish],
      line.toList.take 3 ≠ ['_', '_', 'c'] := by decide
  have hstart : Template.start.filterMap (declaredLength? config.symbolName) = [] := by
    rw [List.filterMap_eq_nil_iff]
    intro line hline
    exact declaredLength?_eq_none (haround line (List.mem_append_left _ hline))
  have hfinish : [Template.finish].filterMap (declaredLength? config.symbolName) = [] := by
    rw [List.filterMap_eq_nil_iff]
    intro line hline
    exact declaredLength?_eq_none (haround line (List.mem_append_right _ hline))
  have hsegment : ∀ segment ∈ Template.inner,
      (segment.lines (lines config layout environment)).filterMap
          (declaredLength? config.symbolName) =
        match segment with
        | .fill .declaration => [layout.offsets.total]
        | _ => [] := by
    intro segment hsegment
    cases segment with
    | fixed ls =>
      rw [List.filterMap_eq_nil_iff]
      intro line hline
      have hinert := Template.inert_inner line (List.mem_flatMap.mpr ⟨_, hsegment, hline⟩)
      exact declaredLength?_eq_none hinert.begins
    | fill point =>
      rw [Segment.lines, declaredLengths_lines layout environment hvalid]
      cases point <;> rfl
  rw [declaredLengths, lines_header layout environment hvalid, headerLines, Template.lines_eq,
    List.filterMap_append, List.filterMap_append, hstart, hfinish, List.filterMap_flatMap,
    List.flatMap_def, List.map_congr_left hsegment]
  rfl

end Generator

/-! ## One place for each slot -/

/-- Every part of a host has the slot of a variable at the same offset. -/
structure SlotAt (host : Host) (layout : Layout) (kind : Kind) (name : String) (v : Variable)
    (offset : Nat) : Prop where
  cached : host.slotOffset kind name = .ok (some offset)
  looked_up : layout.slotOffset? kind name = some offset
  reported : ((layout.report.slots.get kind).filter fun slot => slot.name = name).map (·.offset) =
    [offset]
  pointed : host.slotPointer kind name = .ok (some offset)
  written : ∀ access : Access, access.admits v host.config.vectorTypes = true →
    writtenOffsets host.config.symbolName Generator.variableMargin name
      ((Generator.variableBody host.config layout kind access).code host.config) = [offset]

/-- Every part of a host has the buffer at the same length. -/
structure BufferLength (host : Host) (header : String) (buffer : Buffer) (length : Nat) : Prop where
  declared : declaredLengths host.config.symbolName header = [length]
  reported : host.bufferSize = length
  computed : ∃ offsets, Host.computeLayout host = .ok offsets host ∧ offsets.total = length
  allocated : buffer.size = length

namespace Layout

variable {capacity : Nat} {r : Registries} {layout : Layout}

theorem filter_report (h : compute capacity r = .ok layout) {kind : Kind} {e : OrdinalEntry}
    (he : e ∈ layout.ordinals.get kind) :
    ((layout.report.slots.get kind).filter fun slot => slot.name = e.name).map (·.offset) =
      [layout.offsets.slotOffset kind e.ordinal] := by
  have hnames : ((layout.ordinals.get kind).map (·.name)).Nodup := by
    rw [(compute_eq_ok_iff.mp h).2.1]
    exact OrdinalTable.nodup_names r kind
  have hone := filter_of_nodup hnames he
  simp only [report, ByKind.get_ofFn, List.filter_map, Function.comp_def, hone, List.map_cons,
    List.map_nil]

end Layout

namespace Host

variable {host : Host}

theorem Coherent.of_buffer (h : host.Coherent) {buffer : Buffer}
    (hbuffer : host.buffer = some buffer) :
    host.stage ≠ .fresh ∧ ∃ text, host.header = some text := by
  have hready := h.ready_of_buffer hbuffer
  obtain ⟨-, text, -, -, htext, -⟩ := h.buffer_of_ready hready
  refine ⟨?_, text, htext⟩
  rcases hready with hstage | hstage <;> simp [hstage]

theorem Coherent.slotAt (h : host.Coherent) (hfits : host.Addressable) {buffer : Buffer}
    (hbuffer : host.buffer = some buffer) {layout : Layout} (hlayout : host.layout = some layout)
    {kind : Kind} {name : String} {v : Variable}
    (hv : host.registries.findVariable? kind name = some v) :
    ∃ offset, SlotAt host layout kind name v offset := by
  obtain ⟨layout', hlayout', hsize, hslots⟩ := h.slotted buffer hbuffer
  obtain rfl : layout = layout' := Option.some.inj (hlayout.symm.trans hlayout')
  have hcompute := h.layout layout hlayout
  have hregistered : host.registries.eraseSlots.findVariable? kind name = some v.eraseSlot := by
    rw [Registries.findVariable?_eraseSlots, hv]
    rfl
  obtain ⟨entry, hentry, rfl, hdetails⟩ := Layout.exists_entry hcompute hregistered
  have hoffset := Layout.slotOffset?_of_mem hcompute hentry
  have hcached : host.slotOffset kind entry.name =
      .ok (some (layout.offsets.slotOffset kind entry.ordinal)) := by
    rw [Host.slotOffset, Registries.cachedSlot, hv]
    simp only [hslots kind entry.name v hv, hoffset]
  have hwithin : buffer.slotPointer (layout.offsets.slotOffset kind entry.ordinal) =
      .ok (layout.offsets.slotOffset kind entry.ordinal) := by
    rw [Buffer.slotPointer, if_pos]
    rw [hsize]
    exact Layout.slotOffset_add_le_total hcompute (Registries.addressable_eraseSlots.mpr hfits)
      hentry
  refine ⟨layout.offsets.slotOffset kind entry.ordinal, ?_⟩
  exact {
    cached := hcached
    looked_up := hoffset
    reported := Layout.filter_report hcompute hentry
    pointed := by
      simp only [slotPointer, hcached, requireBuffer, hbuffer, hwithin, ok_bind]
      rfl
    written := by
      intro access hadmits
      obtain ⟨offset, hoffset', hblock⟩ :=
        Generator.exists_variableBlock hcompute host.config hregistered hadmits
      obtain rfl := Option.some.inj (hoffset.symm.trans hoffset')
      have hwritten := Body.writtenOffsets_code
        (Generator.legible_variableBody host.config layout kind access) h.valid
        (Generator.nodup_variableBody hcompute host.config kind access) hblock
      have hone : ∀ offset, (Generator.variableAction host.config access v.eraseSlot
          offset).offset?.toList = [offset] := by
        intro offset
        rcases Generator.variableAction_cases host.config access v.eraseSlot offset with
          h | h | h <;> (rw [h]; rfl)
      exact hwritten.trans (hone _) }

theorem Coherent.bufferLength (h : host.Coherent) {buffer : Buffer}
    (hbuffer : host.buffer = some buffer) {layout : Layout} (hlayout : host.layout = some layout)
    {header : String} (hheader : host.header = some header) :
    BufferLength host header buffer layout.offsets.total := by
  obtain ⟨hstage, -⟩ := h.of_buffer hbuffer
  obtain ⟨layout', hlayout', hsize, -⟩ := h.slotted buffer hbuffer
  obtain rfl : layout = layout' := Option.some.inj (hlayout.symm.trans hlayout')
  obtain ⟨layout', hlayout', rfl⟩ := h.header header hheader
  obtain rfl : layout = layout' := Option.some.inj (hlayout.symm.trans hlayout')
  exact {
    declared := Generator.declaredLengths_header layout host.registries.environment h.valid
    reported := by rw [bufferSize, hlayout]
    computed := ⟨layout.offsets, run_computeLayout_kept hstage hlayout, rfl⟩
    allocated := hsize }

/-- The body of each accessor stands in the header. -/
theorem Coherent.code_infix (h : host.Coherent) {layout : Layout}
    (hlayout : host.layout = some layout)
    {header : String} (hheader : host.header = some header) {kind : Kind} {access : Access}
    (hpoint : .accessor kind access ∈ Template.points) :
    ((Generator.variableBody host.config layout kind access).code host.config).toList <:+:
      header.toList := by
  obtain ⟨layout', hlayout', rfl⟩ := h.header header hheader
  obtain rfl : layout = layout' := Option.some.inj (hlayout.symm.trans hlayout')
  obtain ⟨before, after, hsplit⟩ :=
    Generator.headerLines_split host.config layout host.registries.environment hpoint
  rw [hsplit]
  exact unlines_infix before _ after

/-- In a host with a buffer that has addresses as a whole, all parts agree on every slot and on the
length of the buffer. -/
theorem slots_agree (h : Reachable host) (hfits : host.Addressable) {buffer : Buffer}
    (hbuffer : host.buffer = some buffer) :
    ∃ layout header, host.layout = some layout ∧ host.header = some header ∧
      (∀ kind name v, host.registries.findVariable? kind name = some v →
        ∃ offset, SlotAt host layout kind name v offset) ∧
      (∀ kind access, .accessor kind access ∈ Template.points →
        ((Generator.variableBody host.config layout kind access).code host.config).toList <:+:
          header.toList) ∧
      BufferLength host header buffer layout.offsets.total := by
  have hcoherent := h.coherent
  obtain ⟨layout, hlayout, -⟩ := hcoherent.slotted buffer hbuffer
  obtain ⟨-, header, hheader⟩ := hcoherent.of_buffer hbuffer
  refine ⟨layout, header, hlayout, hheader, ?_, ?_, ?_⟩
  · intro kind name v hv
    exact hcoherent.slotAt hfits hbuffer hlayout hv
  · intro kind access hpoint
    exact hcoherent.code_infix hlayout hheader hpoint
  · exact hcoherent.bufferLength hbuffer hlayout hheader

/-- A host that has gone through all stages. Its variables are of all kinds, and each accessor passes
over some of them: over arrays or what is no array, and over what it may not read or write. -/
def mixed : Host :=
  Host.run { config := { environmentCapacity := 16 } } [
    .registerVariable .newAgent { name := "x", typeName := "float", typeSize := 4, read := false },
    .registerVariable .agent { name := "x", typeName := "float", typeSize := 4 },
    .registerVariable .agent
      { name := "path", typeName := "double", typeSize := 8, elements := 3 },
    .registerVariable .agent { name := "id", typeName := "int", typeSize := 4, write := false },
    .registerVariable .agent { name := "id", typeName := "int", typeSize := 8 },
    .registerVariable .messageIn { name := "x", typeName := "float", typeSize := 4, write := false },
    .registerVariable .messageOut { name := "x", typeName := "float", typeSize := 4, read := false },
    .dynamicHeader]

theorem reachable_mixed : mixed.Reachable :=
  (@Reachable.created { environmentCapacity := 16 } _ rfl).run _

/-- Where the slots of the variables are. -/
def mixedSlots : List (Kind × String × Nat) := [
  (.agent, "id", 16), (.agent, "path", 24), (.agent, "x", 32),
  (.messageOut, "x", 40), (.messageIn, "x", 48), (.newAgent, "x", 56)]

theorem slots_agree_mixed :
    mixed.Addressable ∧ mixed.buffer = some ⟨List.replicate 64 0⟩ ∧
      ∃ layout header, mixed.layout = some layout ∧ mixed.header = some header ∧
        (∀ slot ∈ mixedSlots, ∃ v,
          mixed.registries.findVariable? slot.1 slot.2.1 = some v ∧
            SlotAt mixed layout slot.1 slot.2.1 v slot.2.2) ∧
        BufferLength mixed header ⟨List.replicate 64 0⟩ 64 := by
  have hfits : mixed.Addressable := by decide +kernel
  have hbuffer : mixed.buffer = some ⟨List.replicate 64 0⟩ := by decide +kernel
  obtain ⟨layout, header, hlayout, hheader, hslots, -, hlength⟩ :=
    slots_agree reachable_mixed hfits hbuffer
  have htotal : mixed.layout.map (·.offsets.total) = some 64 := by decide +kernel
  rw [hlayout, Option.map_some, Option.some.injEq] at htotal
  refine ⟨hfits, hbuffer, layout, header, hlayout, hheader, ?_, htotal ▸ hlength⟩
  rintro ⟨kind, name, offset⟩ hmem
  have hregistered : ∀ slot ∈ mixedSlots,
      (mixed.registries.findVariable? slot.1 slot.2.1).isSome ∧
        mixed.layout.map (·.slotOffset? slot.1 slot.2.1) = some (some slot.2.2) := by
    decide +kernel
  obtain ⟨hsome, hoffset⟩ := hregistered _ hmem
  obtain ⟨v, hv⟩ := Option.isSome_iff_exists.mp hsome
  rw [hlayout, Option.map_some, Option.some.injEq] at hoffset
  -- the offset that the parts agree on is the one that the layout has
  obtain ⟨offset', hslot⟩ := hslots kind name v hv
  obtain rfl := Option.some.inj (hoffset.symm.trans hslot.looked_up)
  exact ⟨v, hv, hslot⟩

end Host

end DeviceSlots
