import DeviceSlots.Proofs.Accessor.Shape
import DeviceSlots.Proofs.Header.Assembly

/-!
# Reading headers

The lines of a header are those of the template and those of its points, and none of them breaks. So
the lines can be read back from the text, and whatever is said about lines is said about the text.
-/

namespace DeviceSlots

open Text

/-! ## Fixed lines -/

namespace Template

/-- The first lines, up to the directives that open the header. -/
def start : List String :=
  ["// Generated by curvegen. Do not edit.", "#ifndef CURVE_RTC_DYNAMIC_H_",
    "#define CURVE_RTC_DYNAMIC_H_"]

/-- The directive that closes the header. -/
def finish : String := "#endif  // CURVE_RTC_DYNAMIC_H_"

/-- What stands between the directives around the header. -/
def inner : List Segment :=
  [.fixed (opening.drop 3)] ++ segments.tail.dropLast ++
    [.fixed ["\x7d", "", "\x7d  // namespace environment", "\x7d  // namespace curve_rtc", ""]]

theorem lines_eq (fill : FillPoint → List String) :
    lines fill = start ++ inner.flatMap (Segment.lines fill) ++ [finish] := by
  simp [lines, start, finish, inner, segments, opening, Segment.lines]

/-- A line that holds no sign of a directive, and does not begin as the declaration does. -/
structure Inert (line : String) : Prop where
  unbroken : Unbroken line
  lacks_sign : Lacks '#' line
  begins : line.toList.take 3 ≠ ['_', '_', 'c']

theorem inert_ofList {chars : List Char}
    (h : '\n' ∉ chars ∧ '#' ∉ chars ∧ chars.take 3 ≠ ['_', '_', 'c']) :
    Inert (String.ofList chars) where
  unbroken := lacks_ofList h.1
  lacks_sign := lacks_ofList h.2.1
  begins := by
    rw [String.toList_ofList]
    exact h.2.2

theorem inert_append {s t : String} (h : Inert s) (hlength : 3 ≤ s.toList.length)
    (hline : Unbroken t) (hsign : Lacks '#' t) : Inert (s ++ t) where
  unbroken := (lacks_append _ s t).mpr ⟨h.unbroken, hline⟩
  lacks_sign := (lacks_append _ s t).mpr ⟨h.lacks_sign, hsign⟩
  begins := by
    rw [String.toList_append, List.take_append_of_le_length hlength]
    exact h.begins

theorem inert_getter {function parameters : String} (hf : Inert function)
    (hp : Inert parameters) : Inert (getter function parameters) := by
  unfold getter
  simp only [String.append_assoc]
  refine inert_append (inert_ofList (by decide)) (by decide) ?_ ?_ <;> simp only [lacks_append]
  · exact ⟨hf.unbroken, by decide, hp.unbroken, by decide⟩
  · exact ⟨hf.lacks_sign, by decide, hp.lacks_sign, by decide⟩

theorem inert_setter {function parameters : String} (hf : Inert function)
    (hp : Inert parameters) : Inert (setter function parameters) := by
  unfold setter
  simp only [String.append_assoc]
  refine inert_append (inert_ofList (by decide)) (by decide) ?_ ?_ <;> simp only [lacks_append]
  · exact ⟨hf.unbroken, by decide, hp.unbroken, by decide⟩
  · exact ⟨hf.lacks_sign, by decide, hp.lacks_sign, by decide⟩

theorem inert_close : Inert close := inert_ofList (by decide)

theorem inert_scalarParameters : Inert scalarParameters := inert_ofList (by decide)

theorem inert_arrayParameters : Inert arrayParameters := inert_ofList (by decide)

theorem inert_scalarIndex : Inert scalarIndex := inert_ofList (by decide)

theorem inert_arrayIndex : Inert arrayIndex := inert_ofList (by decide)

/-- Apart from the directives around the header, the fixed lines are inert. -/
theorem inert_inner : ∀ line ∈ inner.flatMap (Segment.lines fun _ => []), Inert line := by
  simp only [inner, opening, segments, Segment.lines, List.flatMap_cons, List.flatMap_nil,
    List.cons_append, List.nil_append, List.append_nil, List.drop_succ_cons, List.drop_zero,
    List.tail_cons, List.dropLast_cons_cons, List.dropLast_singleton]
  repeat' refine List.forall_mem_cons.mpr ⟨?_, ?_⟩
  case refine_2 => exact List.forall_mem_nil _
  -- Definitions stay closed here, since an attempt on the wrong line would compare their texts.
  all_goals first
    | with_reducible exact inert_close
    | with_reducible exact inert_scalarParameters
    | with_reducible exact inert_arrayParameters
    | with_reducible exact inert_getter (inert_ofList (by decide)) inert_scalarIndex
    | with_reducible exact inert_getter (inert_ofList (by decide)) inert_arrayIndex
    | with_reducible exact inert_setter (inert_ofList (by decide)) inert_scalarIndex
    | with_reducible exact inert_setter (inert_ofList (by decide)) inert_arrayIndex
    | exact inert_ofList (by decide)

/-- A line of a header is one of the directives around it, inert, or a line of a point. -/
theorem mem_lines {fill : FillPoint → List String} {line : String} (h : line ∈ lines fill) :
    line ∈ start ++ [finish] ∨ Inert line ∨ ∃ point, line ∈ fill point := by
  rw [lines_eq] at h
  rcases List.mem_append.mp h with h | h
  · rcases List.mem_append.mp h with h | h
    · exact .inl (List.mem_append_left _ h)
    · obtain ⟨segment, hsegment, hline⟩ := List.mem_flatMap.mp h
      cases segment with
      | fixed fixedLines =>
        exact .inr (.inl (inert_inner line (List.mem_flatMap.mpr ⟨_, hsegment, hline⟩)))
      | fill point => exact .inr (.inr ⟨point, hline⟩)
  · exact .inl (List.mem_append_right _ h)

end Template

namespace Generator

variable {config : Config} (layout : Layout) (environment : NameMap Property)

theorem plain_declaration (hvalid : config.validate = .ok ()) :
    Plain (declaration config layout) := by
  obtain ⟨-, hsymbol, -⟩ := config.validate_eq_ok_iff.mp hvalid
  unfold declaration
  simp only [plain_append]
  exact ⟨⟨⟨⟨by decide, plain_of_isIdentifier hsymbol⟩, by decide⟩, plain_repr _⟩, by decide⟩

/-- The lines of a fill point are the declaration, code, and directives. -/
theorem mem_lines_cases (hvalid : config.validate = .ok ()) {point : FillPoint} {line : String}
    (h : line ∈ lines config layout environment point) :
    line = declaration config layout ∨
      config.seatbelts = .preprocessor ∧ line ∈ directives ∨ IsCode 0 line := by
  cases point with
  | declaration => exact .inl (List.mem_singleton.mp h)
  | environment access =>
    exact .inr (Body.line_isCode (legible_environmentBody config environment access) hvalid h)
  | accessor kind access =>
    exact .inr (Body.line_isCode (legible_variableBody config layout kind access) hvalid h)

theorem headerLines_unbroken (hvalid : config.validate = .ok ()) {line : String}
    (h : line ∈ headerLines config layout environment) : Unbroken line := by
  have haround : ∀ line ∈ Template.start ++ [Template.finish], Unbroken line := by decide
  have hdirectives : ∀ line ∈ directives, Unbroken line := by decide
  rcases Template.mem_lines h with hmem | hinert | ⟨point, hpoint⟩
  · exact haround line hmem
  · exact hinert.unbroken
  · rcases mem_lines_cases layout environment hvalid hpoint with rfl | ⟨-, hdirective⟩ | hcode
    · exact (plain_declaration layout hvalid).1
    · exact hdirectives line hdirective
    · exact hcode.unbroken

/-- The lines of a header can be read back from its text. -/
theorem lines_header (hvalid : config.validate = .ok ()) :
    Text.lines (unlines (headerLines config layout environment)) =
      headerLines config layout environment :=
  lines_unlines fun _ h => headerLines_unbroken layout environment hvalid h

end Generator

end DeviceSlots
