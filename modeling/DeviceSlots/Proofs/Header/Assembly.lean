import DeviceSlots.Accessor.Generator
import DeviceSlots.Proofs.Failing
import DeviceSlots.Proofs.Method
import DeviceSlots.Proofs.Text.Lines

/-!
# Assembly of headers

Generation never fails: the template has an open place for each point that the generator fills, and
each point is filled once. The header is the template, line by line, with the generated lines at
their places.
-/

namespace DeviceSlots

/-! ## Filling documents -/

namespace Document

theorem fill_eq (doc : Document) (point : FillPoint) (text : String) :
    doc.fill point text =
      if point ∉ Template.points then .error (.unknownPoint point)
      else if (doc.text? point).isSome then .error (.filledTwice point)
      else .ok ⟨(point, text) :: doc.fills⟩ := by
  by_cases hpoint : point ∈ Template.points
  · by_cases hopen : (doc.text? point).isSome <;>
      simp [fill, fillPoint, Method.leaves, Method.outcome, Method.run_bind, hpoint, hopen, Except.map]
  · simp [fill, fillPoint, Method.leaves, Method.outcome, Method.run_bind, hpoint, Except.map]

theorem text?_fill {doc doc' : Document} {point : FillPoint} {text : String}
    (h : doc.fill point text = .ok doc') (other : FillPoint) :
    doc'.text? other = if other = point then some text else doc.text? other := by
  rw [fill_eq] at h
  split at h
  · contradiction
  · split at h
    · contradiction
    · cases h
      by_cases heq : other = point
      · simp [text?, heq]
      · simp [text?, List.lookup_cons, heq, beq_eq_false_iff_ne.mpr heq]

theorem fill_eq_ok {doc : Document} {point : FillPoint} (text : String)
    (hpoint : point ∈ Template.points) (hopen : doc.text? point = none) :
    ∃ doc', doc.fill point text = .ok doc' := by
  simp [fill_eq, hpoint, hopen]

end Document

/-! ## Texts of the template -/

namespace Segment

/-- The fill point of a segment that is an open place. -/
def point? : Segment → Option FillPoint
  | .fixed _ => none
  | .fill point => some point

/-- The text of a segment, with that of each fill point given by a function. -/
def text (fill : FillPoint → String) : Segment → String
  | .fixed lines => Text.unlines lines
  | .fill point => fill point

end Segment

namespace Template

theorem points_eq : points = segments.filterMap Segment.point? := rfl

theorem mem_points_iff (point : FillPoint) :
    point ∈ points ↔ .fill point ∈ segments := by
  simp only [points, List.mem_filterMap]
  constructor
  · rintro ⟨segment, hmem, heq⟩
    cases segment with
    | fixed lines => contradiction
    | fill other =>
      cases heq
      exact hmem
  · intro hmem
    exact ⟨_, hmem, rfl⟩

/-- The text of the template, with that of each fill point given by a function. -/
def text (fill : FillPoint → String) : String := String.join (segments.map (Segment.text fill))

/-- Only the points of the template matter to its text. -/
theorem text_congr {fill fill' : FillPoint → String} (h : ∀ point ∈ points, fill point = fill' point) :
    text fill = text fill' := by
  have hsegments : segments.map (Segment.text fill) = segments.map (Segment.text fill') := by
    apply List.map_congr_left
    intro segment hmem
    cases segment with
    | fixed lines => rfl
    | fill point => exact h point ((mem_points_iff point).mpr hmem)
  rw [text, text, hsegments]

end Template

/-! ## Rendering -/

namespace Document

/-- Rendering stops at the first point without a text. -/
theorem renderSegments_eq (doc : Document) (segments : List Segment) :
    doc.renderSegments segments =
      match (segments.filterMap Segment.point?).find? fun p => (doc.text? p).isNone with
      | some point => .error (.neverFilled point)
      | none => .ok (segments.map (Segment.text fun p => (doc.text? p).getD "")) := by
  induction segments with
  | nil => rfl
  | cons segment rest ih =>
    cases segment with
    | fixed lines =>
      rw [renderSegments, ih, List.filterMap_cons_none rfl]
      cases (rest.filterMap Segment.point?).find? fun p => (doc.text? p).isNone <;> rfl
    | fill point =>
      have hpoint : Segment.point? (.fill point) = some point := rfl
      rw [renderSegments, ih, List.filterMap_cons_some hpoint, List.find?_cons, List.map_cons,
        Segment.text]
      cases doc.text? point with
      | none => rfl
      | some t =>
        cases (rest.filterMap Segment.point?).find? fun p => (doc.text? p).isNone <;> rfl

theorem render_eq (doc : Document) :
    doc.render =
      match Template.points.find? fun p => (doc.text? p).isNone with
      | some point => .error (.neverFilled point)
      | none => .ok (Template.text fun p => (doc.text? p).getD "") := by
  rw [render, renderSegments_eq, ← Template.points_eq]
  cases Template.points.find? fun p => (doc.text? p).isNone <;> rfl

/-- Where every point of the template has a text, the texts are put in their places. -/
theorem render_eq_ok_iff {doc : Document} {text : String} :
    doc.render = .ok text ↔ ∃ texts : FillPoint → String,
      (∀ point ∈ Template.points, doc.text? point = some (texts point)) ∧
        text = Template.text texts := by
  rw [render_eq]
  constructor
  · intro h
    split at h
    · contradiction
    · rename_i hfind
      refine ⟨_, ?_, (Except.ok.inj h).symm⟩
      intro point hpoint
      have htext := List.find?_eq_none.mp hfind point hpoint
      cases hget : doc.text? point with
      | none => simp [hget] at htext
      | some t => simp
  · rintro ⟨texts, htexts, rfl⟩
    have hnone : (Template.points.find? fun p => (doc.text? p).isNone) = none := by
      rw [List.find?_eq_none]
      intro point hpoint
      simp [htexts point hpoint]
    rw [hnone]
    refine congrArg Except.ok (Template.text_congr fun point hpoint => ?_)
    simp [htexts point hpoint]

end Document

/-! ## Headers line by line -/

/-- The lines of a segment, with those of each fill point given by a function. -/
def Segment.lines (fill : FillPoint → List String) : Segment → List String
  | .fixed lines => lines
  | .fill point => fill point

/-- The lines of the template, with those of each fill point given by a function. -/
def Template.lines (fill : FillPoint → List String) : List String :=
  segments.flatMap (Segment.lines fill)

theorem Template.text_unlines (fill : FillPoint → List String) :
    text (fun point => Text.unlines (fill point)) = Text.unlines (lines fill) := by
  have hsegments : segments.map (Segment.text fun point => Text.unlines (fill point)) =
      segments.map fun segment => Text.unlines (segment.lines fill) := by
    apply List.map_congr_left
    intro segment _
    cases segment <;> rfl
  rw [text, hsegments, lines, Text.unlines_flatMap]

namespace Generator

variable (config : Config) (layout : Layout) (environment : NameMap Property)

/-- Open points of the template are all filled. -/
theorem fillAll_eq_ok {points : List FillPoint} (doc : Document) (hnodup : points.Nodup)
    (hpoints : ∀ point ∈ points, point ∈ Template.points)
    (hopen : ∀ point ∈ points, doc.text? point = none) :
    ∃ doc', (fillAll config layout environment points).leaves doc = .ok doc' ∧
      ∀ point, doc'.text? point =
        if point ∈ points then some (text config layout environment point)
        else doc.text? point := by
  induction points generalizing doc with
  | nil => exact ⟨doc, rfl, by simp⟩
  | cons point rest ih =>
    obtain ⟨hfresh, hrest⟩ := List.nodup_cons.mp hnodup
    obtain ⟨doc', hfill⟩ := Document.fill_eq_ok (text config layout environment point)
      (hpoints point List.mem_cons_self) (hopen point List.mem_cons_self)
    have htext := Document.text?_fill hfill
    have hopen' : ∀ other ∈ rest, doc'.text? other = none := by
      intro other hother
      have hne : other ≠ point := by
        intro heq
        exact hfresh (heq ▸ hother)
      rw [htext other, if_neg hne]
      exact hopen other (List.mem_cons_of_mem _ hother)
    obtain ⟨doc'', hall, htext'⟩ :=
      ih doc' hrest (fun other hother => hpoints other (List.mem_cons_of_mem _ hother)) hopen'
    refine ⟨doc'', ?_, ?_⟩
    · rw [fillAll, Method.leaves_bind]
      rw [Document.fill] at hfill
      rw [hfill, ok_bind, hall]
    · intro other
      rw [htext' other, htext other]
      by_cases heq : other = point
      · simp [heq, hfresh]
      · simp [heq]

/-- The lines of the header. -/
def headerLines : List String := Template.lines (lines config layout environment)

/-- Generation succeeds, and the header is the template with its points replaced. -/
theorem header_eq_ok :
    header config layout environment = .ok (Text.unlines (headerLines config layout environment)) := by
  obtain ⟨doc, hfill, htext⟩ := fillAll_eq_ok config layout environment {} FillPoint.nodup_all
    (fun point hmem => Template.points_perm_all.mem_iff.mpr hmem) (fun _ _ => rfl)
  have hfilled : ∀ point ∈ Template.points,
      doc.text? point = some (text config layout environment point) := by
    intro point hmem
    rw [htext point, if_pos (Template.points_perm_all.mem_iff.mp hmem)]
  have hrender := Document.render_eq_ok_iff.mpr ⟨_, hfilled, rfl⟩
  rw [header, hfill, ok_bind, hrender, headerLines, ← Template.text_unlines]
  rfl

/-- The lines of a fill point of the template stand together in the header. -/
theorem headerLines_split {point : FillPoint} (h : point ∈ Template.points) :
    ∃ before after, headerLines config layout environment =
      before ++ lines config layout environment point ++ after := by
  obtain ⟨first, last, hsplit⟩ :=
    List.append_of_mem ((Template.mem_points_iff point).mp h)
  refine ⟨first.flatMap (Segment.lines (lines config layout environment)),
    last.flatMap (Segment.lines (lines config layout environment)), ?_⟩
  rw [headerLines, Template.lines, hsplit, List.flatMap_append, List.flatMap_cons]
  simp [Segment.lines]

end Generator

end DeviceSlots
