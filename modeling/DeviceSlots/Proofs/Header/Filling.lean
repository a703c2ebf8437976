import DeviceSlots.Proofs.Header.Assembly

/-!
# Filling documents

A document may be filled by any calls, in any order. A call takes effect if the template has its
point and no call before has filled it. So a document holds the first text given for each point of
the template, and where all points have one, rendering puts these texts in their places.
-/

namespace DeviceSlots

namespace Document

variable {doc : Document} {point : FillPoint}

/-! ## Rendering -/

theorem find?_open_iff (doc : Document) :
    (Template.points.find? fun p => (doc.text? p).isNone) = some point ↔
      ∃ before later, Template.points = before ++ point :: later ∧
        (∀ p ∈ before, ∃ text, doc.text? p = some text) ∧ doc.text? point = none := by
  simp only [List.find?_eq_some_iff_append, Option.isNone_iff_eq_none, Bool.not_eq_true',
    Option.isNone_eq_false_iff, Option.isSome_iff_exists]
  constructor
  · rintro ⟨hopen, before, later, hsplit, hbefore⟩
    exact ⟨before, later, hsplit, hbefore, hopen⟩
  · rintro ⟨before, later, hsplit, hbefore, hopen⟩
    exact ⟨hopen, before, later, hsplit, hbefore⟩

/-- The first point of the template that has no text is reported. -/
theorem render_eq_error_iff {e : Error} :
    doc.render = .error e ↔ ∃ before point later, Template.points = before ++ point :: later ∧
      (∀ p ∈ before, ∃ text, doc.text? p = some text) ∧ doc.text? point = none ∧
      e = .neverFilled point := by
  rw [render_eq]
  constructor
  · intro h
    split at h
    · rename_i point hfind
      obtain ⟨before, later, hsplit, hbefore, hopen⟩ := doc.find?_open_iff.mp hfind
      exact ⟨before, point, later, hsplit, hbefore, hopen, (Except.error.inj h).symm⟩
    · contradiction
  · rintro ⟨before, point, later, hsplit, hbefore, hopen, rfl⟩
    rw [doc.find?_open_iff.mpr ⟨before, later, hsplit, hbefore, hopen⟩]

/-- Only the texts of the template's points matter to rendering. -/
theorem render_congr {doc' : Document}
    (h : ∀ point ∈ Template.points, doc'.text? point = doc.text? point) :
    doc'.render = doc.render := by
  cases hrender : doc.render with
  | ok text =>
    obtain ⟨texts, htexts, rfl⟩ := render_eq_ok_iff.mp hrender
    refine render_eq_ok_iff.mpr ⟨texts, fun point hpoint => ?_, rfl⟩
    rw [h point hpoint, htexts point hpoint]
  | error e =>
    obtain ⟨before, point, later, hsplit, hbefore, hopen, rfl⟩ := render_eq_error_iff.mp hrender
    refine render_eq_error_iff.mpr ⟨before, point, later, hsplit, fun p hp => ?_, ?_, rfl⟩
    · rw [h p (by simp [hsplit, hp])]
      exact hbefore p hp
    · rw [h point (by simp [hsplit])]
      exact hopen

/-! ## Calls -/

/-- A point is looked at before its text is kept. -/
theorem atomic_fillPoint (point : FillPoint) (text : String) : (fillPoint point text).Atomic := by
  refine .ite (Method.atomic_throw_bind _ _) ?_
  exact Method.inspects_get.bind_atomic fun _ =>
    .ite (Method.atomic_throw_bind _ _) (Method.atomic_modify _)

/-- The document that a call leaves. The call gives a point a text, and may fail. -/
def after (doc : Document) (call : FillPoint × String) : Document :=
  Method.left (fillPoint call.1 call.2 doc)

theorem after_eq (doc : Document) (call : FillPoint × String) :
    doc.after call =
      match doc.fill call.1 call.2 with
      | .ok doc' => doc'
      | .error _ => doc := by
  rw [after, (atomic_fillPoint call.1 call.2).left_eq, fill]
  cases (fillPoint call.1 call.2).leaves doc <;> rfl

/-- The document that a row of calls makes of one without texts. -/
def ofCalls (calls : List (FillPoint × String)) : Document := calls.foldl after {}

/-- One of the calls succeeds in filling a point. -/
def Filled (calls : List (FillPoint × String)) (point : FillPoint) : Prop :=
  ∃ before text later doc, calls = before ++ (point, text) :: later ∧
    (ofCalls before).fill point text = .ok doc

theorem fill_eq_ok_iff {text : String} :
    (∃ doc', doc.fill point text = .ok doc') ↔
      point ∈ Template.points ∧ doc.text? point = none := by
  constructor
  · rintro ⟨doc', hfill⟩
    rw [fill_eq] at hfill
    split at hfill
    · contradiction
    · rename_i hpoint
      split at hfill
      · contradiction
      · rename_i hopen
        exact ⟨Decidable.not_not.mp hpoint, by simpa using hopen⟩
  · rintro ⟨hpoint, hopen⟩
    exact fill_eq_ok text hpoint hopen

/-- A point of the template keeps its text, and takes the one of a call otherwise. -/
theorem text?_after (hpoint : point ∈ Template.points) (call : FillPoint × String) :
    (doc.after call).text? point =
      (doc.text? point).or (if point = call.1 then some call.2 else none) := by
  rw [after_eq]
  split
  · rename_i doc' hfill
    obtain ⟨-, hopen⟩ := fill_eq_ok_iff.mp ⟨doc', hfill⟩
    rw [text?_fill hfill]
    by_cases hthis : point = call.1
    · simp [hthis, hopen]
    · simp [hthis]
  · rename_i e hfill
    by_cases hthis : point = call.1
    · subst hthis
      cases htext : doc.text? call.1 with
      | none =>
        obtain ⟨doc', hok⟩ := fill_eq_ok call.2 hpoint htext
        rw [hok] at hfill
        contradiction
      | some t => rfl
    · simp [hthis]

theorem text?_foldl_after (hpoint : point ∈ Template.points) (calls : List (FillPoint × String))
    (doc : Document) :
    (calls.foldl after doc).text? point = (doc.text? point).or (calls.lookup point) := by
  induction calls generalizing doc with
  | nil => simp
  | cons call rest ih =>
    obtain ⟨p, text⟩ := call
    rw [List.foldl_cons, ih, text?_after hpoint, Option.or_assoc, List.lookup_cons]
    by_cases hthis : point = p
    · simp [hthis]
    · simp [hthis, beq_eq_false_iff_ne.mpr hthis]

/-- A document holds the first text given for each point of the template. -/
theorem text?_ofCalls (hpoint : point ∈ Template.points) (calls : List (FillPoint × String)) :
    (ofCalls calls).text? point = calls.lookup point := by
  rw [ofCalls, text?_foldl_after hpoint]
  rfl

/-- The first call for a point of the template fills it. -/
theorem filled_iff {calls : List (FillPoint × String)} (hpoint : point ∈ Template.points) :
    Filled calls point ↔ ∃ text, (ofCalls calls).text? point = some text := by
  rw [text?_ofCalls hpoint]
  constructor
  · rintro ⟨before, text, later, -, rfl, -⟩
    rw [List.lookup_append, List.lookup_cons_self]
    cases before.lookup point with
    | none => exact ⟨text, rfl⟩
    | some t => exact ⟨t, rfl⟩
  · rintro ⟨text, htext⟩
    obtain ⟨before, later, rfl, hbefore⟩ := List.lookup_eq_some_iff.mp htext
    have hopen : (ofCalls before).text? point = none := by
      rw [text?_ofCalls hpoint, List.lookup_eq_none_iff]
      exact hbefore
    obtain ⟨doc, hfill⟩ := fill_eq_ok text hpoint hopen
    exact ⟨before, text, later, doc, rfl, hfill⟩

theorem not_filled_iff {calls : List (FillPoint × String)} (hpoint : point ∈ Template.points) :
    ¬ Filled calls point ↔ (ofCalls calls).text? point = none := by
  rw [filled_iff hpoint, Option.eq_none_iff_forall_ne_some, not_exists]

theorem ofCalls_concat (calls : List (FillPoint × String)) (call : FillPoint × String) :
    ofCalls (calls ++ [call]) = (ofCalls calls).after call := by
  rw [ofCalls, List.foldl_append]
  rfl

/-- Rendering puts the first text given for each point in its place. -/
theorem render_ofCalls_eq_ok_iff {calls : List (FillPoint × String)} {text : String} :
    (ofCalls calls).render = .ok text ↔ ∃ first : FillPoint → String,
      (∀ point ∈ FillPoint.all, calls.lookup point = some (first point)) ∧
        text = Template.text first := by
  have hfirst (first : FillPoint → String) :
      (∀ point ∈ Template.points, (ofCalls calls).text? point = some (first point)) ↔
        ∀ point ∈ FillPoint.all, calls.lookup point = some (first point) := by
    simp only [← Template.points_perm_all.mem_iff]
    exact forall₂_congr fun point hpoint => by rw [text?_ofCalls hpoint]
  simp only [render_eq_ok_iff, hfirst]

theorem render_ofCalls_eq_error_iff {calls : List (FillPoint × String)} {e : Error} :
    (ofCalls calls).render = .error e ↔
      ∃ before point later, Template.points = before ++ point :: later ∧
        (∀ p ∈ before, Filled calls p) ∧ ¬ Filled calls point ∧ e = .neverFilled point := by
  rw [render_eq_error_iff]
  refine exists_congr fun before => exists_congr fun point => exists_congr fun later => ?_
  refine and_congr_right fun hsplit => ?_
  have hbefore : ∀ p ∈ before, p ∈ Template.points := by
    intro p hp
    simp [hsplit, hp]
  have hpoint : point ∈ Template.points := by simp [hsplit]
  rw [not_filled_iff hpoint]
  exact and_congr_left fun _ => forall₂_congr fun p hp => (filled_iff (hbefore p hp)).symm

/-- A document is rendered once every point is filled. -/
theorem render_ofCalls_succeeds_iff {calls : List (FillPoint × String)} :
    (∃ text, (ofCalls calls).render = .ok text) ↔ ∀ point ∈ FillPoint.all, Filled calls point := by
  have hfilled : ∀ point ∈ FillPoint.all,
      (Filled calls point ↔ ∃ text, calls.lookup point = some text) := by
    intro point hpoint
    have hmem := Template.points_perm_all.mem_iff.mpr hpoint
    rw [filled_iff hmem, text?_ofCalls hmem]
  simp only [render_ofCalls_eq_ok_iff]
  constructor
  · rintro ⟨_, first, hfirst, -⟩ point hpoint
    exact (hfilled point hpoint).mpr ⟨first point, hfirst point hpoint⟩
  · intro hall
    refine ⟨_, fun point => (calls.lookup point).getD "", ?_, rfl⟩
    intro point hpoint
    obtain ⟨text, htext⟩ := (hfilled point hpoint).mp (hall point hpoint)
    simp [htext]

/-- Whatever calls fill a document, in whatever order and with whatever success: a call succeeds if
the template has its point and no call before has filled it, and changes nothing otherwise; the
document is rendered once every point is filled, and the first point of the template that is not is
reported before; and what is rendered is the template with the first text given for each point in its
place, whatever else has been called. -/
theorem assembly_substitutes (calls : List (FillPoint × String)) :
    (∀ point text, (∃ doc, (ofCalls calls).fill point text = .ok doc) ↔
      point ∈ Template.points ∧ ¬ Filled calls point) ∧
    (∀ point text e, (ofCalls calls).fill point text = .error e →
      ofCalls (calls ++ [(point, text)]) = ofCalls calls) ∧
    ((∃ text, (ofCalls calls).render = .ok text) ↔ ∀ point ∈ FillPoint.all, Filled calls point) ∧
    (∀ e, (ofCalls calls).render = .error e ↔
      ∃ before point later, Template.points = before ++ point :: later ∧
        (∀ p ∈ before, Filled calls p) ∧ ¬ Filled calls point ∧ e = .neverFilled point) ∧
    (∀ text, (ofCalls calls).render = .ok text ↔
      ∃ first : FillPoint → String,
        (∀ point ∈ FillPoint.all, calls.lookup point = some (first point)) ∧
          text = Template.text first) ∧
    ∀ calls', (∀ point ∈ FillPoint.all, calls'.lookup point = calls.lookup point) →
      (ofCalls calls').render = (ofCalls calls).render := by
  refine ⟨?_, ?_, ?_, ?_, ?_, ?_⟩
  · intro point text
    rw [fill_eq_ok_iff]
    exact and_congr_right fun hpoint => (not_filled_iff hpoint).symm
  · intro point text e hfailed
    rw [ofCalls_concat, after_eq, hfailed]
  · exact render_ofCalls_succeeds_iff
  · exact fun _ => render_ofCalls_eq_error_iff
  · exact fun _ => render_ofCalls_eq_ok_iff
  · intro calls' hsame
    apply render_congr
    intro point hpoint
    rw [text?_ofCalls hpoint, text?_ofCalls hpoint]
    exact hsame point (Template.points_perm_all.mem_iff.mp hpoint)

/-- Each point filled with its own name, in the order of generation. -/
def orderly : List (FillPoint × String) := FillPoint.all.map fun point => (point, point.display)

/-- The same in reverse, after a point that no template has, and with one point given again. -/
def disorderly : List (FillPoint × String) :=
  (.accessor .messageIn .set, "foreign") :: orderly.reverse ++ [(.declaration, "again")]

theorem assembly_substitutes_disorderly :
    (∀ point ∈ FillPoint.all, disorderly.lookup point = orderly.lookup point) ∧
      (ofCalls disorderly).render = (ofCalls orderly).render ∧
      ∃ text, (ofCalls orderly).render = .ok text := by
  have hsame : ∀ point ∈ FillPoint.all, disorderly.lookup point = orderly.lookup point := by decide
  obtain ⟨-, -, -, -, hrender, hcongr⟩ := assembly_substitutes orderly
  refine ⟨hsame, hcongr disorderly hsame, _, (hrender _).mpr ⟨FillPoint.display, ?_, rfl⟩⟩
  decide

end Document

end DeviceSlots
