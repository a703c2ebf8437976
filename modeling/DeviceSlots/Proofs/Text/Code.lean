import DeviceSlots.Proofs.Config
import DeviceSlots.Proofs.Text.Lines

/-!
# Lines of code

A line of code is a margin of blanks and then code, which begins with neither a blank nor the sign of
a directive. Margin and code of such a line can be told apart.
-/

namespace DeviceSlots.Text

/-- The text begins with neither a blank nor the sign of a directive. -/
def BeginsCode (text : String) : Prop := ∃ c ∈ text.toList.head?, c ∉ [' ', '\t', '#']

instance (text : String) : Decidable (BeginsCode text) :=
  Option.decidableExistsMem (p := fun c => c ∉ [' ', '\t', '#']) text.toList.head?

/-- A line of code that is indented deeper than `depth` columns. -/
def IsCode (depth : Nat) (line : String) : Prop :=
  ∃ margin code, depth < margin ∧ line = indented margin code ∧ BeginsCode code ∧ Unbroken code

theorem beginsCode_append {s : String} (h : BeginsCode s) (t : String) : BeginsCode (s ++ t) := by
  obtain ⟨c, hhead, hc⟩ := h
  exact ⟨c, by simp [List.head?_append, Option.mem_def.mp hhead], hc⟩

theorem beginsCode_of_isIdentifier {text : String} (h : isIdentifier text = true) :
    BeginsCode text := by
  obtain ⟨c, rest, hlist, hfirst, -⟩ := isIdentifier_chars h
  refine ⟨c, by simp [hlist], ?_⟩
  rcases hfirst with halpha | rfl
  · intro hmem
    simp only [List.mem_cons, List.not_mem_nil, or_false] at hmem
    rcases hmem with rfl | rfl | rfl <;> exact absurd halpha (by decide)
  · decide

/-- The text has no line feed and no plus sign, which generated code has in known places only. -/
def Plain (text : String) : Prop := Lacks '\n' text ∧ Lacks '+' text

instance (text : String) : Decidable (Plain text) := inferInstanceAs (Decidable (_ ∧ _))

theorem plain_append (s t : String) : Plain (s ++ t) ↔ Plain s ∧ Plain t := by
  simp only [Plain, lacks_append, and_and_and_comm]

theorem plain_repr (n : Nat) : Plain (Nat.repr n) :=
  ⟨lacks_repr (by decide) n, lacks_repr (by decide) n⟩

theorem plain_of_isIdentifier {text : String} (h : isIdentifier text = true) : Plain text :=
  ⟨lacks_of_isIdentifier h (by decide) (by decide), lacks_of_isIdentifier h (by decide) (by decide)⟩

/-- The indentation of a line of code can be read off. -/
theorem indented_inj {margin margin' : Nat} {code code' : String} (h : BeginsCode code)
    (h' : BeginsCode code') (heq : indented margin code = indented margin' code') :
    margin = margin' ∧ code = code' := by
  have hmargin : ∀ {m : Nat} {c : String}, BeginsCode c →
      ((indented m c).toList.takeWhile (· = ' ')).length = m := by
    intro m c hc
    obtain ⟨first, hfirst, hne⟩ := hc
    obtain ⟨rest, hrest⟩ := List.head?_eq_some_iff.mp hfirst
    have hblank : first ≠ ' ' := fun hsp => hne (hsp ▸ by simp)
    rw [toList_indented, hrest, List.takeWhile_append_of_pos (by simp)]
    simp [hblank]
  have hm : margin = margin' := by rw [← hmargin (m := margin) h, heq, hmargin h']
  subst hm
  refine ⟨rfl, String.toList_inj.mp ?_⟩
  have hlist := congrArg String.toList heq
  rw [toList_indented, toList_indented] at hlist
  exact List.append_cancel_left hlist

theorem IsCode.of {depth margin : Nat} (hmargin : depth < margin) {code : String}
    (h : BeginsCode code) (hline : Unbroken code) : IsCode depth (indented margin code) :=
  ⟨margin, code, hmargin, rfl, h, hline⟩

variable {depth : Nat} {line : String}

theorem IsCode.mono {least : Nat} (h : IsCode depth line) (hle : least ≤ depth) :
    IsCode least line := by
  obtain ⟨margin, code, hmargin, rfl, hbegins, hline⟩ := h
  exact .of (by omega) hbegins hline

theorem IsCode.unbroken (h : IsCode depth line) : Unbroken line := by
  obtain ⟨margin, code, -, rfl, -, hline⟩ := h
  exact (lacks_indented (by decide) margin code).mpr hline

/-- A line of deeper code is another line. -/
theorem IsCode.ne_indented (h : IsCode depth line) {code : String} (hcode : BeginsCode code) :
    line ≠ indented depth code := by
  obtain ⟨margin, code', hmargin, rfl, hbegins, -⟩ := h
  intro heq
  have := (indented_inj hbegins hcode heq).1
  omega

end DeviceSlots.Text
