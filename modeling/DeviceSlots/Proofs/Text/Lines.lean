import DeviceSlots.Text.Line

/-!
# Reading lines back

A text is cut after each of its line feeds. Lines that hold no line feed of their own are what comes
back when their text is cut.
-/

namespace DeviceSlots.Text

/-- The pieces of a text between its line feeds; an empty piece after the last one is left out. -/
def cut : List Char → List (List Char)
  | [] => []
  | c :: rest =>
    if c = '\n' then [] :: cut rest
    else
      match cut rest with
      | [] => [[c]]
      | line :: others => (c :: line) :: others

/-- The lines of a text. -/
def lines (text : String) : List String := (cut text.toList).map String.ofList

/-- Interpolated text stands for itself. -/
@[simp] theorem toString_self (text : String) : toString text = text := rfl

/-! ## Characters that do not occur -/

/-- The character does not occur in the text. -/
def Lacks (c : Char) (text : String) : Prop := c ∉ text.toList

instance (c : Char) (text : String) : Decidable (Lacks c text) :=
  inferInstanceAs (Decidable (c ∉ text.toList))

/-- A line that can be told from the lines around it. -/
abbrev Unbroken (line : String) : Prop := Lacks '\n' line

@[simp] theorem lacks_append (c : Char) (s t : String) :
    Lacks c (s ++ t) ↔ Lacks c s ∧ Lacks c t := by
  simp [Lacks]

/-- Characters are looked for faster in a list of them than in a text. -/
theorem lacks_ofList {c : Char} {chars : List Char} (h : c ∉ chars) :
    Lacks c (String.ofList chars) := by
  rw [Lacks, String.toList_ofList]
  exact h

theorem lacks_repr {c : Char} (h : c.isDigit = false) (n : Nat) : Lacks c (Nat.repr n) := by
  intro hmem
  rw [Nat.toList_repr] at hmem
  have hdigit := Nat.isDigit_of_mem_toDigits (by decide) (by decide) hmem
  rw [h] at hdigit
  contradiction

theorem lacks_indented {c : Char} (h : c ≠ ' ') (margin : Nat) (line : String) :
    Lacks c (indented margin line) ↔ Lacks c line := by
  simp [Lacks, toList_indented, h]

/-! ## Lines -/

theorem cut_append_newline {line : List Char} (h : '\n' ∉ line) (rest : List Char) :
    cut (line ++ '\n' :: rest) = line :: cut rest := by
  induction line with
  | nil => simp [cut]
  | cons c line ih =>
    have hc : c ≠ '\n' := by
      intro heq
      exact h (heq ▸ List.mem_cons_self)
    have hline : '\n' ∉ line := fun hmem => h (List.mem_cons_of_mem _ hmem)
    simp [cut, hc, ih hline]

theorem toList_unlines_cons (line : String) (rest : List String) :
    (unlines (line :: rest)).toList = line.toList ++ '\n' :: (unlines rest).toList := by
  simp [unlines, String.toList_join]

/-- Unbroken lines are the lines of their text. -/
theorem lines_unlines {ls : List String} (h : ∀ line ∈ ls, Unbroken line) :
    lines (unlines ls) = ls := by
  induction ls with
  | nil => rfl
  | cons line rest ih =>
    have hline : '\n' ∉ line.toList := h line List.mem_cons_self
    have hrest : lines (unlines rest) = rest := ih fun l hl => h l (List.mem_cons_of_mem _ hl)
    simp only [lines] at hrest ⊢
    rw [toList_unlines_cons, cut_append_newline hline, List.map_cons, hrest, String.ofList_toList]

theorem unlines_flatMap {α : Type} (f : α → List String) (list : List α) :
    unlines (list.flatMap f) = String.join (list.map fun a => unlines (f a)) := by
  induction list with
  | nil => rfl
  | cons a rest ih =>
    apply String.toList_inj.mp
    rw [List.flatMap_cons, unlines_append, ih]
    simp [String.toList_join]

/-- The text of some of the lines stands in the text of all. -/
theorem unlines_infix (before ls after : List String) :
    (unlines ls).toList <:+: (unlines (before ++ ls ++ after)).toList := by
  rw [unlines_append, unlines_append, String.toList_append, String.toList_append]
  exact List.infix_append _ _ _

end DeviceSlots.Text
