import Mathlib.Data.List.Infix

/-!
# Marks in text

What stands right behind the occurrences of a mark, in order, and how often a pattern occurs. A mark
that a sign splits is looked for from sign to sign; one without line feeds is looked for line by line.
-/

namespace DeviceSlots.Text

variable {α : Type}

/-- What is read right behind each occurrence of a mark, in order, where something is read. -/
def readAfter (read : List Char → Option α) (mark : List Char) : List Char → List α
  | [] => []
  | c :: rest =>
    let here := if mark.isPrefixOf (c :: rest) then read ((c :: rest).drop mark.length) else none
    here.toList ++ readAfter read mark rest

/-- The number of places in a text where a pattern stands. -/
def occurrences (pattern text : List Char) : Nat :=
  text.tails.countP fun rest => pattern.isPrefixOf rest

variable {read : List Char → Option α} {mark text : List Char} {sign : Char}

/-! ## From sign to sign -/

theorem readAfter_eq_nil (hmark : sign ∈ mark) (h : sign ∉ text) : readAfter read mark text = [] := by
  induction text with
  | nil => rfl
  | cons c rest ih =>
    have hrest : sign ∉ rest := fun hmem => h (List.mem_cons_of_mem _ hmem)
    have hstarts : mark.isPrefixOf (c :: rest) = false := by
      rw [Bool.eq_false_iff, Ne, List.isPrefixOf_iff_prefix]
      intro hpre
      exact h (hpre.subset hmark)
    simp [readAfter, hstarts, ih hrest]

variable {front back before after : List Char}

theorem prefix_append_sign_iff (back after : List Char) (hfront : sign ∉ front)
    (h : sign ∉ before) :
    front ++ sign :: back <+: before ++ sign :: after ↔ front = before ∧ back <+: after := by
  induction front generalizing before with
  | nil =>
    cases before with
    | nil => simp
    | cons d before =>
      have hd : sign ≠ d := by
        intro heq
        exact h (heq ▸ List.mem_cons_self)
      simp [hd]
  | cons c front ih =>
    have hc : c ≠ sign := by
      intro heq
      exact hfront (heq ▸ List.mem_cons_self)
    cases before with
    | nil => simp [hc]
    | cons d before =>
      have hfront' : sign ∉ front := fun hmem => hfront (List.mem_cons_of_mem _ hmem)
      have hbefore : sign ∉ before := fun hmem => h (List.mem_cons_of_mem _ hmem)
      simp [ih hfront' hbefore, and_assoc]

/-- A mark occurs before the next sign only where its front ends there. -/
theorem readAfter_append_sign (hfront : sign ∉ front) (hne : front ≠ []) (h : sign ∉ before) :
    readAfter read (front ++ sign :: back) (before ++ sign :: after) =
      (if front <:+ before ∧ back <+: after then (read (after.drop back.length)).toList
        else []) ++ readAfter read (front ++ sign :: back) after := by
  induction before with
  | nil =>
    have hiff := prefix_append_sign_iff back after hfront h
    rw [List.nil_append, ← List.isPrefixOf_iff_prefix] at hiff
    simp [readAfter, hiff, hne]
  | cons c before ih =>
    have hbefore : sign ∉ before := fun hmem => h (List.mem_cons_of_mem _ hmem)
    have hiff := prefix_append_sign_iff back after hfront h
    rw [List.cons_append, ← List.isPrefixOf_iff_prefix] at hiff
    rw [List.cons_append, readAfter, ih hbefore]
    by_cases hhere : front = c :: before
    · subst hhere
      have hlong : ¬ c :: before <:+ before := by
        intro hsuffix
        have hlength := hsuffix.length_le
        simp only [List.length_cons] at hlength
        omega
      have hdrop : (c :: (before ++ sign :: after)).drop (c :: before ++ sign :: back).length =
          after.drop back.length := by simp [List.drop_append]
      simp only [hiff, hdrop, hlong, true_and, false_and, if_false, List.nil_append,
        List.suffix_refl]
      split <;> rfl
    · have hsuffix : front <:+ c :: before ↔ front <:+ before := by
        simp [List.suffix_cons_iff, hhere]
      simp [hiff, hhere, hsuffix]

/-! ## Line by line -/

/-- What holds no line feed begins before a line ends only if it ends there too. -/
theorem prefix_line_iff {line : List Char} (hmark : '\n' ∉ mark) (rest : List Char) :
    mark <+: line ++ '\n' :: rest ↔ mark <+: line := by
  refine ⟨fun h => ?_, fun h => h.trans (List.prefix_append line _)⟩
  rcases List.prefix_or_prefix_of_prefix h (List.prefix_append line _) with hline | ⟨more, rfl⟩
  · exact hline
  · have hmore := (List.prefix_append_right_inj line).mp h
    cases more with
    | nil => simp
    | cons c more =>
      have hc : c = '\n' := (List.cons_prefix_cons.mp hmore).1
      simp [hc] at hmark

/-- A line without the mark is passed over. -/
theorem readAfter_line {line : List Char} (hmark : '\n' ∉ mark) (hline : ¬ mark <:+: line)
    (rest : List Char) : readAfter read mark (line ++ '\n' :: rest) = readAfter read mark rest := by
  have hstep : ∀ {c : Char} {others : List Char}, ¬ mark <+: c :: others →
      readAfter read mark (c :: others) = readAfter read mark others := by
    intro c others h
    rw [← List.isPrefixOf_iff_prefix] at h
    simp [readAfter, h]
  induction line with
  | nil =>
    apply hstep
    rw [← List.nil_append ('\n' :: rest), prefix_line_iff hmark]
    exact fun h => hline h.isInfix
  | cons c line ih =>
    have hhead : ¬ mark <+: c :: (line ++ '\n' :: rest) := by
      rw [← List.cons_append, prefix_line_iff hmark]
      exact fun h => hline h.isInfix
    rw [List.cons_append, hstep hhead, ih fun h => hline (h.trans (List.infix_cons List.infix_rfl))]

/-! ## Counting -/

theorem occurrences_pos_iff (pattern text : List Char) :
    0 < occurrences pattern text ↔ pattern <:+: text := by
  simp only [occurrences, List.countP_pos_iff, List.mem_tails, List.isPrefixOf_iff_prefix,
    List.infix_iff_prefix_suffix]
  exact ⟨fun ⟨rest, hsuffix, hprefix⟩ => ⟨rest, hprefix, hsuffix⟩,
    fun ⟨rest, hprefix, hsuffix⟩ => ⟨rest, hsuffix, hprefix⟩⟩

/-- Where every occurrence of a pattern is one of the mark, and reads as `a`, the pattern occurs no
more often than `a` is read. -/
theorem occurrences_le_count [BEq α] [LawfulBEq α] {pattern : List Char} {a : α} (hne : pattern ≠ [])
    (h : ∀ rest, mark <+: pattern ++ rest ∧ read ((pattern ++ rest).drop mark.length) = some a)
    (text : List Char) : occurrences pattern text ≤ (readAfter read mark text).count a := by
  induction text with
  | nil =>
    have hnone : pattern.isPrefixOf [] = false := by
      rw [Bool.eq_false_iff, Ne, List.isPrefixOf_iff_prefix, List.prefix_nil]
      exact hne
    simp [occurrences, hnone]
  | cons c rest ih =>
    have hcount : occurrences pattern (c :: rest) =
        occurrences pattern rest + if pattern.isPrefixOf (c :: rest) then 1 else 0 := by
      rw [occurrences, List.tails_cons, List.countP_cons]
      rfl
    rw [hcount, readAfter, List.count_append, Nat.add_comm]
    refine Nat.add_le_add ?_ ih
    split
    · rename_i hhere
      obtain ⟨more, hmore⟩ := List.isPrefixOf_iff_prefix.mp hhere
      obtain ⟨hmark, hread⟩ := h more
      rw [hmore] at hmark hread
      simp [List.isPrefixOf_iff_prefix.mpr hmark, hread]
    · exact Nat.zero_le _

end DeviceSlots.Text
