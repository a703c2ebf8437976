import DeviceSlots.Text.Blank
import Mathlib.Data.List.DropRight

/-!
# Trimming

Trimming stops at the first character that is not blank, from either end, so it does not matter which
end comes first, and trimming twice does what trimming once does.
-/

namespace DeviceSlots.Text

variable {text : List Char} {c : Char}

theorem trimEnd_concat_of_blank (h : isBlank c = true) : trimEnd (text ++ [c]) = trimEnd text := by
  rw [trimEnd_append_singleton, if_pos h]

theorem trimEnd_concat (h : isBlank c = false) : trimEnd (text ++ [c]) = text ++ [c] := by
  rw [trimEnd_append_singleton, if_neg (by simp [h])]

theorem trimEnd_trimEnd (text : List Char) : trimEnd (trimEnd text) = trimEnd text :=
  List.rdropWhile_idempotent isBlank text

theorem isBlank_getLast?_trimEnd (text : List Char) :
    ∀ c ∈ (trimEnd text).getLast?, isBlank c = false := by
  intro c hc
  obtain ⟨hne, rfl⟩ := List.mem_getLast?_eq_getLast hc
  exact Bool.eq_false_iff.mpr (List.rdropWhile_last_not isBlank text hne)

theorem trimEnd_cons (c : Char) (text : List Char) :
    trimEnd (c :: text) =
      if trimEnd text = [] then if isBlank c then [] else [c] else c :: trimEnd text := by
  have hempty : ((text.reverse.dropWhile isBlank).isEmpty = true) ↔ trimEnd text = [] := by
    rw [List.isEmpty_iff, trimEnd, List.reverse_eq_nil_iff]
  rw [trimEnd, List.reverse_cons, List.dropWhile_append]
  by_cases h : trimEnd text = []
  · rw [if_pos (hempty.mpr h), if_pos h]
    cases hc : isBlank c <;> simp [hc]
  · rw [if_neg (mt hempty.mp h), if_neg h, List.reverse_append]
    rfl

/-- Both ends are trimmed alike, whichever comes first. -/
theorem trimStart_trimEnd (text : List Char) :
    trimStart (trimEnd text) = trimEnd (trimStart text) := by
  induction text with
  | nil => rfl
  | cons c text ih =>
    cases hc : isBlank c with
    | true =>
      have hstart (rest : List Char) : trimStart (c :: rest) = trimStart rest := by
        rw [trimStart_cons, if_pos hc]
      rw [trimEnd_cons, hstart, ← ih]
      split
      · rename_i hnil
        rw [hnil]
      · exact hstart _
    | false =>
      have hstart (rest : List Char) : trimStart (c :: rest) = c :: rest := by
        rw [trimStart_cons, if_neg (by simp [hc])]
      rw [trimEnd_cons, hstart, trimEnd_cons]
      split
      · simp [hc, hstart]
      · exact hstart _

end DeviceSlots.Text
