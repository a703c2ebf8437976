import DeviceSlots.Config
import DeviceSlots.Proofs.Text.Lines

/-!
# Valid configurations

The two names of a valid configuration are identifiers, and an identifier holds nothing but letters,
digits and underscores.
-/

namespace DeviceSlots

theorem Config.validate_eq_ok_iff (config : Config) :
    config.validate = .ok () ↔
      config.environmentCapacity % slotSize = 0 ∧ isIdentifier config.symbolName = true ∧
      isIdentifier config.faultMacro = true := by
  unfold Config.validate
  split
  · rename_i h
    simp [h]
  · rename_i h
    cases hs : isIdentifier config.symbolName <;> cases hm : isIdentifier config.faultMacro <;>
      simp [Decidable.not_not.mp h]

/-- An identifier has a first character, and all its characters are those of words. -/
theorem isIdentifier_chars {text : String} (h : isIdentifier text = true) :
    ∃ c rest, text.toList = c :: rest ∧ (c.isAlpha = true ∨ c = '_') ∧
      ∀ d ∈ text.toList, d.isAlphanum = true ∨ d = '_' := by
  unfold isIdentifier at h
  split at h
  · contradiction
  · rename_i c rest hlist
    simp only [Bool.and_eq_true, Bool.or_eq_true, decide_eq_true_eq, List.all_eq_true] at h
    refine ⟨c, rest, hlist, h.1, ?_⟩
    intro d hd
    rw [hlist] at hd
    rcases List.mem_cons.mp hd with rfl | hd
    · rcases h.1 with halpha | hunder
      · exact .inl (by simp [Char.isAlphanum, halpha])
      · exact .inr hunder
    · exact h.2 d hd

theorem not_isAlpha_of_isDigit {c : Char} (h : c.isDigit = true) : ¬ c.isAlpha = true := by
  intro halpha
  have hle : c.val ≤ 57 := of_decide_eq_true (Bool.and_eq_true_iff.mp h).2
  rcases Bool.or_eq_true_iff.mp halpha with hupper | hlower
  · have hge : 65 ≤ c.val := (of_decide_eq_true hupper).1
    exact absurd (UInt32.le_trans hge hle) (by decide)
  · have hge : 97 ≤ c.val := of_decide_eq_true (Bool.and_eq_true_iff.mp hlower).1
    exact absurd (UInt32.le_trans hge hle) (by decide)

theorem lacks_of_isIdentifier {text : String} (h : isIdentifier text = true) {c : Char}
    (hc : c.isAlphanum = false) (hunder : c ≠ '_') : Text.Lacks c text := by
  obtain ⟨-, -, -, -, hall⟩ := isIdentifier_chars h
  intro hmem
  rcases hall c hmem with halpha | heq
  · rw [hc] at halpha
    contradiction
  · exact hunder heq

end DeviceSlots
