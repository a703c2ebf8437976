import Mathlib.Data.List.Chain
import DeviceSlots.Proofs.TypeName.Canonical

/-!
# Tidy names

A tidy name has no blanks at its ends, no two side by side, and no qualifiers. Canonical names are meant
to be tidy. They never end with a blank and have no qualifiers; but blanks that are no separators are
copied like other stray characters, and once the qualifiers are gone only the end is trimmed again. So a
canonical name is tidy unless such a blank comes to stand at its start, behind a comma, or behind
another one.
-/

namespace DeviceSlots.TypeName

open Text (isBlank trim trimEnd)

/-- At most one of two neighbouring characters is blank. -/
def Apart (c d : Char) : Prop := isBlank c = false ∨ isBlank d = false

instance (c d : Char) : Decidable (Apart c d) :=
  inferInstanceAs (Decidable (isBlank c = false ∨ isBlank d = false))

/-- A name as it is meant to be. -/
structure Tidy (name : String) : Prop where
  start : ∀ c ∈ name.toList.head?, isBlank c = false
  finish : ∀ c ∈ name.toList.getLast?, isBlank c = false
  apart : name.toList.IsChain Apart
  plain : ∀ q, .qualifier q ∉ scan name.toList

/-! ## Blanks side by side -/

namespace Token

/-- The token is spelled with letters and digits. -/
def isWordlike : Token → Bool
  | .word _ | .number _ => true
  | _ => false

/-- The spelling of the token ends with a blank. -/
def endsBlank (t : Token) : Bool := t = .comma || t.isBlankStray

/-- The spellings of neighbouring tokens do not put two blanks side by side. -/
def Apart (t u : Token) : Prop := t.endsBlank = false ∨ u.isBlankStray = false

end Token

/-- No stray blank stands at the start, behind a comma, or behind another one. -/
structure Orderly (ts : List Token) : Prop where
  start : ∀ t ∈ ts.head?, t.isBlankStray = false
  apart : ts.IsChain Token.Apart

variable {t : Token} {ts : List Token}

/-- What is spelled after a token depends on whether the token is a word. -/
theorem spell_cons_eq (h : t.Kept) (afterWord : Bool) (rest : List Token) :
    spell afterWord (t :: rest) = spell afterWord [t] ++ spell t.isWordlike rest := by
  cases h <;> simp [spell, Token.isWordlike]

theorem Token.endsBlank_of_isWordlike (h : t.isWordlike = true) : t.endsBlank = false := by
  cases t <;> first | rfl | contradiction

/-- A spelling begins with a blank for a stray one, and for a word behind another one. -/
theorem any_head?_spell (h : ∀ t ∈ ts, t.Kept) (afterWord : Bool) :
    (spell afterWord ts).head?.any isBlank =
      ts.head?.any fun t => t.isBlankStray || afterWord && t.isWordlike := by
  cases ts with
  | nil => rfl
  | cons t rest =>
    have ht := h t List.mem_cons_self
    obtain ⟨c, text, hspell, hc, -⟩ := spell_cons ht rest
    have hplain : (spell false (t :: rest)).head?.any isBlank = t.isBlankStray := by
      rw [hspell]
      exact hc
    cases afterWord with
    | false => simpa using hplain
    | true =>
      cases ht with
      | word | number => rfl
      | scope | comma => rfl
      | @mark c | @stray c => exact hplain.trans (Bool.or_false _).symm

theorem any_getLast?_spell (h : t.Kept) (afterWord : Bool) :
    (spell afterWord [t]).getLast?.any isBlank = t.endsBlank := by
  by_cases hcomma : t = .comma
  · subst hcomma
    rfl
  cases hblank : t.isBlankStray with
  | true =>
    cases t with
    | stray c => simp [spell, Token.endsBlank, Token.isBlankStray]
    | _ => contradiction
  | false =>
    obtain ⟨text, c, hspell, hc⟩ := spell_singleton h hcomma hblank afterWord
    simp [hspell, hc, Token.endsBlank, hcomma, hblank]

theorem isChain_of_tail {text : List Char} (h : ∀ c ∈ text.tail, isBlank c = false) :
    text.IsChain Apart := by
  cases text with
  | nil => exact .nil
  | cons c rest =>
    induction rest generalizing c with
    | nil => exact .singleton c
    | cons d rest ih =>
      obtain ⟨hd, hrest⟩ := List.forall_mem_cons.mp h
      exact .cons_cons (.inr hd) (ih d hrest)

/-- The spelling of one token has no two blanks side by side. -/
theorem isChain_spell_singleton (h : t.Kept) (afterWord : Bool) :
    (spell afterWord [t]).IsChain Apart := by
  have hword {text : List Char} (htext : text ≠ [] ∧ ∀ c ∈ text, isWordPart c = true) :
      (spell.gap afterWord ++ text ++ []).IsChain Apart := by
    obtain ⟨c, rest, rfl⟩ := List.exists_cons_of_ne_nil htext.1
    have hblank : ∀ d ∈ c :: rest, isBlank d = false :=
      fun d hd => isBlank_of_isWordPart (htext.2 d hd)
    rw [List.append_nil]
    apply isChain_of_tail
    cases afterWord with
    | false => exact (List.forall_mem_cons.mp hblank).2
    | true => exact hblank
  cases h with
  | word hletters => exact hword hletters.isWordPart
  | number hdigits => exact hword hdigits.isWordPart
  | scope => exact .cons_cons (.inl (by decide)) (.singleton ':')
  | comma => exact .cons_cons (.inl (by decide)) (.singleton ' ')
  | @mark c | @stray c => exact .singleton c

theorem forall_apart_iff {α β : Type} {p : α → Bool} {q : β → Bool} {a : Option α} {b : Option β} :
    (∀ x ∈ a, ∀ y ∈ b, p x = false ∨ q y = false) ↔ a.any p = false ∨ b.any q = false := by
  cases a <;> cases b <;> simp

theorem forall_mem_iff_any {α : Type} {p : α → Bool} {a : Option α} :
    (∀ x ∈ a, p x = false) ↔ a.any p = false := by
  cases a <;> simp

/-- A spelling has no two blanks side by side if no two neighbouring tokens put them there. -/
theorem isChain_spell (h : ∀ t ∈ ts, t.Kept) (afterWord : Bool) :
    (spell afterWord ts).IsChain Apart ↔ ts.IsChain Token.Apart := by
  induction ts generalizing afterWord with
  | nil => exact iff_of_true .nil .nil
  | cons t rest ih =>
    have ht := h t List.mem_cons_self
    have hrest : ∀ u ∈ rest, u.Kept := fun u hu => h u (List.mem_cons_of_mem t hu)
    -- the gap ahead of a word is no second blank, since it only follows another word
    have hgap : t.endsBlank = false ∨
        (rest.head?.any fun u => u.isBlankStray || t.isWordlike && u.isWordlike) = false ↔
        t.endsBlank = false ∨ rest.head?.any Token.isBlankStray = false := by
      cases hwordlike : t.isWordlike with
      | true => simp [Token.endsBlank_of_isWordlike hwordlike]
      | false => simp
    have hborder : (∀ c ∈ (spell afterWord [t]).getLast?, ∀ d ∈ (spell t.isWordlike rest).head?,
        Apart c d) ↔ ∀ u ∈ rest.head?, t.Apart u := by
      unfold Apart
      rw [forall_apart_iff, any_getLast?_spell ht, any_head?_spell hrest, hgap]
      cases rest.head? <;> simp [Token.Apart]
    have hpiece := isChain_spell_singleton ht afterWord
    rw [spell_cons_eq ht, List.isChain_append, and_iff_right hpiece, ih hrest, hborder,
      List.isChain_cons, and_comm]

/-! ## Canonical names -/

/-- A trimmed spelling has no qualifiers. -/
theorem qualifier_notMem_scan {name : String} (h : ∀ t ∈ ts, t.Kept)
    (hname : name.toList = trimEnd (spell false ts)) (q : Qualifier) :
    .qualifier q ∉ scan name.toList := by
  rw [hname, scan_trimEnd_spell h]
  intro hmem
  rcases mem_joinColons hmem with hshown | hscope | hcolon
  · cases h _ ((List.rdropWhile_prefix Token.isBlankStray ts).subset hshown)
  · cases hscope
  · cases hcolon

/-- No spelling is a separator alone. -/
theorem spell_ne_separator (h : ∀ t ∈ ts, t.Kept) : spell false ts ≠ [' '] := by
  cases ts with
  | nil => exact (List.cons_ne_nil _ _).symm
  | cons t rest =>
    obtain ⟨c, text, hspell, -, hseparator⟩ := spell_cons (h t List.mem_cons_self) rest
    rw [hspell]
    rintro ⟨⟩
    contradiction

section

-- a spelling, or one that has lost the blank of its last comma
variable {text : List Char} (h : ∀ t ∈ ts, t.Kept)
  (htext : spell false ts = text ∨ spell false ts = text ++ [' '])

include h htext

theorem any_head?_of_spell : text.head?.any isBlank = ts.head?.any Token.isBlankStray := by
  have hspell := any_head?_spell h false
  simp only [Bool.false_and, Bool.or_false] at hspell
  rw [← hspell]
  rcases htext with hsame | hcomma
  · rw [hsame]
  · cases text with
    | nil => exact absurd hcomma (spell_ne_separator h)
    | cons c rest => rw [hcomma, List.cons_append, List.head?_cons, List.head?_cons]

theorem isChain_iff_of_spell (hfinish : ∀ c ∈ text.getLast?, isBlank c = false) :
    text.IsChain Apart ↔ ts.IsChain Token.Apart := by
  rw [← isChain_spell h false]
  rcases htext with hsame | hcomma
  · rw [hsame]
  · rw [hcomma, List.isChain_append]
    refine ⟨fun hapart => ⟨hapart, .singleton ' ', ?_⟩, fun hboth => hboth.1⟩
    exact fun c hc d _ => .inl (hfinish c hc)

end

/-- Whether a trimmed spelling is tidy can be seen from its tokens. -/
theorem tidy_iff {name : String} (h : ∀ t ∈ ts, t.Kept)
    (hname : name.toList = trimEnd (spell false ts)) :
    Tidy name ↔ Orderly (ts.rdropWhile Token.isBlankStray) := by
  have hkept : ∀ t ∈ ts.rdropWhile Token.isBlankStray, t.Kept :=
    fun t ht => h t ((List.rdropWhile_prefix Token.isBlankStray ts).subset ht)
  have hfinish : ∀ c ∈ name.toList.getLast?, isBlank c = false := by
    rw [hname]
    exact Text.isBlank_getLast?_trimEnd _
  have htext := trimEnd_spell h
  rw [← hname] at htext
  have hstart : (∀ c ∈ name.toList.head?, isBlank c = false) ↔
      ∀ t ∈ (ts.rdropWhile Token.isBlankStray).head?, t.isBlankStray = false := by
    rw [forall_mem_iff_any, forall_mem_iff_any, any_head?_of_spell hkept htext]
  have hapart := isChain_iff_of_spell hkept htext hfinish
  constructor
  · intro htidy
    exact ⟨hstart.mp htidy.start, hapart.mp htidy.apart⟩
  · intro horderly
    exact ⟨hstart.mpr horderly.start, hfinish, hapart.mpr horderly.apart,
      qualifier_notMem_scan h hname⟩

/-- What is shown of a raw type name: what is kept of its tokens, up to the last one that is no stray
blank. -/
def shown (raw : String) : List Token := (reduced (tokens raw)).rdropWhile Token.isBlankStray

/-- The short spelling of a scalar type is one word. -/
theorem shown_of_short {raw : String} {s : Scalar}
    (h : String.ofList (trim raw.toList) = s.shortName) : shown raw = [.word s.shortName.toList] := by
  have hword : IsWord s.shortName.toList ∧
      wordToken s.shortName.toList = .word s.shortName.toList := by cases s <;> decide
  have hscan : scan s.shortName.toList = [.word s.shortName.toList] := by
    have hstops : Stops [] := nofun
    have happend := scan_word hword.1 hstops
    rw [List.append_nil, hword.2] at happend
    rw [happend, scan]
  have htext : trim raw.toList = s.shortName.toList := by rw [← h, String.toList_ofList]
  rw [shown, tokens, htext, hscan]
  rfl

theorem orderly_of_forall (h : ∀ t ∈ ts, t.isBlankStray = false) : Orderly ts := by
  refine ⟨fun t ht => h t (List.mem_of_mem_head? ht), ?_⟩
  have hpairs : ts.Pairwise Token.Apart :=
    List.pairwise_of_forall_mem_list fun _ _ u hu => .inr (h u hu)
  exact hpairs.isChain

theorem tidy_deviceName (s : Scalar) : Tidy s.deviceName := by
  obtain ⟨words, hkept, hname⟩ := deviceName_words s
  apply (tidy_iff hkept hname).mpr
  apply orderly_of_forall
  intro t ht
  obtain ⟨word, -, rfl⟩ := List.mem_map.mp ((List.rdropWhile_prefix _ _).subset ht)
  rfl

theorem tidy_canonical_iff_orderly (raw : String) : Tidy (canonical raw) ↔ Orderly (shown raw) := by
  by_cases hshort : ∃ s : Scalar, String.ofList (trim raw.toList) = s.shortName
  · obtain ⟨s, hs⟩ := hshort
    rw [canonical_of_short hs, shown_of_short hs]
    exact iff_of_true (tidy_deviceName s) (orderly_of_forall (List.forall_mem_singleton.mpr rfl))
  · have hnone := ofShortName?_eq_none_iff.mpr (not_exists.mp hshort)
    exact tidy_iff (kept_tokens raw) (toList_canonical hnone)

/-- A canonical name never ends with a blank and has no qualifiers. It is tidy if what is shown of the
raw name has no stray blank at the start, behind a comma, or behind another one, and only then. -/
theorem canonical_tidy_iff (raw : String) :
    (∀ c ∈ (canonical raw).toList.getLast?, isBlank c = false) ∧
      (∀ q, .qualifier q ∉ scan (canonical raw).toList) ∧
      (Tidy (canonical raw) ↔ Orderly (shown raw)) := by
  obtain ⟨ts, hkept, hname⟩ := spelled_canonical raw
  refine ⟨?_, qualifier_notMem_scan hkept hname, tidy_canonical_iff_orderly raw⟩
  rw [hname]
  exact Text.isBlank_getLast?_trimEnd _

/-- A no-break space is left at the start when a qualifier goes, and stays behind another one. -/
theorem canonical_untidy :
    canonical "class\u00a0x" = "\u00a0x" ∧ ¬ Tidy (canonical "class\u00a0x") ∧
      canonical "a\u00a0\u00a0b" = "a\u00a0\u00a0b" ∧ ¬ Tidy (canonical "a\u00a0\u00a0b") := by
  have hstart : canonical "class\u00a0x" = "\u00a0x" := by decide +kernel
  have hmiddle : canonical "a\u00a0\u00a0b" = "a\u00a0\u00a0b" := by decide +kernel
  refine ⟨hstart, ?_, hmiddle, ?_⟩
  · rw [hstart]
    intro htidy
    exact absurd (htidy.start '\u00a0' rfl) (by decide)
  · rw [hmiddle]
    intro htidy
    exact absurd htidy.apart (by decide)

end DeviceSlots.TypeName
