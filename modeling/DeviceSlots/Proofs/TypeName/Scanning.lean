import Mathlib.Data.List.TakeWhile
import DeviceSlots.Proofs.Config
import DeviceSlots.TypeName.Canonical

/-!
# Scanning what was spelled

The tokens of a text, less the qualifiers and with the platform keyword spelled out, are what its
canonical spelling says. Scanning that spelling gives these tokens back: no two words run together,
since a blank stands between them. Only colons that stood alone may come to stand side by side, and
two of them are one mark.
-/

namespace DeviceSlots.TypeName

/-! ## Classes of characters -/

/-- The character begins no token, or none but the mark `::`. -/
structure IsStray (c : Char) : Prop where
  separator : isSeparator c = false
  wordStart : isWordStart c = false
  digit : c.isDigit = false
  comma : c ≠ ','
  mark : isMark c = false

theorem isStray_colon : IsStray ':' := ⟨by decide, by decide, by decide, by decide, by decide⟩

theorem isWordPart_eq (c : Char) : isWordPart c = (isWordStart c || c.isDigit) := by
  simp only [isWordPart, isWordStart, Char.isAlphanum, Bool.or_right_comm]

theorem isSeparator_of_isWordPart {c : Char} (h : isWordPart c = true) : isSeparator c = false := by
  rw [Bool.eq_false_iff]
  intro hseparator
  simp only [isSeparator, Bool.or_eq_true, decide_eq_true_eq] at hseparator
  rcases hseparator with ((rfl | rfl) | rfl) | rfl <;> contradiction

theorem isSeparator_of_isWordStart {c : Char} (h : isWordStart c = true) :
    isSeparator c = false :=
  isSeparator_of_isWordPart (by rw [isWordPart_eq, h, Bool.true_or])

theorem isSeparator_of_isDigit {c : Char} (h : c.isDigit = true) : isSeparator c = false :=
  isSeparator_of_isWordPart (by rw [isWordPart_eq, h, Bool.or_true])

theorem isWordStart_of_isDigit {c : Char} (h : c.isDigit = true) : isWordStart c = false := by
  have hline : c ≠ '_' := by
    rintro rfl
    contradiction
  simp [isWordStart, not_isAlpha_of_isDigit h, hline]

theorem isWordPart_of_isSuffixLetter {c : Char} (h : isSuffixLetter c = true) :
    isWordPart c = true := by
  simp only [isSuffixLetter, Bool.or_eq_true, decide_eq_true_eq] at h
  rcases h with ((rfl | rfl) | rfl) | rfl <;> rfl

theorem isMark_cases {c : Char} (h : isMark c = true) :
    c ∈ ['<', '>', '(', ')', '[', ']', '*', '&'] := by
  rwa [isMark, List.contains_eq_mem, decide_eq_true_eq] at h

/-- A mark is of no other class. -/
theorem not_other_of_isMark {c : Char} (h : isMark c = true) :
    isSeparator c = false ∧ isWordPart c = false ∧ c ≠ ':' ∧ c ≠ ',' := by
  have hall : ['<', '>', '(', ')', '[', ']', '*', '&'].all (fun d =>
      isSeparator d = false ∧ isWordPart d = false ∧ d ≠ ':' ∧ d ≠ ',') = true := by decide
  exact of_decide_eq_true (List.all_eq_true.mp hall c (isMark_cases h))

/-! ## One token at a time -/

/-- A word, which may be a keyword. -/
def IsWord : List Char → Prop
  | [] => False
  | c :: rest => isWordStart c = true ∧ ∀ d ∈ rest, isWordPart d = true

instance : DecidablePred IsWord
  | [] => inferInstanceAs (Decidable False)
  | c :: rest =>
    decidable_of_iff (isWordStart c = true ∧ rest.all isWordPart = true) (by simp [IsWord])

/-- A number with its suffix. -/
def IsNumber (text : List Char) : Prop :=
  ∃ c digits suffix, text = c :: digits ++ suffix ∧ c.isDigit = true ∧
    (∀ d ∈ digits, d.isDigit = true) ∧ ∀ d ∈ suffix, isSuffixLetter d = true

/-- What follows a word or a number does not go on with it. -/
def Stops (rest : List Char) : Prop := ∀ c ∈ rest.head?, isWordPart c = false

variable {c : Char} {text rest : List Char}

/-- A run of characters of a class ends where a character of another class follows. -/
theorem span_append {p : Char → Bool} (htext : ∀ c ∈ text, p c = true)
    (hrest : ∀ c ∈ rest.head?, p c = false) :
    (text ++ rest).takeWhile p = text ∧ (text ++ rest).dropWhile p = rest := by
  rw [List.takeWhile_append_of_pos htext, List.dropWhile_append_of_pos htext]
  cases rest with
  | nil => simp
  | cons c rest => simp [hrest c rfl]

theorem scan_separator (h : isSeparator c = true) (rest : List Char) :
    scan (c :: rest) = scan rest := by
  rw [scan, if_pos h]

theorem scan_word (h : IsWord text) (hrest : Stops rest) :
    scan (text ++ rest) = wordToken text :: scan rest := by
  obtain _ | ⟨c, tail⟩ := text
  · contradiction
  obtain ⟨hstart, htail⟩ := h
  obtain ⟨htake, hdrop⟩ := span_append htail hrest
  rw [List.cons_append, scan, if_neg (by simp [isSeparator_of_isWordStart hstart]), if_pos hstart,
    htake, hdrop]

theorem scan_number (h : IsNumber text) (hrest : Stops rest) :
    scan (text ++ rest) = .number text :: scan rest := by
  obtain ⟨c, digits, suffix, rfl, hdigit, hdigits, hsuffix⟩ := h
  have hletters : ∀ d ∈ rest.head?, isSuffixLetter d = false := by
    intro d hd
    rw [Bool.eq_false_iff]
    intro hletter
    have hpart := isWordPart_of_isSuffixLetter hletter
    rw [hrest d hd] at hpart
    contradiction
  have hafter : ∀ d ∈ (suffix ++ rest).head?, d.isDigit = false := by
    intro d hd
    rw [Bool.eq_false_iff]
    intro hdigit'
    cases suffix with
    | nil =>
      have hpart := hrest d hd
      rw [isWordPart_eq, hdigit', Bool.or_true] at hpart
      exact Bool.false_ne_true hpart.symm
    | cons first suffix =>
      cases hd
      have hletter := hsuffix _ List.mem_cons_self
      simp only [isSuffixLetter, Bool.or_eq_true, decide_eq_true_eq] at hletter
      rcases hletter with ((rfl | rfl) | rfl) | rfl <;> contradiction
  obtain ⟨htake, hdrop⟩ := span_append hdigits hafter
  obtain ⟨htake', hdrop'⟩ := span_append hsuffix hletters
  rw [List.append_assoc, List.cons_append, scan, if_neg (by simp [isSeparator_of_isDigit hdigit]),
    if_neg (by simp [isWordStart_of_isDigit hdigit]), if_pos hdigit]
  simp only [htake, hdrop, htake', hdrop', List.cons_append]

theorem scan_scope (rest : List Char) : scan (':' :: ':' :: rest) = .scope :: scan rest := by
  rw [scan]
  rfl

theorem scan_comma (rest : List Char) : scan (',' :: rest) = .comma :: scan rest := by
  rw [scan]
  rfl

theorem scan_mark (h : isMark c = true) (rest : List Char) :
    scan (c :: rest) = .mark c :: scan rest := by
  obtain ⟨hseparator, hpart, hcolon, hcomma⟩ := not_other_of_isMark h
  rw [isWordPart_eq, Bool.or_eq_false_iff] at hpart
  simp [scan, hseparator, hpart.1, hpart.2, hcolon, hcomma, h]

/-- A lone colon is one that no colon follows. -/
theorem scan_stray (h : IsStray c) (hrest : c = ':' → rest.head? ≠ some ':') :
    scan (c :: rest) = .stray c :: scan rest := by
  have hlone : (c = ':' && rest.head? = some ':') = false := by
    by_cases hcolon : c = ':'
    · simp [hrest hcolon]
    · simp [hcolon]
  rw [scan, if_neg (by simp [h.separator]), if_neg (by simp [h.wordStart]),
    if_neg (by simp [h.digit]), if_neg (by rw [hlone]; simp), if_neg h.comma,
    if_neg (by simp [h.mark])]

/-! ## Reduced tokens -/

/-- What the canonical name keeps of a token: nothing of a qualifier, and the portable words for the
platform keyword. -/
def Token.reduced : Token → List Token
  | .qualifier _ => []
  | .int64 => [.word "long".toList, .word "long".toList, .word "int".toList]
  | token => [token]

/-- What the canonical name keeps of tokens. -/
def reduced (tokens : List Token) : List Token := tokens.flatMap Token.reduced

/-- A reduced token as scanning gives it. -/
inductive Token.Kept : Token → Prop
  | word {text : List Char} (h : IsWord text) (hplain : wordToken text = .word text) :
      Kept (.word text)
  | number {text : List Char} (h : IsNumber text) : Kept (.number text)
  | scope : Kept .scope
  | comma : Kept .comma
  | mark {c : Char} (h : isMark c = true) : Kept (.mark c)
  | stray {c : Char} (h : IsStray c) : Kept (.stray c)

theorem wordToken_cases (text : List Char) :
    (∃ q, wordToken text = .qualifier q) ∨ wordToken text = .int64 ∨
      wordToken text = .word text := by
  unfold wordToken
  split
  · exact .inl ⟨_, rfl⟩
  · split
    · exact .inr (.inl rfl)
    · exact .inr (.inr rfl)

theorem kept_wordToken (h : IsWord text) : ∀ t ∈ (wordToken text).reduced, t.Kept := by
  have hlong : Token.Kept (.word "long".toList) := .word (by decide) (by decide)
  have hint : Token.Kept (.word "int".toList) := .word (by decide) (by decide)
  rcases wordToken_cases text with ⟨q, htoken⟩ | htoken | htoken
  · simp [htoken, Token.reduced]
  · rw [htoken]
    exact List.forall_mem_cons.mpr ⟨hlong, List.forall_mem_cons.mpr ⟨hlong, by simpa using hint⟩⟩
  · simp [htoken, Token.reduced, Token.Kept.word h htoken]

theorem kept_scan (text : List Char) : ∀ t ∈ reduced (scan text), t.Kept := by
  -- what is kept of the first token is as it should be, and so is what is kept of the others
  have hcons {token : Token} {others : List Token} (hfirst : ∀ t ∈ token.reduced, t.Kept)
      (hothers : ∀ t ∈ reduced others, t.Kept) : ∀ t ∈ reduced (token :: others), t.Kept := by
    intro t ht
    rw [reduced, List.flatMap_cons, List.mem_append] at ht
    exact ht.elim (hfirst t) (hothers t)
  have hsingle {token : Token} (h : token.Kept) : ∀ t ∈ [token], t.Kept :=
    List.forall_mem_singleton.mpr h
  fun_induction scan text with
  | case1 => simp [reduced]
  | case2 c rest hseparator ih => exact ih
  | case3 c rest hseparator hstart ih =>
    refine hcons (kept_wordToken ⟨hstart, ?_⟩) ih
    exact fun d hd => List.mem_takeWhile_imp hd
  | case4 c rest hseparator hstart hdigit afterDigits ih =>
    refine hcons (hsingle (.number ⟨c, _, _, rfl, hdigit, ?_, ?_⟩)) ih
    · exact fun d hd => List.mem_takeWhile_imp hd
    · exact fun d hd => List.mem_takeWhile_imp hd
  | case5 c rest hseparator hstart hdigit hscope ih => exact hcons (hsingle .scope) ih
  | case6 rest hseparator hstart hdigit hscope ih => exact hcons (hsingle .comma) ih
  | case7 c rest hseparator hstart hdigit hscope hcomma hmark ih =>
    exact hcons (hsingle (.mark hmark)) ih
  | case8 c rest hseparator hstart hdigit hscope hcomma hmark ih =>
    refine hcons (hsingle (.stray ⟨?_, ?_, ?_, hcomma, ?_⟩)) ih
    all_goals exact Bool.eq_false_iff.mpr (by assumption)

/-! ## Spelling and scanning -/

/-- Joins colons that stand side by side. `pending` says whether a lone colon stands ahead. -/
def joinColons : (pending : Bool) → List Token → List Token
  | false, [] => []
  | true, [] => [.stray ':']
  | false, .stray ':' :: rest => joinColons true rest
  | true, .stray ':' :: rest => .scope :: joinColons false rest
  | true, .scope :: rest => .scope :: joinColons true rest
  | false, token :: rest => token :: joinColons false rest
  | true, token :: rest => .stray ':' :: token :: joinColons false rest

/-- A blank, a mark or nothing stands behind a word. -/
theorem stops_spell {ts : List Token} (h : ∀ t ∈ ts, t.Kept) : Stops (spell true ts) := by
  cases ts with
  | nil => simp [spell, Stops]
  | cons t rest =>
    cases h t List.mem_cons_self with
    | word | number => simp [spell, spell.gap, Stops]; decide
    | scope | comma => simp [spell, Stops]; decide
    | mark hmark => simpa [spell, Stops] using (not_other_of_isMark hmark).2.1
    | stray hstray => simp [spell, Stops, isWordPart_eq, hstray.wordStart, hstray.digit]

theorem scan_gap (afterWord : Bool) (text : List Char) :
    scan (spell.gap afterWord ++ text) = scan text := by
  cases afterWord with
  | false => rfl
  | true => exact scan_separator rfl text

/-- Scanning a spelling gives the tokens that were spelled, with neighbouring colons joined. -/
theorem scan_spell {ts : List Token} (h : ∀ t ∈ ts, t.Kept) (afterWord : Bool) :
    scan (spell afterWord ts) = joinColons false ts ∧
      scan (':' :: spell false ts) = joinColons true ts := by
  induction ts generalizing afterWord with
  | nil =>
    have hnil : scan [] = [] := by rw [scan]
    exact ⟨hnil, by rw [spell, scan_stray isStray_colon (by simp), hnil, joinColons]⟩
  | cons t rest ih =>
    have hrest : ∀ u ∈ rest, u.Kept := fun u hu => h u (List.mem_cons_of_mem t hu)
    have hstops := stops_spell hrest
    have hscan (flag : Bool) : scan (spell flag rest) = joinColons false rest := (ih hrest flag).1
    have hcolon : scan (':' :: spell false rest) = joinColons true rest := (ih hrest false).2
    -- a colon ahead of any other token stays alone
    have hlone (hhead : (spell false (t :: rest)).head? ≠ some ':')
        (hfirst : ∀ flag, scan (spell flag (t :: rest)) = t :: joinColons false rest) :
        scan (spell afterWord (t :: rest)) = t :: joinColons false rest ∧
          scan (':' :: spell false (t :: rest)) = .stray ':' :: t :: joinColons false rest :=
      ⟨hfirst afterWord, by rw [scan_stray isStray_colon fun _ => hhead, hfirst]⟩
    cases h t List.mem_cons_self with
    | @word text hword hplain =>
      have hfirst (flag : Bool) :
          scan (spell flag (.word text :: rest)) = .word text :: joinColons false rest := by
        rw [spell, List.append_assoc, scan_gap, scan_word hword hstops, hplain, hscan]
      refine hlone ?_ hfirst
      obtain _ | ⟨c, tail⟩ := text
      · contradiction
      · rintro ⟨⟩
        exact absurd hword.1 (by decide)
    | @number text hnumber =>
      have hfirst (flag : Bool) :
          scan (spell flag (.number text :: rest)) = .number text :: joinColons false rest := by
        rw [spell, List.append_assoc, scan_gap, scan_number hnumber hstops, hscan]
      refine hlone ?_ hfirst
      obtain ⟨c, digits, suffix, rfl, hdigit, -⟩ := hnumber
      rintro ⟨⟩
      contradiction
    | scope =>
      refine ⟨?_, ?_⟩
      · rw [spell, scan_scope, hscan, joinColons]
        intro heq
        cases heq
      · rw [spell, scan_scope, hcolon, joinColons]
    | comma =>
      refine hlone (by simp [spell]) fun flag => ?_
      rw [spell, scan_comma, scan_separator rfl, hscan]
    | @mark c hmark =>
      refine hlone ?_ fun flag => ?_
      · simpa [spell] using (not_other_of_isMark hmark).2.2.1
      · rw [spell, scan_mark hmark, hscan]
    | @stray c hstray =>
      by_cases hc : c = ':'
      · subst hc
        refine ⟨?_, ?_⟩
        · rw [spell, hcolon, joinColons]
        · rw [spell, scan_scope, hscan, joinColons]
      · have hlone := hlone (by simpa [spell] using hc) fun flag => by
          rw [spell, scan_stray hstray fun h => absurd h hc, hscan]
        simpa [joinColons, hc] using hlone

/-- The spelling does not show which tokens were reduced. -/
theorem spell_reduced (afterWord : Bool) (ts : List Token) :
    spell afterWord (reduced ts) = spell afterWord ts := by
  induction ts generalizing afterWord with
  | nil => rfl
  | cons t rest ih =>
    rw [reduced, List.flatMap_cons]
    change spell afterWord (t.reduced ++ reduced rest) = _
    cases t with
    | int64 =>
      simp only [Token.reduced, List.cons_append, List.nil_append, spell, ih]
      simp [spell.gap, portableInt64]
    | _ => simp [Token.reduced, spell, ih]

/-- Nor does it show which colons were joined. -/
theorem spell_joinColons (afterWord : Bool) (ts : List Token) :
    spell afterWord (joinColons false ts) = spell afterWord ts ∧
      spell afterWord (joinColons true ts) = ':' :: spell false ts := by
  induction ts generalizing afterWord with
  | nil => exact ⟨rfl, rfl⟩
  | cons t rest ih =>
    have hrest (flag : Bool) : spell flag (joinColons false rest) = spell flag rest := (ih flag).1
    have hcolon (flag : Bool) : spell flag (joinColons true rest) = ':' :: spell false rest :=
      (ih flag).2
    cases t with
    | stray c =>
      by_cases hc : c = ':'
      · subst hc
        simp [joinColons, spell, hrest, hcolon]
      · simp [joinColons, spell, hrest, hc]
    | _ => simp [joinColons, spell, hrest, hcolon]

theorem mem_joinColons {pending : Bool} {t : Token} {ts : List Token}
    (h : t ∈ joinColons pending ts) : t ∈ ts ∨ t = .scope ∨ t = .stray ':' := by
  fun_induction joinColons pending ts <;> grind

theorem joinColons_eq_self {ts : List Token} (h : ∀ c, .stray c ∉ ts) :
    joinColons false ts = ts := by
  induction ts with
  | nil => rfl
  | cons t rest ih =>
    have hrest := ih fun c hmem => h c (List.mem_cons_of_mem t hmem)
    cases t with
    | stray c => exact absurd List.mem_cons_self (h c)
    | _ =>
      rw [joinColons, hrest]
      exact nofun

end DeviceSlots.TypeName
