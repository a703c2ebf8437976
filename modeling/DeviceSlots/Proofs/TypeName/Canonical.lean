import DeviceSlots.Proofs.Text.Trimming
import DeviceSlots.Proofs.TypeName.Scanning

/-!
# Canonical names

The canonical name of a text without stray characters has exactly the reduced tokens of the text, so
two such texts share their canonical name if and only if they share these tokens. A canonical name is
its own canonical name, unless it begins with a stray blank or has been left as the short spelling of
a scalar type.
-/

namespace DeviceSlots.TypeName

open Text (isBlank trim trimStart trimEnd)

/-! ## Blanks of a spelling -/

/-- A blank that separates no tokens. -/
def Token.isBlankStray : Token → Bool
  | .stray c => isBlank c
  | _ => false

theorem isBlank_of_isWordPart {c : Char} (h : isWordPart c = true) : isBlank c = false := by
  have hwithin {low high : UInt32} (hlow : low ≤ c.val) (hhigh : c.val ≤ high)
      (hfirst : 48 ≤ low.toNat) (hlast : high.toNat ≤ 122) :
      48 ≤ c.val.toNat ∧ c.val.toNat ≤ 122 :=
    ⟨Nat.le_trans hfirst (UInt32.le_iff_toNat_le.mp hlow),
      Nat.le_trans (UInt32.le_iff_toNat_le.mp hhigh) hlast⟩
  have hrange : 48 ≤ c.val.toNat ∧ c.val.toNat ≤ 122 := by
    simp only [isWordPart, Char.isAlphanum, Bool.or_eq_true, decide_eq_true_eq] at h
    rcases h with (halpha | hdigit) | rfl
    · rcases Bool.or_eq_true_iff.mp halpha with hupper | hlower
      · obtain ⟨hlow, hhigh⟩ := of_decide_eq_true hupper
        exact hwithin hlow hhigh (by decide) (by decide)
      · obtain ⟨hlow, hhigh⟩ := Bool.and_eq_true_iff.mp hlower
        exact hwithin (of_decide_eq_true hlow) (of_decide_eq_true hhigh) (by decide) (by decide)
    · obtain ⟨hlow, hhigh⟩ := Bool.and_eq_true_iff.mp hdigit
      exact hwithin (of_decide_eq_true hlow) (of_decide_eq_true hhigh) (by decide) (by decide)
    · decide
  rw [Bool.eq_false_iff]
  intro hblank
  simp only [isBlank, Text.blankRanges, List.any_cons, List.any_nil, Bool.or_eq_true,
    Bool.and_eq_true, decide_eq_true_eq, Char.toNat, Bool.false_eq_true, or_false] at hblank
  omega

theorem isBlank_of_isMark {c : Char} (h : isMark c = true) : isBlank c = false := by
  have hall : ['<', '>', '(', ')', '[', ']', '*', '&'].all (fun d => isBlank d = false) = true := by
    decide
  exact of_decide_eq_true (List.all_eq_true.mp hall c (isMark_cases h))

theorem IsWord.isWordPart {text : List Char} (h : IsWord text) :
    text ≠ [] ∧ ∀ c ∈ text, isWordPart c = true := by
  cases text with
  | nil => contradiction
  | cons c rest =>
    refine ⟨List.cons_ne_nil c rest, List.forall_mem_cons.mpr ⟨?_, h.2⟩⟩
    rw [isWordPart_eq, h.1, Bool.true_or]

theorem IsNumber.isWordPart {text : List Char} (h : IsNumber text) :
    text ≠ [] ∧ ∀ c ∈ text, isWordPart c = true := by
  obtain ⟨c, digits, suffix, rfl, hdigit, hdigits, hsuffix⟩ := h
  have hpart : ∀ d : Char, d.isDigit = true → TypeName.isWordPart d = true := by
    intro d hd
    rw [isWordPart_eq, hd, Bool.or_true]
  refine ⟨by simp, ?_⟩
  intro d hd
  rw [List.cons_append, List.mem_cons, List.mem_append] at hd
  rcases hd with rfl | hd | hd
  · exact hpart d hdigit
  · exact hpart d (hdigits d hd)
  · exact isWordPart_of_isSuffixLetter (hsuffix d hd)

/-- The last character of a spelled token is blank only for a comma and for a stray blank. -/
theorem spell_singleton {t : Token} (h : t.Kept) (hcomma : t ≠ .comma)
    (hblank : t.isBlankStray = false) (afterWord : Bool) :
    ∃ text c, spell afterWord [t] = text ++ [c] ∧ isBlank c = false := by
  have hlast {text : List Char} (htext : text ≠ [] ∧ ∀ c ∈ text, isWordPart c = true) :
      ∃ front c, spell.gap afterWord ++ text ++ [] = front ++ [c] ∧ isBlank c = false := by
    obtain ⟨hne, hpart⟩ := htext
    obtain ⟨front, c, rfl⟩ := (List.eq_nil_or_concat text).resolve_left hne
    exact ⟨spell.gap afterWord ++ front, c, by simp,
      isBlank_of_isWordPart (hpart c (by simp))⟩
  cases h with
  | word hword => exact hlast hword.isWordPart
  | number hnumber => exact hlast hnumber.isWordPart
  | scope => exact ⟨[':'], ':', rfl, by decide⟩
  | comma => contradiction
  | @mark c hmark => exact ⟨[], c, rfl, isBlank_of_isMark hmark⟩
  | @stray c => exact ⟨[], c, rfl, hblank⟩

theorem spell_append (afterWord : Bool) (ts : List Token) :
    ∃ flag, ∀ us, spell afterWord (ts ++ us) = spell afterWord ts ++ spell flag us := by
  induction ts generalizing afterWord with
  | nil => exact ⟨afterWord, fun us => rfl⟩
  | cons t rest ih =>
    cases t with
    | qualifier q => exact ih afterWord
    | int64 | word | number =>
      obtain ⟨flag, hflag⟩ := ih true
      exact ⟨flag, fun us => by simp [spell, hflag]⟩
    | scope | comma | mark | stray =>
      obtain ⟨flag, hflag⟩ := ih false
      exact ⟨flag, fun us => by simp [spell, hflag]⟩

/-- What trimming leaves of a spelling is the spelling without the stray blanks at the end, but for
the blank of a comma. -/
theorem trimEnd_spell {ts : List Token} (h : ∀ t ∈ ts, t.Kept) :
    spell false (ts.rdropWhile Token.isBlankStray) = trimEnd (spell false ts) ∨
      spell false (ts.rdropWhile Token.isBlankStray) = trimEnd (spell false ts) ++ [' '] := by
  induction ts using List.reverseRecOn with
  | nil => exact .inl rfl
  | append_singleton ts t ih =>
    have hkept : ∀ u ∈ ts, u.Kept := fun u hu => h u (List.mem_append_left _ hu)
    obtain ⟨flag, hflag⟩ := spell_append false ts
    cases hblank : t.isBlankStray with
    | true =>
      obtain ⟨c, rfl, hc⟩ : ∃ c, t = .stray c ∧ isBlank c = true := by
        cases t with
        | stray c => exact ⟨c, rfl, hblank⟩
        | _ => contradiction
      have htrim : trimEnd (spell false (ts ++ [.stray c])) = trimEnd (spell false ts) := by
        rw [hflag]
        exact Text.trimEnd_concat_of_blank hc
      rw [List.rdropWhile_concat_pos _ _ _ hblank, htrim]
      exact ih hkept
    | false =>
      rw [List.rdropWhile_concat_neg _ _ _ (by simp [hblank]), hflag]
      by_cases hcomma : t = .comma
      · subst hcomma
        right
        have hspell : spell false ts ++ spell flag [.comma] = (spell false ts ++ [',']) ++ [' '] := by
          simp [spell]
        rw [hspell, Text.trimEnd_concat_of_blank (by decide), Text.trimEnd_concat (by decide)]
      · left
        obtain ⟨text, c, hspell, hc⟩ :=
          spell_singleton (h t List.mem_concat_self) hcomma hblank flag
        rw [hspell, ← List.append_assoc, Text.trimEnd_concat hc]

theorem span_append_singleton {p : Char → Bool} {c : Char} (h : p c = false) (text : List Char) :
    (text ++ [c]).takeWhile p = text.takeWhile p ∧
      (text ++ [c]).dropWhile p = text.dropWhile p ++ [c] := by
  induction text with
  | nil => simp [h]
  | cons d rest ih => cases hd : p d <;> simp [hd, ih]

/-- A separator at the end separates nothing. -/
theorem scan_append_separator {b : Char} (h : isSeparator b = true) (text : List Char) :
    scan (text ++ [b]) = scan text := by
  have hpart : isWordPart b = false := by
    rw [Bool.eq_false_iff]
    intro hpart
    rw [isSeparator_of_isWordPart hpart] at h
    contradiction
  have hdigit : b.isDigit = false := by
    rw [isWordPart_eq, Bool.or_eq_false_iff] at hpart
    exact hpart.2
  have hletter : isSuffixLetter b = false := by
    rw [Bool.eq_false_iff]
    intro hletter
    rw [isWordPart_of_isSuffixLetter hletter] at hpart
    contradiction
  have hcolon : b ≠ ':' := by
    rintro rfl
    contradiction
  fun_induction scan text with
  | case1 => rw [List.nil_append, scan_separator h, scan]
  | case2 c rest hseparator ih => rw [List.cons_append, scan_separator hseparator, ih]
  | case3 c rest hseparator hstart ih =>
    obtain ⟨htake, hdrop⟩ := span_append_singleton hpart rest
    rw [List.cons_append, scan, if_neg hseparator, if_pos hstart, htake, hdrop, ih]
  | case4 c rest hseparator hstart hdigits afterDigits ih =>
    obtain ⟨htake, hdrop⟩ := span_append_singleton hdigit rest
    obtain ⟨htake', hdrop'⟩ := span_append_singleton hletter afterDigits
    rw [List.cons_append, scan, if_neg hseparator, if_neg hstart, if_pos hdigits]
    simp only [htake, hdrop]
    rw [htake', hdrop', ih]
  | case5 c rest hseparator hstart hdigits hscope ih =>
    rw [Bool.and_eq_true, decide_eq_true_eq, decide_eq_true_eq] at hscope
    obtain ⟨rfl, hhead⟩ := hscope
    obtain ⟨tail, rfl⟩ := List.head?_eq_some_iff.mp hhead
    rw [List.cons_append, List.cons_append, scan_scope]
    exact congrArg _ ih
  | case6 rest hseparator hstart hdigits hscope ih =>
    rw [List.cons_append, scan_comma, ih]
  | case7 c rest hseparator hstart hdigits hscope hcomma hmark ih =>
    rw [List.cons_append, scan_mark hmark, ih]
  | case8 c rest hseparator hstart hdigits hscope hcomma hmark ih =>
    have hstray : IsStray c := by
      refine ⟨?_, ?_, ?_, hcomma, ?_⟩
      all_goals exact Bool.eq_false_iff.mpr (by assumption)
    rw [List.cons_append, scan_stray hstray, ih]
    rintro rfl hhead
    cases rest with
    | nil => exact hcolon (Option.some.inj hhead)
    | cons d rest => exact hscope (by simpa using hhead)

/-- Scanning a trimmed spelling gives the tokens that were spelled, without the stray blanks at the
end and with neighbouring colons joined. -/
theorem scan_trimEnd_spell {ts : List Token} (h : ∀ t ∈ ts, t.Kept) :
    scan (trimEnd (spell false ts)) = joinColons false (ts.rdropWhile Token.isBlankStray) := by
  have hkept : ∀ t ∈ ts.rdropWhile Token.isBlankStray, t.Kept :=
    fun t ht => h t ((List.rdropWhile_prefix Token.isBlankStray ts).subset ht)
  rw [← (scan_spell hkept false).1]
  rcases trimEnd_spell h with htrim | htrim
  · rw [htrim]
  · rw [htrim, scan_append_separator (by decide)]

/-- Spelling what was scanned of a trimmed spelling gives that spelling again. -/
theorem trimEnd_spell_scan {ts : List Token} (h : ∀ t ∈ ts, t.Kept) :
    trimEnd (spell false (scan (trimEnd (spell false ts)))) = trimEnd (spell false ts) := by
  rw [scan_trimEnd_spell h, (spell_joinColons false _).1]
  rcases trimEnd_spell h with htrim | htrim
  · rw [htrim, Text.trimEnd_trimEnd]
  · rw [htrim, Text.trimEnd_concat_of_blank (by decide), Text.trimEnd_trimEnd]

/-! ## Texts without stray characters -/

/-- The tokens of a raw type name, from which blanks at its ends are trimmed. -/
def tokens (raw : String) : List Token := scan (trim raw.toList)

/-- A raw type name that is no short spelling of a scalar type and has no stray characters. -/
structure Clean (raw : String) : Prop where
  notShort : ∀ s : Scalar, String.ofList (trim raw.toList) ≠ s.shortName
  noStray : ∀ c, .stray c ∉ tokens raw

theorem ofShortName?_eq_none_iff {name : String} :
    Scalar.ofShortName? name = none ↔ ∀ s : Scalar, name ≠ s.shortName := by
  rw [Scalar.ofShortName?, List.find?_eq_none]
  simp [Scalar.mem_all, eq_comm]

theorem kept_tokens (raw : String) : ∀ t ∈ reduced (tokens raw), t.Kept := kept_scan _

/-- Other names than the short ones are spelled from their tokens. -/
theorem toList_canonical {raw : String}
    (h : Scalar.ofShortName? (String.ofList (trim raw.toList)) = none) :
    (canonical raw).toList = trimEnd (spell false (reduced (tokens raw))) := by
  simp only [canonical, h, String.toList_ofList, spell_reduced, tokens]

theorem Clean.toList_canonical {raw : String} (h : Clean raw) :
    (canonical raw).toList = trimEnd (spell false (reduced (tokens raw))) :=
  TypeName.toList_canonical (ofShortName?_eq_none_iff.mpr h.notShort)

/-- Nothing that is kept of a token is stray, unless the token is. -/
theorem stray_mem_reduced {c : Char} {ts : List Token} (h : .stray c ∈ reduced ts) :
    .stray c ∈ ts := by
  obtain ⟨t, ht, hkept⟩ := List.mem_flatMap.mp h
  cases t with
  | stray d =>
    obtain rfl : c = d := by simpa [Token.reduced] using hkept
    exact ht
  | _ => simp [Token.reduced] at hkept

theorem Clean.stray_notMem {raw : String} (h : Clean raw) (c : Char) :
    .stray c ∉ reduced (tokens raw) :=
  fun hmem => h.noStray c (stray_mem_reduced hmem)

theorem Clean.tokens_canonical {raw : String} (h : Clean raw) :
    scan (canonical raw).toList = reduced (tokens raw) := by
  have hlast : (reduced (tokens raw)).rdropWhile Token.isBlankStray = reduced (tokens raw) := by
    refine List.rdropWhile_eq_self_iff.mpr fun hne hblank => ?_
    have hmem := List.getLast_mem hne
    cases hlast : (reduced (tokens raw)).getLast hne with
    | stray c => exact h.stray_notMem c (hlast ▸ hmem)
    | _ => simp [hlast, Token.isBlankStray] at hblank
  rw [h.toList_canonical, scan_trimEnd_spell (kept_tokens raw), hlast, joinColons_eq_self h.stray_notMem]

/-- The canonical name of a text without stray characters has the reduced tokens of the text, so it
tells apart the texts that differ in them, and no others. -/
theorem canonical_converges :
    (∀ raw, Clean raw → scan (canonical raw).toList = reduced (tokens raw)) ∧
      ∀ raw raw', Clean raw → Clean raw' →
        (canonical raw = canonical raw' ↔ reduced (tokens raw) = reduced (tokens raw')) := by
  refine ⟨fun raw h => h.tokens_canonical, fun raw raw' h h' => ⟨?_, ?_⟩⟩
  · intro hsame
    rw [← h.tokens_canonical, ← h'.tokens_canonical, hsame]
  · intro hsame
    apply String.toList_inj.mp
    rw [h.toList_canonical, h'.toList_canonical, hsame]

/-- A type as one compiler spells it. -/
def platformSpelling : String := "class flamingo::Vec< unsigned __int64,3u >"

/-- The same type as another one does. -/
def portableSpelling : String := "flamingo :: Vec<unsigned long long int,3u>"

theorem canonical_converges_spellings :
    Clean platformSpelling ∧ Clean portableSpelling ∧
      canonical platformSpelling = canonical portableSpelling ∧
      scan (canonical platformSpelling).toList = [
        .word "flamingo".toList, .scope, .word "Vec".toList, .mark '<', .word "unsigned".toList,
        .word "long".toList, .word "long".toList, .word "int".toList, .comma,
        .number "3u".toList, .mark '>'] := by
  have hplatform : tokens platformSpelling = [
      .qualifier .classWord, .word "flamingo".toList, .scope, .word "Vec".toList, .mark '<',
      .word "unsigned".toList, .int64, .comma, .number "3u".toList, .mark '>'] := by decide +kernel
  have hportable : tokens portableSpelling = [
      .word "flamingo".toList, .scope, .word "Vec".toList, .mark '<', .word "unsigned".toList,
      .word "long".toList, .word "long".toList, .word "int".toList, .comma,
      .number "3u".toList, .mark '>'] := by decide +kernel
  have hclean : Clean platformSpelling := ⟨ofShortName?_eq_none_iff.mp (by decide), by simp [hplatform]⟩
  have hclean' : Clean portableSpelling := ⟨ofShortName?_eq_none_iff.mp (by decide), by simp [hportable]⟩
  obtain ⟨htokens, hnames⟩ := canonical_converges
  refine ⟨hclean, hclean', (hnames _ _ hclean hclean').mpr ?_, ?_⟩
  · rw [hplatform, hportable]
    rfl
  · rw [htokens _ hclean, hplatform]
    rfl

/-! ## Names that stay -/

/-- The spelling of a token begins with no separator, and with a blank only if the token is a stray
one. -/
theorem spell_cons {t : Token} (h : t.Kept) (rest : List Token) :
    ∃ c text, spell false (t :: rest) = c :: text ∧ isBlank c = t.isBlankStray ∧
      isSeparator c = false := by
  have hfirst {text : List Char} (htext : text ≠ [] ∧ ∀ c ∈ text, isWordPart c = true)
      (behind : List Char) : ∃ c tail, text ++ behind = c :: tail ∧ isBlank c = false ∧
        isSeparator c = false := by
    obtain ⟨c, tail, rfl⟩ := List.exists_cons_of_ne_nil htext.1
    have hpart : isWordPart c = true := htext.2 c List.mem_cons_self
    exact ⟨c, tail ++ behind, rfl, isBlank_of_isWordPart hpart, isSeparator_of_isWordPart hpart⟩
  cases h with
  | word hword => exact hfirst hword.isWordPart _
  | number hnumber => exact hfirst hnumber.isWordPart _
  | scope => exact ⟨':', _, rfl, by decide, by decide⟩
  | comma => exact ⟨',', _, rfl, by decide, by decide⟩
  | @mark c hmark => exact ⟨c, _, rfl, isBlank_of_isMark hmark, (not_other_of_isMark hmark).1⟩
  | @stray c hstray => exact ⟨c, _, rfl, rfl, hstray.separator⟩

theorem trimStart_spell {ts : List Token} (h : ∀ t ∈ ts, t.Kept) :
    trimStart (spell false ts) = spell false (ts.dropWhile Token.isBlankStray) := by
  induction ts with
  | nil => rfl
  | cons t rest ih =>
    obtain ⟨c, text, hspell, hc, -⟩ := spell_cons (h t List.mem_cons_self) rest
    cases hblank : t.isBlankStray with
    | true =>
      rw [List.dropWhile_cons_of_pos hblank, ← ih fun u hu => h u (List.mem_cons_of_mem t hu)]
      cases t with
      | stray c =>
        rw [spell, Text.trimStart_cons]
        exact if_pos hblank
      | _ => contradiction
    | false =>
      rw [List.dropWhile_cons_of_neg (by simp [hblank]), hspell, Text.trimStart_cons,
        if_neg (by simp [hc, hblank])]

/-- The name is a trimmed spelling. -/
def Spelled (name : String) : Prop :=
  ∃ ts, (∀ t ∈ ts, t.Kept) ∧ name.toList = trimEnd (spell false ts)

/-- The device spelling of a scalar type is a row of words. -/
theorem deviceName_words (s : Scalar) :
    ∃ words : List (List Char), (∀ t ∈ words.map Token.word, t.Kept) ∧
      s.deviceName.toList = trimEnd (spell false (words.map .word)) := by
  have hwords : ∃ words : List (List Char),
      (∀ word ∈ words, IsWord word ∧ wordToken word = .word word) ∧
        s.deviceName.toList = trimEnd (spell false (words.map .word)) :=
    ⟨s.deviceName.toList.splitOn ' ', by cases s <;> decide⟩
  obtain ⟨words, hplain, hname⟩ := hwords
  refine ⟨words, ?_, hname⟩
  intro t ht
  obtain ⟨word, hword, rfl⟩ := List.mem_map.mp ht
  exact .word (hplain word hword).1 (hplain word hword).2

theorem spelled_canonical (raw : String) : Spelled (canonical raw) := by
  cases hshort : Scalar.ofShortName? (String.ofList (trim raw.toList)) with
  | none => exact ⟨_, kept_tokens raw, toList_canonical hshort⟩
  | some s =>
    have hdevice : canonical raw = s.deviceName := by simp only [canonical, hshort]
    obtain ⟨words, hkept, hname⟩ := deviceName_words s
    exact hdevice ▸ ⟨_, hkept, hname⟩

theorem canonical_of_short {raw : String} {s : Scalar}
    (h : String.ofList (trim raw.toList) = s.shortName) : canonical raw = s.deviceName := by
  simp only [canonical, h, Scalar.ofShortName?_shortName]

/-- Of a trimmed spelling only blanks at the start are lost, unless what is left is a short name. -/
theorem Spelled.canonical_cases {name : String} (h : Spelled name) :
    (∃ s : Scalar, String.ofList (trimStart name.toList) = s.shortName ∧
        canonical name = s.deviceName) ∨
      canonical name = String.ofList (trimStart name.toList) := by
  obtain ⟨ts, hkept, hname⟩ := h
  have hkept' : ∀ t ∈ ts.dropWhile Token.isBlankStray, t.Kept :=
    fun t ht => hkept t ((List.dropWhile_suffix _).subset ht)
  have hstart : trimStart name.toList =
      trimEnd (spell false (ts.dropWhile Token.isBlankStray)) := by
    rw [hname, Text.trimStart_trimEnd, trimStart_spell hkept]
  have htrim : trim name.toList = trimStart name.toList := by
    rw [trim, hstart, Text.trimEnd_trimEnd]
  by_cases hshort : ∃ s : Scalar, String.ofList (trimStart name.toList) = s.shortName
  · obtain ⟨s, hs⟩ := hshort
    exact .inl ⟨s, hs, canonical_of_short (htrim ▸ hs)⟩
  · right
    have hnone : Scalar.ofShortName? (String.ofList (trim name.toList)) = none := by
      rw [htrim]
      exact ofShortName?_eq_none_iff.mpr (not_exists.mp hshort)
    apply String.toList_inj.mp
    rw [toList_canonical hnone, spell_reduced, tokens, htrim, hstart, trimEnd_spell_scan hkept',
      String.toList_ofList]

/-- The short names that are not device names as well. -/
def shortOnly : List String :=
  ["f32", "f64", "i8", "u8", "i16", "u16", "i32", "u32", "i64", "u64"]

theorem mem_shortOnly_iff {name : String} :
    name ∈ shortOnly ↔ ∃ s : Scalar, s ≠ .bool ∧ name = s.shortName := by
  have hnames : shortOnly = (Scalar.all.filter (· ≠ .bool)).map Scalar.shortName := rfl
  rw [hnames]
  constructor
  · intro h
    obtain ⟨s, hs, rfl⟩ := List.mem_map.mp h
    exact ⟨s, by simpa using (List.mem_filter.mp hs).2, rfl⟩
  · rintro ⟨s, hbool, rfl⟩
    exact List.mem_map_of_mem (List.mem_filter.mpr ⟨s.mem_all, by simpa using hbool⟩)

/-- A canonical name is its own canonical name unless it begins with a blank or is the short spelling
of a scalar type, `bool` apart. -/
theorem canonical_fixed_iff (raw : String) :
    canonical (canonical raw) = canonical raw ↔
      (∀ c ∈ (canonical raw).toList.head?, isBlank c = false) ∧ canonical raw ∉ shortOnly := by
  have hcases := (spelled_canonical raw).canonical_cases
  generalize canonical raw = name at hcases ⊢
  constructor
  · intro hfixed
    rw [hfixed] at hcases
    refine ⟨?_, ?_⟩
    · intro c hc
      rcases hcases with ⟨s, -, rfl⟩ | hstart
      · have hdevice : ∃ d, s.deviceName.toList.head? = some d ∧ isBlank d = false := by
          cases s <;> exact ⟨_, rfl, by decide⟩
        obtain ⟨d, hd, hblank⟩ := hdevice
        cases hd.symm.trans hc
        exact hblank
      · -- a blank at the start would be lost
        obtain ⟨rest, hlist⟩ := List.head?_eq_some_iff.mp hc
        rw [Bool.eq_false_iff]
        intro hblank
        have hlength := congrArg (fun n : String => n.toList.length) hstart
        simp only [String.toList_ofList, hlist, Text.trimStart_cons, if_pos hblank,
          List.length_cons] at hlength
        have hle : (trimStart rest).length ≤ rest.length := (List.dropWhile_sublist _).length_le
        omega
    · intro hshort
      obtain ⟨s, hbool, rfl⟩ := mem_shortOnly_iff.mp hshort
      have hdevice : canonical s.shortName = s.deviceName := by cases s <;> rfl
      rw [hdevice] at hfixed
      cases s <;> contradiction
  · rintro ⟨hhead, hlong⟩
    have hstart : trimStart name.toList = name.toList := by
      cases hlist : name.toList with
      | nil => rfl
      | cons c rest =>
        rw [hlist] at hhead
        rw [Text.trimStart_cons, if_neg (by simp [hhead c rfl])]
    rw [hstart, String.ofList_toList] at hcases
    rcases hcases with ⟨s, hshort, hdevice⟩ | hfixed
    · have hbool : s = .bool := by
        by_contra hother
        exact hlong (mem_shortOnly_iff.mpr ⟨s, hother, hshort⟩)
      subst hbool
      rw [hdevice, hshort]
      rfl
    · exact hfixed

/-- A qualifier may leave a short name, or a stray blank, behind. -/
example : canonical "class f32" = "f32" ∧ canonical "f32" = "float" ∧
    canonical "enum\u00a0x" = "\u00a0x" ∧ canonical "\u00a0x" = "x" := by decide +kernel

end DeviceSlots.TypeName
