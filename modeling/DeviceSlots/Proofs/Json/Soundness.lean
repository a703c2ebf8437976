import DeviceSlots.Proofs.Json.Exact
import DeviceSlots.Proofs.Json.Grammar

/-!
# Texts that are read

Only texts of values are read. A reader takes the row of tokens of a value, or nothing; and where the
scanner finds such a row, it has passed over the text of a value.
-/

namespace DeviceSlots.Json

variable {α : Type}

/-! ## Numbers -/

theorem digits1?_eq_some {text ds rest : List Char} (h : Numeral.digits1? text = some (ds, rest)) :
    text = ds ++ rest ∧ DigitsText ds := by
  have hsplit : (Numeral.digits text).1 ++ (Numeral.digits text).2 = text :=
    List.takeWhile_append_dropWhile
  unfold Numeral.digits1? at h
  split at h
  · contradiction
  · rename_i hne
    have heq : Numeral.digits text = (ds, rest) := Option.some.inj h
    rw [heq] at hsplit
    refine ⟨hsplit.symm, ?_, ?_⟩
    · rintro rfl
      exact hne rest heq
    · intro c hc
      have hds : text.takeWhile Char.isDigit = ds := congrArg Prod.fst heq
      exact List.all_eq_true.mp List.all_takeWhile c (hds ▸ hc)

theorem whole?_eq_some {text ds rest : List Char} (h : Numeral.whole? text = some (ds, rest)) :
    text = ds ++ rest ∧ WholeText ds := by
  unfold Numeral.whole? at h
  cases hd : Numeral.digits1? text with
  | none => simp [hd] at h
  | some found =>
    obtain ⟨found, after⟩ := found
    simp only [hd, Option.bind_eq_bind, Option.bind_some] at h
    split at h
    · contradiction
    · rename_i hzero
      cases h
      obtain ⟨htext, hdigits⟩ := digits1?_eq_some hd
      refine ⟨htext, hdigits, ?_⟩
      intro hhead
      obtain ⟨ds', rfl⟩ := List.head?_eq_some_iff.mp hhead
      have hlone : ds'.length = 0 := by simpa using hzero
      rw [List.length_eq_zero_iff.mp hlone]

theorem fraction?_eq_some {text rest : List Char} {ds : Option (List Char)}
    (h : Numeral.fraction? text = some (ds, rest)) : ∃ t, text = t ++ rest ∧ FractionText t := by
  unfold Numeral.fraction? at h
  split at h
  · rename_i rest'
    cases hd : Numeral.digits1? rest' with
    | none => simp [hd] at h
    | some found =>
      rw [hd] at h
      cases h
      obtain ⟨rfl, hdigits⟩ := digits1?_eq_some hd
      exact ⟨_, rfl, .inr ⟨_, rfl, hdigits⟩⟩
  · cases h
    exact ⟨[], rfl, .inl rfl⟩

theorem exponentSign_eq (text : List Char) :
    ∃ sign ∈ [[], ['+'], ['-']], text = sign ++ (Numeral.exponentSign text).2 := by
  unfold Numeral.exponentSign
  split
  · exact ⟨['+'], by simp, rfl⟩
  · exact ⟨['-'], by simp, rfl⟩
  · exact ⟨[], by simp, rfl⟩

theorem exponent?_eq_some {text rest : List Char} {e : Option (Bool × List Char)}
    (h : Numeral.exponent? text = some (e, rest)) : ∃ t, text = t ++ rest ∧ ExponentText t := by
  unfold Numeral.exponent? at h
  split at h
  · cases h
    exact ⟨[], rfl, .inl rfl⟩
  · rename_i c rest'
    split at h
    · rename_i hc
      cases hd : Numeral.digits1? (Numeral.exponentSign rest').2 with
      | none => simp [hd] at h
      | some found =>
        obtain ⟨ds, after⟩ := found
        obtain ⟨htext, hdigits⟩ := digits1?_eq_some hd
        obtain ⟨sign, hsign, hsplit⟩ := exponentSign_eq rest'
        simp only [hd, Option.map_some, Option.some.injEq, Prod.mk.injEq] at h
        refine ⟨c :: (sign ++ ds), ?_, .inr ⟨c, sign, ds, rfl, by simpa using hc, hsign, hdigits⟩⟩
        rw [hsplit, htext, h.2, List.cons_append, List.append_assoc]
    · cases h
      exact ⟨[], rfl, .inl rfl⟩

theorem sign_eq (text : List Char) : ∃ sign ∈ [[], ['-']], text = sign ++ (Numeral.sign text).2 := by
  unfold Numeral.sign
  split
  · exact ⟨['-'], by simp, rfl⟩
  · exact ⟨[], by simp, rfl⟩

theorem scan?_eq_some {text rest : List Char} {x : Numeral}
    (h : Numeral.scan? text = some (x, rest)) : ∃ t, text = t ++ rest ∧ NumberText t := by
  unfold Numeral.scan? at h
  obtain ⟨sign, hsign, hsplit⟩ := sign_eq text
  simp only [Option.bind_eq_bind, Option.bind_eq_some_iff] at h
  obtain ⟨⟨whole, _⟩, hreadWhole, ⟨fraction, _⟩, hreadFraction, ⟨exponent, _⟩, hreadExponent, h⟩ := h
  cases h
  obtain ⟨hwholeSplit, hwhole⟩ := whole?_eq_some hreadWhole
  obtain ⟨decimals, rfl, hfraction⟩ := fraction?_eq_some hreadFraction
  obtain ⟨power, rfl, hexponent⟩ := exponent?_eq_some hreadExponent
  refine ⟨sign ++ (whole ++ (decimals ++ power)), ?_,
    ⟨sign, whole, decimals, power, rfl, hsign, hwhole, hfraction, hexponent⟩⟩
  rw [hsplit, hwholeSplit]
  simp only [List.append_assoc]

/-! ## Tokens -/

theorem pieces?_eq_some {text rest : List Char} {ps : List Piece}
    (h : pieces? text = some (ps, rest)) : ∃ body, text = body ++ '"' :: rest ∧ StringText body := by
  fun_induction pieces? text generalizing ps rest with
  | case1 => contradiction
  | case2 after =>
    cases h
    exact ⟨[], rfl, .nil⟩
  | case3 a b c d after code hcode ih =>
    obtain ⟨qs, hqs⟩ := rest_of_map_cons h
    obtain ⟨body, rfl, hbody⟩ := ih hqs
    exact ⟨_, rfl, .unit hcode hbody⟩
  | case5 e after hne c hc ih =>
    obtain ⟨qs, hqs⟩ := rest_of_map_cons h
    obtain ⟨body, rfl, hbody⟩ := ih hqs
    exact ⟨_, rfl, .char (.letter hc) hbody⟩
  | case8 c after hquote _ _ hc ih =>
    obtain ⟨qs, hqs⟩ := rest_of_map_cons h
    obtain ⟨body, rfl, hbody⟩ := ih hqs
    have hplain : c ≠ '\\' ∧ 32 ≤ c.toNat := by simpa using hc
    exact ⟨[c] ++ body, rfl, .char (.plain hquote hplain.1 hplain.2) hbody⟩
  | case4 => contradiction
  | case6 => contradiction
  | case7 => contradiction

/-- The texts of tokens. -/
inductive TokenText : Token → List Char → Prop
  | mark {c : Char} {token : Token} (h : mark? c = some token) : TokenText token [c]
  | null : TokenText .null "null".toList
  | true : TokenText (.bool true) "true".toList
  | false : TokenText (.bool false) "false".toList
  | number {x : Numeral} {text : List Char} (h : NumberText text) : TokenText (.number x) text
  | string {content : Option String} {body : List Char} (h : StringText body) :
      TokenText (.string content) ('"' :: (body ++ ['"']))

theorem word?_eq_some {text rest : List Char} {token : Token} (h : word? text = some (token, rest)) :
    ∃ t, text = t ++ rest ∧ TokenText token t := by
  unfold word? at h
  split at h
  · cases h
    exact ⟨_, rfl, .null⟩
  · cases h
    exact ⟨_, rfl, .true⟩
  · cases h
    exact ⟨_, rfl, .false⟩
  · contradiction

theorem token?_eq_some {text rest : List Char} {token : Token}
    (h : token? text = some (token, rest)) : ∃ t, text = t ++ rest ∧ TokenText token t := by
  unfold token? at h
  split at h
  · contradiction
  · rename_i c after
    split at h
    · rename_i hmark
      cases h
      exact ⟨[c], rfl, .mark hmark⟩
    · split at h
      · rename_i hquote
        obtain ⟨⟨ps, _⟩, hpieces, h⟩ := Option.map_eq_some_iff.mp h
        cases h
        obtain ⟨body, rfl, hbody⟩ := pieces?_eq_some hpieces
        refine ⟨_, ?_, .string hbody⟩
        rw [hquote, List.cons_append, List.append_assoc, List.singleton_append]
      · split at h
        · obtain ⟨⟨x, _⟩, hnumeral, h⟩ := Option.map_eq_some_iff.mp h
          cases h
          obtain ⟨t, ht, hnumber⟩ := scan?_eq_some hnumeral
          exact ⟨t, ht, .number hnumber⟩
        · exact word?_eq_some h

/-- Where a token is found, its text stands behind blanks. -/
theorem scan_eq_cons {text : List Char} {token : Token} {row : List Token}
    (htoken : token ≠ .malformed) (h : scan text = token :: row) :
    ∃ before t after, text = before ++ (t ++ after) ∧ Blank before ∧ TokenText token t ∧
      scan after = row := by
  fun_induction scan text with
  | case1 => contradiction
  | case2 c rest hspace ih =>
    obtain ⟨before, t, after, rfl, hbefore, ht, hafter⟩ := ih h
    exact ⟨c :: before, t, after, rfl, List.forall_mem_cons.mpr ⟨hspace, hbefore⟩, ht, hafter⟩
  | case3 c rest hspace found after hfound ih =>
    cases h
    obtain ⟨t, ht, htext⟩ := token?_eq_some hfound
    exact ⟨[], t, after, ht, blank_nil, htext, rfl⟩
  | case4 =>
    cases h
    contradiction

/-- Where nothing is found there are blanks. -/
theorem scan_eq_nil {text : List Char} (h : scan text = []) : Blank text := by
  fun_induction scan text with
  | case1 => exact blank_nil
  | case2 c rest hspace ih => exact List.forall_mem_cons.mpr ⟨hspace, ih h⟩
  | case3 => contradiction
  | case4 => contradiction

/-! ## Values -/

theorem Token.IsMark.mem {token : Token} (h : token.IsMark) :
    token ∈ [.openBrace, .closeBrace, .openBracket, .closeBracket, .comma, .colon] := by
  obtain ⟨c, hc⟩ := h
  unfold mark? at hc
  split at hc <;> cases hc <;> decide

/-- The text of a mark is its character. -/
theorem TokenText.eq_of_mark {token : Token} {t : List Char} (h : TokenText token t) {c : Char}
    (hmark : mark? c = some token) : t = [c] := by
  have htext := text_mark hmark
  cases h with
  | mark h => rw [← htext, text_mark h]
  | _ => exact absurd (Token.IsMark.mem ⟨c, hmark⟩) (by simp)

/-- The text of a token that is no mark is that of a value. -/
theorem TokenText.valueText {token : Token} {t : List Char} (h : TokenText token t)
    (hmark : ¬token.IsMark) : ValueText t := by
  cases h with
  | mark h => exact absurd ⟨_, h⟩ hmark
  | null => exact .null
  | true => exact .true
  | false => exact .false
  | number h => exact .number h
  | string h => exact .string h

/-- Where a mark is found, its character stands behind blanks. -/
theorem scan_eq_mark {c : Char} {token : Token} (hmark : mark? c = some token) {text : List Char}
    {row : List Token} (h : scan text = token :: row) :
    ∃ before after, text = before ++ c :: after ∧ Blank before ∧ scan after = row := by
  have htoken : token ≠ .malformed := by
    rintro rfl
    exact absurd (Token.IsMark.mem ⟨c, hmark⟩) (by decide)
  obtain ⟨before, t, after, rfl, hbefore, ht, hafter⟩ := scan_eq_cons htoken h
  rw [ht.eq_of_mark hmark]
  exact ⟨before, after, rfl, hbefore, hafter⟩

theorem commas_cons (part : List Char) (parts : List (List Char)) :
    Value.commas (part :: parts) = part ++ parts.flatMap (',' :: ·) := by
  induction parts generalizing part with
  | nil => simp [Value.commas]
  | cons other parts ih =>
    rw [Value.commas, ih]
    · rfl
    · exact List.cons_ne_nil _ _

section Listed

variable {Part : List Char → Prop} {rows : List (List Token)} {c : Char} {close : Token}

/-- The texts of rows behind commas, up to a mark. Blanks in front of a comma are left over. -/
theorem parts_of_scan
    (hrows : ∀ row ∈ rows, ∀ text rest, scan text = row ++ rest →
      ∃ part after, text = part ++ after ∧ Part part ∧ scan after = rest)
    (hblanks : ∀ part gap, Part part → Blank gap → Part (part ++ gap))
    (hclose : mark? c = some close) {text : List Char} {rest : List Token}
    (h : scan text = listed false rows ++ close :: rest) :
    ∃ (gap : List Char) (parts : List (List Char)) (after : List Char),
        text = gap ++ (parts.flatMap (',' :: ·) ++ c :: after) ∧ Blank gap ∧
      (∀ part ∈ parts, Part part) ∧ scan after = rest := by
  induction rows generalizing text with
  | nil =>
    obtain ⟨gap, after, rfl, hgap, hafter⟩ := scan_eq_mark hclose h
    exact ⟨gap, [], after, rfl, hgap, by simp, hafter⟩
  | cons row rows ih =>
    obtain ⟨hrow, hothers⟩ := List.forall_mem_cons.mp hrows
    have hcomma : mark? ',' = some .comma := rfl
    rw [listed, if_neg (by decide), List.append_assoc, List.append_assoc, List.singleton_append] at h
    obtain ⟨gap, after, rfl, hgap, h⟩ := scan_eq_mark hcomma h
    obtain ⟨part, after, rfl, hpart, h⟩ := hrow _ _ h
    obtain ⟨gap', parts, after, rfl, hgap', hparts, hafter⟩ := ih hothers h
    refine ⟨gap, (part ++ gap') :: parts, after, ?_, hgap, ?_, hafter⟩
    · simp only [List.flatMap_cons, List.cons_append, List.append_assoc]
    · exact List.forall_mem_cons.mpr ⟨hblanks part gap' hpart hgap', hparts⟩

/-- The texts of rows between commas, up to a mark. -/
theorem between_of_scan
    (hrows : ∀ row ∈ rows, ∀ text rest, scan text = row ++ rest →
      ∃ part after, text = part ++ after ∧ Part part ∧ scan after = rest)
    (hblanks : ∀ part gap, Part part → Blank gap → Part (part ++ gap))
    (hclose : mark? c = some close) {text : List Char} {rest : List Token}
    (h : scan text = listed true rows ++ close :: rest) :
    ∃ gap parts after, text = between gap parts ++ c :: after ∧ Blank gap ∧
      (∀ part ∈ parts, Part part) ∧ scan after = rest := by
  cases rows with
  | nil =>
    obtain ⟨gap, after, rfl, hgap, hafter⟩ := scan_eq_mark hclose h
    exact ⟨gap, [], after, rfl, hgap, by simp, hafter⟩
  | cons row rows =>
    obtain ⟨hrow, hothers⟩ := List.forall_mem_cons.mp hrows
    rw [listed, if_pos rfl, List.nil_append, List.append_assoc] at h
    obtain ⟨part, after, rfl, hpart, h⟩ := hrow _ _ h
    obtain ⟨gap, parts, after, rfl, hgap, hparts, hafter⟩ :=
      parts_of_scan hothers hblanks hclose h
    refine ⟨[], (part ++ gap) :: parts, after, ?_, blank_nil, ?_, hafter⟩
    · rw [between, if_neg (by simp), commas_cons]
      simp only [List.append_assoc]
    · exact List.forall_mem_cons.mpr ⟨hblanks part gap hpart hgap, hparts⟩

end Listed

/-- Where a token that is no mark is found, the text of a value has been passed over. -/
theorem valueText_of_token {token : Token} (htoken : token ≠ .malformed) (hmark : ¬token.IsMark)
    (text : List Char) (rest : List Token) (h : scan text = [token] ++ rest) :
    ∃ value after, text = value ++ after ∧ ValueText value ∧ scan after = rest := by
  obtain ⟨before, t, after, rfl, hbefore, ht, hafter⟩ := scan_eq_cons htoken h
  refine ⟨before ++ (t ++ []), after, ?_, .blanks hbefore (ht.valueText hmark) blank_nil, hafter⟩
  simp only [List.append_nil, List.append_assoc]

/-- Where a key is found with a value behind it, a member has been passed over. -/
theorem member_of_scan {entry : Option String × List Token}
    (hvalue : ∀ text rest, scan text = entry.2 ++ rest →
      ∃ value after, text = value ++ after ∧ ValueText value ∧ scan after = rest)
    (text : List Char) (rest : List Token) (h : scan text = entryRow entry ++ rest) :
    ∃ part after, text = part ++ after ∧ (∃ member, part = memberText member ∧ IsMember member) ∧
      scan after = rest := by
  have hcolon : mark? ':' = some .colon := rfl
  rw [entryRow, List.cons_append, List.cons_append] at h
  obtain ⟨before, t, after, rfl, hbefore, ht, h⟩ := scan_eq_cons (by simp) h
  obtain ⟨gap, after, rfl, hgap, h⟩ := scan_eq_mark hcolon h
  obtain ⟨value, after, rfl, hvalue, hafter⟩ := hvalue _ _ h
  cases ht with
  | mark hmark => exact absurd (Token.IsMark.mem ⟨_, hmark⟩) (by simp)
  | @string _ body hbody =>
    refine ⟨memberText (before ++ '"' :: (body ++ '"' :: gap), value), after, ?_,
      ⟨_, rfl, .mk hbefore hbody hgap, hvalue⟩, hafter⟩
    simp only [memberText, List.append_assoc, List.cons_append, List.nil_append]

/-- Texts of members are those of a list of members. -/
theorem exists_members {parts : List (List Char)}
    (h : ∀ part ∈ parts, ∃ member, part = memberText member ∧ IsMember member) :
    ∃ members : List (List Char × List Char), parts = members.map memberText ∧
      ∀ member ∈ members, IsMember member := by
  induction parts with
  | nil => exact ⟨[], rfl, fun _ hmem => absurd hmem List.not_mem_nil⟩
  | cons part parts ih =>
    obtain ⟨⟨member, rfl, hmember⟩, hothers⟩ := List.forall_mem_cons.mp h
    obtain ⟨members, rfl, hmembers⟩ := ih hothers
    exact ⟨member :: members, rfl, List.forall_mem_cons.mpr ⟨hmember, hmembers⟩⟩

/-- Where the row of a value is found, the text of a value has been passed over. -/
theorem valueText_of_scan {row : List Token} (h : IsValue row) :
    ∀ text rest, scan text = row ++ rest →
      ∃ value after, text = value ++ after ∧ ValueText value ∧ scan after = rest := by
  induction h with
  | null => exact valueText_of_token (by simp) fun hmark => by simpa using hmark.mem
  | bool b => exact valueText_of_token (by simp) fun hmark => by simpa using hmark.mem
  | number x => exact valueText_of_token (by simp) fun hmark => by simpa using hmark.mem
  | string content => exact valueText_of_token (by simp) fun hmark => by simpa using hmark.mem
  | array _ ih =>
    intro text rest hscan
    rw [arrayRow_append] at hscan
    have hleft : mark? '[' = some .openBracket := rfl
    have hright : mark? ']' = some .closeBracket := rfl
    have hblanks : ∀ part gap, ValueText part → Blank gap → ValueText (part ++ gap) :=
      fun part gap hpart hgap => .blanks blank_nil hpart hgap
    obtain ⟨before, after, rfl, hbefore, hscan⟩ := scan_eq_mark hleft hscan
    obtain ⟨gap, items, after, rfl, hgap, hitems, hafter⟩ := between_of_scan ih hblanks hright hscan
    refine ⟨before ++ (arrayText gap items ++ []), after, ?_,
      .blanks hbefore (.array hgap hitems) blank_nil, hafter⟩
    simp only [arrayText, List.append_nil, List.append_assoc, List.cons_append, List.nil_append]
  | @object entries _ ih =>
    intro text rest hscan
    rw [objectRow_append] at hscan
    have hleft : mark? '\x7b' = some .openBrace := rfl
    have hright : mark? '\x7d' = some .closeBrace := rfl
    have hentries : ∀ row ∈ entries.map entryRow, ∀ text rest, scan text = row ++ rest →
        ∃ part after, text = part ++ after ∧
          (∃ member, part = memberText member ∧ IsMember member) ∧ scan after = rest :=
      List.forall_mem_map.mpr fun entry hmem => member_of_scan (ih entry hmem)
    have hblanks : ∀ part gap, (∃ member, part = memberText member ∧ IsMember member) →
        Blank gap → ∃ member, part ++ gap = memberText member ∧ IsMember member := by
      rintro _ gap ⟨⟨key, value⟩, rfl, hkey, hvalue⟩ hgap
      refine ⟨(key, value ++ gap), ?_, hkey, .blanks blank_nil hvalue hgap⟩
      simp only [memberText, List.append_assoc, List.cons_append]
    obtain ⟨before, after, rfl, hbefore, hscan⟩ := scan_eq_mark hleft hscan
    obtain ⟨gap, parts, after, rfl, hgap, hparts, hafter⟩ :=
      between_of_scan hentries hblanks hright hscan
    obtain ⟨members, rfl, hmembers⟩ := exists_members hparts
    refine ⟨before ++ (objectText gap members ++ []), after, ?_, .blanks hbefore
      (.object hgap (fun member hmem => (hmembers member hmem).1)
        fun member hmem => (hmembers member hmem).2) blank_nil, hafter⟩
    simp only [objectText, List.append_nil, List.append_assoc, List.cons_append, List.nil_append]

/-- What an exact reader accepts is the text of a value. -/
theorem valueText_of_readText {reader : Reader α} (hreader : Exact reader) {text : String} {a : α}
    (h : readText reader text = .ok a) : ValueText text.toList := by
  unfold readText at h
  obtain ⟨⟨b, rest⟩, hread, h⟩ := bind_eq_ok_iff.mp h
  obtain ⟨row, hrow, hscan, -⟩ := hreader hread
  obtain ⟨value, after, htext, hvalue, hafter⟩ := valueText_of_scan hrow _ _ hscan
  cases rest with
  | cons => cases h
  | nil => exact htext ▸ .blanks blank_nil hvalue (scan_eq_nil hafter)

end DeviceSlots.Json
