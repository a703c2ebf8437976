import DeviceSlots.Proofs.Json.Rows
import DeviceSlots.Proofs.Json.Scan

/-!
# Texts of values

The grammar of JSON on characters. Whatever value a text is, the scanner finds the row of tokens of a
value in it, and goes on behind the text.
-/

namespace DeviceSlots.Json

/-! ## Blanks -/

/-- Nothing but blanks. -/
def Blank (text : List Char) : Prop := ∀ c ∈ text, isSpace c = true

theorem blank_nil : Blank [] := fun _ hmem => absurd hmem List.not_mem_nil

theorem scan_blank {gap : List Char} (h : Blank gap) (rest : List Char) :
    scan (gap ++ rest) = scan rest := by
  induction gap with
  | nil => rfl
  | cons c gap ih =>
    obtain ⟨hc, hgap⟩ := List.forall_mem_cons.mp h
    rw [List.cons_append, scan_space hc, ih hgap]

theorem stops_blank {gap : List Char} (h : Blank gap) {rest : List Char} (hrest : Stops rest) :
    Stops (gap ++ rest) := by
  cases gap with
  | nil => exact hrest
  | cons c gap => exact stops_space (h c List.mem_cons_self) _

/-! ## Numbers -/

/-- Nothing, or a point and digits. -/
def FractionText (text : List Char) : Prop :=
  text = [] ∨ ∃ ds, text = '.' :: ds ∧ DigitsText ds

/-- Nothing, or the letter of an exponent and digits, with a sign between them or without. -/
def ExponentText (text : List Char) : Prop :=
  text = [] ∨ ∃ e sign ds, text = e :: (sign ++ ds) ∧ (e = 'e' ∨ e = 'E') ∧
    sign ∈ [[], ['+'], ['-']] ∧ DigitsText ds

/-- The texts of numbers. -/
def NumberText (text : List Char) : Prop :=
  ∃ sign whole fraction exponent, text = sign ++ (whole ++ (fraction ++ exponent)) ∧
    sign ∈ [[], ['-']] ∧ WholeText whole ∧ FractionText fraction ∧ ExponentText exponent

theorem fraction?_append {text : List Char} (h : FractionText text) :
    ∃ fraction, ∀ rest : List Char, (∀ c ∈ rest.head?, c.isDigit = false ∧ c ≠ '.') →
      Numeral.fraction? (text ++ rest) = some (fraction, rest) := by
  rcases h with rfl | ⟨ds, rfl, hds⟩
  · refine ⟨none, ?_⟩
    intro rest hrest
    rw [List.nil_append, Numeral.fraction?]
    rintro rest rfl
    exact (hrest '.' rfl).2 rfl
  · refine ⟨some ds, ?_⟩
    intro rest hrest
    rw [List.cons_append, Numeral.fraction?, digits1?_append hds fun c hc => (hrest c hc).1]
    rfl

/-- A digit is no sign. -/
theorem sign_ne {d : Char} (hd : d.isDigit = true) : d ≠ '+' ∧ d ≠ '-' := by
  constructor <;>
  · rintro rfl
    contradiction

theorem exponentSign_append {sign : List Char} (hsign : sign ∈ [[], ['+'], ['-']]) :
    ∃ negative, ∀ {ds : List Char}, DigitsText ds → ∀ rest,
      Numeral.exponentSign (sign ++ (ds ++ rest)) = (negative, ds ++ rest) := by
  simp only [List.mem_cons, List.not_mem_nil, or_false] at hsign
  rcases hsign with rfl | rfl | rfl
  · refine ⟨false, ?_⟩
    intro ds hds rest
    obtain ⟨d, ds, rfl, hd⟩ := hds.exists_cons
    rw [List.nil_append, List.cons_append, Numeral.exponentSign]
    · exact fun _ heq => (sign_ne hd).1 (List.cons.inj heq).1
    · exact fun _ heq => (sign_ne hd).2 (List.cons.inj heq).1
  · exact ⟨false, fun _ _ => rfl⟩
  · exact ⟨true, fun _ _ => rfl⟩

theorem exponent?_append {text : List Char} (h : ExponentText text) :
    ∃ exponent, ∀ rest, Stops rest →
      Numeral.exponent? (text ++ rest) = some (exponent, rest) := by
  rcases h with rfl | ⟨e, sign, ds, rfl, he, hsign, hds⟩
  · refine ⟨none, ?_⟩
    intro rest hrest
    cases rest with
    | nil => rfl
    | cons c rest =>
      obtain ⟨-, -, hlower, hupper⟩ := hrest c rfl
      rw [List.nil_append, Numeral.exponent?, if_neg (by simp [hlower, hupper])]
  · obtain ⟨negative, hread⟩ := exponentSign_append hsign
    refine ⟨some (negative, ds), ?_⟩
    intro rest hrest
    rw [List.cons_append, List.append_assoc, Numeral.exponent?, if_pos (by simpa using he),
      hread hds]
    simp only [digits1?_append hds fun c hc => (hrest c hc).1, Option.map_some]

theorem sign_append {sign : List Char} (hsign : sign ∈ [[], ['-']]) :
    ∃ negative, ∀ {whole : List Char}, DigitsText whole → ∀ rest,
      Numeral.sign (sign ++ (whole ++ rest)) = (negative, whole ++ rest) := by
  simp only [List.mem_cons, List.not_mem_nil, or_false] at hsign
  rcases hsign with rfl | rfl
  · refine ⟨false, ?_⟩
    intro whole hwhole rest
    obtain ⟨d, ds, rfl, hd⟩ := hwhole.exists_cons
    rw [List.nil_append, List.cons_append, Numeral.sign]
    exact fun _ heq => (sign_ne hd).2 (List.cons.inj heq).1
  · exact ⟨true, fun _ _ => rfl⟩

/-- What follows the digits before a point or an exponent goes on with no digit. -/
theorem ExponentText.head?_append {text : List Char} (h : ExponentText text) {rest : List Char}
    (hrest : Stops rest) : ∀ c ∈ (text ++ rest).head?, c.isDigit = false ∧ c ≠ '.' := by
  rcases h with rfl | ⟨e, sign, ds, rfl, rfl | rfl, -, -⟩
  · intro c hc
    obtain ⟨hdigit, hpoint, -⟩ := hrest c hc
    exact ⟨hdigit, hpoint⟩
  · rintro c ⟨⟩
    decide
  · rintro c ⟨⟩
    decide

theorem FractionText.head?_append {text : List Char} (h : FractionText text) {rest : List Char}
    (hrest : ∀ c ∈ rest.head?, c.isDigit = false) :
    ∀ c ∈ (text ++ rest).head?, c.isDigit = false := by
  rcases h with rfl | ⟨ds, rfl, -⟩
  · exact hrest
  · rintro c ⟨⟩
    decide

/-- A number is read to its end. -/
theorem scan?_numberText {text : List Char} (h : NumberText text) :
    ∃ x, ∀ rest, Stops rest → Numeral.scan? (text ++ rest) = some (x, rest) := by
  obtain ⟨sign, whole, fraction, exponent, rfl, hsign, hwhole, hfraction, hexponent⟩ := h
  obtain ⟨negative, hreadSign⟩ := sign_append hsign
  obtain ⟨decimals, hreadFraction⟩ := fraction?_append hfraction
  obtain ⟨power, hreadExponent⟩ := exponent?_append hexponent
  refine ⟨⟨negative, whole, decimals, power⟩, ?_⟩
  intro rest hrest
  have hafter := hexponent.head?_append hrest
  have hwholeEnd := hfraction.head?_append fun c hc => (hafter c hc).1
  simp only [List.append_assoc]
  rw [Numeral.scan?, hreadSign hwhole.1]
  simp only [whole?_append hwhole hwholeEnd, hreadFraction _ hafter, hreadExponent rest hrest,
    Option.bind_eq_bind, Option.bind_some]
  rfl

theorem NumberText.exists_cons {text : List Char} (h : NumberText text) :
    ∃ c cs, text = c :: cs ∧ (c = '-' ∨ c.isDigit = true) := by
  obtain ⟨sign, whole, fraction, exponent, rfl, hsign, hwhole, -, -⟩ := h
  simp only [List.mem_cons, List.not_mem_nil, or_false] at hsign
  rcases hsign with rfl | rfl
  · obtain ⟨d, ds, rfl, hd⟩ := hwhole.1.exists_cons
    exact ⟨d, _, rfl, .inr hd⟩
  · exact ⟨'-', _, rfl, .inl rfl⟩

theorem scan_numberText {text : List Char} (h : NumberText text) :
    ∃ x, ∀ rest, Stops rest → scan (text ++ rest) = .number x :: scan rest := by
  obtain ⟨x, hread⟩ := scan?_numberText h
  obtain ⟨c, cs, rfl, hc⟩ := h.exists_cons
  exact ⟨x, fun rest hrest => scan_numeral hc (hread rest hrest)⟩

/-! ## Strings -/

/-- The texts between the quotes of a string: characters in any of their spellings, and code units,
which may be out of a pair. -/
inductive StringText : List Char → Prop
  | nil : StringText []
  | char {c : Char} {spelling text : List Char} (hc : Spells c spelling) (h : StringText text) :
      StringText (spelling ++ text)
  | unit {w x y z : Char} {code : Nat} {text : List Char} (hcode : codeUnit? w x y z = some code)
      (h : StringText text) : StringText ('\\' :: 'u' :: w :: x :: y :: z :: text)

theorem StringText.pieces {text : List Char} (h : StringText text) :
    ∃ ps, ∀ rest, pieces? (text ++ '"' :: rest) = some (ps, rest) := by
  induction h with
  | nil => exact ⟨[], fun _ => rfl⟩
  | char hc _ ih =>
    obtain ⟨qs, hread⟩ := ih
    obtain ⟨ps, hpieces, -⟩ := hc.pieces
    refine ⟨ps ++ qs, ?_⟩
    intro rest
    rw [List.append_assoc, hpieces, hread]
    rfl
  | @unit w x y z code text hcode _ ih =>
    obtain ⟨qs, hread⟩ := ih
    refine ⟨.unit code :: qs, ?_⟩
    intro rest
    simp only [List.cons_append, pieces?, hcode, hread, Option.map_some]

theorem scan_stringText {text : List Char} (h : StringText text) :
    ∃ content, ∀ rest, scan ('"' :: (text ++ '"' :: rest)) = .string content :: scan rest := by
  obtain ⟨ps, hread⟩ := h.pieces
  have hmark : mark? '"' = none := rfl
  refine ⟨(content? ps).map String.ofList, ?_⟩
  intro rest
  apply scan_of_token? rfl
  simp only [token?, hmark, if_true, hread, Option.map_some]

/-- The texts of a key: a string of the given texts between its quotes, with blanks around it. -/
inductive KeyText (Body : List Char → Prop) : List Char → Prop
  | mk {before body after : List Char} (hbefore : Blank before) (hbody : Body body)
      (hafter : Blank after) : KeyText Body (before ++ '"' :: (body ++ '"' :: after))

theorem SpellsAll.stringText {cs text : List Char} (h : SpellsAll cs text) : StringText text := by
  induction h with
  | nil => exact .nil
  | cons hc _ ih => exact .char hc ih

theorem KeyText.of_spelled {cs key : List Char} (h : KeyText (SpellsAll cs) key) :
    KeyText StringText key := by
  obtain ⟨hbefore, hbody, hafter⟩ := h
  exact .mk hbefore hbody.stringText hafter

theorem keyText_quote (name : String) : KeyText (SpellsAll name.toList) (quote name) := by
  have htext : quote name = [] ++ '"' :: (name.toList.flatMap escape ++ '"' :: []) := by
    rw [quote, List.cons_append, List.nil_append]
  rw [htext]
  exact .mk blank_nil (spellsAll_flatMap_escape _) blank_nil

/-! ## Values -/

/-- Parts with commas between them, or a gap if there are no parts. -/
def between (gap : List Char) (parts : List (List Char)) : List Char :=
  if parts.isEmpty then gap else Value.commas parts

/-- The text of a member with the texts of its key and its value. -/
def memberText (member : List Char × List Char) : List Char := member.1 ++ ':' :: member.2

def arrayText (gap : List Char) (items : List (List Char)) : List Char :=
  '[' :: (between gap items ++ [']'])

def objectText (gap : List Char) (members : List (List Char × List Char)) : List Char :=
  '\x7b' :: (between gap (members.map memberText) ++ ['\x7d'])

/-- The texts of values. Keys may be repeated. -/
inductive ValueText : List Char → Prop
  | blanks {before text after : List Char} (hbefore : Blank before) (h : ValueText text)
      (hafter : Blank after) : ValueText (before ++ (text ++ after))
  | null : ValueText "null".toList
  | true : ValueText "true".toList
  | false : ValueText "false".toList
  | number {text : List Char} (h : NumberText text) : ValueText text
  | string {text : List Char} (h : StringText text) : ValueText ('"' :: (text ++ ['"']))
  | array {gap : List Char} {items : List (List Char)} (hgap : Blank gap)
      (h : ∀ item ∈ items, ValueText item) : ValueText (arrayText gap items)
  | object {gap : List Char} {members : List (List Char × List Char)} (hgap : Blank gap)
      (hkeys : ∀ member ∈ members, KeyText StringText member.1)
      (hvalues : ∀ member ∈ members, ValueText member.2) : ValueText (objectText gap members)

/-- A member: a key and the text of a value. -/
def IsMember (member : List Char × List Char) : Prop :=
  KeyText StringText member.1 ∧ ValueText member.2

/-! ## Scanning -/

/-- A row of tokens is found in a text, whatever follows that goes on with no number. -/
def Scans (text : List Char) (row : List Token) : Prop :=
  ∀ rest, Stops rest → scan (text ++ rest) = row ++ scan rest

theorem scan_commas {parts : List (List Char)} {rows : List (List Token)}
    (h : List.Forall₂ Scans parts rows) {rest : List Char} (hrest : Stops rest) :
    scan (Value.commas parts ++ rest) = listed true rows ++ scan rest := by
  rw [← separate_eq_listed]
  induction h with
  | nil => rfl
  | @cons part row parts rows hpart hparts ih =>
    cases hparts with
    | nil => exact hpart rest hrest
    | @cons other row' parts rows hother hparts =>
      have hcomma : mark? ',' = some .comma := rfl
      rw [Value.commas, Value.separate, List.append_assoc, List.cons_append,
        hpart _ (stops_mark hcomma _), scan_mark hcomma, ih, List.append_assoc, List.cons_append]
      · exact List.cons_ne_nil _ _
      · exact List.cons_ne_nil _ _

theorem scan_between {gap : List Char} (hgap : Blank gap) {parts : List (List Char)}
    {rows : List (List Token)} (h : List.Forall₂ Scans parts rows) {rest : List Char}
    (hrest : Stops rest) : scan (between gap parts ++ rest) = listed true rows ++ scan rest := by
  cases h with
  | nil => exact scan_blank hgap rest
  | cons hpart hparts => exact scan_commas (.cons hpart hparts) hrest

/-- A text is that of a value, of which the tokens are found in it. -/
structure Denotes (text : List Char) (row : List Token) : Prop where
  value : IsValue row
  scans : Scans text row

/-- A member has a key, which is found with the colon behind it, and the text of a value. -/
structure MemberDenotes (member : List Char × List Char) (entry : Option String × List Token) :
    Prop where
  key : ∀ rest, scan (member.1 ++ ':' :: rest) = .string entry.1 :: .colon :: scan rest
  value : Denotes member.2 entry.2

theorem MemberDenotes.scans {member : List Char × List Char} {entry : Option String × List Token}
    (h : MemberDenotes member entry) : Scans (memberText member) (entryRow entry) := by
  intro rest hrest
  rw [memberText, List.append_assoc, List.cons_append, h.key, h.value.scans rest hrest, entryRow,
    List.cons_append, List.cons_append]

theorem forall_mem_of_forall₂ {α β : Type} {R : α → β → Prop} {P : β → Prop} {as : List α}
    {bs : List β} (h : List.Forall₂ R as bs) (hP : ∀ a b, R a b → P b) : ∀ b ∈ bs, P b := by
  induction h with
  | nil => exact fun _ hmem => absurd hmem List.not_mem_nil
  | cons hab _ ih => exact List.forall_mem_cons.mpr ⟨hP _ _ hab, ih⟩

theorem exists_forall₂ {α β : Type} {R : α → β → Prop} {as : List α} (h : ∀ a ∈ as, ∃ b, R a b) :
    ∃ bs, List.Forall₂ R as bs := by
  induction as with
  | nil => exact ⟨[], .nil⟩
  | cons a as ih =>
    obtain ⟨⟨b, hb⟩, hothers⟩ := List.forall_mem_cons.mp h
    obtain ⟨bs, hbs⟩ := ih hothers
    exact ⟨b :: bs, .cons hb hbs⟩

theorem Denotes.blanks {before text after : List Char} {row : List Token} (hbefore : Blank before)
    (h : Denotes text row) (hafter : Blank after) : Denotes (before ++ (text ++ after)) row := by
  refine ⟨h.value, ?_⟩
  intro rest hrest
  rw [List.append_assoc, List.append_assoc, scan_blank hbefore,
    h.scans _ (stops_blank hafter hrest), scan_blank hafter]

theorem Denotes.array {gap : List Char} (hgap : Blank gap) {items : List (List Char)}
    {rows : List (List Token)} (h : List.Forall₂ Denotes items rows) :
    Denotes (arrayText gap items) (arrayRow rows) := by
  refine ⟨.array (forall_mem_of_forall₂ h fun _ _ hitem => hitem.value), ?_⟩
  intro rest _
  have hleft : mark? '[' = some .openBracket := rfl
  have hright : mark? ']' = some .closeBracket := rfl
  have hitems : List.Forall₂ Scans items rows := h.imp fun _ _ hitem => hitem.scans
  rw [arrayText, List.cons_append, List.append_assoc, List.singleton_append, scan_mark hleft,
    scan_between hgap hitems (stops_mark hright _), scan_mark hright, arrayRow_append]

theorem Denotes.object {gap : List Char} (hgap : Blank gap)
    {members : List (List Char × List Char)} {entries : List (Option String × List Token)}
    (h : List.Forall₂ MemberDenotes members entries) :
    Denotes (objectText gap members) (objectRow entries) := by
  refine ⟨.object (forall_mem_of_forall₂ h fun _ _ hmember => hmember.value.value), ?_⟩
  intro rest _
  have hleft : mark? '\x7b' = some .openBrace := rfl
  have hright : mark? '\x7d' = some .closeBrace := rfl
  have hmembers : List.Forall₂ Scans (members.map memberText) (entries.map entryRow) := by
    rw [List.forall₂_map_left_iff, List.forall₂_map_right_iff]
    exact h.imp fun _ _ hmember => hmember.scans
  rw [objectText, List.cons_append, List.append_assoc, List.singleton_append, scan_mark hleft,
    scan_between hgap hmembers (stops_mark hright _), scan_mark hright, objectRow_append]

/-- The blanks around a key are passed over. -/
theorem scan_key {before body after : List Char} (hbefore : Blank before) (hafter : Blank after)
    {content : Option String}
    (hbody : ∀ rest, scan ('"' :: (body ++ '"' :: rest)) = .string content :: scan rest)
    (rest : List Char) :
    scan (before ++ '"' :: (body ++ '"' :: after) ++ ':' :: rest) =
      .string content :: .colon :: scan rest := by
  have hcolon : mark? ':' = some .colon := rfl
  rw [List.append_assoc, scan_blank hbefore, List.cons_append, List.append_assoc,
    List.cons_append, hbody, scan_blank hafter, scan_mark hcolon]

theorem scan_keyText {key : List Char} (h : KeyText StringText key) :
    ∃ content, ∀ rest, scan (key ++ ':' :: rest) = .string content :: .colon :: scan rest := by
  obtain ⟨hbefore, hbody, hafter⟩ := h
  obtain ⟨content, hscan⟩ := scan_stringText hbody
  exact ⟨content, scan_key hbefore hafter hscan⟩

theorem scan_spelledKey {name : String} {key : List Char}
    (h : KeyText (SpellsAll name.toList) key) (rest : List Char) :
    scan (key ++ ':' :: rest) = .string (some name) :: .colon :: scan rest := by
  obtain ⟨hbefore, hbody, hafter⟩ := h
  apply scan_key hbefore hafter
  intro rest
  have hscan := scan_string hbody rest
  rwa [List.cons_append, List.append_assoc, List.singleton_append] at hscan

/-- Members have keys, and values whose tokens are found if those of each value are. -/
theorem exists_entries {members : List (List Char × List Char)}
    (hkeys : ∀ member ∈ members, KeyText StringText member.1)
    (hvalues : ∀ member ∈ members, ∃ row, Denotes member.2 row) :
    ∃ entries, List.Forall₂ MemberDenotes members entries := by
  apply exists_forall₂
  intro member hmem
  obtain ⟨content, hkey⟩ := scan_keyText (hkeys member hmem)
  obtain ⟨row, hvalue⟩ := hvalues member hmem
  exact ⟨(content, row), hkey, hvalue⟩

/-- In the text of a value its tokens are found. -/
theorem ValueText.denotes {text : List Char} (h : ValueText text) : ∃ row, Denotes text row := by
  induction h with
  | blanks hbefore _ hafter ih =>
    obtain ⟨row, hrow⟩ := ih
    exact ⟨row, hrow.blanks hbefore hafter⟩
  | null => exact ⟨_, .null, fun _ _ => scan_of_token? rfl rfl⟩
  | true => exact ⟨_, .bool Bool.true, fun _ _ => scan_of_token? rfl rfl⟩
  | false => exact ⟨_, .bool Bool.false, fun _ _ => scan_of_token? rfl rfl⟩
  | number hnumber =>
    obtain ⟨x, hscan⟩ := scan_numberText hnumber
    exact ⟨_, .number x, hscan⟩
  | @string text hstring =>
    obtain ⟨content, hscan⟩ := scan_stringText hstring
    refine ⟨_, .string content, ?_⟩
    intro rest _
    rw [List.cons_append, List.append_assoc, List.singleton_append, hscan]
    rfl
  | array hgap _ ih =>
    obtain ⟨rows, hrows⟩ := exists_forall₂ ih
    exact ⟨_, .array hgap hrows⟩
  | @object gap members hgap hkeys _ ih =>
    obtain ⟨entries, hentries⟩ := exists_entries hkeys ih
    exact ⟨_, .object hgap hentries⟩

end DeviceSlots.Json
