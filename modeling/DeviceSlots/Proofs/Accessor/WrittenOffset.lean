import DeviceSlots.Proofs.Accessor.Shape
import DeviceSlots.Proofs.Text.Numbers

/-!
# Offsets in generated code

The text of a body says where in the device buffer each of its blocks looks: a block names the buffer
once, and the number behind the name is the offset of the block's action.
-/

namespace DeviceSlots

namespace Text

/-- The lines between the first line that is `opening` and the next one that is `closing`. -/
def between (opening closing : String) (ls : List String) : List String :=
  ((ls.dropWhile (· ≠ opening)).drop 1).takeWhile (· ≠ closing)

theorem between_append {opening closing : String} {before inside after : List String}
    (hopening : opening ∉ before) (hclosing : closing ∉ inside) :
    between opening closing (before ++ ([opening] ++ (inside ++ [closing])) ++ after) = inside := by
  have hbefore : ∀ line ∈ before, (decide (line ≠ opening)) = true :=
    fun line hline => decide_eq_true fun heq => hopening (heq ▸ hline)
  have hinside : ∀ line ∈ inside, (decide (line ≠ closing)) = true :=
    fun line hline => decide_eq_true fun heq => hclosing (heq ▸ hline)
  have hdrop : ((before ++ ([opening] ++ (inside ++ [closing])) ++ after).dropWhile
      (· ≠ opening)).drop 1 = inside ++ closing :: after := by
    rw [List.append_assoc, List.dropWhile_append_of_pos hbefore]
    simp
  rw [between, hdrop, List.takeWhile_append_of_pos hinside]
  simp

end Text

open Text

/-- What stands before an offset: the name of the buffer and a plus sign. -/
def offsetMark (symbol : String) : List Char := (symbol ++ " + ").toList

/-- The offsets from the device buffer that a body's text has in the block of a name: each number
behind the buffer's name and a plus sign. -/
def writtenOffsets (symbol : String) (margin : Nat) (name text : String) : List Nat :=
  (between (Body.head margin name) (indented margin "\x7d") (Text.lines text)).flatMap fun line =>
    numbersAfter (offsetMark symbol) line.toList

/-- The offset in the device buffer that an action uses, if it uses one. -/
def Action.offset? : Action → Option Nat
  | store offset _ | load offset _ | loadCached offset _ | fetch offset | fetchIndexed offset =>
    some offset
  | affirm => none

/-! ## Numbers behind the name of the buffer -/

variable {symbol : String}

theorem numbersAfter_of_lacks {text : List Char} (h : '+' ∉ text) :
    numbersAfter (offsetMark symbol) text = [] :=
  numbersAfter_eq_nil (by simp [offsetMark]) h

variable (hsymbol : isIdentifier symbol = true)

include hsymbol

/-- An identifier at the end of a text does not go over a character that is not of words. -/
theorem suffix_of_isIdentifier {c : Char} (hc : c.isAlphanum = false) (hunder : c ≠ '_')
    {before after : List Char} (h : symbol.toList <:+ before ++ c :: after) :
    symbol.toList <:+ after := by
  have hlacks : c ∉ symbol.toList := lacks_of_isIdentifier hsymbol hc hunder
  rcases List.suffix_or_suffix_of_suffix h (List.suffix_append before (c :: after)) with hs | hs
  · rcases List.suffix_cons_iff.mp hs with heq | hs
    · exact absurd (heq ▸ List.mem_cons_self) hlacks
    · exact hs
  · exact absurd (hs.subset List.mem_cons_self) hlacks

/-- An identifier does not consist of digits. -/
theorem not_suffix_of_digits {digits : List Char} (h : ∀ c ∈ digits, c.isDigit = true) :
    ¬ symbol.toList <:+ digits := by
  obtain ⟨c, rest, hlist, hfirst, -⟩ := isIdentifier_chars hsymbol
  intro hsuffix
  have hdigit := h c (hsuffix.subset (hlist ▸ List.mem_cons_self))
  rcases hfirst with halpha | rfl
  · exact not_isAlpha_of_isDigit hdigit halpha
  · exact absurd hdigit (by decide)

/-- Behind the name of the buffer and a plus sign, the number is read. -/
theorem numbersAfter_symbol {before after : List Char} (hbefore : '+' ∉ before) (n : Nat)
    (hafter : ∀ c ∈ after.head?, c.isDigit = false) :
    numbersAfter (offsetMark symbol)
        (before ++ symbol.toList ++ " + ".toList ++ (Nat.repr n).toList ++ after) =
      n :: numbersAfter (offsetMark symbol) (' ' :: (Nat.repr n).toList ++ after) := by
  have hplus : '+' ∉ symbol.toList := lacks_of_isIdentifier hsymbol (by decide) (by decide)
  have hmark : offsetMark symbol = (symbol.toList ++ [' ']) ++ '+' :: [' '] := by simp [offsetMark]
  have htext : before ++ symbol.toList ++ " + ".toList ++ (Nat.repr n).toList ++ after =
      (before ++ (symbol.toList ++ [' '])) ++ '+' :: (' ' :: (Nat.repr n).toList ++ after) := by
    simp
  rw [hmark, htext, numbersAfter_append_sign (by simp [hplus]) (by simp) (by simp [hbefore, hplus])]
  rw [if_pos ⟨List.suffix_append _ _, List.prefix_append [' '] _⟩]
  have hnumber : leadingNumber? ((' ' :: (Nat.repr n).toList ++ after).drop [' '].length) =
      some n := leadingNumber?_repr n hafter
  rw [hnumber]
  rfl

/-- Behind another word and a plus sign, nothing is read. -/
theorem numbersAfter_other {c : Char} (hc : c.isAlphanum = false) (hunder : c ≠ '_')
    {before digits : List Char} (after : List Char) (hdigits : ∀ d ∈ digits, d.isDigit = true)
    (hplus : '+' ∉ before ++ c :: digits) :
    numbersAfter (offsetMark symbol) (before ++ c :: digits ++ " + ".toList ++ after) =
      numbersAfter (offsetMark symbol) (' ' :: after) := by
  have hlacks : '+' ∉ symbol.toList := lacks_of_isIdentifier hsymbol (by decide) (by decide)
  have hmark : offsetMark symbol = (symbol.toList ++ [' ']) ++ '+' :: [' '] := by simp [offsetMark]
  have htext : before ++ c :: digits ++ " + ".toList ++ after =
      (before ++ c :: digits ++ [' ']) ++ '+' :: ' ' :: after := by simp
  have hword : ¬ symbol.toList ++ [' '] <:+ before ++ c :: digits ++ [' '] := by
    intro hsuffix
    have hs := List.suffix_append_self_iff.mp hsuffix
    exact not_suffix_of_digits hsymbol hdigits (suffix_of_isIdentifier hsymbol hc hunder hs)
  rw [hmark, htext, numbersAfter_append_sign (by simp [hlacks]) (by simp) (by simpa using hplus)]
  rw [if_neg fun h => hword h.1]
  rfl

/-- The element of an access adds no number of its own. -/
theorem numbersAfter_element (element : Element) {before after : List Char}
    (hbefore : '+' ∉ before) (hafter : '+' ∉ after) :
    numbersAfter (offsetMark symbol) (before ++ element.expression.toList ++ after) = [] := by
  cases element with
  | scalar => exact numbersAfter_of_lacks (by simp [Element.expression, hbefore, hafter])
  | array elements =>
    have hrepr : '+' ∉ (Nat.repr elements).toList := (plain_repr elements).2
    have htext : before ++ (Element.array elements).expression.toList ++ after =
        (before ++ "index *".toList) ++ ' ' :: (Nat.repr elements).toList ++ " + ".toList ++
          ("array_index".toList ++ after) := by
      simp [Element.expression]
    rw [htext, numbersAfter_other hsymbol (by decide) (by decide) _]
    · exact numbersAfter_of_lacks (by simp [hafter])
    · intro d hd
      rw [Nat.toList_repr] at hd
      exact Nat.isDigit_of_mem_toDigits (by decide) (by decide) hd
    · simp only [List.mem_append, List.mem_cons, not_or]
      exact ⟨⟨hbefore, by decide⟩, by decide, hrepr⟩

/-- Behind the name of the buffer stands one number, if none stands in the rest of the line. -/
theorem numbersAfter_line {before : String} (after : String) (hbefore : Lacks '+' before)
    (margin offset : Nat) (hafter : ∀ c ∈ after.toList.head?, c.isDigit = false)
    (hrest : ∀ first, '+' ∉ first →
      numbersAfter (offsetMark symbol) (first ++ after.toList) = []) :
    numbersAfter (offsetMark symbol)
      (indented margin (before ++ (symbol ++ (" + " ++ (Nat.repr offset ++ after))))).toList =
      [offset] := by
  have hrepr : '+' ∉ (Nat.repr offset).toList := (plain_repr offset).2
  have hline : (indented margin (before ++ (symbol ++ (" + " ++ (Nat.repr offset ++ after))))).toList =
      (List.replicate margin ' ' ++ before.toList) ++ symbol.toList ++ " + ".toList ++
        (Nat.repr offset).toList ++ after.toList := by
    simp only [toList_indented, String.toList_append, List.append_assoc]
  have hbefore' : '+' ∉ List.replicate margin ' ' ++ before.toList := by
    simp only [List.mem_append, not_or]
    exact ⟨by simp, hbefore⟩
  rw [hline, numbersAfter_symbol hsymbol hbefore' offset hafter]
  rw [hrest (' ' :: (Nat.repr offset).toList) (by simpa using hrepr)]

/-! ## Offsets of statements -/

/-- The text before a slot's offset, up to the name of the buffer. -/
def slotOpening : String := "(*static_cast<T**>(static_cast<void*>("

theorem numbersAfter_slot (before after : String) (hbefore : Lacks '+' before)
    (margin offset : Nat) (hrest : ∀ first, '+' ∉ first →
      numbersAfter (offsetMark symbol) (first ++ (")))" ++ after).toList) = []) :
    numbersAfter (offsetMark symbol)
      (indented margin (before ++ (Action.statements.slot symbol offset ++ after))).toList =
      [offset] := by
  have hslot : before ++ (Action.statements.slot symbol offset ++ after) =
      (before ++ slotOpening) ++ (symbol ++ (" + " ++ (Nat.repr offset ++ (")))" ++ after)))) := by
    unfold Action.statements.slot
    simp only [toString_self, slotOpening, String.append_assoc]
    rfl
  rw [hslot]
  exact numbersAfter_line hsymbol _ ((lacks_append _ _ _).mpr ⟨hbefore, by decide⟩) margin offset
    (by simp) hrest

/-- Nothing is read behind the slot of an indexed access. -/
theorem numbersAfter_indexed (element : Element) {tail : String} (htail : Lacks '+' tail)
    {first : List Char} (hfirst : '+' ∉ first) :
    numbersAfter (offsetMark symbol)
      (first ++ (")))" ++ ("[" ++ (element.expression ++ tail))).toList) = [] := by
  have hbefore : '+' ∉ first ++ ")))".toList ++ "[".toList := by
    simp only [List.mem_append, not_or]
    exact ⟨⟨hfirst, by decide⟩, by decide⟩
  have hread := numbersAfter_element hsymbol element hbefore htail
  simpa only [String.toList_append, List.append_assoc] using hread

/-- Nothing is read behind the slot of a cached access, although a plus sign follows it. -/
theorem numbersAfter_cached (element : Element) {first : List Char} (hfirst : '+' ∉ first) :
    numbersAfter (offsetMark symbol)
      (first ++ (")))" ++ (" + (" ++ (element.expression ++ "));"))).toList) = [] := by
  have hbefore : '+' ∉ (first ++ "))".toList) ++ ')' :: [] := by
    simp only [List.mem_append, not_or]
    exact ⟨⟨hfirst, by decide⟩, by decide⟩
  have hskip := numbersAfter_other hsymbol (by decide) (by decide)
    ('(' :: element.expression.toList ++ "));".toList) (by simp) hbefore
  have hopening : '+' ∉ " (".toList := by decide
  have hending : '+' ∉ "));".toList := by decide
  have hread := numbersAfter_element hsymbol element hopening hending
  rw [← hread]
  simpa using hskip

/-- A statement has the offset of its action, and no other number behind the buffer's name. -/
theorem numbersAfter_statements (action : Action) (margin : Nat) :
    ((action.statements symbol).map (indented margin)).flatMap
        (fun line => numbersAfter (offsetMark symbol) line.toList) =
      action.offset?.toList := by
  have hplain : ∀ line : String, Lacks '+' line →
      numbersAfter (offsetMark symbol) (indented margin line).toList = [] :=
    fun line hline => numbersAfter_of_lacks ((lacks_indented (by decide) margin line).mpr hline)
  cases action with
  | store offset element =>
    have hstore := numbersAfter_slot hsymbol "" ("[" ++ (element.expression ++ "] = (T) value;"))
      (by decide) margin offset
      fun first hfirst => numbersAfter_indexed hsymbol element (by decide) hfirst
    have hreturn := hplain "return;" (by decide)
    rw [String.empty_append] at hstore
    simp only [Action.statements, List.map_cons, List.map_nil, List.flatMap_cons, List.flatMap_nil,
      toString_self, String.append_assoc, hstore, hreturn]
    rfl
  | load offset element =>
    have hload := numbersAfter_slot hsymbol "return " ("[" ++ (element.expression ++ "];"))
      (by decide) margin offset
      fun first hfirst => numbersAfter_indexed hsymbol element (by decide) hfirst
    simp only [Action.statements, List.map_cons, List.map_nil, List.flatMap_cons, List.flatMap_nil,
      toString_self, String.append_assoc, hload]
    rfl
  | loadCached offset element =>
    have hload := numbersAfter_slot hsymbol "return (T) __ldg("
      (" + (" ++ (element.expression ++ "));")) (by decide) margin offset
      fun first hfirst => numbersAfter_cached hsymbol element hfirst
    simp only [Action.statements, List.map_cons, List.map_nil, List.flatMap_cons, List.flatMap_nil,
      toString_self, String.append_assoc, hload]
    rfl
  | fetch offset =>
    have hbefore : Lacks '+' "return *reinterpret_cast<const T*>(" := by decide
    have hfetch := numbersAfter_line hsymbol ");" hbefore margin offset (by simp)
      fun first hfirst => numbersAfter_of_lacks (by simp [hfirst])
    simp only [Action.statements, List.map_cons, List.map_nil, List.flatMap_cons, List.flatMap_nil,
      toString_self, String.append_assoc]
    exact congrArg (· ++ []) hfetch
  | fetchIndexed offset =>
    have hbefore : Lacks '+' "return reinterpret_cast<const T*>(" := by decide
    have hfetch := numbersAfter_line hsymbol ")[index];" hbefore margin offset (by simp)
      fun first hfirst => numbersAfter_of_lacks (by simp [hfirst])
    simp only [Action.statements, List.map_cons, List.map_nil, List.flatMap_cons, List.flatMap_nil,
      toString_self, String.append_assoc]
    exact congrArg (· ++ []) hfetch
  | affirm =>
    have haffirm := hplain "return true;" (by decide)
    simp only [Action.statements, List.map_cons, List.map_nil, List.flatMap_cons, List.flatMap_nil,
      haffirm]
    rfl

omit hsymbol

/-! ## Offsets of bodies -/

namespace Body

variable {config : Config} {body : Body} {block : Block}

theorem CheckLine.lacks_plus (h : body.Legible) (hidentifier : isIdentifier config.faultMacro = true)
    (hb : block ∈ body.blocks) {line : String} (hline : CheckLine config body block line) :
    Lacks '+' line := by
  have hindented : ∀ {margin : Nat} {line : String}, Lacks '+' line →
      Lacks '+' (indented margin line) := (lacks_indented (by decide) _ _).mpr
  cases hline with
  | directive _ hmem =>
    have hall : ∀ line ∈ directives, Lacks '+' line := by decide
    exact hall line hmem
  | condition hcheck hopening =>
    have hfailure := plain_failure h hb hcheck
    simp only [List.mem_cons, List.not_mem_nil, or_false] at hopening
    apply hindented
    simp only [lacks_append]
    rcases hopening with rfl | rfl <;> exact ⟨⟨by decide, hfailure.2⟩, by decide⟩
  | report hcheck =>
    refine hindented (plain_report h hidentifier ?_).2
    intro index hfault
    rename_i check
    cases check <;> cases hfault
    exact h.index block hb _ _ hcheck
  | leave => exact hindented h.leave.2
  | close => exact hindented (by decide)

theorem directive_ne_indented (h : body.Legible) {line : String} (hline : line ∈ directives)
    (code : String) : line ≠ indented body.margin code := by
  have hsign : ∀ line ∈ directives, line.toList.head? = some '#' := by decide
  intro heq
  have hhead := hsign line hline
  obtain ⟨n, hn⟩ := Nat.exists_eq_succ_of_ne_zero (Nat.ne_of_gt h.margin_pos)
  rw [heq, toList_indented, hn, List.replicate_succ] at hhead
  simp at hhead

/-- What a block holds between its head and its end is neither a head nor an end. -/
theorem inner_ne_indented (h : body.Legible) (hvalid : config.validate = .ok ())
    (hb : block ∈ body.blocks) {line : String}
    (hline : line ∈ body.checkLines config block ++
      (block.action.statements config.symbolName).map (indented (body.margin + 4)))
    {code : String} (hcode : BeginsCode code) : line ≠ indented body.margin code := by
  obtain ⟨-, hsymbol, hidentifier⟩ := config.validate_eq_ok_iff.mp hvalid
  rcases List.mem_append.mp hline with hcheck | hstatement
  · rcases (mem_checkLines config body hcheck).isCode h hidentifier hb with ⟨-, hdirective⟩ | hcheck
    · exact directive_ne_indented h hdirective code
    · exact hcheck.ne_indented hcode
  · obtain ⟨statement, hmem, rfl⟩ := List.mem_map.mp hstatement
    exact (statement_isCode (by omega) hsymbol hmem).ne_indented hcode

/-- Blocks of different names begin differently. -/
theorem head_inj {margin : Nat} {name name' : String} (h : head margin name = head margin name') :
    name = name' := by
  have hcode := (indented_inj (head_begins name) (head_begins name') h).2
  have hlist := congrArg String.toList hcode
  simp only [String.toList_append] at hlist
  exact Literal.quote_injective
    (String.toList_inj.mp (List.append_cancel_left (List.append_cancel_right hlist)))

theorem head_ne_close (margin : Nat) (name : String) :
    head margin name ≠ indented margin "\x7d" := by
  intro h
  have hcode := (indented_inj (head_begins name) (by decide) h).2
  have hfirst := congrArg (fun text : String => text.toList.head?) hcode
  simp at hfirst

theorem head_not_mem_blockLines (h : body.Legible) (hvalid : config.validate = .ok ())
    (hb : block ∈ body.blocks) {name : String} (hname : block.name ≠ name) :
    head body.margin name ∉ body.blockLines config block := by
  rw [blockLines_eq, List.mem_append, List.mem_append, List.mem_singleton, List.mem_singleton]
  rintro (hhead | hinner | hclose)
  · exact hname (head_inj hhead).symm
  · exact inner_ne_indented h hvalid hb hinner (head_begins name) rfl
  · exact head_ne_close body.margin name hclose

/-- A reader finds the block of a name, from its head to its end. -/
theorem between_lines (h : body.Legible) (hvalid : config.validate = .ok ())
    (hnodup : (body.blocks.map (·.name)).Nodup) (hb : block ∈ body.blocks) :
    between (head body.margin block.name) (indented body.margin "\x7d") (body.lines config) =
      body.checkLines config block ++
        (block.action.statements config.symbolName).map (indented (body.margin + 4)) := by
  obtain ⟨first, last, hsplit⟩ := List.append_of_mem hb
  have hfirst : head body.margin block.name ∉ first.flatMap (body.blockLines config) := by
    intro hmem
    obtain ⟨other, hother, hline⟩ := List.mem_flatMap.mp hmem
    refine head_not_mem_blockLines h hvalid (hsplit ▸ List.mem_append_left _ hother) ?_ hline
    rw [hsplit, List.map_append, List.map_cons] at hnodup
    intro heq
    have hdisjoint := (List.nodup_append.mp hnodup).2.2 other.name
      (List.mem_map_of_mem hother) block.name List.mem_cons_self
    exact hdisjoint heq
  have hinner : indented body.margin "\x7d" ∉ body.checkLines config block ++
      (block.action.statements config.symbolName).map (indented (body.margin + 4)) :=
    fun hmem => inner_ne_indented h hvalid hb hmem (by decide) rfl
  have hlines : body.lines config = first.flatMap (body.blockLines config) ++
      body.blockLines config block ++
        (last.flatMap (body.blockLines config) ++ body.closingLines config) := by
    rw [lines, hsplit, List.flatMap_append, List.flatMap_cons]
    simp only [List.append_assoc]
  rw [hlines, blockLines_eq]
  exact between_append hfirst hinner

/-- In the block of a name, a body's text has the offset of the block's action, and only that. -/
theorem writtenOffsets_code (h : body.Legible) (hvalid : config.validate = .ok ())
    (hnodup : (body.blocks.map (·.name)).Nodup) (hb : block ∈ body.blocks) :
    writtenOffsets config.symbolName body.margin block.name (body.code config) =
      block.action.offset?.toList := by
  obtain ⟨-, hsymbol, hidentifier⟩ := config.validate_eq_ok_iff.mp hvalid
  have hchecks : (body.checkLines config block).flatMap
      (fun line => numbersAfter (offsetMark config.symbolName) line.toList) = [] := by
    rw [List.flatMap_eq_nil_iff]
    intro line hline
    exact numbersAfter_of_lacks ((mem_checkLines config body hline).lacks_plus h hidentifier hb)
  rw [writtenOffsets, code, lines_unlines fun _ hline => line_unbroken h hvalid hline,
    between_lines h hvalid hnodup hb, List.flatMap_append, hchecks,
    numbersAfter_statements hsymbol, List.nil_append]

end Body

end DeviceSlots
