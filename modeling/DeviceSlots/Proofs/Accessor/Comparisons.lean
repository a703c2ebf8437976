import DeviceSlots.Proofs.Accessor.Accesses
import DeviceSlots.Proofs.Text.ByteOrder
import Mathlib.Data.List.Nodup

/-!
# Comparisons in generated code

A body compares the requested name with the name of each of its blocks, in order, and with nothing
else: whatever the names are, no literal, report or statement reads like a comparison. So the text of
an accessor compares the requested name once with each variable that the access fits.
-/

namespace DeviceSlots

open Text Reading

/-- What stands in front of the literal that the requested name is compared with. -/
def comparison : String := "names_equal(name, "

/-- The text of a literal from after its opening quote. -/
def literalText? (rest : List Char) : Option String :=
  (Literal.body? rest).map fun (read, _) => String.ofList read

/-- The names that a text compares the requested name with, in order: what the literals right behind
its comparisons denote. -/
def comparedNames (text : List Char) : List String :=
  readAfter literalText? (comparison.toList ++ ['"']) text

/-! ## From quote to quote -/

theorem comparedNames_append_quote {before : List Char} (h : '"' ∉ before) (after : List Char) :
    comparedNames (before ++ '"' :: after) =
      (if comparison.toList <:+ before then (literalText? after).toList else []) ++
        comparedNames after := by
  rw [comparedNames, readAfter_append_sign (by decide) (by decide) h]
  simp only [List.nil_prefix, and_true, List.length_nil, List.drop_zero, comparedNames]

/-- A comparison ends with a blank. -/
theorem not_suffix_concat {c : Char} (hc : c ≠ ' ') (before : List Char) :
    ¬ comparison.toList <:+ before ++ [c] := by
  rintro ⟨front, hfront⟩
  have hlast := congrArg List.getLast? hfront
  rw [List.getLast?_concat, List.getLast?_append] at hlast
  exact hc (Option.some.inj hlast).symm

/-- A quote behind anything but a blank opens no compared literal. -/
theorem comparedNames_concat_quote {before : List Char} {c : Char} (hc : c ≠ ' ')
    (h : '"' ∉ before ++ [c]) (after : List Char) :
    comparedNames (before ++ c :: '"' :: after) = comparedNames after := by
  have hsplit : before ++ c :: '"' :: after = (before ++ [c]) ++ '"' :: after := by simp
  rw [hsplit, comparedNames_append_quote h, if_neg (not_suffix_concat hc before), List.nil_append]

/-- Nothing is compared inside a literal, nor at its closing quote, if no other literal begins there. -/
theorem comparedNames_escaped {tail : List Char} (htail : Literal.body? tail = none)
    (text : List Char) {before : List Char} (h : '"' ∉ before) :
    comparedNames (before ++ (text.flatMap Literal.escape ++ '"' :: tail)) = comparedNames tail := by
  induction text generalizing before with
  | nil =>
    rw [List.flatMap_nil, List.nil_append, comparedNames_append_quote h, literalText?, htail]
    simp
  | cons c text ih =>
    rw [List.flatMap_cons]
    by_cases hquote : '"' ∈ Literal.escape c
    · have hbefore : '"' ∉ before ++ ['\\'] := by simp [h]
      have hrest := ih List.not_mem_nil
      rw [List.nil_append] at hrest
      have hsplit : before ++ (['\\', '"'] ++ text.flatMap Literal.escape ++ '"' :: tail) =
          before ++ '\\' :: '"' :: (text.flatMap Literal.escape ++ '"' :: tail) := by simp
      rw [Literal.escape_of_quote_mem hquote, hsplit,
        comparedNames_concat_quote (by decide) hbefore, hrest]
    · have hbefore : '"' ∉ before ++ Literal.escape c := by simp [h, hquote]
      rw [List.append_assoc, ← List.append_assoc before, ih hbefore]

/-! ## Lines -/

/-- Nothing is compared on the line. -/
def Silent (line : String) : Prop :=
  ∀ rest, comparedNames (line.toList ++ '\n' :: rest) = comparedNames rest

theorem silent_of_lacks {line : String} (h : Lacks '"' line) : Silent line := by
  intro rest
  refine readAfter_line (by decide) (fun hmark => h (List.IsInfix.subset hmark ?_)) rest
  decide

theorem comparedNames_unlines {ls : List String} (h : ∀ line ∈ ls, Silent line)
    (rest : List Char) : comparedNames ((unlines ls).toList ++ rest) = comparedNames rest := by
  induction ls with
  | nil => rfl
  | cons line ls ih =>
    rw [toList_unlines_cons, List.append_assoc, List.cons_append, h line List.mem_cons_self,
      ih fun other hother => h other (List.mem_cons_of_mem line hother)]

namespace Body

variable {config : Config} {body : Body} {block : Block}

theorem comparedNames_head (margin : Nat) (name : String) (rest : List Char) :
    comparedNames ((head margin name).toList ++ '\n' :: rest) = name :: comparedNames rest := by
  have hline : (head margin name).toList ++ '\n' :: rest =
      ((List.replicate margin ' ' ++ "if (".toList) ++ comparison.toList) ++
        '"' :: (name.toList.flatMap Literal.escape ++ '"' :: (")) \x7b".toList ++ '\n' :: rest)) := by
    simp [head, toList_indented, Literal.quote, comparison]
  have hbefore : '"' ∉ (List.replicate margin ' ' ++ "if (".toList) ++ comparison.toList := by
    simp [comparison]
  have htail : Literal.body? (")) \x7b".toList ++ '\n' :: rest) = none := by
    simp [Literal.body?]
  have hinside := comparedNames_escaped htail name.toList List.not_mem_nil
  rw [List.nil_append] at hinside
  rw [hline, comparedNames_append_quote hbefore, if_pos (List.suffix_append _ _), literalText?,
    Literal.body?_flatMap_escape, hinside, silent_of_lacks (by decide : Lacks '"' ")) \x7b")]
  simp

theorem lacks_of_spelled {text : String} (h : Spelled text) : Lacks '"' text := by
  intro hmem
  have hescape := h '"' hmem
  contradiction

theorem silent_report (h : body.Readable) (hidentifier : isIdentifier config.faultMacro = true)
    {fault : Fault}
    (hcounter : ∀ index, fault = .outOfBounds index → ∃ counter, index = Counter.name counter)
    (margin : Nat) : Silent (indented margin (body.report config fault)) := by
  have hmacro : Lacks '"' config.faultMacro := lacks_of_isIdentifier hidentifier (by decide) (by decide)
  have hsubject := lacks_of_spelled h.subject_spelled.1
  have hcomplaint : Lacks '"' fault.complaint := by
    cases fault with
    | outOfBounds index => exact (by decide : Lacks '"' ", index %d is out of bounds")
    | _ => decide
  have hcircumstance : Lacks '"' (Fault.circumstance body.operation) := by
    cases hoperation : body.operation with
    | none => decide
    | some name =>
      exact (lacks_append _ _ _).mpr ⟨by decide, lacks_of_spelled (h.operation_spelled name hoperation)⟩
  have harguments : Lacks '"' fault.arguments := by
    cases fault with
    | outOfBounds index =>
      obtain ⟨counter, rfl⟩ := hcounter index rfl
      cases counter <;> decide
    | _ => decide
  intro rest
  have hline : (indented margin (body.report config fault)).toList ++ '\n' :: rest =
      (List.replicate margin ' ' ++ config.faultMacro.toList) ++ '(' :: '"' ::
        ((body.subject.toList ++ " '%s'".toList ++ fault.complaint.toList ++
          (Fault.circumstance body.operation).toList ++ ".\\".toList) ++ 'n' :: '"' ::
            (fault.arguments.toList ++ '\n' :: rest)) := by
    rw [report, Fault.report_eq]
    simp [toList_indented]
  rw [hline, comparedNames_concat_quote (by decide), comparedNames_concat_quote (by decide),
    silent_of_lacks harguments]
  · simp only [List.mem_append, not_or]
    exact ⟨⟨⟨⟨⟨hsubject, by decide⟩, hcomplaint⟩, hcircumstance⟩, by decide⟩, by decide⟩
  · simp only [List.mem_append, not_or]
    exact ⟨⟨by simp, hmacro⟩, by decide⟩

theorem lacks_failure (h : body.Readable) (hb : block ∈ body.blocks) {check : Check}
    (hcheck : check ∈ block.checks) : Lacks '"' check.failure := by
  have hrepr : ∀ n, Lacks '"' (Nat.repr n) := lacks_repr (by decide)
  cases check with
  | size bytes => exact (lacks_append _ _ _).mpr ⟨by decide, hrepr bytes⟩
  | length elements => exact (lacks_append _ _ _).mpr ⟨by decide, hrepr elements⟩
  | bound index limit =>
    obtain ⟨counter, rfl⟩ := h.index_known block hb index limit hcheck
    simp only [Check.failure, toString_self, lacks_append]
    exact ⟨⟨by cases counter <;> decide, by decide⟩, hrepr limit⟩

theorem silent_leave (h : body.Readable) (margin : Nat) : Silent (indented margin body.leave) := by
  apply silent_of_lacks
  rw [lacks_indented (by decide)]
  rcases h.leave_known with hleave | hleave <;> rw [hleave] <;> decide

theorem CheckLine.silent (h : body.Readable) (hidentifier : isIdentifier config.faultMacro = true)
    (hb : block ∈ body.blocks) {line : String} (hline : CheckLine config body block line) :
    Silent line := by
  have hindented {margin : Nat} {line : String} (hlacks : Lacks '"' line) :
      Silent (indented margin line) :=
    silent_of_lacks ((lacks_indented (by decide) margin line).mpr hlacks)
  cases hline with
  | directive _ hmem =>
    have hall : ∀ line ∈ directives, Lacks '"' line := by decide
    exact silent_of_lacks (hall line hmem)
  | condition hcheck hopening =>
    have hfailure := lacks_failure h hb hcheck
    simp only [List.mem_cons, List.not_mem_nil, or_false] at hopening
    apply hindented
    simp only [lacks_append]
    rcases hopening with rfl | rfl <;> exact ⟨⟨by decide, hfailure⟩, by decide⟩
  | report hcheck =>
    refine silent_report h hidentifier ?_ _
    intro index hfault
    obtain ⟨limit, rfl⟩ := index_of_fault hfault
    exact h.index_known block hb index limit hcheck
  | leave => exact silent_leave h _
  | close => exact hindented (by decide)

theorem silent_closingLine (h : body.Readable) (hidentifier : isIdentifier config.faultMacro = true)
    {line : String} (hline : line ∈ body.closingLines config) : Silent line := by
  unfold closingLines at hline
  cases hclosing : body.closing with
  | notFound hasResult =>
    simp only [hclosing, List.mem_append] at hline
    rcases hline with hguarded | hleave
    · rcases Seatbelts.mem_guarded hguarded with ⟨-, hdirective⟩ | hreport | hnone
      · have hall : ∀ line ∈ directives, Lacks '"' line := by decide
        exact silent_of_lacks (hall line hdirective)
      · rw [List.mem_singleton.mp hreport]
        exact silent_report h hidentifier (by simp) body.margin
      · contradiction
    · split at hleave
      · rw [List.mem_singleton.mp hleave]
        exact silent_leave h body.margin
      · contradiction
  | deny =>
    simp only [hclosing, List.mem_singleton] at hline
    subst hline
    exact silent_of_lacks ((lacks_indented (by decide) _ _).mpr (by decide))

/-! ## Bodies -/

theorem comparedNames_blockLines (h : body.Readable) (hvalid : config.validate = .ok ())
    (hb : block ∈ body.blocks) (rest : List Char) :
    comparedNames ((unlines (body.blockLines config block)).toList ++ rest) =
      block.name :: comparedNames rest := by
  obtain ⟨-, hsymbol, hidentifier⟩ := config.validate_eq_ok_iff.mp hvalid
  have hinner : ∀ line ∈ body.checkLines config block ++
      (block.action.statements config.symbolName).map (indented (body.margin + 4)) ++
        [indented body.margin "\x7d"], Silent line := by
    intro line hline
    simp only [List.mem_append, List.mem_map, List.mem_singleton] at hline
    rcases hline with (hcheck | ⟨statement, hstatement, rfl⟩) | rfl
    · exact (mem_checkLines config body hcheck).silent h hidentifier hb
    · have hlacks : Lacks '"' config.symbolName :=
        lacks_of_isIdentifier hsymbol (by decide) (by decide)
      apply silent_of_lacks
      rw [lacks_indented (by decide)]
      exact Action.lacks_statement (by decide) hlacks hstatement
    · exact silent_of_lacks ((lacks_indented (by decide) _ _).mpr (by decide))
  rw [blockLines_eq, List.singleton_append, toList_unlines_cons, List.append_assoc,
    List.cons_append, comparedNames_head, comparedNames_unlines hinner]

/-- The text of a body compares the requested name with the names of its blocks, in order. -/
theorem comparedNames_code (h : body.Readable) (hvalid : config.validate = .ok ()) :
    comparedNames (body.code config).toList = body.blocks.map (·.name) := by
  obtain ⟨-, -, hidentifier⟩ := config.validate_eq_ok_iff.mp hvalid
  have hclosing : comparedNames (unlines (body.closingLines config)).toList = [] := by
    have hsilent := comparedNames_unlines (fun _ hline => silent_closingLine h hidentifier hline) []
    rw [List.append_nil] at hsilent
    exact hsilent
  have hblocks : ∀ blocks : List Block, (∀ block ∈ blocks, block ∈ body.blocks) →
      comparedNames ((unlines (blocks.flatMap (body.blockLines config))).toList ++
        (unlines (body.closingLines config)).toList) = blocks.map (·.name) := by
    intro blocks hall
    induction blocks with
    | nil => exact hclosing
    | cons block rest ih =>
      rw [List.flatMap_cons, unlines_append, String.toList_append, List.append_assoc,
        comparedNames_blockLines h hvalid (hall block List.mem_cons_self),
        ih fun other hother => hall other (List.mem_cons_of_mem block hother), List.map_cons]
  rw [code, lines, unlines_append, String.toList_append]
  exact hblocks body.blocks fun _ hb => hb

/-- The text of a comparison with a name. -/
def comparisonWith (name : String) : String := comparison ++ Literal.quote name ++ ")"

theorem comparisonWith_infix (hb : block ∈ body.blocks) :
    (comparisonWith block.name).toList <:+: (body.code config).toList := by
  have hhead : (comparisonWith block.name).toList <:+:
      (unlines [head body.margin block.name]).toList := by
    refine ⟨List.replicate body.margin ' ' ++ "if (".toList, ") \x7b\n".toList, ?_⟩
    simp [comparisonWith, comparison, head, toList_unlines_cons, toList_indented]
  have hmem : head body.margin block.name ∈ body.lines config := by
    refine List.mem_append_left _ (List.mem_flatMap.mpr ⟨block, hb, ?_⟩)
    rw [blockLines_eq]
    exact List.mem_cons_self
  obtain ⟨before, after, hsplit⟩ := List.append_of_mem hmem
  have hline := unlines_infix before [head body.margin block.name] after
  rw [List.append_assoc, List.singleton_append, ← hsplit] at hline
  exact hhead.trans hline

/-- A body compares the requested name with a name as often as it has blocks of this name. -/
theorem occurrences_code (h : body.Readable) (hvalid : config.validate = .ok ())
    (hnodup : (body.blocks.map (·.name)).Nodup) (name : String) :
    occurrences (comparisonWith name).toList (body.code config).toList =
      if name ∈ body.blocks.map (·.name) then 1 else 0 := by
  have hle : occurrences (comparisonWith name).toList (body.code config).toList ≤
      (body.blocks.map (·.name)).count name := by
    rw [← comparedNames_code h hvalid]
    refine occurrences_le_count (by simp [comparisonWith, comparison]) ?_ _
    intro rest
    have htext : (comparisonWith name).toList ++ rest = (comparison.toList ++ ['"']) ++
        (name.toList.flatMap Literal.escape ++ '"' :: (')' :: rest)) := by
      simp [comparisonWith, Literal.quote]
    rw [htext, List.drop_left, literalText?, Literal.body?_flatMap_escape]
    exact ⟨List.prefix_append _ _, by simp⟩
  split
  · rename_i hmem
    have hone : (body.blocks.map (·.name)).count name = 1 := List.count_eq_one_of_mem hnodup hmem
    have hpos : 0 < occurrences (comparisonWith name).toList (body.code config).toList := by
      rw [occurrences_pos_iff]
      obtain ⟨block, hb, rfl⟩ := List.mem_map.mp hmem
      exact comparisonWith_infix hb
    omega
  · rename_i hmem
    rw [List.count_eq_zero_of_not_mem hmem] at hle
    omega

end Body

/-! ## Accessors of variables -/

/-- Whether a name is that of a variable which the access fits. -/
def Registries.offers (r : Registries) (config : Config) (kind : Kind) (access : Access)
    (name : String) : Bool :=
  (r.findVariable? kind name).any fun v => access.admits v config.vectorTypes

namespace Generator

variable {config : Config} {capacity : Nat} {r : Registries} {layout : Layout}

theorem mem_names_variableBody (hlayout : Layout.compute capacity r = .ok layout) (kind : Kind)
    (access : Access) (name : String) :
    name ∈ (variableBody config layout kind access).blocks.map (·.name) ↔
      r.offers config kind access name = true := by
  rw [Registries.offers, Option.any_eq_true]
  constructor
  · intro hmem
    obtain ⟨block, hb, rfl⟩ := List.mem_map.mp hmem
    exact findVariable?_of_mem_blocks hlayout hb
  · rintro ⟨v, hv, hadmits⟩
    obtain ⟨offset, -, hblock⟩ := exists_variableBlock hlayout config hv hadmits
    exact List.mem_map.mpr ⟨_, hblock, rfl⟩

/-- The text of an accessor compares the requested name once with each variable that the access
fits, in ascending order of the names' bytes, and with nothing else. -/
theorem compares_each_once (hvalid : config.validate = .ok ())
    (hlayout : Layout.compute capacity r = .ok layout) (kind : Kind) (access : Access) :
    let text := ((variableBody config layout kind access).code config).toList
    (∀ name, occurrences ("names_equal(name, " ++ Literal.quote name ++ ")").toList text =
        if r.offers config kind access name then 1 else 0) ∧
      (∀ name, name ∈ comparedNames text ↔ r.offers config kind access name = true) ∧
      (comparedNames text).Pairwise fun a b => utf8 a < utf8 b := by
  intro text
  have hreadable := readable_variableBody config layout kind access
  have hnames : comparedNames text = (variableBody config layout kind access).blocks.map (·.name) :=
    Body.comparedNames_code hreadable hvalid
  have hmem : ∀ name, name ∈ (variableBody config layout kind access).blocks.map (·.name) ↔
      r.offers config kind access name = true := mem_names_variableBody hlayout kind access
  refine ⟨fun name => ?_, fun name => ?_, ?_⟩
  · have hcount := Body.occurrences_code hreadable hvalid
      (nodup_variableBody hlayout config kind access) name
    simp only [hmem] at hcount
    exact hcount
  · rw [hnames]
    exact hmem name
  · rw [hnames]
    apply (pairwise_variableBody hlayout config kind access).imp
    intro a b hlt
    exact (utf8_lt_utf8_iff a b).mpr hlt

/-- A name that is spelled like two comparisons makes neither of them. -/
theorem compares_each_once_lookalike :
    let config : Config := { seatbelts := .preprocessor }
    let name := "names_equal(name, \"y\") || names_equal(name, "
    let v : Variable := { typeName := "float", typeSize := 4, elements := 1, read := true, write := true }
    ∃ layout, Layout.compute 16 (Registries.ofVariable .agent name v) = .ok layout ∧
      let text := ((variableBody config layout .agent .get).code config).toList
      occurrences ("names_equal(name, " ++ Literal.quote name ++ ")").toList text = 1 ∧
      occurrences ("names_equal(name, " ++ Literal.quote "y" ++ ")").toList text = 0 ∧
      name ∈ comparedNames text ∧ "y" ∉ comparedNames text := by
  intro config name v
  have hvalid : Config.validate { seatbelts := .preprocessor } = .ok () := rfl
  have hlayout : Layout.compute 16 (Registries.ofVariable .agent name v) = .ok ⟨_, _⟩ := rfl
  obtain ⟨hcount, hmem, -⟩ := compares_each_once hvalid hlayout .agent .get
  have hoffered : (Registries.ofVariable .agent name v).offers config .agent .get name = true := by
    decide +kernel
  have hother : (Registries.ofVariable .agent name v).offers config .agent .get "y" = false := by
    decide +kernel
  refine ⟨_, hlayout, ?_, ?_, (hmem name).mpr hoffered, ?_⟩
  · rw [hcount, if_pos hoffered]
  · rw [hcount, if_neg (Bool.eq_false_iff.mp hother)]
  · rw [hmem, hother]
    decide

end Generator

end DeviceSlots
