import DeviceSlots.Accessor.Generator
import DeviceSlots.Proofs.Accessor.Fault
import DeviceSlots.Proofs.Accessor.Literal
import DeviceSlots.Proofs.Text.Code

/-!
# The shape of generated lines

A line of a body is the head of a block, a line of its checks, one of its statements, its end, or a
line of the closing part. From this list follows what can stand on a line: it never breaks, apart
from the three directives of guarded parts it is code, and only statements and heads hold a plus
sign.
-/

namespace DeviceSlots

open Text

/-- The lines that open, turn and end guarded parts. -/
def directives : List String := [checksOpen, checksElse, checksClose]

/-- The policy that writes only one form of checks. -/
def Seatbelts.only (checked : Bool) : Seatbelts := if checked then .enabled else .disabled

theorem Seatbelts.mem_guarded {policy : Seatbelts} {checked unchecked : List String} {line : String}
    (h : line ∈ policy.guarded checked unchecked) :
    policy = .preprocessor ∧ line ∈ directives ∨ line ∈ checked ∨ line ∈ unchecked := by
  cases policy with
  | enabled => exact .inr (.inl h)
  | disabled => exact .inr (.inr h)
  | preprocessor =>
    simp only [guarded] at h
    split at h
    · contradiction
    · split at h <;>
        simp only [List.mem_append, List.mem_cons, List.not_mem_nil, or_false] at h <;>
        simp only [directives, List.mem_cons, List.not_mem_nil, or_false, true_and] <;>
        grind

/-! ## Statements -/

/-- The characters that end lines and literals. Statements hold none of them. -/
def terminators : List Char := ['\n', '"']

theorem lacks_of_terminator {c : Char} (hc : c ∈ terminators) {text : String}
    (h : Lacks '\n' text ∧ Lacks '"' text) : Lacks c text := by
  simp only [terminators, List.mem_cons, List.not_mem_nil, or_false] at hc
  rcases hc with rfl | rfl
  · exact h.1
  · exact h.2

theorem lacks_repr_of_terminator {c : Char} (hc : c ∈ terminators) (n : Nat) :
    Lacks c (Nat.repr n) :=
  lacks_of_terminator hc ⟨lacks_repr (by decide) n, lacks_repr (by decide) n⟩

theorem Element.lacks_expression {c : Char} (hc : c ∈ terminators) (element : Element) :
    Lacks c element.expression := by
  cases element with
  | scalar => exact lacks_of_terminator hc (by decide)
  | array elements =>
    have hrepr := lacks_repr_of_terminator hc elements
    simp only [Element.expression, lacks_append]
    exact ⟨⟨lacks_of_terminator hc (by decide), hrepr⟩, lacks_of_terminator hc (by decide)⟩

namespace Action

theorem slot_begins (symbol : String) (offset : Nat) :
    BeginsCode (statements.slot symbol offset) := by
  unfold statements.slot
  exact beginsCode_append (beginsCode_append (beginsCode_append (beginsCode_append (by decide) _) _)
    _) _

theorem lacks_slot {c : Char} (hc : c ∈ terminators) {symbol : String} (h : Lacks c symbol)
    (offset : Nat) : Lacks c (statements.slot symbol offset) := by
  have hrepr := lacks_repr_of_terminator hc offset
  unfold statements.slot
  simp only [lacks_append]
  exact ⟨⟨⟨⟨lacks_of_terminator hc (by decide), h⟩, lacks_of_terminator hc (by decide)⟩, hrepr⟩,
    lacks_of_terminator hc (by decide)⟩

theorem statement_begins {action : Action} {symbol statement : String}
    (h : statement ∈ action.statements symbol) : BeginsCode statement := by
  cases action <;> simp only [statements, List.mem_cons, List.not_mem_nil, or_false] at h
  case store offset element =>
    rcases h with rfl | rfl
    · exact beginsCode_append (beginsCode_append (beginsCode_append (slot_begins symbol offset) _) _) _
    · decide
  all_goals subst h
  case load => exact beginsCode_append (beginsCode_append (beginsCode_append
    (beginsCode_append (by decide) _) _) _) _
  case loadCached => exact beginsCode_append (beginsCode_append (beginsCode_append
    (beginsCode_append (by decide) _) _) _) _
  case fetch => exact beginsCode_append (beginsCode_append (beginsCode_append
    (beginsCode_append (by decide) _) _) _) _
  case fetchIndexed => exact beginsCode_append (beginsCode_append (beginsCode_append
    (beginsCode_append (by decide) _) _) _) _
  case affirm => decide

theorem lacks_statement {c : Char} (hc : c ∈ terminators) {action : Action}
    {symbol statement : String} (hsymbol : Lacks c symbol)
    (h : statement ∈ action.statements symbol) : Lacks c statement := by
  have hfixed {text : String} (h : Lacks '\n' text ∧ Lacks '"' text) : Lacks c text :=
    lacks_of_terminator hc h
  have hslot := lacks_slot hc hsymbol
  have hrepr := lacks_repr_of_terminator hc
  have helement := Element.lacks_expression hc
  cases action <;> simp only [statements, List.mem_cons, List.not_mem_nil, or_false] at h
  case store offset element =>
    rcases h with rfl | rfl
    · simp only [lacks_append]
      exact ⟨⟨⟨hslot offset, hfixed (by decide)⟩, helement element⟩, hfixed (by decide)⟩
    · exact hfixed (by decide)
  all_goals subst h
  case load offset element | loadCached offset element =>
    simp only [lacks_append]
    exact ⟨⟨⟨⟨hfixed (by decide), hslot offset⟩, hfixed (by decide)⟩, helement element⟩,
      hfixed (by decide)⟩
  case fetch offset | fetchIndexed offset =>
    simp only [lacks_append]
    exact ⟨⟨⟨⟨hfixed (by decide), hsymbol⟩, hfixed (by decide)⟩, hrepr offset⟩, hfixed (by decide)⟩
  case affirm => exact hfixed (by decide)

end Action

namespace Body

variable (config : Config) (body : Body)

/-! ## The lines of a block -/

/-- The line that opens the block of a name. -/
def head (margin : Nat) (name : String) : String :=
  indented margin ("if (names_equal(name, " ++ Literal.quote name ++ ")) \x7b")

/-- The lines of a block between its head and its statements. -/
def checkLines (block : Block) : List String :=
  config.seatbelts.guarded
    (chain (body.margin + 4) (fun check => [body.report config check.fault, body.leave])
      block.checks)
    (chain (body.margin + 4) (fun _ => [body.leave]) (block.checks.filter Check.isEssential))

theorem blockLines_eq (block : Block) :
    body.blockLines config block =
      [head body.margin block.name] ++ (body.checkLines config block ++
        (block.action.statements config.symbolName).map (indented (body.margin + 4)) ++
        [indented body.margin "\x7d"]) := by
  have hhead : s!"if (names_equal(name, {Literal.quote block.name})) \x7b" =
      "if (names_equal(name, " ++ Literal.quote block.name ++ ")) \x7b" := rfl
  simp only [blockLines, hhead, head, checkLines, List.append_assoc]

/-- A line of the checks of a block. -/
inductive CheckLine (block : Block) : String → Prop
  | directive {line : String} (hpolicy : config.seatbelts = .preprocessor)
      (h : line ∈ directives) : CheckLine block line
  | condition {check : Check} (h : check ∈ block.checks) {opening : String}
      (hopening : opening ∈ ["if (", "\x7d else if ("]) :
      CheckLine block (indented (body.margin + 4) (opening ++ check.failure ++ ") \x7b"))
  | report {check : Check} (h : check ∈ block.checks) :
      CheckLine block (indented (body.margin + 8) (body.report config check.fault))
  | leave : CheckLine block (indented (body.margin + 8) body.leave)
  | close : CheckLine block (indented (body.margin + 4) "\x7d")

theorem mem_chainFrom {margin : Nat} {arm : Check → List String} {first : Bool}
    {checks : List Check} {line : String} (h : line ∈ chainFrom margin arm first checks) :
    (∃ check ∈ checks, ∃ opening ∈ ["if (", "\x7d else if ("],
      line = indented margin (opening ++ check.failure ++ ") \x7b")) ∨
    (∃ check ∈ checks, ∃ statement ∈ arm check, line = indented (margin + 4) statement) ∨
    line = indented margin "\x7d" := by
  induction checks generalizing first with
  | nil =>
    cases first with
    | true => simp [chainFrom] at h
    | false => exact .inr (.inr (by simpa [chainFrom] using h))
  | cons check rest ih =>
    simp only [chainFrom, List.cons_append, List.mem_cons, List.mem_append, List.mem_map] at h
    rcases h with rfl | ⟨statement, hmem, rfl⟩ | h
    · refine .inl ⟨check, List.mem_cons_self, _, ?_, rfl⟩
      cases first <;> simp
    · exact .inr (.inl ⟨check, List.mem_cons_self, statement, hmem, rfl⟩)
    · rcases ih h with ⟨c, hc, hrest⟩ | ⟨c, hc, hrest⟩ | hclose
      · exact .inl ⟨c, List.mem_cons_of_mem _ hc, hrest⟩
      · exact .inr (.inl ⟨c, List.mem_cons_of_mem _ hc, hrest⟩)
      · exact .inr (.inr hclose)

theorem mem_checkLines {block : Block} {line : String} (h : line ∈ body.checkLines config block) :
    CheckLine config body block line := by
  rcases Seatbelts.mem_guarded h with ⟨hpolicy, hmem⟩ | h | h
  · exact .directive hpolicy hmem
  · rcases mem_chainFrom h with ⟨check, hc, opening, ho, rfl⟩ | ⟨check, hc, statement, hs, rfl⟩ | rfl
    · exact .condition hc ho
    · simp only [List.mem_cons, List.not_mem_nil, or_false] at hs
      rcases hs with rfl | rfl
      · exact .report hc
      · exact .leave
    · exact .close
  · rcases mem_chainFrom h with ⟨check, hc, opening, ho, rfl⟩ | ⟨check, hc, statement, hs, rfl⟩ | rfl
    · exact .condition (List.mem_filter.mp hc).1 ho
    · simp only [List.mem_cons, List.not_mem_nil, or_false] at hs
      subst hs
      exact .leave
    · exact .close

/-! ## What stands on a line -/

/-- The parts of a body that its lines are made of are code, and plain. -/
structure Legible (body : Body) : Prop where
  margin_pos : 0 < body.margin
  leave_begins : BeginsCode body.leave
  leave : Plain body.leave
  subject : Plain body.subject
  operation : ∀ operation ∈ body.operation, Plain operation
  index : ∀ block ∈ body.blocks, ∀ index limit, .bound index limit ∈ block.checks → Plain index

variable {config body} {block : Block}

theorem plain_failure (h : body.Legible) (hb : block ∈ body.blocks) {check : Check}
    (hcheck : check ∈ block.checks) : Plain check.failure := by
  cases check with
  | size bytes => exact (plain_append _ _).mpr ⟨by decide, plain_repr bytes⟩
  | length elements => exact (plain_append _ _).mpr ⟨by decide, plain_repr elements⟩
  | bound index limit =>
    have hindex := h.index block hb index limit hcheck
    simp only [Check.failure, plain_append]
    exact ⟨⟨hindex, by decide⟩, plain_repr limit⟩

theorem plain_report (h : body.Legible) (hidentifier : isIdentifier config.faultMacro = true)
    {fault : Fault} (hindex : ∀ index, fault = .outOfBounds index → Plain index) :
    Plain (body.report config fault) := by
  have hname := plain_of_isIdentifier hidentifier
  have hsubject := h.subject
  have hcomplaint : Plain fault.complaint := by
    cases fault with
    | outOfBounds index => exact (by decide : Plain ", index %d is out of bounds")
    | _ => decide
  have hcircumstance : Plain (Fault.circumstance body.operation) := by
    cases hoperation : body.operation with
    | none => decide
    | some name => exact (plain_append _ _).mpr ⟨by decide, h.operation name hoperation⟩
  have harguments : Plain fault.arguments := by
    cases fault with
    | outOfBounds index =>
      simp only [Fault.arguments, plain_append]
      exact ⟨by decide, hindex index rfl, by decide⟩
    | _ => decide
  rw [report, Fault.report_eq]
  simp only [plain_append]
  exact ⟨hname, by decide, by decide, hsubject, by decide, hcomplaint, hcircumstance, by decide,
    harguments⟩

theorem report_begins (config : Config) (body : Body)
    (hidentifier : isIdentifier config.faultMacro = true) (fault : Fault) :
    BeginsCode (body.report config fault) := by
  rw [report, Fault.report_eq]
  exact beginsCode_append (beginsCode_of_isIdentifier hidentifier) _

/-! ## Lines are code -/

theorem head_begins (name : String) :
    BeginsCode ("if (names_equal(name, " ++ Literal.quote name ++ ")) \x7b") :=
  beginsCode_append (beginsCode_append (by decide) _) _

variable {depth margin : Nat} (hdepth : depth < margin)

include hdepth

theorem head_isCode (name : String) : IsCode depth (head margin name) := by
  apply IsCode.of hdepth (head_begins name)
  simp only [lacks_append]
  exact ⟨⟨by decide, Literal.newline_not_mem_quote name⟩, by decide⟩

theorem close_isCode : IsCode depth (indented margin "\x7d") := .of hdepth (by decide) (by decide)

theorem leave_isCode (h : body.Legible) : IsCode depth (indented margin body.leave) :=
  .of hdepth h.leave_begins h.leave.1

theorem report_isCode (h : body.Legible) (hidentifier : isIdentifier config.faultMacro = true)
    {fault : Fault} (hindex : ∀ index, fault = .outOfBounds index → Plain index) :
    IsCode depth (indented margin (body.report config fault)) :=
  .of hdepth (report_begins config body hidentifier fault) (plain_report h hidentifier hindex).1

theorem statement_isCode (hsymbol : isIdentifier config.symbolName = true) {statement : String}
    (hstatement : statement ∈ block.action.statements config.symbolName) :
    IsCode depth (indented margin statement) :=
  .of hdepth (Action.statement_begins hstatement)
    (Action.lacks_statement (by decide) (plain_of_isIdentifier hsymbol).1 hstatement)

omit hdepth

/-- The checks of a block stand deeper than its head. -/
theorem CheckLine.isCode (h : body.Legible) (hidentifier : isIdentifier config.faultMacro = true)
    (hb : block ∈ body.blocks) {line : String} (hline : CheckLine config body block line) :
    config.seatbelts = .preprocessor ∧ line ∈ directives ∨ IsCode body.margin line := by
  cases hline with
  | directive hpolicy hmem => exact .inl ⟨hpolicy, hmem⟩
  | condition hcheck hopening =>
    have hfailure := plain_failure h hb hcheck
    simp only [List.mem_cons, List.not_mem_nil, or_false] at hopening
    refine .inr (.of (by omega) ?_ ?_)
    · rcases hopening with rfl | rfl <;>
        exact beginsCode_append (beginsCode_append (by decide) _) _
    · simp only [lacks_append]
      rcases hopening with rfl | rfl <;> exact ⟨⟨by decide, hfailure.1⟩, by decide⟩
  | report hcheck =>
    refine .inr (report_isCode (by omega) h hidentifier ?_)
    intro index hfault
    rename_i check
    cases check <;> cases hfault
    exact h.index block hb _ _ hcheck
  | leave => exact .inr (leave_isCode (by omega) h)
  | close => exact .inr (close_isCode (by omega))

theorem closingLine_isCode (h : body.Legible) (hidentifier : isIdentifier config.faultMacro = true)
    {line : String} (hline : line ∈ body.closingLines config) :
    config.seatbelts = .preprocessor ∧ line ∈ directives ∨ IsCode 0 line := by
  unfold closingLines at hline
  split at hline
  · rename_i hasResult hclosing
    rcases List.mem_append.mp hline with hline | hline
    · rcases Seatbelts.mem_guarded hline with hmem | hmem | hmem
      · exact .inl hmem
      · rw [List.mem_singleton.mp hmem]
        exact .inr (report_isCode h.margin_pos h hidentifier (by simp))
      · contradiction
    · cases hasResult with
      | false => contradiction
      | true =>
        rw [List.mem_singleton.mp hline]
        exact .inr (leave_isCode h.margin_pos h)
  · rw [List.mem_singleton.mp hline]
    exact .inr (.of h.margin_pos (by decide) (by decide))

/-- All lines of a body are code, apart from the directives that only one policy writes. -/
theorem line_isCode (h : body.Legible) (hvalid : config.validate = .ok ()) {line : String}
    (hline : line ∈ body.lines config) :
    config.seatbelts = .preprocessor ∧ line ∈ directives ∨ IsCode 0 line := by
  obtain ⟨-, hsymbol, hidentifier⟩ := config.validate_eq_ok_iff.mp hvalid
  rcases List.mem_append.mp hline with hline | hline
  · obtain ⟨block, hb, hline⟩ := List.mem_flatMap.mp hline
    rw [blockLines_eq] at hline
    simp only [List.mem_cons, List.mem_append, List.mem_map, List.not_mem_nil, or_false] at hline
    rcases hline with rfl | (hcheck | ⟨statement, hmem, rfl⟩) | rfl
    · exact .inr (head_isCode h.margin_pos block.name)
    · rcases (mem_checkLines config body hcheck).isCode h hidentifier hb with hdirective | hcode
      · exact .inl hdirective
      · exact .inr (hcode.mono (Nat.zero_le _))
    · exact .inr (statement_isCode (by omega) hsymbol hmem)
    · exact .inr (close_isCode h.margin_pos)
  · exact closingLine_isCode h hidentifier hline

theorem line_unbroken (h : body.Legible) (hvalid : config.validate = .ok ()) {line : String}
    (hline : line ∈ body.lines config) : Unbroken line := by
  rcases line_isCode h hvalid hline with ⟨-, hdirective⟩ | hcode
  · have hall : ∀ line ∈ directives, Unbroken line := by decide
    exact hall line hdirective
  · exact hcode.unbroken

end Body

/-! ## Generated bodies -/

namespace Generator

variable (config : Config)

theorem plain_deviceSubject (kind : Kind) (array : Bool) : Plain (kind.deviceSubject array) := by
  cases kind <;> cases array <;> decide

theorem legible_variableBody (layout : Layout) (kind : Kind) (access : Access) :
    (variableBody config layout kind access).Legible where
  margin_pos := by simp [variableBody, variableMargin]
  leave_begins := by
    simp only [variableBody]
    split <;> decide
  leave := by
    simp only [variableBody]
    split <;> decide
  subject := plain_deviceSubject kind access.isArray
  operation := by
    intro operation hoperation
    simp only [variableBody] at hoperation
    cases hoperation
    split <;> decide
  index := by
    intro block hb index limit hcheck
    simp only [variableBody, List.mem_map] at hb
    obtain ⟨entry, -, rfl⟩ := hb
    simp only [variableBlock, variableChecks] at hcheck
    split at hcheck
    · simp only [List.mem_cons, List.not_mem_nil, or_false, reduceCtorEq, false_or,
        Check.bound.injEq] at hcheck
      rw [hcheck.1]
      decide
    · simp at hcheck

theorem legible_environmentBody (environment : NameMap Property) (access : PropertyAccess) :
    (environmentBody config environment access).Legible where
  margin_pos := by simp [environmentBody, environmentMargin]
  leave_begins := by
    simp only [environmentBody]
    decide
  leave := by
    simp only [environmentBody]
    decide
  subject := by
    simp only [environmentBody]
    split <;> decide
  operation := nofun
  index := by
    intro block hb index limit hcheck
    simp only [environmentBody, List.mem_map] at hb
    obtain ⟨entry, -, rfl⟩ := hb
    cases access <;> simp only [propertyBlock, propertyChecks, List.mem_cons, List.not_mem_nil,
      or_false, reduceCtorEq, false_or, Check.bound.injEq] at hcheck
    rw [hcheck.1]
    decide

end Generator

end DeviceSlots
