import DeviceSlots.Proofs.Accessor.Reading
import DeviceSlots.Proofs.Accessor.Shape

/-!
# Bodies as programs

The lines of a body, with or without its checks, as syntax. Reading the body's text gives exactly
this program.
-/

namespace DeviceSlots

open Text Reading

/-- The condition of a branch that a check fails in. -/
def Check.condition : Check → Condition
  | size bytes => .size bytes
  | length elements => .length elements
  | bound index limit => .bound (if index = Counter.arrayIndex.name then .arrayIndex else .index) limit

@[simp] theorem Check.condition_bound (counter : Counter) (limit : Nat) :
    condition (.bound counter.name limit) = .bound counter limit := by
  cases counter <;> rfl

namespace Body

variable (body : Body) (checked : Bool)

/-- The statement that leaves the body when a check fails. -/
def leaveStatement : Statement := if body.leave = leaveEmpty then .leave else .leaveWithZero

/-- The program of a chain of checks, from a check that is first or comes after others. -/
def chainProgram (arm : Check → List Statement) : (first : Bool) → List Check → List Line
  | first, [] => if first then [] else [.closes]
  | first, check :: rest =>
    (if first then .opens check.condition else .turns check.condition) ::
      (arm check).map .statement ++ chainProgram arm false rest

/-- The checks of a block that are made. -/
def madeChecks (checks : List Check) : List Check :=
  if checked then checks else checks.filter Check.isEssential

/-- What is done when a check fails. -/
def armProgram (check : Check) : List Statement :=
  if checked then [.report check.fault, body.leaveStatement] else [body.leaveStatement]

/-- The program of one block. -/
def blockProgram (block : Block) : List Line :=
  [.opens (.named block.name)] ++
    (chainProgram (body.armProgram checked) true (madeChecks checked block.checks) ++
      (Reading.program block.action).map .statement ++ [.closes])

/-- The statements of the closing part. -/
def closingStatements : List Statement :=
  match body.closing with
  | .notFound hasResult =>
    (if checked then [.report .notFound] else []) ++ (if hasResult then [body.leaveStatement] else [])
  | .deny => [.deny]

/-- The program of the whole body. -/
def program : List Line :=
  body.blocks.flatMap (body.blockProgram checked) ++ (body.closingStatements checked).map .statement

end Body

/-! ## Reading bodies -/

/-- The lines are read as a program, line by line. -/
def Reads (config : Config) (ls : List String) (lines : List Line) : Prop :=
  ls.map (line? config.symbolName config.faultMacro) = lines.map some

/-- The program that a text is. -/
def program? (config : Config) (text : String) : Option (List Line) :=
  (Text.lines text).mapM (line? config.symbolName config.faultMacro)

section

variable {config : Config}

theorem Reads.nil : Reads config [] [] := rfl

theorem Reads.append {first second : List String} {lines lines' : List Line}
    (h : Reads config first lines) (h' : Reads config second lines') :
    Reads config (first ++ second) (lines ++ lines') := by
  rw [Reads, List.map_append, List.map_append, h, h']

theorem Reads.cons {text : String} {line : Line} {rest : List String} {lines : List Line}
    (h : line? config.symbolName config.faultMacro text = some line) (h' : Reads config rest lines) :
    Reads config (text :: rest) (line :: lines) := by
  rw [Reads, List.map_cons, List.map_cons, h, h']

theorem Reads.flatMap {α : Type} {f : α → List String} {g : α → List Line} {list : List α}
    (h : ∀ a ∈ list, Reads config (f a) (g a)) : Reads config (list.flatMap f) (list.flatMap g) := by
  induction list with
  | nil => rfl
  | cons a rest ih =>
    exact .append (h a List.mem_cons_self) (ih fun b hb => h b (List.mem_cons_of_mem _ hb))

theorem Reads.statements (hidentifier : isIdentifier config.faultMacro = true) (margin : Nat)
    {texts : List String} {statements : List Statement}
    (h : texts.map (fun text => statement? config.symbolName text.toList) = statements.map some) :
    Reads config (texts.map (indented margin)) (statements.map .statement) := by
  induction texts generalizing statements with
  | nil =>
    cases statements with
    | nil => exact .nil
    | cons => contradiction
  | cons text rest ih =>
    cases statements with
    | nil => contradiction
    | cons statement others =>
      obtain ⟨hhead, htail⟩ := List.cons.inj h
      exact .cons (line?_statement config.symbolName hidentifier margin hhead) (ih htail)

theorem Reads.mapM {ls : List String} {lines : List Line} (h : Reads config ls lines) :
    ls.mapM (line? config.symbolName config.faultMacro) = some lines := by
  induction ls generalizing lines with
  | nil =>
    cases lines with
    | nil => rfl
    | cons line rest => contradiction
  | cons text rest ih =>
    cases lines with
    | nil => contradiction
    | cons line others =>
      obtain ⟨hline, hrest⟩ := List.cons.inj h
      rw [List.mapM_cons, hline, ih hrest]
      rfl

end

namespace Body

/-- The parts of a body can be read back. -/
structure Readable (body : Body) : Prop extends Legible body where
  leave_known : body.leave = leaveEmpty ∨ body.leave = leaveWithZero
  subject_spelled : Spelled body.subject ∧ Lacks '%' body.subject
  operation_spelled : ∀ name ∈ body.operation, Spelled name
  index_known : ∀ block ∈ body.blocks, ∀ index limit, .bound index limit ∈ block.checks →
    ∃ counter, index = Counter.name counter

variable {config : Config} {body : Body} {block : Block}

theorem condition_text (h : body.Readable) (hb : block ∈ body.blocks) {check : Check}
    (hcheck : check ∈ block.checks) : check.condition.text = check.failure := by
  cases check with
  | size bytes => rfl
  | length elements => rfl
  | bound index limit =>
    obtain ⟨counter, rfl⟩ := h.index_known block hb index limit hcheck
    rw [Check.condition_bound]
    unfold Condition.text Check.failure
    simp only [toString_self, String.append_assoc]
    rfl

theorem line?_report (h : body.Readable) (hidentifier : isIdentifier config.faultMacro = true)
    {fault : Fault}
    (hcounter : ∀ index, fault = .outOfBounds index → ∃ counter, index = Counter.name counter)
    (margin : Nat) :
    line? config.symbolName config.faultMacro (indented margin (body.report config fault)) =
      some (.statement (.report fault)) := by
  rw [line?_indented config.symbolName margin (report_begins config body hidentifier fault), report,
    report?_report h.subject_spelled h.operation_spelled hcounter]

theorem line?_leave (h : body.Readable) (hidentifier : isIdentifier config.faultMacro = true)
    (margin : Nat) :
    line? config.symbolName config.faultMacro (indented margin body.leave) =
      some (.statement body.leaveStatement) := by
  rcases h.leave_known with hleave | hleave <;> rw [leaveStatement, hleave]
  · exact line?_statement config.symbolName hidentifier margin statement?_leave
  · exact line?_statement config.symbolName hidentifier margin statement?_leaveWithZero

theorem reads_chainFrom (hidentifier : isIdentifier config.faultMacro = true) {margin : Nat}
    {arm : Check → List String} {program : Check → List Statement} {checks : List Check}
    (hcondition : ∀ check ∈ checks, check.condition.text = check.failure)
    (harm : ∀ check ∈ checks,
      Reads config ((arm check).map (indented (margin + 4))) ((program check).map .statement))
    (first : Bool) :
    Reads config (chainFrom margin arm first checks) (chainProgram program first checks) := by
  induction checks generalizing first with
  | nil =>
    cases first with
    | true => exact .nil
    | false => exact .cons (line?_closes config.symbolName hidentifier margin) .nil
  | cons check rest ih =>
    have hrest := ih (fun c hc => hcondition c (List.mem_cons_of_mem _ hc))
      (fun c hc => harm c (List.mem_cons_of_mem _ hc)) false
    have hhead := hcondition check List.mem_cons_self
    refine .cons ?_ (.append (harm check List.mem_cons_self) hrest)
    cases first with
    | true =>
      have hopens := line?_opens config.symbolName hidentifier margin check.condition
      rw [hhead] at hopens
      exact hopens
    | false =>
      have hturns := line?_turns config.symbolName hidentifier margin check.condition
      rw [hhead] at hturns
      exact hturns

theorem index_of_fault {check : Check} {index : String} (h : check.fault = .outOfBounds index) :
    ∃ limit, check = .bound index limit := by
  cases check <;> cases h
  exact ⟨_, rfl⟩

theorem reads_arm (h : body.Readable) (hidentifier : isIdentifier config.faultMacro = true)
    (hb : block ∈ body.blocks) {check : Check} (hcheck : check ∈ block.checks) (margin : Nat)
    (checked : Bool) :
    Reads config
      ((if checked then [body.report config check.fault, body.leave] else [body.leave]).map
        (indented margin))
      ((body.armProgram checked check).map .statement) := by
  have hleave := line?_leave h hidentifier margin
  cases checked with
  | false => exact .cons hleave .nil
  | true =>
    refine .cons (line?_report h hidentifier ?_ margin) (.cons hleave .nil)
    intro index hfault
    obtain ⟨limit, rfl⟩ := index_of_fault hfault
    exact h.index_known block hb index limit hcheck

theorem reads_checkLines (h : body.Readable) (hidentifier : isIdentifier config.faultMacro = true)
    (hb : block ∈ body.blocks) {checked : Bool} (hpolicy : config.seatbelts = .only checked) :
    Reads config (body.checkLines config block)
      (chainProgram (body.armProgram checked) true (madeChecks checked block.checks)) := by
  rw [checkLines, hpolicy]
  cases checked with
  | true =>
    exact reads_chainFrom hidentifier (fun _ hcheck => condition_text h hb hcheck)
      (fun _ hcheck => reads_arm h hidentifier hb hcheck _ true) true
  | false =>
    exact reads_chainFrom hidentifier
      (fun _ hcheck => condition_text h hb (List.mem_filter.mp hcheck).1)
      (fun _ hcheck => reads_arm h hidentifier hb (List.mem_filter.mp hcheck).1 _ false) true

theorem reads_statements (hidentifier : isIdentifier config.faultMacro = true) (action : Action)
    (margin : Nat) :
    Reads config ((action.statements config.symbolName).map (indented margin))
      ((Reading.program action).map .statement) :=
  .statements hidentifier margin (statement?_statements config.symbolName action)

theorem reads_blockLines (h : body.Readable) (hidentifier : isIdentifier config.faultMacro = true)
    (hb : block ∈ body.blocks) {checked : Bool} (hpolicy : config.seatbelts = .only checked) :
    Reads config (body.blockLines config block) (body.blockProgram checked block) := by
  rw [blockLines_eq]
  have hhead : line? config.symbolName config.faultMacro (head body.margin block.name) =
      some (.opens (.named block.name)) := by
    have hopens := line?_opens config.symbolName hidentifier body.margin (.named block.name)
    have htext : "if (" ++ (Condition.named block.name).text ++ ") \x7b" =
        "if (names_equal(name, " ++ Literal.quote block.name ++ ")) \x7b" := by
      apply String.toList_inj.mp
      unfold Condition.text
      simp only [String.toList_append, List.append_assoc]
      rfl
    rw [htext] at hopens
    exact hopens
  refine .append (.cons hhead .nil) (.append (.append ?_ ?_) ?_)
  · exact reads_checkLines h hidentifier hb hpolicy
  · exact reads_statements hidentifier block.action _
  · exact .cons (line?_closes config.symbolName hidentifier body.margin) .nil

theorem reads_closingLines (h : body.Readable) (hidentifier : isIdentifier config.faultMacro = true)
    {checked : Bool} (hpolicy : config.seatbelts = .only checked) :
    Reads config (body.closingLines config) ((body.closingStatements checked).map .statement) := by
  unfold closingLines closingStatements
  cases body.closing with
  | notFound hasResult =>
    have hreport : line? config.symbolName config.faultMacro
        (indented body.margin (body.report config .notFound)) =
        some (.statement (.report .notFound)) := line?_report h hidentifier (by simp) body.margin
    have hleave := line?_leave h hidentifier body.margin
    simp only [List.map_append]
    refine .append ?_ ?_
    · rw [hpolicy]
      cases checked with
      | true => exact .cons hreport .nil
      | false => exact .nil
    · cases hasResult with
      | true => exact .cons hleave .nil
      | false => exact .nil
  | deny => exact .cons (line?_statement config.symbolName hidentifier body.margin statement?_deny) .nil

/-- The text of a body is read as the body's program. -/
theorem program?_code (h : body.Readable) (hvalid : config.validate = .ok ()) {checked : Bool}
    (hpolicy : config.seatbelts = .only checked) :
    program? config (body.code config) = some (body.program checked) := by
  obtain ⟨-, -, hidentifier⟩ := config.validate_eq_ok_iff.mp hvalid
  rw [program?, code, lines_unlines fun _ hline => line_unbroken h.toLegible hvalid hline]
  exact Reads.mapM (.append (.flatMap fun _ hb => reads_blockLines h hidentifier hb hpolicy)
    (reads_closingLines h hidentifier hpolicy))

end Body

end DeviceSlots
