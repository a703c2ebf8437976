import DeviceSlots.Proofs.Accessor.Program
import DeviceSlots.Proofs.Accessor.Running

/-!
# What bodies do

A body answers a request with the statements of one block, or with those of its closing part. Every
block leaves the accessor, so that control never falls from one block into what comes after it.
-/

namespace DeviceSlots

open Reading

/-- The first check that fails. -/
def Request.failing? (request : Request) (checks : List Check) : Option Check :=
  checks.find? fun check => request.meets check.condition

theorem Request.failing?_cons (request : Request) (check : Check) (rest : List Check) :
    request.failing? (check :: rest) =
      if request.meets check.condition then some check else request.failing? rest := by
  rw [failing?, List.find?_cons]
  cases request.meets check.condition <;> rfl

theorem Request.meets_size (request : Request) (bytes : Nat) :
    request.meets (Check.condition (.size bytes)) = true ↔ request.size ≠ bytes :=
  decide_eq_true_iff

theorem Request.meets_length (request : Request) (elements : Nat) :
    request.meets (Check.condition (.length elements)) = true ↔ request.length ≠ elements :=
  decide_eq_true_iff

theorem Request.meets_bound (request : Request) (counter : Counter) (limit : Nat) :
    request.meets (Check.condition (.bound counter.name limit)) = true ↔
      request.counter counter ≥ limit := by
  rw [Check.condition_bound]
  exact decide_eq_true_iff

/-- The fault of the first check that fails. -/
theorem Request.map_fault_failing?_cons (request : Request) (check : Check) (rest : List Check) :
    (request.failing? (check :: rest)).map Check.fault =
      if request.meets check.condition then some check.fault
      else (request.failing? rest).map Check.fault := by
  rw [failing?_cons]
  split <;> rfl

/-- Once the statements have been run, or passed over, nothing more is run. -/
def Leaves (request : Request) (statements : List Statement) : Prop :=
  ∀ m : Machine, (statements.foldl (Machine.perform request) m).running = false

namespace Body

variable (body : Body) (checked : Bool) (request : Request)

/-- The statements that a block answers a request with. -/
def reaction (block : Block) : List Statement :=
  match request.failing? (madeChecks checked block.checks) with
  | some check => body.armProgram checked check
  | none => Reading.program block.action

/-- The statements that a body answers a request with. -/
def answer : List Statement :=
  match body.blocks.find? fun block => block.name = request.name with
  | some block => body.reaction checked request block
  | none => body.closingStatements checked

end Body

namespace Reading.Machine

variable {request : Request} {m : Machine}

theorem leaves_of_effect {statement : Statement}
    (h : ∀ m : Machine, (m.effect request statement).left = true) : Leaves request [statement] := by
  intro m
  rw [List.foldl_cons, List.foldl_nil, perform]
  split
  · rw [running, h m]
    rfl
  · rename_i hidle
    exact Bool.eq_false_iff.mpr hidle

theorem leaves_cons {statements : List Statement} (h : Leaves request statements)
    (statement : Statement) : Leaves request (statement :: statements) :=
  fun m => h (m.perform request statement)

theorem leaves_leaveStatement (request : Request) (body : Body) :
    Leaves request [body.leaveStatement] := by
  apply leaves_of_effect
  intro m
  unfold Body.leaveStatement
  split <;> rfl

theorem leaves_arm (request : Request) (body : Body) (checked : Bool) (check : Check) :
    Leaves request (body.armProgram checked check) := by
  have hleave := leaves_leaveStatement request body
  cases checked with
  | true => exact leaves_cons hleave _
  | false => exact hleave

theorem leaves_program (action : Action) : Leaves request (Reading.program action) := by
  cases action with
  | store slot element => exact leaves_cons (leaves_of_effect fun _ => rfl) _
  | load slot element => exact leaves_of_effect fun _ => rfl
  | loadCached slot element => exact leaves_of_effect fun _ => rfl
  | fetch offset => exact leaves_of_effect fun _ => rfl
  | fetchIndexed offset => exact leaves_of_effect fun _ => rfl
  | affirm => exact leaves_of_effect fun _ => rfl

theorem leaves_reaction (request : Request) (body : Body) (checked : Bool) (block : Block) :
    Leaves request (body.reaction checked request block) := by
  unfold Body.reaction
  split
  · exact leaves_arm request body checked _
  · exact leaves_program block.action

/-- The rest of a chain, after some checks of it. -/
theorem exec_chain_rest (arm : Check → List Statement) (active taken : Bool) (checks : List Check) :
    exec request (m.push ⟨active, taken⟩) (Body.chainProgram arm false checks) =
      some (match if taken then none else request.failing? checks with
        | some check => (arm check).foldl (perform request) m
        | none => m) := by
  induction checks generalizing m active taken with
  | nil =>
    rw [Body.chainProgram, if_neg (by decide), exec_closes]
    cases taken <;> rfl
  | cons check rest ih =>
    rw [Body.chainProgram, if_neg (by decide), List.cons_append, exec_turns, exec_append, exec_arm,
      Option.bind_some, ih, Request.failing?_cons]
    cases taken with
    | true => rfl
    | false => cases request.meets check.condition <;> rfl

/-- A chain of checks runs the arm of the first one that fails, and no other. -/
theorem exec_chain (arm : Check → List Statement) (checks : List Check) :
    exec request m (Body.chainProgram arm true checks) =
      some (match request.failing? checks with
        | some check => (arm check).foldl (perform request) m
        | none => m) := by
  cases checks with
  | nil => rfl
  | cons check rest =>
    rw [Body.chainProgram, if_pos rfl, List.cons_append, exec_opens, exec_append, exec_arm,
      Option.bind_some, exec_chain_rest, Request.failing?_cons]
    cases request.meets check.condition <;> rfl

theorem exec_block (body : Body) (checked : Bool) (block : Block) :
    exec request m (body.blockProgram checked block) =
      some (if block.name = request.name then
        (body.reaction checked request block).foldl (perform request) m else m) := by
  have hbranch : request.meets (.named block.name) = decide (block.name = request.name) :=
    decide_eq_decide.mpr eq_comm
  rw [Body.blockProgram, List.singleton_append, exec_opens, exec_append, exec_append, exec_chain,
    Option.bind_some, hbranch]
  by_cases hname : block.name = request.name
  · rw [if_pos hname, decide_eq_true hname, Body.reaction]
    cases request.failing? (Body.madeChecks checked block.checks) with
    | some check =>
      have hleft := leaves_arm request body checked check m
      simp only [foldl_perform_push, exec_arm, Option.bind_some, exec_closes, if_true]
      rw [foldl_perform_idle hleft]
    | none => simp only [exec_arm, Option.bind_some, exec_closes, if_true]
  · have hidle : (m.push ⟨false, false⟩).running = false := by rw [running_push]; rfl
    rw [if_neg hname, decide_eq_false hname]
    cases request.failing? (Body.madeChecks checked block.checks) with
    | some check => simp only [foldl_perform_idle hidle, exec_arm, Option.bind_some, exec_closes]; rfl
    | none => simp only [exec_arm, Option.bind_some, exec_closes]; rfl

theorem exec_blocks (body : Body) (checked : Bool) (blocks : List Block) :
    exec request m (blocks.flatMap (body.blockProgram checked)) =
      some (match blocks.find? fun block => block.name = request.name with
        | some block => (body.reaction checked request block).foldl (perform request) m
        | none => m) := by
  induction blocks generalizing m with
  | nil => rfl
  | cons block rest ih =>
    rw [List.flatMap_cons, exec_append, exec_block, Option.bind_some, ih]
    by_cases hname : block.name = request.name
    · rw [if_pos hname, List.find?_cons_of_pos (by simp [hname])]
      have hleft := leaves_reaction request body checked block m
      split
      · rw [foldl_perform_idle hleft]
      · rfl
    · rw [if_neg hname, List.find?_cons_of_neg (by simp [hname])]

/-- A body is run to its end, and does what it answers. -/
theorem exec_program (body : Body) (checked : Bool) :
    exec request m (body.program checked) =
      some ((body.answer checked request).foldl (perform request) m) := by
  rw [Body.program, exec_append, exec_blocks, Option.bind_some, exec_statements, Body.answer]
  split
  · rename_i block _
    rw [foldl_perform_idle (leaves_reaction request body checked block m)]
  · rfl

end Reading.Machine

end DeviceSlots
