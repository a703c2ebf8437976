import DeviceSlots.Proofs.Accessor.Syntax

/-!
# Running generated code

What the lines of an accessor do when they are run in order. A branch that is not taken is passed over
line by line, and so is everything after a statement that leaves the accessor.
-/

namespace DeviceSlots

/-- What an accessor is called with: a name, the size of the type in bytes, the number of elements of
an array, and the counters. -/
structure Request where
  name : String
  size : Nat
  length : Nat
  index : Nat
  arrayIndex : Nat
  deriving DecidableEq, Repr

/-- What an accessor gives. Elements are counted from the address in a slot. -/
inductive Given
  | zero
  | loaded (slot element : Nat) (cached : Bool)
  | fetched (offset index : Nat)
  | truth (known : Bool)
  deriving DecidableEq, Repr

/-- What a run of an accessor amounts to: the faults that it reports, the slots and elements that it
stores to, and what it gives, if it does. -/
structure Outcome where
  faults : List Fault := []
  stores : List (Nat × Nat) := []
  given : Option Given := none
  deriving DecidableEq, Repr

namespace Request

variable (request : Request)

/-- The value of a counter. -/
def counter : Counter → Nat
  | .index => request.index
  | .arrayIndex => request.arrayIndex

/-- Whether a condition holds. -/
def meets : Condition → Bool
  | .named name => request.name = name
  | .size bytes => request.size ≠ bytes
  | .length elements => request.length ≠ elements
  | .bound counter limit => request.counter counter ≥ limit

/-- The number of the element that is accessed. -/
def place : Element → Nat
  | .scalar => request.index
  | .array elements => request.index * elements + request.arrayIndex

end Request

namespace Reading

/-! ## Machines -/

/-- A branch that is open. -/
structure Branch where
  /-- Whether the lines of the arm are run. -/
  active : Bool
  /-- Whether some arm has been run. -/
  taken : Bool
  deriving DecidableEq, Repr

/-- A run that has come to some line. -/
structure Machine where
  branches : List Branch := []
  /-- Whether the accessor has been left. -/
  left : Bool := false
  outcome : Outcome := {}
  deriving DecidableEq, Repr

namespace Machine

/-- Whether the next statement is run. -/
def running (m : Machine) : Bool := !m.left && m.branches.all Branch.active

/-- Opens a branch. -/
def push (m : Machine) (branch : Branch) : Machine := { m with branches := branch :: m.branches }

/-- Leaves the accessor, with something given or not. -/
def leave (m : Machine) (given : Option Given) : Machine :=
  { m with left := true, outcome := { m.outcome with given } }

/-- What a statement does when it is run. -/
def effect (request : Request) (m : Machine) : Statement → Machine
  | .report fault => { m with outcome := { m.outcome with faults := m.outcome.faults ++ [fault] } }
  | .leave => m.leave none
  | .leaveWithZero => m.leave (some .zero)
  | .deny => m.leave (some (.truth false))
  | .act (.store slot element) =>
    { m with outcome :=
        { m.outcome with stores := m.outcome.stores ++ [(slot, request.place element)] } }
  | .act (.load slot element) => m.leave (some (.loaded slot (request.place element) false))
  | .act (.loadCached slot element) => m.leave (some (.loaded slot (request.place element) true))
  | .act (.fetch offset) => m.leave (some (.fetched offset 0))
  | .act (.fetchIndexed offset) => m.leave (some (.fetched offset request.index))
  | .act .affirm => m.leave (some (.truth true))

/-- What a statement does. -/
def perform (request : Request) (m : Machine) (statement : Statement) : Machine :=
  if m.running then m.effect request statement else m

/-- What a line does, if it is in place. -/
def step (request : Request) (m : Machine) : Line → Option Machine
  | .opens condition => some (m.push ⟨request.meets condition, request.meets condition⟩)
  | .turns condition =>
    match m.branches with
    | [] => none
    | branch :: rest =>
      some { m with branches :=
          ⟨!branch.taken && request.meets condition, branch.taken || request.meets condition⟩ :: rest }
  | .closes =>
    match m.branches with
    | [] => none
    | _ :: rest => some { m with branches := rest }
  | .statement statement => some (m.perform request statement)

/-- What lines do in order. -/
def exec (request : Request) (m : Machine) (lines : List Line) : Option Machine :=
  lines.foldlM (step request) m

end Machine

/-- What a program does, if every branch of it is closed where it has to be. -/
def run? (request : Request) (lines : List Line) : Option Outcome := do
  let m ← Machine.exec request {} lines
  if m.branches = [] then some m.outcome else none

namespace Machine

variable {request : Request} {m : Machine} {branch : Branch}

theorem exec_append (first second : List Line) :
    exec request m (first ++ second) =
      (exec request m first).bind fun m' => exec request m' second := by
  rw [exec, List.foldlM_append]
  rfl

theorem exec_cons (line : Line) (rest : List Line) :
    exec request m (line :: rest) = (m.step request line).bind fun m' => exec request m' rest := by
  rw [exec, List.foldlM_cons]
  rfl

theorem exec_opens (condition : Condition) (rest : List Line) :
    exec request m (.opens condition :: rest) =
      exec request (m.push ⟨request.meets condition, request.meets condition⟩) rest := by
  rw [exec_cons]
  rfl

theorem exec_turns (condition : Condition) (rest : List Line) :
    exec request (m.push branch) (.turns condition :: rest) =
      exec request (m.push
        ⟨!branch.taken && request.meets condition, branch.taken || request.meets condition⟩) rest := by
  rw [exec_cons]
  rfl

theorem exec_closes : exec request (m.push branch) [.closes] = some m := rfl

theorem running_push : (m.push branch).running = (branch.active && m.running) := by
  unfold running push
  rw [List.all_cons, Bool.and_left_comm]

theorem exec_statements (statements : List Statement) :
    exec request m (statements.map .statement) = some (statements.foldl (perform request) m) := by
  induction statements generalizing m with
  | nil => rfl
  | cons statement rest ih =>
    rw [List.map_cons, exec_cons, List.foldl_cons]
    exact ih

theorem branches_foldl_perform (statements : List Statement) :
    (statements.foldl (perform request) m).branches = m.branches := by
  induction statements generalizing m with
  | nil => rfl
  | cons statement rest ih =>
    rw [List.foldl_cons, ih, perform]
    split
    · cases statement with
      | act action => cases action <;> rfl
      | _ => rfl
    · rfl

/-- Nothing happens once the next statement is not run. -/
theorem foldl_perform_idle (h : m.running = false) (statements : List Statement) :
    statements.foldl (perform request) m = m := by
  induction statements with
  | nil => rfl
  | cons statement rest ih =>
    rw [List.foldl_cons, perform, if_neg (by simp [h])]
    exact ih

theorem effect_push (statement : Statement) :
    (m.push branch).effect request statement = (m.effect request statement).push branch := by
  cases statement with
  | act action => cases action <;> rfl
  | _ => rfl

theorem foldl_perform_push (h : branch.active = true) (statements : List Statement) :
    statements.foldl (perform request) (m.push branch) =
      (statements.foldl (perform request) m).push branch := by
  induction statements generalizing m with
  | nil => rfl
  | cons statement rest ih =>
    rw [List.foldl_cons, List.foldl_cons, ← ih]
    congr 1
    unfold perform
    rw [running_push, h, Bool.true_and, effect_push]
    split <;> rfl

/-- The statements of an arm are run if the arm is active. -/
theorem exec_arm (statements : List Statement) :
    exec request (m.push branch) (statements.map .statement) =
      some ((if branch.active then statements.foldl (perform request) m else m).push branch) := by
  rw [exec_statements]
  cases hactive : branch.active with
  | true => rw [foldl_perform_push hactive, if_pos rfl]
  | false => rw [foldl_perform_idle (by rw [running_push, hactive]; rfl), if_neg (by simp)]

end Machine

end Reading

end DeviceSlots
