import DeviceSlots.Proofs.Accessor.Bodies
import DeviceSlots.Proofs.Accessor.Meaning
import DeviceSlots.Proofs.Config
import DeviceSlots.Proofs.Registry.Slots

/-!
# What accesses do

The outcome of an access as the registry tells it, and the proof that the generated text has this
outcome for every request.
-/

namespace DeviceSlots

open Reading Text

/-! ## Outcomes -/

namespace Access

variable (access : Access) (config : Config) (checked : Bool) (v : Variable) (request : Request)

/-- An access that goes no further: the fault is reported if checks are wanted, a getter gives a zero
value, and a setter stores nothing. -/
def refuse (fault : Fault) : Outcome where
  faults := if checked then [fault] else []
  given := if access.isGet then some .zero else none

/-- The first fault that an access to a variable has. Without checks, only elements outside an array
are a fault. The size of an aggregate is a word, as all sizes are. -/
def fault? : Option Fault :=
  if access.isArray then
    if checked ∧ request.size ≠ v.typeSize then some .typeMismatch
    else if checked ∧ request.length ≠ v.elements then some .lengthMismatch
    else if request.arrayIndex ≥ v.elements then some (.outOfBounds "array_index")
    else none
  else
    if checked ∧ request.size ≠
        (if config.vectorTypes then v.typeSize * v.elements % addressLimit else v.typeSize)
    then some .typeMismatch
    else none

/-- An access to an element behind the address in a slot. -/
def reach (slot : Nat) : Outcome :=
  let element :=
    if access.isArray then request.index * v.elements + request.arrayIndex else request.index
  if access.isGet then
    { given := some (.loaded slot element (access.isCached && !config.vectorTypes)) }
  else { stores := [(slot, element)] }

/-- What an access to a variable comes to. -/
def outcome (slot : Nat) : Outcome :=
  match access.fault? config checked v request with
  | some fault => access.refuse checked fault
  | none => access.reach config v request slot

end Access

/-- What the text of a body does, if it is a program. -/
def runText? (config : Config) (text : String) (request : Request) : Option Outcome :=
  (program? config text).bind (run? request)

/-! ## Bodies of accesses -/

namespace Body

variable {config : Config} {body : Body} {checked : Bool}

/-- The text of a body does what the body answers. -/
theorem runText?_code (h : body.Readable) (hvalid : config.validate = .ok ())
    (hpolicy : config.seatbelts = .only checked) (request : Request) :
    runText? config (body.code config) request =
      some ((body.answer checked request).foldl (Machine.perform request) {}).outcome := by
  rw [runText?, program?_code h hvalid hpolicy, Option.bind_some, run?, Machine.exec_program]
  exact if_pos (Machine.branches_foldl_perform _)

end Body

namespace Generator

variable (config : Config) (layout : Layout) (kind : Kind) (access : Access)

theorem spelled_deviceSubject (kind : Kind) (array : Bool) :
    Spelled (kind.deviceSubject array) ∧ Lacks '%' (kind.deviceSubject array) := by
  cases kind <;> cases array <;> decide

theorem readable_variableBody : (variableBody config layout kind access).Readable where
  toLegible := legible_variableBody config layout kind access
  leave_known := by
    cases hget : access.isGet with
    | true => exact .inr (by simp [variableBody, hget])
    | false => exact .inl (by simp [variableBody, hget])
  subject_spelled := spelled_deviceSubject kind access.isArray
  operation_spelled := by
    intro name hname
    simp only [variableBody] at hname
    cases hname
    split <;> decide
  index_known := by
    intro block hb index limit hcheck
    simp only [variableBody, List.mem_map] at hb
    obtain ⟨entry, -, rfl⟩ := hb
    simp only [variableBlock, variableChecks] at hcheck
    split at hcheck
    · simp only [List.mem_cons, List.not_mem_nil, or_false, reduceCtorEq, false_or,
        Check.bound.injEq] at hcheck
      exact ⟨.arrayIndex, hcheck.1⟩
    · simp at hcheck

variable {config layout kind access}

theorem leaveStatement_variableBody :
    (variableBody config layout kind access).leaveStatement =
      if access.isGet then .leaveWithZero else .leave := by
  have hdifferent : leaveWithZero ≠ leaveEmpty := by decide
  by_cases hget : access.isGet = true
  · have hleave : (variableBody config layout kind access).leave = leaveWithZero := if_pos hget
    rw [if_pos hget, Body.leaveStatement, if_neg (by rw [hleave]; exact hdifferent)]
  · have hleave : (variableBody config layout kind access).leave = leaveEmpty := if_neg hget
    rw [if_neg hget, Body.leaveStatement, if_pos hleave]

/-- The arm of a check that fails refuses the access. -/
theorem outcome_arm (checked : Bool) (request : Request) (check : Check) :
    (((variableBody config layout kind access).armProgram checked check).foldl
      (Machine.perform request) {}).outcome = access.refuse checked check.fault := by
  unfold Body.armProgram Access.refuse
  rw [leaveStatement_variableBody]
  cases checked <;> cases access.isGet <;> rfl

/-- The closing part refuses the access. -/
theorem outcome_closing (checked : Bool) (request : Request) :
    (((variableBody config layout kind access).closingStatements checked).foldl
      (Machine.perform request) {}).outcome = access.refuse checked .notFound := by
  unfold Body.closingStatements Access.refuse
  rw [leaveStatement_variableBody]
  simp only [variableBody]
  cases checked <;> cases access.isGet <;> rfl

/-- The action of a block reaches the element of the variable. -/
theorem outcome_action (request : Request) (v : Variable) (slot : Nat) :
    ((Reading.program (variableAction config access v slot)).foldl
      (Machine.perform request) {}).outcome = access.reach config v request slot := by
  unfold variableAction Access.reach
  cases access <;> cases config.vectorTypes <;> rfl

/-- The checks that are made find the first fault. -/
theorem fault_failing? (config : Config) (access : Access) (checked : Bool) (request : Request)
    (v : Variable) :
    (request.failing? (Body.madeChecks checked (variableChecks config access v))).map Check.fault =
      access.fault? config checked v request := by
  have hbound := request.meets_bound .arrayIndex
  simp only [Counter.name] at hbound
  have hnone : (request.failing? []).map Check.fault = none := rfl
  unfold Body.madeChecks Access.fault? variableChecks
  cases access.isArray with
  | true =>
    cases checked with
    | true =>
      simp only [if_true, true_and, Request.map_fault_failing?_cons, Request.meets_size,
        Request.meets_length, hbound, hnone]
      rfl
    | false =>
      have hkept : ([.size v.typeSize, .length v.elements, .bound "array_index" v.elements]
          : List Check).filter Check.isEssential = [.bound "array_index" v.elements] := rfl
      simp only [if_true, Bool.false_eq_true, if_false, false_and, hkept,
        Request.map_fault_failing?_cons, hbound, hnone]
      rfl
  | false =>
    cases checked with
    | true =>
      simp only [if_true, Bool.false_eq_true, if_false, true_and, Request.map_fault_failing?_cons,
        Request.meets_size, hnone, scalarSize, wrap]
      rfl
    | false => rfl

/-- The block of a variable does what the access comes to. -/
theorem outcome_reaction (checked : Bool) (request : Request) (v : Variable) (slot : Nat) :
    (((variableBody config layout kind access).reaction checked request
        { name := request.name, checks := variableChecks config access v,
          action := variableAction config access v slot }).foldl
      (Machine.perform request) {}).outcome = access.outcome config checked v request slot := by
  have hfault := fault_failing? config access checked request v
  unfold Body.reaction Access.outcome
  rw [← hfault]
  cases request.failing? (Body.madeChecks checked (variableChecks config access v)) with
  | some check => exact outcome_arm checked request check
  | none => exact outcome_action request v slot

/-- An array of three elements. -/
def quoted : Variable where
  typeName := "float"
  typeSize := 4
  elements := 3
  read := true
  write := true

/-- An aggregate whose size as a word is four. -/
def wrapping : Variable :=
  { quoted with typeSize := addressLimit / 2 + 2, elements := 2 }

end Generator

end DeviceSlots
