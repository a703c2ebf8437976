import DeviceSlots.Proofs.Accessor.Accesses

/-!
# What accesses to the environment do

The outcome of an access to an environment property as the registry tells it, and the proof that the
generated text has this outcome for every request. Properties were accepted only where they end within
the environment region, so that a checked access reads nothing beyond it.
-/

namespace DeviceSlots

open Reading

/-! ## Outcomes -/

namespace PropertyAccess

variable (access : PropertyAccess) (config : Config) (checked : Bool)

/-- An access that goes no further: the fault is reported if checks are wanted, and a zero value is
given. -/
def refuse (fault : Fault) : Outcome where
  faults := if checked then [fault] else []
  given := some .zero

/-- What an access comes to, with the property that the requested name has. Without checks, only
values outside an array are refused. -/
def outcome (found : Option Property) (request : Request) : Outcome :=
  match access, found with
  | .contains, _ => { given := some (.truth found.isSome) }
  | .get, some p =>
    if config.vectorTypes ∨ p.elements = 1 then
      if checked ∧ request.size ≠ (if config.vectorTypes then p.typeSize * p.elements else p.typeSize)
      then refuse checked .typeMismatch
      else { given := some (.fetched p.offset 0) }
    else refuse checked .notFound
  | .getArray, some p =>
    if p.elements > 1 then
      if checked ∧ request.size ≠ p.typeSize then refuse checked .typeMismatch
      else if request.index ≥ p.elements then refuse checked (.outOfBounds "index")
      else { given := some (.fetched p.offset request.index) }
    else refuse checked .notFound
  | _, none => refuse checked .notFound

end PropertyAccess

/-- The bytes of the device buffer that are read for what is given, as a value of so many bytes. Of a
value behind the address in a slot, only the address is in the buffer. -/
def Outcome.bytesRead (outcome : Outcome) (size : Nat) : List Nat :=
  match outcome.given with
  | some (.fetched offset index) => List.range' (offset + index * size) size
  | some (.loaded slot _ _) => List.range' slot slotSize
  | _ => []

namespace Generator

variable {config : Config} {environment : NameMap Property} {access : PropertyAccess}

/-! ## The text of an access -/

theorem readable_environmentBody (config : Config) (environment : NameMap Property)
    (access : PropertyAccess) : (environmentBody config environment access).Readable where
  toLegible := legible_environmentBody config environment access
  leave_known := .inr rfl
  subject_spelled := by
    simp only [environmentBody]
    split <;> decide
  operation_spelled := nofun
  index_known := by
    intro block hb index limit hcheck
    obtain ⟨entry, -, rfl⟩ := List.mem_map.mp hb
    cases access <;> simp only [propertyBlock, propertyChecks, List.mem_cons, List.not_mem_nil,
      or_false, reduceCtorEq, false_or, Check.bound.injEq] at hcheck
    exact ⟨.index, hcheck.1⟩

theorem leaveStatement_environmentBody :
    (environmentBody config environment access).leaveStatement = .leaveWithZero := by
  have hdifferent : leaveWithZero ≠ leaveEmpty := by decide
  exact if_neg hdifferent

/-- The arm of a check that fails refuses the access. -/
theorem outcome_propertyArm (checked : Bool) (request : Request) (check : Check) :
    (((environmentBody config environment access).armProgram checked check).foldl
      (Machine.perform request) {}).outcome = PropertyAccess.refuse checked check.fault := by
  rw [Body.armProgram, leaveStatement_environmentBody]
  cases checked <;> rfl

/-- The closing part is what a name without a block comes to. -/
theorem outcome_propertyClosing (config : Config) (environment : NameMap Property)
    (access : PropertyAccess) (checked : Bool) (request : Request) :
    (((environmentBody config environment access).closingStatements checked).foldl
      (Machine.perform request) {}).outcome = access.outcome config checked none request := by
  rw [Body.closingStatements, leaveStatement_environmentBody]
  cases access <;> cases checked <;> rfl

/-- A block refuses the access with the first fault that it finds, or else acts. -/
theorem outcome_propertyBlock (checked : Bool) (request : Request) (block : Block) :
    (((environmentBody config environment access).reaction checked request block).foldl
      (Machine.perform request) {}).outcome =
      match (request.failing? (Body.madeChecks checked block.checks)).map Check.fault with
      | some fault => PropertyAccess.refuse checked fault
      | none => ((Reading.program block.action).foldl (Machine.perform request) {}).outcome := by
  rw [Body.reaction]
  cases request.failing? (Body.madeChecks checked block.checks) with
  | some check => exact outcome_propertyArm checked request check
  | none => rfl

/-- The block of a property that the access fits does what the access comes to. The size of the whole
property is no greater than a word. -/
theorem outcome_propertyReaction (checked : Bool) (request : Request) {p : Property}
    (hword : p.typeSize * p.elements < addressLimit)
    (hadmits : access.admits p config.vectorTypes = true) :
    (((environmentBody config environment access).reaction checked request
        (propertyBlock config access (request.name, p))).foldl
      (Machine.perform request) {}).outcome = access.outcome config checked (some p) request := by
  have hnone : (request.failing? []).map Check.fault = none := rfl
  have hbound := request.meets_bound .index
  simp only [Counter.name] at hbound
  rw [outcome_propertyBlock]
  simp only [propertyBlock, propertyChecks, propertyAction, Body.madeChecks]
  cases access with
  | contains => cases checked <;> rfl
  | get =>
    have hfits : config.vectorTypes = true ∨ p.elements = 1 := by
      simpa [PropertyAccess.admits] using hadmits
    simp only [PropertyAccess.outcome, if_pos hfits]
    cases checked with
    | false => rfl
    | true =>
      simp only [if_true, true_and, Request.map_fault_failing?_cons, Request.meets_size, hnone,
        scalarSize, wrap_of_lt hword]
      by_cases hsize : request.size ≠
          if config.vectorTypes then p.typeSize * p.elements else p.typeSize
      · rw [if_pos hsize]
        exact (if_pos hsize).symm
      · rw [if_neg hsize]
        exact (if_neg hsize).symm
  | getArray =>
    have hfits : p.elements > 1 := by simpa [PropertyAccess.admits] using hadmits
    simp only [PropertyAccess.outcome, if_pos hfits]
    cases checked with
    | false =>
      have hkept : ([.size p.typeSize, .bound "index" p.elements] : List Check).filter
          Check.isEssential = [.bound "index" p.elements] := rfl
      simp only [Bool.false_eq_true, if_false, false_and, hkept, Request.map_fault_failing?_cons,
        hbound, hnone, Request.counter]
      by_cases hindex : request.index ≥ p.elements
      · rw [if_pos hindex, if_pos hindex]
        rfl
      · rw [if_neg hindex, if_neg hindex]
        rfl
    | true =>
      simp only [if_true, true_and, Request.map_fault_failing?_cons, Request.meets_size, hbound,
        hnone, Request.counter]
      by_cases hsize : request.size ≠ p.typeSize
      · rw [if_pos hsize, if_pos hsize]
        rfl
      · rw [if_neg hsize, if_neg hsize]
        by_cases hindex : request.index ≥ p.elements
        · rw [if_pos hindex, if_pos hindex]
          rfl
        · rw [if_neg hindex, if_neg hindex]
          rfl

/-- A property that the access does not fit is as good as none. -/
theorem outcome_of_not_admits {p : Property} {checked : Bool} {request : Request}
    (h : ¬ access.admits p config.vectorTypes = true) :
    access.outcome config checked (some p) request = access.outcome config checked none request := by
  cases access with
  | get =>
    have hneither : ¬ (config.vectorTypes = true ∨ p.elements = 1) := by
      simpa [PropertyAccess.admits] using h
    exact if_neg hneither
  | getArray =>
    have hfew : ¬ p.elements > 1 := by simpa [PropertyAccess.admits] using h
    exact if_neg hfew
  | contains => exact absurd rfl h

/-- The statements that the body answers with come to the outcome of the access. -/
theorem outcome_environmentAnswer (config : Config) (environment : NameMap Property)
    (access : PropertyAccess) (checked : Bool) (request : Request)
    (hwords : ∀ p, environment.find? request.name = some p →
      p.typeSize * p.elements < addressLimit) :
    (((environmentBody config environment access).answer checked request).foldl
      (Machine.perform request) {}).outcome =
      access.outcome config checked (environment.find? request.name) request := by
  have hclosing := outcome_propertyClosing config environment access checked request
  rw [Body.answer, find?_environmentBody]
  cases hfind : environment.find? request.name with
  | none => exact hclosing
  | some p =>
    by_cases hadmits : access.admits p config.vectorTypes = true
    · rw [Option.filter_some, if_pos hadmits]
      exact outcome_propertyReaction checked request (hwords p hfind) hadmits
    · rw [Option.filter_some, if_neg hadmits, outcome_of_not_admits hadmits]
      exact hclosing

/-! ## What is read -/

section

variable {p : Property} {request : Request} {byte : Nat}

theorem bytesRead_get
    (h : byte ∈ (PropertyAccess.get.outcome config true (some p) request).bytesRead request.size) :
    p.offset ≤ byte ∧ byte < p.offset + p.typeSize * p.elements := by
  by_cases hfits : config.vectorTypes = true ∨ p.elements = 1
  · simp only [PropertyAccess.outcome, if_pos hfits, true_and] at h
    by_cases hsize : request.size =
        if config.vectorTypes then p.typeSize * p.elements else p.typeSize
    · rw [if_neg (not_not_intro hsize)] at h
      have hwhole : request.size = p.typeSize * p.elements := by
        rcases hfits with hvector | hone
        · rw [hsize, if_pos hvector]
        · rw [hsize, hone, Nat.mul_one, ite_self]
      obtain ⟨hlow, hhigh⟩ := List.mem_range'_1.mp h
      omega
    · rw [if_pos hsize] at h
      contradiction
  · simp only [PropertyAccess.outcome, if_neg hfits] at h
    contradiction

theorem bytesRead_getArray
    (h : byte ∈
      (PropertyAccess.getArray.outcome config true (some p) request).bytesRead request.size) :
    p.offset ≤ byte ∧ byte < p.offset + p.typeSize * p.elements := by
  by_cases hfits : p.elements > 1
  · simp only [PropertyAccess.outcome, if_pos hfits, true_and] at h
    by_cases hsize : request.size = p.typeSize
    · rw [if_neg (not_not_intro hsize)] at h
      by_cases hindex : request.index < p.elements
      · rw [if_neg (Nat.not_le_of_lt hindex)] at h
        have hvalue : (request.index + 1) * request.size ≤ p.typeSize * p.elements := by
          rw [hsize, Nat.mul_comm]
          exact Nat.mul_le_mul_left _ hindex
        rw [Nat.succ_mul] at hvalue
        obtain ⟨hlow, hhigh⟩ := List.mem_range'_1.mp h
        omega
      · rw [if_pos (Nat.le_of_not_lt hindex)] at h
        contradiction
    · rw [if_pos hsize] at h
      contradiction
  · simp only [PropertyAccess.outcome, if_neg hfits] at h
    contradiction

/-- A checked access reads nothing but values of the property. -/
theorem bytesRead_within {found : Option Property}
    (h : byte ∈ (access.outcome config true found request).bytesRead request.size) :
    ∃ p, found = some p ∧ p.offset ≤ byte ∧ byte < p.offset + p.typeSize * p.elements := by
  cases found with
  | none => cases access <;> contradiction
  | some p =>
    refine ⟨p, rfl, ?_⟩
    cases access with
    | get => exact bytesRead_get h
    | getArray => exact bytesRead_getArray h
    | contains => contradiction

end

/-- The text of an access to the environment does for every request what the registry says, and where
it makes its checks it reads nothing beyond the environment region. -/
theorem runText?_environmentBody {r : Registries} {layout : Layout} {checked : Bool}
    (hvalid : config.validate = .ok ()) (hpolicy : config.seatbelts = .only checked)
    (hlayout : Layout.compute config.environmentCapacity r = .ok layout) (access : PropertyAccess)
    (request : Request) :
    let outcome := access.outcome config checked (r.findProperty? request.name) request
    runText? config ((environmentBody config r.environment access).code config) request =
        some outcome ∧
      (checked = true →
        ∀ byte ∈ outcome.bytesRead request.size, byte < config.environmentCapacity) := by
  intro outcome
  constructor
  · have hwords : ∀ p, r.environment.find? request.name = some p →
        p.typeSize * p.elements < addressLimit := fun p hp =>
      Nat.lt_of_le_of_lt (Nat.le_add_left _ _) (Layout.property_within hlayout hp).2
    rw [Body.runText?_code (readable_environmentBody config r.environment access) hvalid hpolicy]
    exact congrArg some
      (outcome_environmentAnswer config r.environment access checked request hwords)
  · rintro rfl byte hbyte
    obtain ⟨p, hp, -, hlt⟩ := bytesRead_within hbyte
    exact Nat.lt_of_lt_of_le hlt (Layout.property_within hlayout hp).1

/-- The last of three values that end with the environment region, under a name that looks like the
end of its own comparison. -/
theorem runText?_environmentBody_lastValue :
    let config : Config := { seatbelts := .only true, environmentCapacity := 24 }
    let name := "x\")) \x7b"
    let p : Property := { typeName := "float", typeSize := 4, elements := 3, offset := 12 }
    let r := { Registries.empty with environment := NameMap.empty.insert name p }
    let request : Request := { name, size := 4, length := 0, index := 2, arrayIndex := 0 }
    ∃ layout, Layout.compute config.environmentCapacity r = .ok layout ∧
      runText? config ((environmentBody config r.environment .getArray).code config) request =
        some { given := some (.fetched 12 2) } ∧
      ∀ byte ∈ [20, 21, 22, 23], byte < config.environmentCapacity := by
  intro config name p r request
  have hvalid : Config.validate { seatbelts := .only true, environmentCapacity := 24 } = .ok () := rfl
  have hpolicy : config.seatbelts = .only true := rfl
  have hlayout : Layout.compute 24 r = .ok ⟨_, _⟩ := rfl
  obtain ⟨hrun, hread⟩ := runText?_environmentBody hvalid hpolicy hlayout .getArray request
  exact ⟨_, hlayout, hrun, hread rfl⟩

end Generator

end DeviceSlots
