import DeviceSlots.Kind

/-!
# Device faults

What a generated accessor reports when one of its checks fails: a call of the fault macro with a
message about the name that was asked for.
-/

namespace DeviceSlots

/-- A failed check. -/
inductive Fault
  /-- The size of the requested type is not that of the stored one. -/
  | typeMismatch
  /-- The requested number of elements is not the stored one. -/
  | lengthMismatch
  /-- An index, held in the device variable of the given name, is too large. -/
  | outOfBounds (index : String)
  /-- No block answers to the name. -/
  | notFound
  deriving DecidableEq, Repr

/-- The statement that reports a fault about a subject, during an operation if there is one. -/
def Fault.report (fault : Fault) (faultMacro subject : String) (operation : Option String) :
    String :=
  let circumstance :=
    match operation with
    | some name => s!" during {name}"
    | none => ""
  match fault with
  | .typeMismatch =>
    s!"{faultMacro}(\"{subject} '%s' type mismatch{circumstance}.\\n\", name);"
  | .lengthMismatch =>
    s!"{faultMacro}(\"{subject} '%s' length mismatch{circumstance}.\\n\", name);"
  | .outOfBounds index =>
    s!"{faultMacro}(\"{subject} '%s', index %d is out of bounds{circumstance}.\\n\", " ++
      s!"name, {index});"
  | .notFound =>
    s!"{faultMacro}(\"{subject} '%s' was not found{circumstance}.\\n\", name);"

/-- What device messages call a variable of the kind. -/
def Kind.deviceSubject : Kind → (array : Bool) → String
  | .agent, false => "Agent variable"
  | .agent, true => "Agent array variable"
  | .messageIn, false | .messageOut, false => "Message variable"
  | .messageIn, true | .messageOut, true => "Message array variable"
  | .newAgent, false => "New agent variable"
  | .newAgent, true => "New agent array variable"

end DeviceSlots
