import DeviceSlots.Accessor.Fault
import DeviceSlots.Proofs.Text.Lines

/-!
# Texts of reports

All reports are built alike: the macro, a message about the name, and the arguments of the message.
Faults differ in what the message says of the name, and in the arguments.
-/

namespace DeviceSlots.Fault

/-- What a report says of the name. -/
def complaint : Fault → String
  | typeMismatch => " type mismatch"
  | lengthMismatch => " length mismatch"
  | outOfBounds _ => ", index %d is out of bounds"
  | notFound => " was not found"

/-- What a report has behind its message. -/
def arguments : Fault → String
  | outOfBounds index => ", name, " ++ (index ++ ");")
  | _ => ", name);"

/-- The part of a message that names the operation. -/
def circumstance : Option String → String
  | some name => " during " ++ name
  | none => ""

theorem report_eq (fault : Fault) (faultMacro subject : String) (operation : Option String) :
    fault.report faultMacro subject operation =
      faultMacro ++ ("(" ++ ("\"" ++ (subject ++ (" '%s'" ++ (fault.complaint ++
        (circumstance operation ++ (".\\n\"" ++ fault.arguments))))))) := by
  have hopen : "(\"" = "(" ++ "\"" := rfl
  have hclose : ".\\n\", name);" = ".\\n\"" ++ ", name);" := rfl
  have htype : " '%s' type mismatch" = " '%s'" ++ " type mismatch" := rfl
  have hlength : " '%s' length mismatch" = " '%s'" ++ " length mismatch" := rfl
  have hbounds : " '%s', index %d is out of bounds" = " '%s'" ++ ", index %d is out of bounds" := rfl
  have hmissing : " '%s' was not found" = " '%s'" ++ " was not found" := rfl
  have hcounter : ".\\n\", " = ".\\n\"" ++ ", " := rfl
  have hname : ", name, " = ", " ++ "name, " := rfl
  unfold report
  cases operation <;> cases fault <;>
    simp only [-String.reduceAppend, Text.toString_self, String.append_assoc, complaint, arguments,
      circumstance, hopen, hclose, htype, hlength, hbounds, hmissing, hcounter, hname]

end DeviceSlots.Fault
