/-!
# Lines of generated text

Generated code is built as a list of lines and becomes text only at the end, each line closed by
one line feed. The text of a list of lines is the concatenation of the texts of its parts.
-/

namespace DeviceSlots.Text

/-- The lines, each followed by a line feed. -/
def unlines (lines : List String) : String := String.join (lines.map (· ++ "\n"))

/-- A line moved to the right by `margin` columns. -/
def indented (margin : Nat) (line : String) : String :=
  String.ofList (List.replicate margin ' ') ++ line

@[simp] theorem unlines_nil : unlines [] = "" := rfl

theorem unlines_append (first second : List String) :
    unlines (first ++ second) = unlines first ++ unlines second := by
  apply String.toList_inj.mp
  simp [unlines, String.toList_join, String.toList_append]

theorem toList_indented (margin : Nat) (line : String) :
    (indented margin line).toList = List.replicate margin ' ' ++ line.toList := by
  simp [indented]

end DeviceSlots.Text
