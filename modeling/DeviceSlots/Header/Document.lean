import DeviceSlots.Header.Template
import DeviceSlots.Method
import DeviceSlots.Text.Line

/-!
# Header documents

A document collects the text of each fill point, in any order. A point takes text once, and only if
the template has it. When all points are filled, the document is rendered: the template with each
point replaced by its text.
-/

namespace DeviceSlots

/-- The template together with the texts given so far. -/
structure Document where
  fills : List (FillPoint × String) := []
  deriving DecidableEq

namespace Document

/-- The text given to a fill point. -/
def text? (doc : Document) (point : FillPoint) : Option String := doc.fills.lookup point

/-- Gives a fill point its text. -/
def fillPoint (point : FillPoint) (text : String) : Method Document Unit := do
  if point ∉ Template.points then throw (.unknownPoint point)
  if ((← get).text? point).isSome then throw (.filledTwice point)
  modify fun doc => ⟨(point, text) :: doc.fills⟩

/-- The document with the text of one more fill point. -/
def fill (doc : Document) (point : FillPoint) (text : String) : Except Error Document :=
  (fillPoint point text).leaves doc

/-- The texts of the segments, or the first point that has none. -/
def renderSegments (doc : Document) : List Segment → Except Error (List String)
  | [] => .ok []
  | .fixed lines :: rest => do
    let texts ← doc.renderSegments rest
    return Text.unlines lines :: texts
  | .fill point :: rest =>
    match doc.text? point with
    | none => .error (.neverFilled point)
    | some text => do
      let texts ← doc.renderSegments rest
      return text :: texts

/-- The text of the whole header. -/
def render (doc : Document) : Except Error String := do
  let texts ← doc.renderSegments Template.segments
  return String.join texts

end Document

end DeviceSlots
