import DeviceSlots.Accessor.Block
import DeviceSlots.Proofs.Accessor.Literal
import DeviceSlots.Proofs.Text.Numbers

/-!
# The syntax of generated code

The lines of an accessor body as syntax: conditions that open, turn and end branches, and statements.
A line is read without its margin and from its front on, by the texts that its parts begin with.
-/

namespace DeviceSlots

open Text

/-! ## Syntax -/

/-- A parameter of an accessor that counts values. -/
inductive Counter
  | index | arrayIndex
  deriving DecidableEq, Repr

/-- The name of a counter in device code. -/
def Counter.name : Counter → String
  | index => "index"
  | arrayIndex => "array_index"

/-- A condition of a branch. -/
inductive Condition
  /-- The requested name is this one. -/
  | named (name : String)
  /-- The requested type has not this many bytes. -/
  | size (bytes : Nat)
  /-- The requested array has not this many elements. -/
  | length (elements : Nat)
  /-- A counter is not below this bound. -/
  | bound (counter : Counter) (limit : Nat)
  deriving DecidableEq, Repr

/-- The text of a condition. -/
def Condition.text : Condition → String
  | named name => "names_equal(name, " ++ Literal.quote name ++ ")"
  | size bytes => "sizeof(T) != " ++ Nat.repr bytes
  | length elements => "N != " ++ Nat.repr elements
  | bound counter limit => counter.name ++ (" >= " ++ Nat.repr limit)

/-- A statement of an accessor. -/
inductive Statement
  | report (fault : Fault)
  | leave
  | leaveWithZero
  | deny
  | act (action : Action)
  deriving DecidableEq, Repr

/-- A line of an accessor. -/
inductive Line
  | opens (condition : Condition)
  | turns (condition : Condition)
  | closes
  | statement (statement : Statement)
  deriving DecidableEq, Repr

/-! ## Readers -/

namespace Reading

/-- What follows a text at the front. -/
def strip? (front : String) (text : List Char) : Option (List Char) :=
  if front.toList.isPrefixOf text then some (text.drop front.toList.length) else none

/-- A result that is read only if nothing but this text follows. -/
def ends? {α : Type} (tail : String) (text : List Char) (result : α) : Option α :=
  if text = tail.toList then some result else none

/-- A number at the front, and what follows it. -/
def number? (text : List Char) : Option (Nat × List Char) :=
  (leadingNumber? text).map fun n => (n, text.dropWhile Char.isDigit)

/-- A counter at the front, and what follows it. -/
def counter? (text : List Char) : Option (Counter × List Char) :=
  match text.head? with
  | some 'a' => (strip? "array_index" text).map fun rest => (.arrayIndex, rest)
  | _ => (strip? "index" text).map fun rest => (.index, rest)

/-- A condition at the front, and what follows it. -/
def condition? (text : List Char) : Option (Condition × List Char) :=
  match text.head? with
  | some 'n' => do
    let (name, rest) ← Literal.read? (← strip? "names_equal(name, " text)
    return (.named name, ← strip? ")" rest)
  | some 's' => do
    let (bytes, rest) ← number? (← strip? "sizeof(T) != " text)
    return (.size bytes, rest)
  | some 'N' => do
    let (elements, rest) ← number? (← strip? "N != " text)
    return (.length elements, rest)
  | _ => do
    let (counter, rest) ← counter? text
    let (limit, rest) ← number? (← strip? " >= " rest)
    return (.bound counter limit, rest)

/-- A complaint about the name alone. -/
def about? (complaint : String) (fault : Fault) (text arguments : List Char) : Option Fault := do
  discard (strip? complaint text)
  ends? ", name);" arguments fault

/-- A complaint about the name and a counter. -/
def aboutCounter? (text arguments : List Char) : Option Fault := do
  discard (strip? ", index %d is out of bounds" text)
  let (counter, rest) ← counter? (← strip? ", name, " arguments)
  ends? ");" rest (.outOfBounds counter.name)

/-- The fault that a message is about, with the arguments behind the message. -/
def fault? (message arguments : List Char) : Option Fault := do
  let complaint ← strip? "%s'" (message.dropWhile (· ≠ '%'))
  match complaint.take 2 with
  | [' ', 't'] => about? " type mismatch" .typeMismatch complaint arguments
  | [' ', 'l'] => about? " length mismatch" .lengthMismatch complaint arguments
  | [' ', 'w'] => about? " was not found" .notFound complaint arguments
  | _ => aboutCounter? complaint arguments

/-- The fault that a statement reports through a macro. -/
def report? (faultMacro : String) (text : List Char) : Option Fault := do
  let (message, arguments) ← Literal.read? (← strip? "(" (← strip? faultMacro text))
  fault? message.toList arguments

/-- An offset in the device buffer at the front, and what follows it. -/
def address? (symbol : String) (text : List Char) : Option (Nat × List Char) := do
  number? (← strip? " + " (← strip? symbol text))

/-- The offset of a slot whose address is at the front, and what follows it. -/
def slot? (symbol : String) (text : List Char) : Option (Nat × List Char) := do
  let (offset, rest) ←
    address? symbol (← strip? "(*static_cast<T**>(static_cast<void*>(" text)
  return (offset, ← strip? ")))" rest)

/-- An element at the front, and what follows it. -/
def element? (text : List Char) : Option (Element × List Char) := do
  let rest ← strip? "index" text
  match rest.head? with
  | some ' ' =>
    let (elements, rest) ← number? (← strip? " * " rest)
    return (.array elements, ← strip? " + array_index" rest)
  | _ => return (.scalar, rest)

/-- A load, from after the word for returning. -/
def load? (symbol : String) (text : List Char) : Option Statement := do
  let (offset, rest) ← slot? symbol (← strip? " " text)
  let (element, rest) ← element? (← strip? "[" rest)
  ends? "];" rest (.act (.load offset element))

/-- A load through the read-only cache, from after the word for returning. -/
def loadCached? (symbol : String) (text : List Char) : Option Statement := do
  let (offset, rest) ← slot? symbol (← strip? " (T) __ldg(" text)
  let (element, rest) ← element? (← strip? " + (" rest)
  ends? "));" rest (.act (.loadCached offset element))

/-- A value from the environment, from after the word for returning. -/
def fetch? (symbol : String) (text : List Char) : Option Statement := do
  let (offset, rest) ← address? symbol (← strip? " *reinterpret_cast<const T*>(" text)
  ends? ");" rest (.act (.fetch offset))

/-- One of several values from the environment, from after the word for returning. -/
def fetchIndexed? (symbol : String) (text : List Char) : Option Statement := do
  let (offset, rest) ← address? symbol (← strip? " reinterpret_cast<const T*>(" text)
  ends? ")[index];" rest (.act (.fetchIndexed offset))

/-- A store. -/
def store? (symbol : String) (text : List Char) : Option Statement := do
  let (offset, rest) ← slot? symbol text
  let (element, rest) ← element? (← strip? "[" rest)
  ends? "] = (T) value;" rest (.act (.store offset element))

/-- What is returned, from after the word for it. -/
def returned? (symbol : String) (text : List Char) : Option Statement :=
  match text.take 3 with
  | [';'] => some .leave
  | [' ', '\x7b', '\x7d'] => ends? " \x7b\x7d;" text .leaveWithZero
  | [' ', 't', 'r'] => ends? " true;" text (.act .affirm)
  | [' ', 'f', 'a'] => ends? " false;" text .deny
  | [' ', '*', 'r'] => fetch? symbol text
  | [' ', 'r', 'e'] => fetchIndexed? symbol text
  | [' ', '(', 'T'] => loadCached? symbol text
  | _ => load? symbol text

/-- The statement that a text is, reports apart. -/
def statement? (symbol : String) (text : List Char) : Option Statement :=
  match text.head? with
  | some '(' => store? symbol text
  | _ => do returned? symbol (← strip? "return" text)

/-- The line that a text without a report is. -/
def syntax? (symbol : String) (text : List Char) : Option Line :=
  match text.head? with
  | some 'i' => do
    let (condition, rest) ← condition? (← strip? "if (" text)
    ends? ") \x7b" rest (.opens condition)
  | some '\x7d' =>
    if text = ['\x7d'] then some .closes
    else do
      let (condition, rest) ← condition? (← strip? "\x7d else if (" text)
      ends? ") \x7b" rest (.turns condition)
  | _ => (statement? symbol text).map .statement

/-- The line that a text is. Names of macros are not reserved, so reports are looked for first. -/
def line? (symbol faultMacro : String) (line : String) : Option Line :=
  let text := line.toList.dropWhile (· = ' ')
  match report? faultMacro text with
  | some fault => some (.statement (.report fault))
  | none => syntax? symbol text

end Reading

end DeviceSlots
