import DeviceSlots.Accessor.Fault
import DeviceSlots.Accessor.Literal
import DeviceSlots.Config
import DeviceSlots.Text.Line

/-!
# Accessor bodies

The body of an accessor is a row of blocks and a closing part. Each block answers to one name: it
compares the requested name with its own, makes its checks, and acts. When no block answers, the
closing part runs. A body is data first and lines of code second, so that what it does can be read
off without its text.
-/

namespace DeviceSlots

/-- A check that a block makes before it acts. -/
inductive Check
  /-- The requested type has this many bytes. -/
  | size (bytes : Nat)
  /-- The requested array has this many elements. -/
  | length (elements : Nat)
  /-- The index in the device variable of the given name is below this bound. -/
  | bound (index : String) (limit : Nat)
  deriving DecidableEq, Repr

namespace Check

/-- The condition under which the check fails. -/
def failure : Check → String
  | size bytes => s!"sizeof(T) != {bytes}"
  | length elements => s!"N != {elements}"
  | bound index limit => s!"{index} >= {limit}"

/-- The fault that a failure of the check is. -/
def fault : Check → Fault
  | size _ => .typeMismatch
  | length _ => .lengthMismatch
  | bound index _ => .outOfBounds index

/-- Whether the check keeps the access inside the stored value, so that it stays when checks are not
wanted. -/
def isEssential : Check → Bool
  | bound .. => true
  | _ => false

end Check

/-- The element of a variable's data that a block acts on. -/
inductive Element
  /-- The value at the index. -/
  | scalar
  /-- One of the `elements` values at the index. -/
  | array (elements : Nat)
  deriving DecidableEq, Repr

/-- The expression that counts values up to the element. -/
def Element.expression : Element → String
  | .scalar => "index"
  | .array elements => s!"index * {elements} + array_index"

/-- What a block does once its checks have passed. Offsets are into the device buffer. -/
inductive Action
  /-- Stores through the address in the slot at an offset. -/
  | store (offset : Nat) (element : Element)
  /-- Loads through the address in the slot at an offset. -/
  | load (offset : Nat) (element : Element)
  /-- Loads through the address in the slot at an offset and through the read-only cache. -/
  | loadCached (offset : Nat) (element : Element)
  /-- Gives the value at an offset. -/
  | fetch (offset : Nat)
  /-- Gives one of the values from an offset on. -/
  | fetchIndexed (offset : Nat)
  /-- Says that the name is known. -/
  | affirm
  deriving DecidableEq, Repr

/-- The statements of an action on the buffer of the given name. -/
def Action.statements (symbol : String) : Action → List String
  | .store offset element =>
    [s!"{slot offset}[{element.expression}] = (T) value;", "return;"]
  | .load offset element => [s!"return {slot offset}[{element.expression}];"]
  | .loadCached offset element =>
    [s!"return (T) __ldg({slot offset} + ({element.expression}));"]
  | .fetch offset => [s!"return *reinterpret_cast<const T*>({symbol} + {offset});"]
  | .fetchIndexed offset => [s!"return reinterpret_cast<const T*>({symbol} + {offset})[index];"]
  | .affirm => ["return true;"]
where
  /-- The expression for the address in the slot at an offset. -/
  slot (offset : Nat) : String :=
    s!"(*static_cast<T**>(static_cast<void*>({symbol} + {offset})))"

/-- The part of a body that answers to one name. -/
structure Block where
  name : String
  checks : List Check
  action : Action
  deriving DecidableEq, Repr

/-- The end of a body, which runs when no block answers. -/
inductive Closing
  /-- Reports that the name was not found; a body with a result then gives a zero value. -/
  | notFound (hasResult : Bool)
  /-- Says that the name is not known. -/
  | deny
  deriving DecidableEq, Repr

/-- The body of an accessor. -/
structure Body where
  /-- How far the blocks are indented. -/
  margin : Nat
  /-- What messages call the thing accessed. -/
  subject : String
  /-- What messages call the operation, if they name it. -/
  operation : Option String
  /-- The statement that leaves the accessor when a check fails. -/
  leave : String
  blocks : List Block
  closing : Closing
  deriving DecidableEq, Repr

/-- The statement that leaves an accessor with a zero value. -/
def leaveWithZero : String := "return \x7b\x7d;"

/-- The statement that leaves an accessor without a result. -/
def leaveEmpty : String := "return;"

/-! ## Code -/

/-- The line that opens the checked form of a guarded part. -/
def checksOpen : String := "#if !defined(SEATBELTS) || SEATBELTS"

/-- The line that opens the unchecked form of a guarded part. -/
def checksElse : String := "#else"

/-- The line that ends a guarded part. -/
def checksClose : String := "#endif"

/-- The lines of a part that has a checked and an unchecked form. -/
def Seatbelts.guarded (policy : Seatbelts) (checked unchecked : List String) : List String :=
  match policy with
  | .enabled => checked
  | .disabled => unchecked
  | .preprocessor =>
    if checked.isEmpty && unchecked.isEmpty then []
    else
      [checksOpen] ++ checked ++
        (if unchecked.isEmpty then [] else [checksElse] ++ unchecked) ++ [checksClose]

namespace Body

/-- The lines of a chain of checks, from a check that is first or comes after others. -/
def chainFrom (margin : Nat) (arm : Check → List String) : (first : Bool) → List Check → List String
  | first, [] => if first then [] else [Text.indented margin "\x7d"]
  | first, check :: rest =>
    let opening := if first then "if (" else "\x7d else if ("
    Text.indented margin (opening ++ check.failure ++ ") \x7b") ::
      (arm check).map (Text.indented (margin + 4)) ++ chainFrom margin arm false rest

/-- The lines that try checks in order and run the arm of the first one that fails. -/
def chain (margin : Nat) (arm : Check → List String) (checks : List Check) : List String :=
  chainFrom margin arm true checks

variable (config : Config) (body : Body)

/-- The statement that reports a fault in the body. -/
def report (fault : Fault) : String :=
  fault.report config.faultMacro body.subject body.operation

/-- The lines of one block. -/
def blockLines (block : Block) : List String :=
  let inner := body.margin + 4
  let checked :=
    chain inner (fun check => [body.report config check.fault, body.leave]) block.checks
  let unchecked := chain inner (fun _ => [body.leave]) (block.checks.filter Check.isEssential)
  [Text.indented body.margin s!"if (names_equal(name, {Literal.quote block.name})) \x7b"] ++
    config.seatbelts.guarded checked unchecked ++
    (block.action.statements config.symbolName).map (Text.indented inner) ++
    [Text.indented body.margin "\x7d"]

/-- The lines of the closing part. -/
def closingLines : List String :=
  match body.closing with
  | .notFound hasResult =>
    config.seatbelts.guarded [Text.indented body.margin (body.report config .notFound)] [] ++
      (if hasResult then [Text.indented body.margin body.leave] else [])
  | .deny => [Text.indented body.margin "return false;"]

/-- The lines of the whole body. -/
def lines : List String :=
  body.blocks.flatMap (body.blockLines config) ++ body.closingLines config

/-- The text of the whole body. -/
def code : String := Text.unlines (body.lines config)

end Body

end DeviceSlots
