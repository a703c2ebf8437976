import DeviceSlots.Json.Mismatch

/-!
# Reading JSON

A reader takes a value of a known shape from the front of a row of tokens, in one pass: whatever is
wrong first in the text is what is reported. A token that starts a value of another shape is a
mismatch; a token that starts no value, and anything wrong with commas and brackets, is malformed.
-/

namespace DeviceSlots.Json

/-- Takes a value from the front of a row of tokens, and gives what follows it. -/
abbrev Reader (α : Type) := List Token → Except ReadError (α × List Token)

/-! ## Single values -/

/-- The error at a place where a value of another shape was wanted. -/
def unexpected (wanted : Wanted) : List Token → ReadError
  | .null :: _ => mismatch .null
  | .bool b :: _ => mismatch (.bool b)
  | .string (some s) :: _ => mismatch (.string s)
  | .openBracket :: _ => mismatch .array
  | .openBrace :: _ => mismatch .object
  | .number x :: _ =>
    match x.quantity? with
    | some (.natural n) => mismatch (.integer n)
    | some (.negative n) => mismatch (.integer (-n))
    | some (.real negative magnitude) => mismatch (.real negative magnitude)
    | none => .malformed
  | _ => .malformed
where
  /-- The error for a value that was found. -/
  mismatch (found : Found) : ReadError := .mismatch (.wrongType found wanted)

/-- Reads a string. -/
def readString (wanted : Wanted) : Reader String
  | .string (some s) :: rest => .ok (s, rest)
  | tokens => .error (unexpected wanted tokens)

/-- Reads a truth value. -/
def readBool : Reader Bool
  | .bool b :: rest => .ok (b, rest)
  | tokens => .error (unexpected .bool tokens)

/-- Reads the null value. -/
def readNull : Reader Unit
  | .null :: rest => .ok ((), rest)
  | tokens => .error (unexpected .null tokens)

/-- Reads a natural number below a limit. -/
def readNat (wanted : Wanted) (limit : Nat) : Reader Nat
  | .number x :: rest =>
    match x.quantity? with
    | some (.natural n) =>
      if n < limit then .ok (n, rest) else .error (.mismatch (.wrongValue (.integer n) wanted))
    | some (.negative n) => .error (.mismatch (.wrongValue (.integer (-n)) wanted))
    | _ => .error (unexpected wanted (.number x :: rest))
  | tokens => .error (unexpected wanted tokens)

/-- Reads a natural number below `2 ^ 64`. -/
def readWord64 : Reader Nat := readNat .word64 UInt64.size

/-- Reads a natural number below `2 ^ 32`. -/
def readWord32 : Reader Nat := readNat .word32 UInt32.size

/-- Takes one given token from the front. -/
def expect (token : Token) : Reader Unit
  | [] => .error .malformed
  | t :: rest => if t = token then .ok ((), rest) else .error .malformed

/-! ## Values of any shape -/

/-- The kind of bracket that a value stands in. -/
inductive Bracket
  | array | object
  deriving DecidableEq, Repr

mutual

/-- Skips a value inside the given brackets, innermost first, and then the rest of what they
enclose. -/
def skipValue (around : List Bracket) : List Token → Except ReadError (List Token)
  | .null :: rest | .bool _ :: rest | .number _ :: rest | .string _ :: rest =>
    skipAfter around rest
  | .openBracket :: .closeBracket :: rest => skipAfter around rest
  | .openBracket :: rest => skipValue (.array :: around) rest
  | .openBrace :: .closeBrace :: rest => skipAfter around rest
  | .openBrace :: .string _ :: .colon :: rest => skipValue (.object :: around) rest
  | _ => .error .malformed
  termination_by tokens => tokens.length

/-- Skips what follows a value inside the given brackets. -/
def skipAfter : List Bracket → List Token → Except ReadError (List Token)
  | [], rest => .ok rest
  | .array :: around, .closeBracket :: rest => skipAfter around rest
  | .array :: around, .comma :: rest => skipValue (.array :: around) rest
  | .object :: around, .closeBrace :: rest => skipAfter around rest
  | .object :: around, .comma :: .string _ :: .colon :: rest => skipValue (.object :: around) rest
  | _, _ => .error .malformed
  termination_by _ tokens => tokens.length

end

/-- Skips one value of any shape. -/
def skip : Reader Unit := fun tokens => (skipValue [] tokens).map fun rest => ((), rest)

/-! ## Arrays -/

/-- Reads the elements of an array up to its closing bracket. `first` says whether none has been
read yet; `fuel` bounds their number. -/
def readItems {α : Type} (item : Reader α) : (fuel : Nat) → (first : Bool) → Reader (List α)
  | _, _, .closeBracket :: rest => .ok ([], rest)
  | 0, _, _ => .error .malformed
  | fuel + 1, first, tokens => do
    let rest ← if first then pure tokens else (expect .comma tokens).map (·.2)
    let (a, rest) ← item rest
    let (as, rest) ← readItems item fuel false rest
    return (a :: as, rest)

/-- Reads an array whose elements are all read alike. -/
def readList {α : Type} (item : Reader α) : Reader (List α)
  | .openBracket :: rest => readItems item rest.length true rest
  | tokens => .error (unexpected .array tokens)

/-! ## Records -/

/-- A field of a record. What has been read of the record is a draft; reading the field puts its
value there. -/
structure RecordField (δ : Type) where
  name : String
  isSet : δ → Bool
  read : δ → Reader δ

/-- How a record is read. It is written as an object, with its fields in any order, or as an array
of its fields in their order. -/
structure Record (δ α : Type) where
  name : String
  fields : List (RecordField δ)
  /-- The draft before a field is read. -/
  start : δ
  /-- Whether members that are no fields are refused, and not skipped. -/
  strict : Bool
  /-- The record of a draft, or the first field that is missing. -/
  finish : δ → Except String α

namespace Record

variable {δ α : Type} (r : Record δ α)

/-- The names of the fields. -/
def fieldNames : List String := r.fields.map (·.name)

/-- Reads one member whose key has been read. -/
def readMember (draft : δ) (key : String) (rest : List Token) :
    Except ReadError (δ × List Token) :=
  match r.fields.find? fun f => f.name = key with
  | some f => do
    if f.isSet draft then throw (.mismatch (.duplicateField key))
    let (_, rest) ← expect .colon rest
    f.read draft rest
  | none => do
    if r.strict then throw (.mismatch (.unknownField key r.fieldNames))
    let (_, rest) ← expect .colon rest
    let (_, rest) ← skip rest
    return (draft, rest)

/-- Reads members up to the closing brace, which is left. -/
def readMembers : (fuel : Nat) → (first : Bool) → δ → Reader δ
  | _, _, draft, .closeBrace :: rest => .ok (draft, .closeBrace :: rest)
  | 0, _, _, _ => .error .malformed
  | fuel + 1, first, draft, tokens => do
    let rest ← if first then pure tokens else (expect .comma tokens).map (·.2)
    match rest with
    | .string (some key) :: rest =>
      let (draft, rest) ← r.readMember draft key rest
      readMembers fuel false draft rest
    | _ => throw .malformed

/-- Reads fields in their order up to the closing bracket, which is left, or up to the last field.
Gives the number of fields that were read, too. -/
def readElements : List (RecordField δ) → (count : Nat) → δ → Reader (Nat × δ)
  | [], count, draft, tokens => .ok ((count, draft), tokens)
  | _, count, draft, .closeBracket :: rest => .ok ((count, draft), .closeBracket :: rest)
  | f :: fs, count, draft, tokens => do
    let rest ← if count = 0 then pure tokens else (expect .comma tokens).map (·.2)
    let (draft, rest) ← f.read draft rest
    readElements fs (count + 1) draft rest

/-- Reads a record. -/
def read : Reader α
  | .openBrace :: rest => do
    let (draft, rest) ← r.readMembers rest.length true r.start rest
    match r.finish draft with
    | .error field => throw (.mismatch (.missingField field))
    | .ok a => do
      let (_, rest) ← expect .closeBrace rest
      return (a, rest)
  | .openBracket :: rest => do
    let ((count, draft), rest) ← readElements r.fields 0 r.start rest
    match r.finish draft with
    | .error _ => throw (.mismatch (.wrongLength count r.name r.fields.length))
    | .ok a => do
      let (_, rest) ← expect .closeBracket rest
      return (a, rest)
  | tokens => .error (unexpected (.record r.name) tokens)

end Record

/-! ## Variants -/

/-- The variant with the given name. -/
def variantOfName {α : Type} (ofName : String → Option α) (known : List String) (name : String) :
    Except ReadError α :=
  match ofName name with
  | some a => .ok a
  | none => .error (.mismatch (.unknownVariant name known))

/-- Reads a variant without data: its name, or an object that maps its name to null. A key of the
object that is no string is malformed, as it is in a record, and so is any other value. -/
def readVariant {α : Type} (ofName : String → Option α) (known : List String) : Reader α
  | .string (some name) :: rest => do
    let a ← variantOfName ofName known name
    return (a, rest)
  | .openBrace :: .string (some name) :: rest => do
    let a ← variantOfName ofName known name
    let (_, rest) ← expect .colon rest
    let (_, rest) ← readNull rest
    let (_, rest) ← expect .closeBrace rest
    return (a, rest)
  | _ => .error .malformed

/-! ## Texts -/

/-- Reads a text that is one value. -/
def readText {α : Type} (reader : Reader α) (text : String) : Except ReadError α := do
  let (a, rest) ← reader (scan text.toList)
  if rest.isEmpty then return a else throw .malformed

end DeviceSlots.Json
