import DeviceSlots.Config

/-!
# Command line arguments

What a command line asks for. Arguments are taken from left to right; the first one that is wrong
ends the reading, and so does a request for the version or for help. An option is given once at
most. The value of an option follows it as an argument of its own, or is attached to it; an argument
of its own that starts with a hyphen is no value, unless it is the hyphen alone.
-/

namespace DeviceSlots.Command

/-- What is put out. -/
inductive Output
  | header | layout | buildInfo | buffer
  deriving DecidableEq, Repr

namespace Output

/-- All outputs. -/
def all : List Output := [.header, .layout, .buildInfo, .buffer]

/-- The name of an output on the command line. -/
def key : Output → String
  | .header => "header"
  | .layout => "layout"
  | .buildInfo => "build-info"
  | .buffer => "buffer"

/-- The output with the given name. -/
def ofKey? (key : String) : Option Output := all.find? fun o => o.key = key

end Output

/-- What a command line says, as far as it has been read. -/
structure Draft where
  manifest : Option String := none
  target : Option String := none
  output : Option Output := none
  seatbelts : Option Seatbelts := none
  vectorTypes : Bool := false
  capacity : Option Nat := none
  snapshot : Option String := none
  verbose : Bool := false
  deriving DecidableEq, Repr

/-- A request to generate something. -/
structure Options where
  /-- The path of the manifest. -/
  manifest : String
  /-- The path of the file to write, or `none` for the standard output. -/
  target : Option String := none
  output : Output := .header
  /-- The policy that replaces the manifest's. -/
  seatbelts : Option Seatbelts := none
  /-- Whether vector types are allowed whatever the manifest says. -/
  vectorTypes : Bool := false
  /-- The capacity that replaces the manifest's. -/
  capacity : Option Nat := none
  /-- The path of the environment snapshot. -/
  snapshot : Option String := none
  verbose : Bool := false
  deriving DecidableEq, Repr

/-- What a command line asks for. -/
inductive Request
  | generate (options : Options)
  | version
  | help
  deriving DecidableEq, Repr

/-- An option that takes a value. -/
inductive ValueOption
  | target | output | seatbelts | capacity | snapshot
  deriving DecidableEq, Repr

/-- An option that takes no value. -/
inductive FlagOption
  | vectorTypes | verbose | version | help
  deriving DecidableEq, Repr

/-- Why a command line is refused. -/
inductive UsageError
  | missingManifest
  | unexpectedArgument (argument : String)
  | repeatedOption (option : String)
  | missingValue (option : String)
  | invalidValue (option value : String)
  deriving DecidableEq, Repr

/-- The wording of a usage error. -/
def UsageError.message : UsageError → String
  | missingManifest => "the manifest is missing"
  | unexpectedArgument argument => s!"unexpected argument '{argument}'"
  | repeatedOption option => s!"option '{option}' is given more than once"
  | missingValue option => s!"option '{option}' has no value"
  | invalidValue option value => s!"'{value}' is no value of option '{option}'"

/-! ## Names and values -/

/-- The long name of an option that takes a value. -/
def ValueOption.name : ValueOption → String
  | .target => "output"
  | .output => "emit"
  | .seatbelts => "seatbelts"
  | .capacity => "env-capacity"
  | .snapshot => "env-snapshot"

/-- The option that takes a value and has the given long name. -/
def ValueOption.ofName? (name : String) : Option ValueOption :=
  [target, output, seatbelts, capacity, snapshot].find? fun o => o.name = name

/-- The long name of an option that takes no value. -/
def FlagOption.name : FlagOption → String
  | .vectorTypes => "vector-types"
  | .verbose => "verbose"
  | .version => "version"
  | .help => "help"

/-- The option that takes no value and has the given long name. -/
def FlagOption.ofName? (name : String) : Option FlagOption :=
  [vectorTypes, verbose, version, help].find? fun o => o.name = name

/-- A decimal number below `2 ^ 64`, perhaps after a plus sign and zeros. -/
def number? (text : String) : Option Nat :=
  let digits :=
    match text.toList with
    | '+' :: rest => rest
    | all => all
  if digits.isEmpty || !digits.all Char.isDigit then none
  else
    let n := Nat.ofDigitChars 10 digits 0
    if n < UInt64.size then some n else none

/-- A path, which is not empty. -/
def path? (text : String) : Option String := if text.isEmpty then none else some text

/-- Gives a part of a draft its value, unless it has one. -/
def setOnce {α : Type} (option value : String) (present : Option α) (read : String → Option α)
    (put : α → Draft) : Except UsageError Draft :=
  if present.isSome then .error (.repeatedOption option)
  else
    match read value with
    | some a => .ok (put a)
    | none => .error (.invalidValue option value)

/-- Takes in an option with its value. -/
def takeValue (draft : Draft) (option : ValueOption) (value : String) : Except UsageError Draft :=
  let name := option.name
  match option with
  | .target => setOnce name value draft.target path? fun p => { draft with target := some p }
  | .output =>
    setOnce name value draft.output Output.ofKey? fun o => { draft with output := some o }
  | .seatbelts =>
    setOnce name value draft.seatbelts Seatbelts.ofKey? fun s => { draft with seatbelts := some s }
  | .capacity =>
    setOnce name value draft.capacity number? fun n => { draft with capacity := some n }
  | .snapshot => setOnce name value draft.snapshot path? fun p => { draft with snapshot := some p }

/-- Takes in an argument that is no option. -/
def takePlain (draft : Draft) (argument : String) : Except UsageError Draft :=
  if draft.manifest.isSome then .error (.unexpectedArgument argument)
  else
    match path? argument with
    | some p => .ok { draft with manifest := some p }
    | none => .error (.invalidValue "manifest" argument)

/-! ## Reading -/

/-- One argument by its form. -/
inductive Argument
  /-- The mark after which all arguments are plain. -/
  | endOfOptions
  /-- An option by its long name, perhaps with a value attached. -/
  | long (name : String) (value : Option String)
  /-- A letter after one hyphen, with the rest of the argument. -/
  | short (letter : Char) (rest : List Char)
  | plain (text : String)
  deriving DecidableEq, Repr

/-- The form of an argument. -/
def Argument.ofString (text : String) : Argument :=
  match text.toList with
  | ['-', '-'] => .endOfOptions
  | '-' :: '-' :: body =>
    match body.dropWhile (· ≠ '=') with
    | '=' :: value => .long (String.ofList (body.takeWhile (· ≠ '='))) (some (String.ofList value))
    | _ => .long (String.ofList body) none
  | '-' :: letter :: rest => .short letter rest
  | _ => .plain text

/-- What taking in an option without a value comes to: reading goes on, or ends with a request. -/
def takeFlag (draft : Draft) (flag : FlagOption) : Except UsageError (Draft ⊕ Request) :=
  match flag with
  | .version => .ok (.inr .version)
  | .help => .ok (.inr .help)
  | .vectorTypes =>
    if draft.vectorTypes then .error (.repeatedOption flag.name)
    else .ok (.inl { draft with vectorTypes := true })
  | .verbose =>
    if draft.verbose then .error (.repeatedOption flag.name)
    else .ok (.inl { draft with verbose := true })

/-- The request of a draft that is complete. -/
def Draft.request (draft : Draft) : Except UsageError Request :=
  match draft.manifest with
  | none => .error .missingManifest
  | some manifest =>
    .ok (.generate {
      manifest
      target := draft.target
      output := draft.output.getD .header
      seatbelts := draft.seatbelts
      vectorTypes := draft.vectorTypes
      capacity := draft.capacity
      snapshot := draft.snapshot
      verbose := draft.verbose })

/-- Takes in arguments none of which is an option. -/
def readPlain (draft : Draft) : List String → Except UsageError Request
  | [] => draft.request
  | argument :: rest => do
    readPlain (← takePlain draft argument) rest

/-- Takes in arguments. -/
def readFrom (draft : Draft) : List String → Except UsageError Request
  | [] => draft.request
  | argument :: rest =>
    match Argument.ofString argument with
    | .endOfOptions => readPlain draft rest
    | .plain text => do readFrom (← takePlain draft text) rest
    | .long name attached =>
      match ValueOption.ofName? name, FlagOption.ofName? name, attached with
      | some option, _, some value => do readFrom (← takeValue draft option value) rest
      | some option, _, none => readValue draft option rest
      | none, some flag, none => do
        match ← takeFlag draft flag with
        | .inl draft => readFrom draft rest
        | .inr request => return request
      | none, _, _ => .error (.unexpectedArgument argument)
    | .short 'o' [] => readValue draft .target rest
    | .short 'o' ('=' :: value) => do
      readFrom (← takeValue draft .target (String.ofList value)) rest
    | .short 'o' value => do readFrom (← takeValue draft .target (String.ofList value)) rest
    | .short 'V' _ => .ok .version
    | .short 'h' _ => .ok .help
    | .short _ _ => .error (.unexpectedArgument argument)
where
  /-- Takes in the value of an option from the next argument, and then the arguments after it. -/
  readValue (draft : Draft) (option : ValueOption) : List String → Except UsageError Request
    | [] => .error (.missingValue option.name)
    | argument :: rest =>
      match Argument.ofString argument with
      | .plain value => do readFrom (← takeValue draft option value) rest
      | _ => .error (.missingValue option.name)

/-- What a command line asks for. -/
def read (arguments : List String) : Except UsageError Request := readFrom {} arguments

end DeviceSlots.Command
