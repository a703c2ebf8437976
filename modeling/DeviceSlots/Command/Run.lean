import DeviceSlots.Command.Arguments
import DeviceSlots.Command.Folder
import DeviceSlots.Layout.Writer
import DeviceSlots.Manifest.Reader
import DeviceSlots.Provenance

/-!
# Running a command

A command reads a manifest, lets options override its configuration, builds a host, and puts out
what was asked for. Whatever goes wrong until the model is complete is the fault of the input and
ends with exit code 2; what goes wrong afterwards ends with exit code 1.
-/

namespace DeviceSlots

/-- Why a manifest could not be loaded. -/
inductive LoadError
  | unreadable (path : String) (e : Command.FileError)
  | json (path : String) (e : Json.ReadError)
  deriving DecidableEq, Repr

/-- The manifest in a file, by the file's path and what reading the file gave. -/
def Manifest.load (path : String) (contents : Except Command.FileError (List UInt8)) :
    Except LoadError Manifest :=
  match contents with
  | .error e => .error (.unreadable path e)
  | .ok bytes =>
    match String.fromUTF8? ⟨bytes.toArray⟩ with
    | none => .error (.unreadable path .notText)
    | some text =>
      match Manifest.ofJson text with
      | .error e => .error (.json path e)
      | .ok m => .ok m

namespace Command

/-- Why a command failed. -/
inductive Failure
  | load (e : LoadError)
  | model (e : Error)
  | snapshot (path : String) (e : FileError)
  | generation (e : Error)
  | target (path : String) (e : FileError)
  deriving DecidableEq, Repr

/-- The exit code of a failure. -/
def Failure.exitCode : Failure → Nat
  | .load _ | .model _ | .snapshot .. => 2
  | .generation _ | .target .. => 1

/-- The text of a JSON error. -/
def jsonMessage : Json.ReadError → String
  | .malformed => "malformed JSON"
  | .mismatch m => m.message

/-- The text of a failure. -/
def Failure.message : Failure → String
  | .load (.unreadable path e) => s!"cannot read {path}: {e.message}"
  | .load (.json path e) => s!"{path}: {jsonMessage e}"
  | .model e => e.message
  | .snapshot path e => s!"{path}: {e.message}"
  | .generation e => e.message
  | .target path e => s!"{path}: {e.message}"

/-- The manifest with the configuration that the options ask for. -/
def Options.override (options : Options) (m : Manifest) : Manifest :=
  let config := m.config
  { m with config :=
    { config with
      seatbelts := options.seatbelts.getD config.seatbelts
      vectorTypes := options.vectorTypes || config.vectorTypes
      environmentCapacity := options.capacity.getD config.environmentCapacity } }

/-- The bytes of a text. -/
def utf8 (text : String) : List UInt8 := text.toUTF8.toList

/-- The bytes that the device holds after everything has been generated and pushed to it. -/
def pushedBuffer (snapshot : Option (List UInt8)) : Operation (List UInt8) := do
  discard Host.dynamicHeader
  Host.refreshEnvironment snapshot
  let host ← get
  let symbol := host.config.deviceSymbol
  let (_, m) := DeviceModule.declare {} symbol host.bufferSize
  let (_, m) ← ofExcept (host.push m)
  return (m.contents? symbol).getD []

/-- The bytes of an output of a host. -/
def emit (snapshot : Option (List UInt8)) : Output → Operation (List UInt8)
  | .header => do return utf8 (← Host.dynamicHeader)
  | .layout => do
    discard Host.computeLayout
    match (← get).layout with
    | some layout => return utf8 layout.report.text
    | none => throw .layoutLost
  | .buildInfo => do
    discard Host.dynamicHeader
    return utf8 (Provenance.ofHost (← get)).text
  | .buffer => pushedBuffer snapshot

/-- The bytes that the options ask for, from what reading the manifest and the snapshot gave. -/
def generate (options : Options) (manifest : Except FileError (List UInt8))
    (snapshot : Option (Except FileError (List UInt8))) : Except Failure (List UInt8) := do
  let m ← (Manifest.load options.manifest manifest).mapError Failure.load
  let host ← (options.override m).buildHost.mapError Failure.model
  let snapshot ←
    match snapshot with
    | none => pure none
    | some (.ok bytes) => pure (some bytes)
    | some (.error e) => throw (.snapshot (options.snapshot.getD "") e)
  match emit snapshot options.output host with
  | .ok bytes _ => return bytes
  | .error e _ => throw (.generation e)

/-- How a command ended. -/
structure Outcome where
  exitCode : Nat
  /-- What was written to the standard output. -/
  printed : List UInt8 := []
  failure : Option Failure := none
  usage : Option UsageError := none
  /-- The tree of files afterwards. -/
  folder : Folder

/-- The name of the program. -/
def programName : String := "curvegen"

/-- The text that tells the version. -/
def versionText : String := s!"{programName} {generatorVersion}\n"

/-- The text that tells how the program is used. -/
def helpText : String :=
  s!"Usage: {programName} [OPTIONS] <MANIFEST>\n" ++
  "\n" ++
  "  -o, --output <FILE>        output file path (stdout if omitted)\n" ++
  "      --emit <STAGE>         header, layout, build-info or buffer\n" ++
  "      --seatbelts <POLICY>   enabled, disabled or preprocessor\n" ++
  "      --vector-types         allow aggregate vector types through scalar accessors\n" ++
  "      --env-capacity <N>     environment region size in bytes\n" ++
  "      --env-snapshot <FILE>  raw environment snapshot for --emit buffer\n" ++
  "      --verbose              log generation phases\n" ++
  "  -h, --help                 print this text\n" ++
  "  -V, --version              print the version\n"

/-- Runs a request to generate something on a tree of files. -/
def runGenerate (folder : Folder) (options : Options) : Outcome :=
  match generate options (folder.read options.manifest) (options.snapshot.map folder.read) with
  | .error failure => { exitCode := failure.exitCode, failure := some failure, folder }
  | .ok bytes =>
    match options.target with
    | none => { exitCode := 0, printed := bytes, folder }
    | some path =>
      match folder.write path bytes with
      | .ok written => { exitCode := 0, folder := written }
      | .error e =>
        let failure := Failure.target path e
        { exitCode := failure.exitCode, failure := some failure, folder }

/-- Runs a command line on a tree of files. -/
def run (folder : Folder) (arguments : List String) : Outcome :=
  match read arguments with
  | .error usage => { exitCode := 2, usage := some usage, folder }
  | .ok .version => { exitCode := 0, printed := utf8 versionText, folder }
  | .ok .help => { exitCode := 0, printed := utf8 helpText, folder }
  | .ok (.generate options) => runGenerate folder options

end Command

end DeviceSlots
