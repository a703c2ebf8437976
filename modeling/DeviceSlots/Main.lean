import DeviceSlots.Command.Run

/-!
# The program

Reads the files that a command line names, and writes what the command puts out.
-/

open DeviceSlots Command

/-- The number that the system gives to an error, if it gives one. -/
def osCode? : IO.Error → Option UInt32
  | .noFileOrDirectory _ code _ | .inappropriateType _ code _ | .invalidArgument _ code _
  | .permissionDenied _ code _ | .resourceExhausted _ code _ | .noSuchThing _ code _
  | .alreadyExists _ code _ | .otherError code _ => some code
  | _ => none

/-- Why a file could not be read or written, from the error that the system gave. -/
def fileError (e : IO.Error) : FileError :=
  match osCode? e with
  | some 2 => .notFound
  | some 20 => .notDirectory
  | some 21 => .isDirectory
  | some 36 => .nameTooLong
  | _ => .other (toString e)

/-- What reading a file came to. -/
def readFileBytes (path : String) : IO (Except FileError (List UInt8)) := do
  try
    return .ok (← IO.FS.readBinFile path).toList
  catch e => return .error (fileError e)

/-- What writing a file came to. -/
def writeFileBytes (path : String) (bytes : List UInt8) : IO (Except FileError Unit) := do
  try
    IO.FS.writeBinFile path ⟨bytes.toArray⟩
    return .ok ()
  catch e => return .error (fileError e)

/-- Writes bytes to the standard output. -/
def printBytes (bytes : List UInt8) : IO Unit := do
  let out ← IO.getStdout
  out.write ⟨bytes.toArray⟩
  out.flush

/-- Reports a failure and gives its exit code. -/
def report (failure : Failure) : IO UInt32 := do
  IO.eprintln s!"{programName}: error: {failure.message}"
  return failure.exitCode.toUInt32

/-- Runs a request to generate something. -/
def generateFiles (options : Options) : IO UInt32 := do
  let manifest ← readFileBytes options.manifest
  let snapshot ← options.snapshot.mapM readFileBytes
  match generate options manifest snapshot with
  | .error failure => report failure
  | .ok bytes =>
    match options.target with
    | none =>
      printBytes bytes
      return 0
    | some path =>
      match ← writeFileBytes path bytes with
      | .ok () => return 0
      | .error e => report (.target path e)

def main (arguments : List String) : IO UInt32 := do
  match Command.read arguments with
  | .error usage =>
    IO.eprintln s!"error: {usage.message}"
    return 2
  | .ok .version =>
    printBytes (utf8 versionText)
    return 0
  | .ok .help =>
    printBytes (utf8 helpText)
    return 0
  | .ok (.generate options) => generateFiles options
