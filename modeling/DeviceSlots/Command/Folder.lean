/-!
# Folders

A tree of files and directories, and the directory in it that relative paths start from. A path is
walked name by name from a directory: the empty name and `.` stay, `..` goes up, and at the root
stays; any other name leads to what the directory holds. Reading and writing fail where a path does
not lead to a file, and where it can be no path at all.
-/

namespace DeviceSlots.Command

/-- Why a file could not be read or written. -/
inductive FileError
  | notFound
  | notDirectory
  | isDirectory
  | nameTooLong
  /-- The path has a NUL character, which ends a path. -/
  | nulInPath
  /-- The file is to be text, but is not UTF-8. -/
  | notText
  /-- Any other reason. -/
  | other (reason : String)
  deriving DecidableEq, Repr

/-- The wording of a file error. -/
def FileError.message : FileError → String
  | notFound => "No such file or directory (os error 2)"
  | notDirectory => "Not a directory (os error 20)"
  | isDirectory => "Is a directory (os error 21)"
  | nameTooLong => "File name too long (os error 36)"
  | nulInPath => "file name contained an unexpected NUL byte"
  | notText => "stream did not contain valid UTF-8"
  | other reason => reason

/-- A tree of files and directories, each at the names that lead to it from the root. A directory
with something in it need not be listed. -/
structure Folder where
  files : List (List String × List UInt8) := []
  directories : List (List String) := []
  /-- The directory that relative paths start from. -/
  here : List String := []

namespace Folder

/-- The greatest number of bytes in a name. -/
def maxName : Nat := 255

/-- The greatest number of bytes in a path. -/
def maxPath : Nat := 4095

/-- What a path leads to. -/
inductive Place
  | file (at_ : List String) (bytes : List UInt8)
  | directory (at_ : List String)
  /-- Nothing, but its directory is there. -/
  | vacant (at_ : List String)
  deriving DecidableEq

/-- The names in a path. -/
def names (path : String) : List String := (path.toList.splitOn '/').map String.ofList

/-- Whether a directory is there: the one that relative paths start from, a listed one, one with a
file in it, or one above these. -/
def hasDirectory (folder : Folder) (at_ : List String) : Bool :=
  at_.isPrefixOf folder.here || folder.directories.any (at_.isPrefixOf ·) ||
    folder.files.any fun (key, _) => at_.isPrefixOf key && at_ ≠ key

/-- What lies at a place in the tree. -/
def look (folder : Folder) (at_ : List String) : Place :=
  match folder.files.lookup at_ with
  | some bytes => .file at_ bytes
  | none => if folder.hasDirectory at_ then .directory at_ else .vacant at_

/-- The directory that a path has led to, as it goes on. -/
def Place.enter : Place → Except FileError (List String)
  | directory at_ => .ok at_
  | file .. => .error .notDirectory
  | vacant _ => .error .notFound

/-- What a name leads to from a directory. -/
def step (folder : Folder) (at_ : List String) (name : String) : Except FileError Place :=
  if name = "" || name = "." then .ok (.directory at_)
  else if name = ".." then .ok (.directory at_.dropLast)
  else if name.utf8ByteSize > maxName then .error .nameTooLong
  else .ok (folder.look (at_ ++ [name]))

/-- Walks on from a place by names. -/
def walk (folder : Folder) : Place → List String → Except FileError Place
  | place, [] => .ok place
  | place, name :: rest => do
    let next ← folder.step (← place.enter) name
    folder.walk next rest

/-- Where a path starts: at the root if it is absolute. -/
def start (folder : Folder) (path : String) : Except FileError Place :=
  if path.toList.contains '\x00' then .error .nulInPath
  else if path.isEmpty then .error .notFound
  else if path.utf8ByteSize > maxPath then .error .nameTooLong
  else .ok (.directory (if path.startsWith "/" then [] else folder.here))

/-- What a path leads to. -/
def resolve (folder : Folder) (path : String) : Except FileError Place := do
  folder.walk (← folder.start path) (names path)

/-- A path as seen from the root. An absolute path stands for itself, and the empty path for the
directory that relative paths start from. -/
def fromRoot (folder : Folder) (path : String) : String :=
  if path.startsWith "/" then path
  else "/" ++ String.intercalate "/" (folder.here ++ [path])

/-- The bytes of the file at a path. -/
def read (folder : Folder) (path : String) : Except FileError (List UInt8) := do
  match ← folder.resolve path with
  | .file _ bytes => return bytes
  | .directory _ => throw .isDirectory
  | .vacant _ => throw .notFound

/-- The directory of what a path that ends in a slash names. -/
def enterParent (folder : Folder) (path : String) : Except FileError (List String) := do
  let parents := ((names path).reverse.dropWhile (·.isEmpty)).tail.reverse
  (← folder.walk (← folder.start path) parents).enter

/-- Puts a file in place of what lies at a path. A path that ends in a slash names a directory,
whatever lies there. -/
def write (folder : Folder) (path : String) (bytes : List UInt8) : Except FileError Folder := do
  if path.endsWith "/" then
    discard (folder.enterParent path)
    throw .isDirectory
  match ← folder.resolve path with
  | .directory _ => throw .isDirectory
  | .file at_ _ | .vacant at_ =>
    return { folder with files := (at_, bytes) :: folder.files.filter (·.1 ≠ at_) }

end Folder

end DeviceSlots.Command
