import DeviceGateway.Bytes.Utf8
import DeviceGateway.Text.Split

/-!
# Files

Files and directories by path. A path is followed part by part from the working directory or, if it
starts with a slash, from the root; every directory that it goes through must be there, also one
that it leaves again. Empty parts and single dots count for nothing.
-/

namespace DeviceGateway

inductive FileEntry where
  | file (content : Bytes)
  | directory
  deriving DecidableEq, Repr

inductive FileFault where
  | missing
  | isDirectory
  | notDirectory
  | exists
  | badName
  | notText
  | denied
  | readOnly
  | noRoom
  deriving DecidableEq, Repr

def FileFault.message : FileFault → String
  | .missing => "No such file or directory (os error 2)"
  | .isDirectory => "Is a directory (os error 21)"
  | .notDirectory => "Not a directory (os error 20)"
  | .exists => "File exists (os error 17)"
  | .badName => "file name contained an unexpected NUL byte"
  | .notText => "stream did not contain valid UTF-8"
  | .denied => "Permission denied (os error 13)"
  | .readOnly => "Read-only file system (os error 30)"
  | .noRoom => "No space left on device (os error 28)"

abbrev FilePath := List String

/-- What keeps a place from being written: it is refused, or it takes only so many octets before it
fails. -/
inductive Hindrance where
  | refused (fault : FileFault)
  | cut (stored : Nat) (fault : FileFault)
  deriving DecidableEq, Repr

def Hindrance.fault : Hindrance → FileFault
  | refused fault => fault
  | cut _ fault => fault

abbrev Hindrances := FilePath → Option Hindrance

def Hindrances.nowhere : Hindrances := fun _ => none

/-- Files and directories by place; the working directory is the empty place. -/
structure FileTree where
  entries : List (FilePath × FileEntry)
  deriving DecidableEq, Repr

namespace FileTree

/-! ### Paths -/

/-- The part for the root, which no name is. -/
def rootPart : String := "/"

/-- The part that leads above the working directory, which no name is. -/
def parentPart : String := ".."

def parentOf (parts : FilePath) : FilePath :=
  if parts = [rootPart] then parts
  else if parts.getLast?.all (· == parentPart) then parts ++ [parentPart]
  else parts.dropLast

def enter (parts : FilePath) (part : List Char) : FilePath :=
  if part = [] ∨ part = ['.'] then parts
  else if part = ['.', '.'] then parentOf parts
  else parts ++ [String.ofList part]

def startOf (path : String) : FilePath :=
  if path.toList.head? = some '/' then [rootPart] else []

def partsOf (path : String) : FilePath :=
  (Text.splitOn '/' path.toList).foldl enter (startOf path)

/-! ### Looking -/

/-- The root, the working directory and those above it. -/
def isAlwaysThere (parts : FilePath) : Bool := parts == [rootPart] || parts.all (· == parentPart)

def at? (t : FileTree) (parts : FilePath) : Option FileEntry :=
  if isAlwaysThere parts then some .directory else t.entries.lookup parts

def isBelowFile (t : FileTree) (parts : FilePath) : Bool :=
  (List.range parts.length).any fun n =>
    match t.at? (parts.take n) with
    | some (.file _) => true
    | _ => false

/-- Where parts of a path lead from a place, if all directories on the way are there. -/
def follow (t : FileTree) (place : FilePath) : List (List Char) → Except FileFault FilePath
  | [] => .ok place
  | part :: rest =>
    match t.at? place with
    | some .directory => follow t (enter place part) rest
    | some (.file _) => .error .notDirectory
    | none => .error .missing

/-- Where a path leads, if all directories on the way are there. -/
def resolve (t : FileTree) (path : String) : Except FileFault FilePath :=
  if path.toList.contains '\x00' then .error .badName
  else if path.isEmpty then .error .missing
  else t.follow (startOf path) (Text.splitOn '/' path.toList)

/-- What a path leads to, or why it leads nowhere. -/
def find (t : FileTree) (path : String) : Except FileFault FileEntry :=
  match t.resolve path with
  | .error f => .error f
  | .ok parts =>
    match t.at? parts with
    | some e => .ok e
    | none => .error .missing

def read (t : FileTree) (path : String) : Except FileFault Bytes :=
  match t.find path with
  | .ok (.file content) => .ok content
  | .ok .directory => .error .isDirectory
  | .error e => .error e

def readText (t : FileTree) (path : String) : Except FileFault String :=
  match t.read path with
  | .error e => .error e
  | .ok content =>
    match Utf8.decodeText? content with
    | some s => .ok s
    | none => .error .notText

/-! ### Writing -/

def put (t : FileTree) (parts : FilePath) (e : FileEntry) : FileTree :=
  ⟨(parts, e) :: t.entries.filter (·.1 != parts)⟩

/-- Store a content at a place; what a hindrance lets through stays. -/
def store (t : FileTree) (parts : FilePath) (content : Bytes) :
    Option Hindrance → FileTree × Except FileFault Unit
  | none => (t.put parts (.file content), .ok ())
  | some (.refused fault) => (t, .error fault)
  | some (.cut stored fault) =>
    if content.length ≤ stored then (t.put parts (.file content), .ok ())
    else (t.put parts (.file (content.take stored)), .error fault)

def write (t : FileTree) (hindered : Hindrances) (path : String) (content : Bytes) :
    FileTree × Except FileFault Unit :=
  match t.resolve path with
  | .error f => (t, .error f)
  | .ok parts =>
    match t.at? parts with
    | some .directory => (t, .error .isDirectory)
    | _ => t.store parts content (hindered parts)

/-- Make the directories that parts of a path lead through; those made before a fault stay. -/
def makeAlong (t : FileTree) (hindered : Hindrances) (place : FilePath) :
    List (List Char) → FileTree × Except FileFault Unit
  | [] => (t, .ok ())
  | part :: rest =>
    let next := enter place part
    match t.at? next with
    | some .directory => makeAlong t hindered next rest
    | some (.file _) =>
      (t, .error (if rest.all fun p => p == [] || p == ['.'] then .exists else .notDirectory))
    | none =>
      match hindered next with
      | some h => (t, .error h.fault)
      | none => makeAlong (t.put next .directory) hindered next rest

def makeDirectories (t : FileTree) (hindered : Hindrances) (path : String) :
    FileTree × Except FileFault Unit :=
  if path.toList.contains '\x00' then (t, .error .badName)
  else t.makeAlong hindered (startOf path) (Text.splitOn '/' path.toList)

/-- Make the first directories of a place, where nothing is in the way. -/
def makeParts (t : FileTree) (parts : FilePath) (n : Nat) : Except FileFault FileTree :=
  match t.makeAlong .nowhere [] ((parts.take n).map String.toList) with
  | (t, .ok _) => .ok t
  | (_, .error f) => .error f

def join (directory name : String) : String :=
  if name.toList.head? = some '/' then name
  else if directory.isEmpty then name
  else if directory.toList.getLast? = some '/' then directory ++ name
  else directory ++ "/" ++ name

def filePaths (t : FileTree) : List String :=
  t.entries.filterMap fun e =>
    match e.2 with
    | .file _ => some (String.intercalate "/" e.1)
    | .directory => none

end FileTree
end DeviceGateway
