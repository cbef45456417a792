import MutationTesting.Storage.Path

/-!
# Disk

The files that a run reads and writes: a tree of directories and files, and the directory from which
relative paths are read. Operations fail for the reasons for which a file system refuses them.
-/

namespace MutationTesting

/-- Why the system refuses an operation. -/
inductive IoError where
  | notFound
  | permissionDenied
  | alreadyExists
  | notDirectory
  | isDirectory
  | nameTooLong
  | badFormat
  | invalidText
  | nulInPath
  | nulInData
  deriving DecidableEq, Repr

namespace IoError

/-- A refusal as users read it. -/
def message : IoError → String
  | .notFound => "No such file or directory (os error 2)"
  | .permissionDenied => "Permission denied (os error 13)"
  | .alreadyExists => "File exists (os error 17)"
  | .notDirectory => "Not a directory (os error 20)"
  | .isDirectory => "Is a directory (os error 21)"
  | .nameTooLong => "File name too long (os error 36)"
  | .badFormat => "Exec format error (os error 8)"
  | .invalidText => "stream did not contain valid UTF-8"
  | .nulInPath => "file name contained an unexpected NUL byte"
  | .nulInData => "nul byte found in provided data"

end IoError

/-- What stands at a place of the tree. -/
inductive Node where
  /-- A text, possibly one that may be run. -/
  | file (content : String) (executable : Bool)
  /-- The program that runs linked images. -/
  | runner
  /-- A directory. -/
  | directory
  deriving DecidableEq, Repr

/-- A tree of files. -/
structure Disk where
  /-- Every node with its names from the root. -/
  nodes : List (List String × Node) := []
  /-- The names of the directory from which relative paths are read. -/
  current : List String := []

namespace Disk

/-- The node at a place; the root is a directory. -/
def node? (d : Disk) (place : List String) : Option Node :=
  if place = [] then some .directory else d.nodes.lookup place

/-- The disk with a node at a place. -/
def put (d : Disk) (place : List String) (node : Node) : Disk :=
  { d with nodes := (place, node) :: d.nodes.filter (·.1 != place) }

/-! ## From paths to places -/

/-- The longest name of a file, in bytes. -/
def maxNameBytes : Nat :=
  255

/-- The longest path, in bytes. -/
def maxPathBytes : Nat :=
  4095

/-- Steps from a directory to the place of a name, which may not exist. -/
def step (place : List String) (name : String) : Except IoError (List String) :=
  if name = ".." then .ok place.dropLast
  else if maxNameBytes < name.utf8ByteSize then .error .nameTooLong
  else .ok (place ++ [name])

/-- Follows names from a directory; all but the last have to lead to directories. -/
def follow (d : Disk) (place : List String) : List String → Except IoError (List String)
  | [] => .ok place
  | [name] => step place name
  | name :: names => do
    let place ← step place name
    match d.node? place with
    | some .directory => d.follow place names
    | some _ => .error .notDirectory
    | none => .error .notFound

/-- The names on a path. -/
def namesOf (path : String) : List String :=
  (Path.parts path).filter fun part => part != "" && part != "."

/-- The path can only stand for a directory. -/
def namesDirectory (path : String) : Bool :=
  match (Path.parts path).getLast? with
  | some last => last == "" || last == "." || last == ".."
  | none => true

/-- The directory from which a path is read. -/
def base (d : Disk) (path : String) : List String :=
  if Path.isAbsolute path then [] else d.current

/-- The place of a path. -/
def place (d : Disk) (path : String) : Except IoError (List String) :=
  if path.toList.contains '\x00' then .error .nulInPath
  else if path = "" then .error .notFound
  else if maxPathBytes < path.utf8ByteSize then .error .nameTooLong
  else d.follow (d.base path) (namesOf path)

/-- The node of a path. -/
def find (d : Disk) (path : String) : Except IoError Node := do
  match d.node? (← d.place path) with
  | none => .error .notFound
  | some .directory => return .directory
  | some node => if namesDirectory path then .error .notDirectory else return node

/-! ## Reading and writing -/

/-- The text of a file. -/
def read (d : Disk) (path : String) : Except IoError String := do
  match ← d.find path with
  | .file content _ => return content
  | .runner => .error .invalidText
  | .directory => .error .isDirectory

/-- Writes a text to a file, which is created if need be and keeps its permission else. -/
def write (d : Disk) (path content : String) : Except IoError Disk := do
  let place ← d.place path
  match d.node? place with
  | some .directory => .error .isDirectory
  | some (.file _ executable) =>
    if namesDirectory path then .error .notDirectory
    else return d.put place (.file content executable)
  | some .runner =>
    if namesDirectory path then .error .notDirectory
    else return d.put place (.file content true)
  | none =>
    if namesDirectory path then .error .isDirectory
    else return d.put place (.file content false)

/-- Lets a file be run. -/
def makeExecutable (d : Disk) (path : String) : Except IoError Disk := do
  let place ← d.place path
  match d.node? place with
  | some (.file content _) => return d.put place (.file content true)
  | some _ => return d
  | none => .error .notFound

/-- Creates the directories that names lead through from a directory. -/
def createFrom (d : Disk) (place : List String) : List String → Except IoError Disk
  | [] => .ok d
  | name :: names => do
    let place ← step place name
    match d.node? place with
    | some .directory => d.createFrom place names
    | some _ => .error (if names.isEmpty then .alreadyExists else .notDirectory)
    | none => (d.put place .directory).createFrom place names

/-- Creates a directory and those above it, as far as they are missing. -/
def createDirectories (d : Disk) (path : String) : Except IoError Disk :=
  if path.toList.contains '\x00' then .error .nulInPath
  else if path = "" then .ok d
  else if maxPathBytes < path.utf8ByteSize then .error .nameTooLong
  else d.createFrom (d.base path) (namesOf path)

end Disk

end MutationTesting
