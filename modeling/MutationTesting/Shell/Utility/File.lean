import MutationTesting.Shell.Glob
import MutationTesting.Shell.Utility.Path

/-!
# Files and directories

Utilities that create, copy, move, remove and list files and directories.
-/

namespace MutationTesting.Shell.Utility

/-- The node of a path, if there is one. -/
def nodeAt? (st : State) (path : String) : Option Node :=
  (st.find path).toOption

/-- A path leads to a directory. -/
def isDirectory (st : State) (path : String) : Bool :=
  nodeAt? st path == some .directory

/-- The path of a name in a directory. -/
def inDirectory (directory name : String) : String :=
  if directory.endsWith "/" then directory ++ name else directory ++ "/" ++ name

/-- Does something with each operand of a request, of which there has to be one. -/
def onOperands (utility : String) (g : Grammar) (args : List String)
    (act : Request → State → String → State) (st : State) : State :=
  withRequest utility 1 g args st fun r st =>
    if r.operands.isEmpty then
      if r.has 'f' then st else fault utility ("missing operand" ++ hint utility) st
    else r.operands.foldl (act r) st

/-! ## Creating -/

/-- Creates files that are not there. -/
def touch (args : List String) (st : State) : State :=
  let g : Grammar := { flags := "acmh", valued := "dtr", names := [("no-create", 'c')] }
  withRequest "touch" 1 g args st fun r st =>
    if r.operands.isEmpty then fault "touch" ("missing file operand" ++ hint "touch") st
    else r.operands.foldl (fun st path =>
      if (nodeAt? st path).isSome || r.has 'c' then st
      else match st.writeFile path "" with
        | .ok st => st
        | .error reason =>
          let reason := match reason with
            | .isDirectory => .notFound
            | reason => reason
          fault "touch" ("cannot touch " ++ inQuotes path ++ ": " ++ ioText reason) st) st

/-- Creates directories, and those above them if asked. -/
def makeDirectories (args : List String) (st : State) : State :=
  let g : Grammar :=
    { flags := "pv", valued := "m", names := [("parents", 'p'), ("verbose", 'v'), ("mode", 'm')] }
  onOperands "mkdir" g args (fun r st path =>
    let refuse (reason : IoError) : State :=
      fault "mkdir" ("cannot create directory " ++ inQuotes path ++ ": " ++ ioText reason) st
    let told (st : State) : State :=
      if r.has 'v' then st.print ("mkdir: created directory " ++ inQuotes path ++ "\n") else st
    if r.has 'p' then
      match st.disk.createDirectories (Octets.toText path) with
      | .ok disk => if isDirectory st path then st else told { st with disk }
      | .error reason => refuse reason
    else match st.place path with
      | .error reason => refuse reason
      | .ok place =>
        match st.disk.node? place with
        | some _ => refuse .alreadyExists
        | none => told { st with disk := st.disk.put place .directory }) st

/-- The first name of files that exist for a while only, by a number. -/
def temporaryName (template : String) (n : Nat) : String :=
  let digits := Nat.toDigits 36 (n + 50000)
  let marks := (template.toList.reverse.takeWhile (· == 'X')).length
  let filled := List.replicate (marks - digits.length) 'a' ++ digits
  String.ofList (template.toList.take (template.length - marks) ++ filled.drop (filled.length - marks))

/-- Creates a file or directory with a name of its own, and prints the name. -/
def makeTemporary (args : List String) (st : State) : State :=
  let g : Grammar :=
    { flags := "dqtu", valued := "p", names := [("directory", 'd'), ("dry-run", 'u'), ("tmpdir", 'p')] }
  withRequest "mktemp" 1 g args st fun r st =>
    let directory := match r.value? 'p' with
      | some directory => some directory
      | none => if r.operands.isEmpty || r.has 't' then some "/tmp" else none
    let template := r.operands.headD "tmp.XXXXXXXXXX"
    if (template.toList.reverse.takeWhile (· == 'X')).length < 3 then
      fault "mktemp" ("too few X's in template " ++ inQuotes template) st
    else
      let path (n : Nat) : String :=
        let name := temporaryName template n
        match directory with
        | some directory => inDirectory directory name
        | none => name
      let free := ((List.range (st.disk.nodes.length + 1)).find? fun n =>
        (nodeAt? st (path n)).isNone).getD 0
      let name := path free
      let made : Except IoError State :=
        if r.has 'u' then .ok st
        else if r.has 'd' then do
          let place ← st.place name
          return { st with disk := st.disk.put place .directory }
        else st.writeFile name ""
      match made with
      | .ok st => st.print (name ++ "\n")
      | .error reason =>
        fault "mktemp" ("failed to create " ++ (if r.has 'd' then "directory" else "file")
          ++ " via template " ++ inQuotes template ++ ": " ++ ioText reason) st

/-! ## Removing -/

/-- The disk without what stands at a place and below. -/
def removeTree (st : State) (place : List String) : State :=
  { st with disk := { st.disk with nodes := st.disk.nodes.filter fun n => !place.isPrefixOf n.1 } }

/-- Removes files, and directories with what is in them if asked. -/
def remove (args : List String) (st : State) : State :=
  let g : Grammar :=
    { flags := "dfiIrRv"
      names := [("force", 'f'), ("recursive", 'r'), ("verbose", 'v'), ("dir", 'd')] }
  let g := { g with names := g.names ++ [("interactive", 'i')] }
  onOperands "rm" g args (fun r st path =>
    let refuse (reason : String) : State :=
      fault "rm" ("cannot remove " ++ inQuotes path ++ ": " ++ reason) st
    let isRecursive := r.has 'r' || r.has 'R'
    let told (text : String) (st : State) : State := if r.has 'v' then st.print (text ++ "\n") else st
    match st.place path, st.find path with
    | .ok place, .ok .directory =>
      if !isRecursive && !r.has 'd' then refuse "Is a directory"
      else if place == [] then
        (st.complain ("rm: it is dangerous to operate recursively on '/'\n"
          ++ "rm: use --no-preserve-root to override this failsafe\n")).withStatus 1
      else if [".", ".."].contains (lastName path "") then
        fault "rm" ("refusing to remove '.' or '..' directory: skipping " ++ inQuotes path) st
      else if !isRecursive && !(st.namesIn place).isEmpty then refuse "Directory not empty"
      else told ("removed directory " ++ inQuotes path) (removeTree st place)
    | .ok place, .ok _ => told ("removed " ++ inQuotes path) (removeTree st place)
    | _, .error .notFound => if r.has 'f' then st else refuse (ioText .notFound)
    | _, .error reason => refuse (ioText reason)
    | .error reason, _ => refuse (ioText reason)) st

/-- The paths of a directory and those above it on a path. -/
def pathsAbove : Nat → String → List String
  | 0, path => [path]
  | bound + 1, path =>
    let above := directoryOf path
    if above == "." || above == "/" || above == path then [path] else path :: pathsAbove bound above

/-- Removes empty directories, and those above them on their paths if asked. -/
def removeDirectories (args : List String) (st : State) : State :=
  let g : Grammar := { flags := "pv", names := [("parents", 'p'), ("verbose", 'v')] }
  onOperands "rmdir" g args (fun r st path =>
    let paths := if r.has 'p' then pathsAbove path.length path else [path]
    (paths.foldl (fun (acc : State × Bool) path =>
      let (st, goesOn) := acc
      let refuse (reason : String) : State × Bool :=
        (fault "rmdir" ("failed to remove " ++ inQuotes path ++ ": " ++ reason) st, false)
      if !goesOn then acc
      else
        let st := if r.has 'v' then st.print ("rmdir: removing directory, " ++ inQuotes path ++ "\n")
          else st
        match st.place path, st.find path with
        | .ok place, .ok .directory =>
          if (st.namesIn place).isEmpty then (removeTree st place, true)
          else refuse "Directory not empty"
        | _, .ok _ => refuse "Not a directory"
        | _, .error reason => refuse (ioText reason)) (st, true)).1) st

/-! ## Copying and moving -/

/-- The disk with what stands at a place and below also at another one. -/
def copyTree (st : State) (source target : List String) : State :=
  let copies := st.disk.nodes.filterMap fun n =>
    if source.isPrefixOf n.1 then some (target ++ n.1.drop source.length, n.2) else none
  { st with disk := copies.reverse.foldl (fun d n => d.put n.1 n.2) st.disk }

/-- Copies a file, or a directory with what is in it, to a path. -/
def copyOne (r : Request) (source target : String) (st : State) : State :=
  let isRecursive := ['r', 'R', 'a'].any r.has
  match st.find source, st.place source with
  | .error reason, _ =>
    fault "cp" ("cannot stat " ++ inQuotes source ++ ": " ++ ioText reason) st
  | .ok .directory, .ok from' =>
    if !isRecursive then
      fault "cp" ("-r not specified; omitting directory " ++ inQuotes source) st
    else match nodeAt? st target, st.place target with
      | some (.file _ _), _ =>
        fault "cp" ("cannot overwrite non-directory " ++ inQuotes target ++ " with directory "
          ++ inQuotes source) st
      | _, .ok place => copyTree st from' place
      | _, .error reason =>
        fault "cp" ("cannot create directory " ++ inQuotes target ++ ": " ++ ioText reason) st
  | .ok node, _ =>
    match st.place target with
    | .error reason =>
      fault "cp" ("cannot create regular file " ++ inQuotes target ++ ": " ++ ioText reason) st
    | .ok place =>
      if (st.place source).toOption == some place then
        fault "cp" (inQuotes source ++ " and " ++ inQuotes target ++ " are the same file") st
      else match st.disk.node? place with
        | some .directory =>
          fault "cp" ("cannot overwrite directory " ++ inQuotes target ++ " with non-directory") st
        | some (.file _ executable) =>
          if r.has 'n' then st
          else
            let copy : Node := match node with
              | .file content _ => .file content executable
              | node => node
            { st with disk := st.disk.put place copy }
        | _ =>
          if target.endsWith "/" then
            fault "cp" ("cannot create regular file " ++ inQuotes target ++ ": Not a directory") st
          else { st with disk := st.disk.put place node }

/-- Moves a file or directory to a path. -/
def moveOne (r : Request) (source target : String) (st : State) : State :=
  let refuse (reason : String) : State :=
    fault "mv" ("cannot move " ++ inQuotes source ++ " to " ++ inQuotes target ++ ": " ++ reason) st
  match st.find source, st.place source, st.place target with
  | .error reason, _, _ =>
    fault "mv" ("cannot stat " ++ inQuotes source ++ ": " ++ ioText reason) st
  | .ok node, .ok from', .ok place =>
    if from' == place then
      fault "mv" (inQuotes source ++ " and " ++ inQuotes target ++ " are the same file") st
    else if from'.isPrefixOf place then
      fault "mv" ("cannot move " ++ inQuotes source ++ " to a subdirectory of itself, "
        ++ inQuotes target) st
    else match node, st.disk.node? place with
      | .directory, some (.file _ _) =>
        fault "mv" ("cannot overwrite non-directory " ++ inQuotes target ++ " with directory "
          ++ inQuotes source) st
      | .directory, some .directory =>
        if (st.namesIn place).isEmpty then copyTree st from' place |> (removeTree · from')
        else refuse "Directory not empty"
      | .directory, _ => removeTree (copyTree st from' place) from'
      | _, some .directory =>
        fault "mv" ("cannot overwrite directory " ++ inQuotes target ++ " with non-directory") st
      | node, existing =>
        if existing.isSome && r.has 'n' then st
        else if existing.isNone && target.endsWith "/" then refuse "Not a directory"
        else removeTree { st with disk := st.disk.put place node } from'
  | _, .error reason, _ => refuse (ioText reason)
  | _, _, .error reason => refuse (ioText reason)

/-- Does something with each source and its target: the last operand, or a name in it if it is a
directory. -/
def toTarget (utility : String) (g : Grammar) (args : List String)
    (act : Request → String → String → State → State) (st : State) : State :=
  withRequest utility 1 g args st fun r st =>
    let operands := match r.value? 't' with
      | some target => r.operands ++ [target]
      | none => r.operands
    match operands.reverse with
    | [] => fault utility ("missing file operand" ++ hint utility) st
    | [source] =>
      fault utility ("missing destination file operand after " ++ inQuotes source ++ hint utility) st
    | target :: sources =>
      let told (source target : String) (st : State) : State :=
        let before := st.status
        let st := act r source target (st.withStatus 0)
        let st := if r.has 'v' && st.status = 0 then
            st.print ((if utility == "mv" then "renamed " else "") ++ inQuotes source ++ " -> "
              ++ inQuotes target ++ "\n") else st
        st.withStatus (max before st.status)
      if isDirectory st target && !r.has 'T' then
        sources.reverse.foldl (fun st source =>
          told source (inDirectory target (lastName source "")) st) st
      else match sources with
        | [source] => told source target st
        | _ =>
          let reason := match st.find target with
            | .ok _ => "Not a directory"
            | .error reason => ioText reason
          fault utility ("target " ++ inQuotes target ++ ": " ++ reason) st

/-- Copies files and directories. -/
def copy (args : List String) (st : State) : State :=
  toTarget "cp"
    { flags := "adfinpPLHrRuvT", valued := "t"
      names := [("recursive", 'r'), ("archive", 'a'), ("force", 'f'), ("no-clobber", 'n'),
        ("verbose", 'v'), ("target-directory", 't'), ("preserve", 'p')] }
    args copyOne st

/-- Moves files and directories. -/
def move (args : List String) (st : State) : State :=
  toTarget "mv"
    { flags := "finuvT", valued := "t"
      names := [("force", 'f'), ("no-clobber", 'n'), ("verbose", 'v'), ("target-directory", 't')] }
    args moveOne st

/-- Gives a file a further name; what stands there is the same at first. -/
def linkOne (r : Request) (source target : String) (st : State) : State :=
  let base := if r.has 's' && !source.startsWith "/" && directoryOf target != "." then
      inDirectory (directoryOf target) source else source
  match st.find base, st.place base, st.place target with
  | .ok _, .ok from', .ok place =>
    if (st.disk.node? place).isSome && !r.has 'f' then
      fault "ln" ("failed to create " ++ (if r.has 's' then "symbolic" else "hard") ++ " link "
        ++ inQuotes target ++ ": File exists") st
    else copyTree (removeTree st place) from' place
  | .error reason, _, _ =>
    if r.has 's' then st
    else fault "ln" ("failed to access " ++ inQuotes source ++ ": " ++ ioText reason) st
  | _, _, _ => fault "ln" ("failed to create link " ++ inQuotes target) st

/-- Gives files further names. -/
def link (args : List String) (st : State) : State :=
  let args := if (args.filter fun a => !a.startsWith "-").length == 1 then args ++ ["."] else args
  toTarget "ln"
    { flags := "fnrsvT", valued := "t", names := [("symbolic", 's'), ("force", 'f')] } args linkOne st

/-! ## Rights -/

/-- A file can be run behind a change of its rights. -/
def executableAfter (mode : String) (executable : Bool) : Option Bool :=
  if mode.toList.all fun c => '0' ≤ c && c ≤ '7' then
    some (mode.toList.reverse.take 3 |>.any fun c => (c.toNat - 48) % 2 == 1)
  else
    (mode.splitOn ",").foldlM (fun executable clause =>
      let who := clause.toList.takeWhile fun c => ['u', 'g', 'o', 'a'].contains c
      match clause.toList.drop who.length with
      | op :: letters =>
        if letters.any fun c => !"rwxXst".toList.contains c then none
        else match op with
          | '+' => some (executable || letters.contains 'x')
          | '-' => some (executable && !letters.contains 'x')
          | '=' => some (letters.contains 'x')
          | _ => none
      | [] => none) executable

/-- Changes the rights of files. -/
def changeMode (args : List String) (st : State) : State :=
  let isMode (arg : String) : Bool := arg.startsWith "-" && (executableAfter arg true).isSome
  let (mode?, rest) := match args with
    | arg :: rest => if isMode arg then (some arg, rest) else (none, args)
    | [] => (none, [])
  withRequest "chmod" 1 { flags := "cfvR", names := [("recursive", 'R')] } rest st fun r st =>
    let operands := mode?.toList ++ r.operands
    match operands with
    | [] => fault "chmod" ("missing operand" ++ hint "chmod") st
    | [mode] => fault "chmod" ("missing operand after " ++ inQuotes mode ++ hint "chmod") st
    | mode :: paths =>
      if (executableAfter mode true).isNone then
        fault "chmod" ("invalid mode: " ++ inQuotes mode ++ hint "chmod") st
      else paths.foldl (fun st path =>
        match st.find path, st.place path with
        | .ok (.file content executable), .ok place =>
          let node := Node.file content ((executableAfter mode executable).getD executable)
          { st with disk := st.disk.put place node }
        | .ok _, _ => st
        | .error reason, _ =>
          fault "chmod" ("cannot access " ++ inQuotes path ++ ": " ++ ioText reason) st) st

/-! ## Listing -/

/-- A name with a mark of what it stands for. -/
def markedName (r : Request) (st : State) (path name : String) : String :=
  match nodeAt? st path with
  | some .directory => if r.has 'F' || r.has 'p' then name ++ "/" else name
  | some (.file _ true) => if r.has 'F' then name ++ "*" else name
  | _ => name

/-- The number of blocks that some bytes take. -/
def blocks (bytes : Nat) : Nat :=
  (bytes + 4095) / 4096 * 4

/-- The size of what a path leads to. -/
def sizeOf (st : State) (path : String) : Nat :=
  match nodeAt? st path with
  | some (.file content _) => (Octets.ofText content).length
  | _ => 4096

/-- The kind and the rights of what a path leads to. -/
def rightsText (st : State) (path : String) : String :=
  match nodeAt? st path with
  | some (.file _ false) => "-rw-r--r--"
  | some .directory => "drwxr-xr-x"
  | _ => "-rwxr-xr-x"

/-- The names of what paths lead to with their rights, owners and sizes. -/
def longLines (st : State) (entries : List (String × String)) : List String :=
  let sizes := entries.map fun e => (sizeOf st e.1).repr
  let width := (sizes.map String.length).foldl max 0
  (entries.zip sizes).map fun ((path, name), size) =>
    rightsText st path ++ (if isDirectory st path then " 2" else " 1") ++ " root root "
      ++ padLeft width size ++ " Jan  1 00:00 " ++ name

/-- Names printed one below the other, or in one line; those of a directory have their blocks in front
if they are long. -/
def printNames (r : Request) (inDirectory : Bool) (entries : List (String × String)) (st : State) :
    State :=
  if r.has 'l' then
    let total := (entries.map fun e =>
      if isDirectory st e.1 then 4 else blocks (sizeOf st e.1)).foldl (· + ·) 0
    let front := if inDirectory then ["total " ++ total.repr] else []
    st.print (String.join ((front ++ longLines st entries).map (· ++ "\n")))
  else if entries.isEmpty then st
  else if r.has 'm' then st.print (", ".intercalate (entries.map (·.2)) ++ "\n")
  else st.print (String.join (entries.map fun e => e.2 ++ "\n"))

/-- The names in a directory that are shown, with their paths. -/
def shownNames (r : Request) (st : State) (path : String) : List (String × String) :=
  match st.place path with
  | .error _ => []
  | .ok place =>
    let names := st.namesIn place
    let names := if r.has 'a' then [".", ".."] ++ names
      else if r.has 'A' then names
      else names.filter fun name => !name.startsWith "."
    let names := names.mergeSort (· ≤ ·)
    (if r.has 'r' then names.reverse else names).map fun name =>
      (inDirectory path name, markedName r st (inDirectory path name) name)

/-- The directories below a directory, each in front of those below it, with a bound on their
depth. -/
def directoriesBelow (r : Request) (st : State) : Nat → String → List String
  | 0, path => [path]
  | bound + 1, path =>
    match st.place path with
    | .error _ => [path]
    | .ok place =>
      let inner := (st.namesIn place).filter fun name =>
        (r.has 'a' || r.has 'A' || !name.startsWith ".") && isDirectory st (inDirectory path name)
      path :: inner.flatMap fun name => directoriesBelow r st bound (inDirectory path name)

/-- Prints the names of files and those in directories. -/
def list (args : List String) (st : State) : State :=
  let g : Grammar :=
    { flags := "1aAdfFghiklmnopqrRsStuUxX"
      names := [("all", 'a'), ("almost-all", 'A'), ("directory", 'd'), ("reverse", 'r'),
        ("recursive", 'R'), ("classify", 'F')] }
  withRequest "ls" 2 g args st fun r st =>
    let paths := (if r.operands.isEmpty then ["."] else r.operands).mergeSort (· ≤ ·)
    let paths := if r.has 'r' then paths.reverse else paths
    let (known, st) := paths.foldl (fun (acc : List String × State) path =>
      match st.find path with
      | .ok _ => (path :: acc.1, acc.2)
      | .error reason =>
        (acc.1, faultWith 2 "ls" ("cannot access " ++ inQuotes path ++ ": " ++ ioText reason) acc.2))
      ([], st)
    let known := known.reverse
    let (directories, files) := known.partition fun path => isDirectory st path && !r.has 'd'
    let st := printNames r false (files.map fun path => (path, markedName r st path path)) st
    let directories := if r.has 'R' then
        directories.flatMap (directoriesBelow r st (st.disk.nodes.length + 1)) else directories
    let headed := 1 < paths.length || r.has 'R'
    (directories.foldl (fun (acc : State × Bool) path =>
      let (st, isFirst) := acc
      let st := if headed then st.print ((if isFirst then "" else "\n") ++ path ++ ":\n") else st
      (printNames r true (shownNames r st path) st, false)) (st, files.isEmpty)).1

end MutationTesting.Shell.Utility
