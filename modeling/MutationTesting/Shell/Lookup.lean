import MutationTesting.Shell.Variable

/-!
# Looking up commands

What a name stands for where a command begins: a reserved word, an alias, a function, a command of
the shell itself, or a program that is searched for in directories.
-/

namespace MutationTesting.Shell

/-- The commands that are built into the shell. -/
def builtinNames : List String :=
  specialCommands ++ ordinaryCommands

/-! ## Programs -/

/-- The directories in which programs are searched for if the usual ones are asked for. -/
def usualPath : String :=
  "/usr/local/sbin:/usr/local/bin:/usr/sbin:/usr/bin:/sbin:/bin"

/-- The paths under which a program may be found. -/
def candidates (path name : String) : List String :=
  if name.toList.contains '/' then [name]
  else (path.splitOn ":").map fun directory =>
    if directory == "" then name else directory ++ "/" ++ name

/-- A path leads to a file. -/
def isFile (st : State) (path : String) : Bool :=
  match st.find path with
  | .ok .directory => false
  | .ok _ => true
  | .error _ => false

/-- A path leads to a file that can be run. -/
def isRunnable (st : State) (path : String) : Bool :=
  match st.find path with
  | .ok (.file _ executable) => executable
  | .ok .runner => true
  | _ => false

/-- The directories in which a shell searches for programs. -/
def State.searchPath (st : State) : String :=
  (st.get? "PATH").getD ""

/-- The path of a program, if there is one. -/
def programPath? (st : State) (path name : String) : Option String :=
  if name.toList.contains '/' then
    if (st.find name).toOption.isSome then some name else none
  else (candidates path name).find? (isFile st)

/-! ## Names of commands -/

/-- What a name stands for. -/
inductive Meaning where
  /-- A reserved word. -/
  | keyword
  /-- A text. -/
  | alias (text : String)
  /-- A function. -/
  | function
  /-- A command on which the shell depends. -/
  | special
  /-- Another command of the shell. -/
  | builtin
  /-- A program, which may have been found before. -/
  | program (path : String) (isFound : Bool)
  /-- Nothing. -/
  | unknown
  deriving DecidableEq, Repr

/-- What a name stands for if programs are searched for on a path. -/
def meaning (st : State) (path name : String) : Meaning :=
  if reservedWords.contains name then .keyword
  else match st.aliases.lookup name with
    | some text => .alias text
    | none =>
      if (st.functions.lookup name).isSome then .function
      else if specialCommands.contains name then .special
      else if builtinNames.contains name then .builtin
      else match programPath? st path name with
        | some path => .program path (st.found.contains name)
        | none => .unknown

namespace Meaning

/-- What a name stands for, for users. -/
def describe (m : Meaning) (name : String) : String :=
  match m with
  | .keyword => name ++ " is a shell keyword"
  | .alias text => name ++ " is an alias for " ++ text
  | .function => name ++ " is a shell function"
  | .special => name ++ " is a special shell builtin"
  | .builtin => name ++ " is a shell builtin"
  | .program path isFound => name ++ (if isFound then " is a tracked alias for " else " is ") ++ path
  | .unknown => name ++ ": not found"

/-- How a name would be carried out, in short; nothing if it would not. -/
def inShort (m : Meaning) (name : String) : String :=
  match m with
  | .alias text => "alias " ++ listedAlias name text ++ "\n"
  | .program path _ => path ++ "\n"
  | .unknown => ""
  | _ => name ++ "\n"

end Meaning

/-- The state in which the program of a name has been found. -/
def State.remember (st : State) (m : Meaning) (name : String) : State :=
  match m with
  | .program _ false => if name.toList.contains '/' then st else { st with found := name :: st.found }
  | _ => st

/-- Says how a name would be carried out. -/
def describeName (isShort : Bool) (path name : String) (st : State) : State :=
  let m := meaning st path name
  let st := (st.print (if isShort then m.inShort name else m.describe name ++ "\n")).remember m name
  if m = .unknown then st.withStatus 127 else st

/-- Says of each name how it would be carried out. -/
def describeAll (names : List String) (st : State) : State :=
  names.foldl (fun st name => describeName false st.searchPath name st) (st.withStatus 0)

/-- Prints the paths of the programs of names; the status tells whether all have been found. -/
def showPaths (path : String) (args : List String) (st : State) : State :=
  let (options, names) := args.partition (·.startsWith "-")
  let found := names.map fun name => (candidates path name).filter (isRunnable st)
  let shown := found.flatMap fun paths => if options.contains "-a" then paths else paths.take 1
  (st.print (String.join (shown.map (· ++ "\n")))).withStatus
    (if names.isEmpty || found.any (·.isEmpty) then 1 else 0)

/-- Searches for the programs of names, or lists those that have been found. -/
def hashNames (args : List String) (st : State) : State :=
  withOptions "hash" ['r'] args st fun letters names =>
    let st := st.withStatus 0
    let st := if letters.contains 'r' then { st with found := [] } else st
    if names.isEmpty && letters.isEmpty then
      st.print (String.join (st.found.map fun name =>
        ((programPath? st st.searchPath name).map (· ++ "\n")).getD ""))
    else names.foldl (fun st name =>
      match meaning st st.searchPath name with
      | .unknown => (st.report (name ++ ": not found")).withStatus 1
      | m => st.remember m name) st

end MutationTesting.Shell
