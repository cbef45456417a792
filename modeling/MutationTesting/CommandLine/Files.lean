import MutationTesting.CommandLine.Run

/-!
# The files of a request

Before a request is answered, the files that it may read are brought onto the disk. Which ones they
are depends on the contents of others: a configuration names modules and programs, and a program may
be a script that names further files.
-/

namespace MutationTesting.CommandLine

/-- The text of a word without expansions. -/
def literal? (w : Shell.Word) : Option String :=
  let literalPart? : Shell.Part → Option (List Char)
    | .text cs _ => some cs
    | _ => none
  (w.mapM literalPart?).map fun parts => String.ofList parts.flatten

/-- The words of a script that can be paths of files elsewhere. -/
def scriptPaths (script : String) : List String :=
  (Shell.tokens script.toList).filterMap fun
    | (.word w, _) => (literal? w).filter fun text => text.toList.contains '/'
    | _ => none

/-- The paths that a file names if it is a script. -/
def namedBy (d : Disk) (path : String) : List String :=
  match d.read path with
  | .ok text => if text.startsWith Launch.shellLine then scriptPaths text else []
  | .error _ => []

/-- The paths that a configuration names, and those that its programs name. -/
def configurationPaths (d : Disk) (c : Configuration) : List String :=
  let programs := c.executable :: c.runtime.toList
  c.bitcode ++ c.precompiledObjects ++ c.dynamicLibraries ++ c.coverageInfo.toList ++ programs
    ++ programs.flatMap (namedBy d)

/-- The paths of the files that a request may read, as far as the files known so far tell. -/
def Request.paths (d : Disk) : Request → List String
  | .run o =>
    let path := o.config.getD usualConfig
    match Configuration.load 1 d path with
    | .ok c => path :: configurationPaths d c
    | .error _ => [path]
  | .execImage image _ => [image]
  | _ => []

/-- The disk with a file at a path and the directories above it; scripts can be run. -/
def addFile (d : Disk) (path text : String) : Disk :=
  let added := do
    let d ← d.createDirectories ("/".intercalate (path.splitOn "/").dropLast)
    let d ← d.write path text
    if text.startsWith Launch.shellLine then d.makeExecutable path else return d
  match added with
  | .ok d => d
  | .error _ => d

/-- The files of a disk that another one has not, or has with another content: their paths, their
contents, and whether they can be run. -/
def changedFiles (before after : Disk) : List (String × String × Bool) :=
  after.nodes.reverse.filterMap fun
    | (place, .file content executable) =>
      if before.nodes.lookup place == some (.file content executable) then none
      else some ("/" ++ "/".intercalate place, content, executable)
    | _ => none

/-- The variables of an environment whose entries are separated by NUL. -/
def parseEnvironment (text : String) : Environment :=
  (text.splitOn "\x00").filterMap fun entry =>
    match entry.splitOn "=" with
    | name :: value :: rest => some (name, "=".intercalate (value :: rest))
    | _ => none

end MutationTesting.CommandLine
