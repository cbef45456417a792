import MutationTesting.CommandLine.Files

/-!
# The program

Brings the files of a request onto the disk, answers it, and writes what has changed. Mutants and
scripts are run by the machine and the shell of this library.
-/

namespace MutationTesting.CommandLine

/-- The content of a file, if it can be read. -/
def readFile? (path : String) : IO (Option String) := do
  try
    return some (← IO.FS.readFile path)
  catch _ =>
    return none

/-- The disk with the files of a request, in so many rounds. -/
def fetch (request : Request) : Nat → Disk → IO Disk
  | 0, d => return d
  | rounds + 1, d => do
    let missing := (request.paths d).filter fun path => (d.find path).toOption.isNone
    let d ← missing.foldlM (fun d path => do
      match ← readFile? path with
      | some text => return addFile d path text
      | none => return d) d
    fetch request rounds d

/-- The number of processors. -/
def processors : IO UInt64 := do
  match ← readFile? "/proc/cpuinfo" with
  | some text =>
    let lines := (text.splitOn "\n").filter (·.startsWith "processor")
    return UInt64.ofNat (max 1 lines.length)
  | none => return 1

/-- Writes a file and the directories above it. -/
def writeFile (path content : String) (executable : Bool) : IO Unit := do
  IO.FS.createDirAll ("/".intercalate (path.splitOn "/").dropLast)
  IO.FS.writeFile path content
  if executable then
    let rights : IO.AccessRight := { read := true, execution := true }
    IO.setAccessRights path { user := { rights with write := true }, group := rights, other := rights }

/-- The code that a shell would report for a way to end. -/
def codeOf : Exit → UInt32
  | .code n => UInt32.ofNat n
  | .signal => 134
  | .never => 124

/-- Answers a command line in the surroundings of the process. -/
def serve (args : List String) : IO UInt32 := do
  let program := toString (← IO.appPath)
  let current := Disk.namesOf (toString (← IO.currentDir))
  let workDirectory := "/tmp/mutants-" ++ toString (← IO.monoNanosNow)
  let start : Disk := { current }
  let start := addFile start program ""
  let start := start.put (Disk.namesOf program) .runner
  let start := (start.createDirectories "/tmp").toOption.getD start
  let start := (start.createFrom [] current).toOption.getD start
  let disk ← match Request.ofArgs? args with
    | some request => fetch request 4 start
    | none => pure start
  let env := parseEnvironment ((← readFile? "/proc/self/environ").getD "")
  let stdout ← IO.getStdout
  let a := answer {
    disk, env, program, workDirectory
    workers := ← processors
    sandboxDirectory := Disk.namesOf workDirectory ++ ["sandbox"]
    colours := !env.has "NO_COLOR" && (← stdout.isTty) } args
  for (path, content, executable) in changedFiles disk a.disk do
    unless path.startsWith workDirectory do
      writeFile path content executable
  for m in a.messages do
    IO.eprintln ("[" ++ m.severity.name ++ "] " ++ m.text)
  stdout.putStr a.stdout
  stdout.flush
  IO.eprint a.stderr
  return codeOf a.exit

end MutationTesting.CommandLine

/-- Answers the command line. -/
def main (args : List String) : IO UInt32 :=
  MutationTesting.CommandLine.serve args
