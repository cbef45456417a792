import MutationTesting.Shell.Condition
import MutationTesting.Shell.Format
import MutationTesting.Shell.Input
import MutationTesting.Shell.Lookup
import MutationTesting.Shell.Setting
import MutationTesting.Shell.Trap

/-!
# Commands of the shell itself

The commands that look at or change the state of the shell: its arguments, its control and its
directory, and those that other modules carry out.
-/

namespace MutationTesting.Shell

/-! ## Control -/

/-- Leaves loops, or goes on with one. -/
def leaveLoops (command : String) (control : Nat → Control) (args : List String) (st : State) :
    State :=
  withNumber command 1 args st fun n =>
    if n = 0 then st.refuse command ("Illegal number: " ++ args.headD "")
    else if st.loops = 0 then st.withStatus 0
    else { st with status := 0, control := control (min n st.loops) }

/-- Drops the first arguments. -/
def shiftArgs (args : List String) (st : State) : State :=
  withNumber "shift" 1 args st fun n =>
    if n ≤ st.args.length then (st.withArgs (st.args.drop n)).withStatus 0
    else st.refuse "shift" "can't shift that many"

/-! ## The directory -/

/-- The state in another directory. -/
def State.enter (st : State) (place : List String) : State :=
  let st := exportName "OLDPWD" (st.set "OLDPWD" ((st.get? "PWD").getD st.directory))
  let st := { st with disk := { st.disk with current := place } }
  exportName "PWD" (st.set "PWD" st.directory)

/-- The place of a directory, if a path leads to one. -/
def directory? (st : State) (path : String) : Option (List String) := do
  let place ← (st.place path).toOption
  if st.disk.node? place == some .directory then some place else none

/-- Changes the directory from which relative paths are read. -/
def changeDirectory (args : List String) (st : State) : State :=
  withOptions "cd" ['L', 'P'] args st fun _ args =>
    let tell (st : State) : State := (st.print (st.directory ++ "\n")).withStatus 0
    let enter (target : String) : State :=
      if target == "" then st.withStatus 0
      else match directory? st target with
        | some place => (st.enter place).withStatus 0
        | none => st.refuse "cd" ("can't cd to " ++ target)
    match args with
    | [] => enter ((st.get? "HOME").getD "")
    | "-" :: _ =>
      let st := enter ((st.get? "OLDPWD").getD "")
      if st.status = 0 then tell st else st
    | target :: _ =>
      let isPlain := target != "" && ! [".", "..", ""].contains ((target.splitOn "/").headD "")
      let bases := if isPlain then ((st.get? "CDPATH").getD "").splitOn ":" else []
      match bases.findSome? fun base =>
          (directory? st (if base == "" then target else base ++ "/" ++ target)).map (base, ·) with
      | some (base, place) =>
        let st := st.enter place
        if base == "" then st.withStatus 0 else tell st
      | none => enter target

/-- Prints the directory from which relative paths are read. -/
def printDirectory (args : List String) (st : State) : State :=
  withOptions "pwd" ['L', 'P'] args st fun _ _ => (st.print (st.directory ++ "\n")).withStatus 0

/-! ## Limits -/

/-- Shows a limit of the system, or leaves it as it is. -/
def showLimits (args : List String) (st : State) : State :=
  withOptions "ulimit" "HSatfdscmlpnvwr".toList args st fun _ args =>
    (if args.isEmpty then st.print "unlimited\n" else st).withStatus 0

/-! ## Waiting -/

/-- Waits for the commands that were not waited for before, or for those of some processes. -/
def awaitJobs (args : List String) (st : State) : State :=
  if args.isEmpty then
    (st.jobs.foldl State.await st).withStatus 0
  else args.foldl (fun st arg =>
    if !st.isRunning then st
    else
      match st.job? arg with
      | some job => st.await job
      | none =>
        if arg.startsWith "%" then st.refuse "wait" ("No such job: " ++ arg)
        else if (number? arg).isNone then st.refuse "wait" ("Illegal number: " ++ arg)
        else st.withStatus 127) st

/-- What a command that is not waited for does, as users read it, and whether it has ended. -/
def Job.stateText (j : Job) (now : Nat) : String × Bool :=
  if j.until?.any (· ≤ now) then
    (match Signal.all.find? fun s => s.status == j.status && s.description != "" with
      | some s => s.description
      | none => if j.status = 0 then "Done" else "Done(" ++ j.status.repr ++ ")", true)
  else ("Running", false)

/-- Lists the commands that are not waited for, the last one first; those that have ended are
forgotten. -/
def listJobs (args : List String) (st : State) : State :=
  withOptions "jobs" ['l', 'p'] args st fun letters _ =>
    let numbered := st.jobs.zipIdx.map fun (j, i) => (j, st.jobs.length - i)
    let (lines, _) := numbered.foldl (fun (acc : List String × Nat) (j, n) =>
      let (text, isOver) := j.stateText st.slept
      let mark := if acc.2 = 0 then "+" else if acc.2 = 1 then "-" else " "
      let number := if letters.contains 'l' then j.process.repr ++ " " else ""
      let line := "[" ++ n.repr ++ "] " ++ mark ++ " " ++ number ++ text
      let line := if letters.contains 'p' then j.process.repr
        else line ++ String.ofList (List.replicate (33 - line.length) ' ')
      (line :: acc.1, if isOver then acc.2 else acc.2 + 1)) ([], 0)
    let jobs := st.jobs.filter fun j => !(j.stateText st.slept).2
    { st with jobs }.print (String.join (lines.reverse.map (· ++ "\n"))) |>.withStatus 0

/-! ## All of them -/

/-- Tests a condition between brackets. -/
def bracket (args : List String) (st : State) : State :=
  if args.getLast? == some "]" then test "[" args.dropLast st else st.refuse "[" "missing ]"

/-- Sets what the shell does by itself and its arguments, or lists variables. -/
def setAll (args : List String) (st : State) : State :=
  if args.isEmpty then listVariables st else setOptions (args.length + 1) args (st.withStatus 0)

/-- Prints the times that the shell and its commands took. -/
def printTimes (_ : List String) (st : State) : State :=
  let line := "0m0.000000s 0m0.000000s\n"
  (st.print (line ++ line)).withStatus 0

/-- The command of a name that is built into the shell and needs nothing but its state, if there is
one. -/
def builtin? (command : String) : Option (List String → State → State) :=
  match command with
  | ":" => some fun _ st => st.withStatus 0
  | "true" => some fun _ st => st.withStatus 0
  | "false" => some fun _ st => st.withStatus 1
  | "echo" => some echo
  | "printf" => some printFormat
  | "test" => some (test "test")
  | "[" => some bracket
  | "exit" => some fun args st => withNumber "exit" st.status args st fun n => st.exit (n % 256)
  | "return" => some fun args st =>
    withNumber "return" st.status args st fun n => { st with status := n, control := .back }
  | "break" => some (leaveLoops "break" .leave)
  | "continue" => some (leaveLoops "continue" .again)
  | "shift" => some shiftArgs
  | "export" => some fun args st => declareOrList "export" exportName st.exported args st
  | "readonly" => some fun args st => declareOrList "readonly" fixName st.fixed args st
  | "local" => some makeLocal
  | "unset" => some unsetAll
  | "set" => some setAll
  | "getopts" => some findOption
  | "read" => some readLineInto
  | "trap" => some setTraps
  | "umask" => some setMask
  | "ulimit" => some showLimits
  | "wait" => some awaitJobs
  | "times" => some printTimes
  | "pwd" => some printDirectory
  | "cd" => some changeDirectory
  | "chdir" => some changeDirectory
  | "type" => some describeAll
  | "hash" => some hashNames
  | "alias" => some setAliases
  | "unalias" => some unsetAliases
  | "jobs" => some listJobs
  | "bg" => some fun _ st => st.refuse "bg" "No current job"
  | "fg" => some fun _ st => st.refuse "fg" "No current job"
  | _ => none

end MutationTesting.Shell
