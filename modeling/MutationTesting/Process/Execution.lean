import MutationTesting.Configuration.Basic
import MutationTesting.Process.Launch

/-!
# Executions

One execution of the program or of a mutant: it passed, failed, crashed or exceeded its time limit,
with what it wrote. A mutant that is only listed has a placeholder for its execution.
-/

namespace MutationTesting

/-- How an execution came out. -/
inductive Status where
  /-- Exit code zero. -/
  | passed
  /-- Another exit code. -/
  | failed
  /-- Ended by a signal. -/
  | crashed
  /-- Stopped at the time limit. -/
  | timedOut
  /-- Not executed at all. -/
  | dryRun
  deriving DecidableEq, Repr

namespace Status

/-- A status as users read it. -/
def text : Status → String
  | .passed => "Passed"
  | .failed => "Failed"
  | .crashed => "Crashed"
  | .timedOut => "Timedout"
  | .dryRun => "DryRun"

end Status

/-- What is known of one execution. -/
structure Execution where
  /-- How it came out. -/
  status : Status
  /-- The exit code, if the process ended by itself. -/
  exitCode : Option Int := none
  /-- The time that it took, in nanoseconds. -/
  runningTime : Nat := 0
  /-- What it wrote to its output, if that was kept. -/
  stdout : String := ""
  /-- What it wrote to its error stream, if that was kept. -/
  stderr : String := ""
  deriving DecidableEq, Repr

namespace Execution

/-- The placeholder for a mutant that is only listed. -/
def dry : Execution :=
  { status := .dryRun }

/-- What is assumed of the unmutated program when it is not run. -/
def assumedPass (time : Nat) : Execution :=
  { status := .passed, exitCode := some 0, runningTime := time }

/-- How an execution came out whose process ended in some way. -/
def classify : Exit → Status × Option Int
  | .code 0 => (.passed, some 0)
  | .code n => (.failed, some n)
  | .signal => (.crashed, none)
  | .never => (.timedOut, none)

/-- The execution of a process that ended in some way; its time counts as none unless it was stopped
at the time limit. -/
def ofEnded (e : Ended) (capture : Bool) (limit : Nat) : Execution :=
  let (status, exitCode) := classify e.exit
  { status, exitCode
    runningTime := if status = .timedOut then limit else 0
    stdout := if capture then Utf8.decodeText e.stdout else ""
    stderr := if capture then Utf8.decodeText e.stderr else "" }

end Execution

/-- The surroundings of the processes that a run starts. -/
structure Surroundings where
  /-- The files. -/
  disk : Disk
  /-- The environment of the run itself. -/
  env : Environment
  /-- The empty directory of an isolated sandbox. -/
  sandboxDirectory : List String

namespace Sandbox

/-- The files and the environment that a process finds in a sandbox. -/
def prepare (s : Sandbox) (around : Surroundings) : Disk × Environment :=
  match s with
  | .none => (around.disk, around.env)
  | .isolated =>
    ({ around.disk.put around.sandboxDirectory .directory with
        current := around.sandboxDirectory },
      around.env.filter (·.1 == "PATH"))

end Sandbox

/-- Runs a program in a sandbox with further variables set: its execution and what is said about it,
or why it cannot be started. -/
def execute (around : Surroundings) (sandbox : Sandbox) (program : String) (args : List String)
    (env : Environment) (timeout : UInt64) (capture : Bool) :
    Except IoError (Execution × List String) := do
  let (disk, inherited) := sandbox.prepare around
  let ended ← Launch.run disk {
    program, args, limit := timeout.toNat
    env := env.foldl (fun env v => env.set v.1 v.2) inherited }
  let execution := Execution.ofEnded ended capture (timeout.toNat * 1000000)
  return (execution,
    if execution.status = .timedOut then [program ++ " timed out"] else [])

end MutationTesting
