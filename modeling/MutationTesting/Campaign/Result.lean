import MutationTesting.Mutation.Point
import MutationTesting.Process.Execution

/-!
# Results

What a run produced: its tests, an execution for each mutation point, and the verdicts that follow.
A mutant is killed when its run did not pass.
-/

namespace MutationTesting

/-- Whether the tests noticed a mutant. -/
inductive Verdict where
  /-- They did. -/
  | killed
  /-- They did not. -/
  | survived
  /-- They were not run. -/
  | notExecuted
  deriving DecidableEq, Repr

namespace Verdict

/-- The verdict on a mutant whose run came out in some way. -/
def ofStatus : Status → Verdict
  | .passed => .survived
  | .dryRun => .notExecuted
  | .failed => .killed
  | .crashed => .killed
  | .timedOut => .killed

end Verdict

/-- A mutation point and the execution of its mutant. -/
structure MutationResult where
  /-- The point. -/
  point : Point
  /-- The execution. -/
  execution : Execution
  deriving DecidableEq, Repr

namespace MutationResult

/-- The verdict on a mutant. -/
def verdict (r : MutationResult) : Verdict :=
  .ofStatus r.execution.status

end MutationResult

/-- A test and its run on the unmutated program, once that is known. -/
structure TestOutcome where
  /-- The name of the test. -/
  name : String
  /-- The execution. -/
  execution : Option Execution := none
  deriving DecidableEq, Repr

/-- What a run produced. -/
structure RunResult where
  /-- The tests. -/
  tests : List TestOutcome
  /-- The executions of mutants. -/
  results : List MutationResult
  /-- The points that no filter skipped. -/
  points : List Point
  deriving DecidableEq, Repr

namespace RunResult

/-- The number of mutants with a verdict. -/
def count (r : RunResult) (verdict : Verdict) : Nat :=
  (r.results.filter (·.verdict == verdict)).length

/-- The number of mutants whose run came out in some way. -/
def countStatus (r : RunResult) (status : Status) : Nat :=
  (r.results.filter (·.execution.status == status)).length

/-- The mutants that the tests did not notice. -/
def survivors (r : RunResult) : List MutationResult :=
  r.results.filter (·.verdict == .survived)

/-- The time of all executions together, in nanoseconds. -/
def totalTime (r : RunResult) : Nat :=
  (r.results.map (·.execution.runningTime)).foldl (· + ·) 0

end RunResult

end MutationTesting
