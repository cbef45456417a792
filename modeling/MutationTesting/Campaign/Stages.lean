import MutationTesting.Campaign.Result
import MutationTesting.Failure

/-!
# Stages of a campaign

The stages that compile modules and run mutants. Compiling writes to the disk that all workers share;
running a mutant sets the variable that selects it and no other.
-/

namespace MutationTesting

open Workers (Stage Handled)

/-- The stage that compiles modules into a directory. -/
def compileStage (directory : String) (name : String) (workers : Nat) :
    Stage Failure Disk Module String where
  name
  workers
  handle _ m disk :=
    match m.compile .program directory disk with
    | (state, .ok path) => { ending := .done [path], item := m, state }
    | (state, .error fault) => { ending := .failed (.ofCompile fault), item := m, state }

/-- The stage that lists mutants without running them. -/
def dryRunStage (name : String) (workers : Nat) : Stage Failure Unit Point MutationResult where
  name
  workers
  handle _ p _ :=
    { ending := .done [{ point := p, execution := .dry }], item := p, state := ()
      notes := ["Dry run: " ++ p.text] }

/-- How mutants are run. -/
structure MutantRuns where
  /-- The files and the environment of the run itself. -/
  around : Surroundings
  /-- What mutants run in. -/
  sandbox : Sandbox
  /-- The path of the program that holds all mutants. -/
  executable : String
  /-- The time limit in milliseconds. -/
  timeout : UInt64
  /-- The output of mutants is kept. -/
  capture : Bool

/-- Runs the mutant of a point, which has to be applied. -/
def MutantRuns.run (r : MutantRuns) (p : Point) : Handled Failure Unit Point MutationResult :=
  if p.applied then
    match execute r.around r.sandbox r.executable [] [(p.selector, "1")] r.timeout r.capture with
    | .ok (execution, notes) =>
      { ending := .done [{ point := p, execution }], item := p, state := (), notes }
    | .error reason =>
      { ending := .failed (.process r.executable reason), item := p, state := () }
  else { ending := .failed (.task "mutant execution" (.neverApplied p)), item := p, state := () }

/-- The stage that runs the mutants of points. -/
def executionStage (r : MutantRuns) (name : String) (workers : Nat) :
    Stage Failure Unit Point MutationResult where
  name
  workers
  handle _ p _ := r.run p
  recordSize := 72

end MutationTesting
