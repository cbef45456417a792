import MutationTesting.Discovery.Filter
import MutationTesting.Mutation.Mutator

/-!
# Search

Every mutator is asked for its points in every candidate. A function that several tests reach yields
the same point once for each test; such points are merged into the first of them, which then carries
all the tests.
-/

namespace MutationTesting

open Workers (Stage Handled)

/-! ## Points of a candidate -/

/-- The points of a candidate, in the order of mutators, each reached by the candidate's test. -/
def Candidate.points (c : Candidate) (program : Program) (mutators : List Mutator) : List Point :=
  match program.function? c.function with
  | some function =>
    mutators.flatMap fun m => (m.find c function).map fun p => { p with tests := [c.test] }
  | none => []

/-- The stage that searches candidates for points. -/
def searchStage {ε : Type} (program : Program) (mutators : List Mutator) (workers : Nat) :
    Stage ε Unit Candidate Point where
  name := "Searching mutants"
  workers
  handle _ c _ := .pure c (c.points program mutators)
  recordSize := 24

/-! ## Merging -/

/-- The items of the first list, then those of the second that are not there yet. -/
def unionTests (tests more : List Nat) : List Nat :=
  more.foldl (fun tests t => if tests.contains t then tests else tests ++ [t]) tests

/-- The points merged so far, and where each identifier stands among them. -/
structure Merging where
  /-- The merged points. -/
  points : List Point := []
  /-- The position of each identifier. -/
  positions : List (String × Nat) := []

namespace Merging

/-- Merges a point: into the one of its identifier, or as a new one at the end. -/
def add (m : Merging) (p : Point) : Merging :=
  match m.positions.lookup p.identifier with
  | some position =>
    { m with points := m.points.modify position fun q =>
        { q with tests := unionTests q.tests p.tests } }
  | none =>
    { points := m.points ++ [p], positions := (p.identifier, m.points.length) :: m.positions }

end Merging

/-- One point for each identifier, in the order of first occurrence, with the tests of all. -/
def mergeDuplicates (points : List Point) : List Point :=
  (points.foldl Merging.add {}).points

end MutationTesting
