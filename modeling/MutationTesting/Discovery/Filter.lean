import MutationTesting.Discovery.Program
import MutationTesting.Workers.Stage

/-!
# Filters

A filter names what it skips. Filters for mutation points, functions and instructions form a chain
each; a stage applies one filter of a chain, or, for instructions, the whole chain at once.
-/

namespace MutationTesting

open Workers (Stage Handled)

/-- A named predicate on what is to be skipped. -/
structure Filter (α : Type) where
  /-- The name by which messages speak of it. -/
  name : String
  /-- What it skips. -/
  skips : α → Bool

/-- The chains of filters. -/
structure Filters where
  /-- The filters of mutation points. -/
  mutation : List (Filter Point) := []
  /-- The filters of functions. -/
  function : List (Filter Function) := []
  /-- The filters of instructions. -/
  instruction : List (Filter Instruction) := []

namespace Filters

/-- Appends a filter on locations to all three chains. -/
def addLocationFilter (filters : Filters) (name : String) (skips : Option Location → Bool) :
    Filters where
  mutation := filters.mutation ++ [{ name, skips := fun p => skips p.location }]
  function := filters.function ++ [{ name, skips := fun f => skips f.location }]
  instruction := filters.instruction ++ [{ name, skips := fun i => skips i.location }]

/-- Appends the filter that skips what has no location. -/
def addNoDebugInfo (filters : Filters) : Filters :=
  filters.addLocationFilter "no debug info" (·.isNone)

end Filters

variable {ε : Type}

/-- The stage that keeps the points a filter does not skip. -/
def Filter.pointStage (filter : Filter Point) (name : String) (workers : Nat) :
    Stage ε Unit Point Point where
  name
  workers
  handle _ point _ := .pure point (if filter.skips point then [] else [point])
  recordSize := 16

/-- A candidate is kept if its function exists and the filter does not skip it. -/
def Filter.keeps (filter : Filter Function) (program : Program) (c : Candidate) : Bool :=
  match program.function? c.function with
  | some function => !filter.skips function
  | none => false

/-- The stage that keeps the candidates whose function a filter does not skip. -/
def Filter.candidateStage (filter : Filter Function) (program : Program) (name : String)
    (workers : Nat) : Stage ε Unit Candidate Candidate where
  name
  workers
  handle _ c _ := .pure c (if filter.keeps program c then [c] else [])
  recordSize := 24

/-- The addresses of a function that no filter of a chain skips. -/
def selectable (filters : List (Filter Instruction)) (function : Function) : List Address :=
  (function.addressed.filter fun (_, i) => !filters.any (·.skips i)).map (·.1)

/-- The candidate with the addresses that no filter of a chain skips. -/
def Candidate.select (c : Candidate) (program : Program) (filters : List (Filter Instruction)) :
    Candidate :=
  { c with selected := (program.function? c.function).elim [] (selectable filters) }

/-- The stage that selects the instructions of candidates. -/
def selectionStage (program : Program) (filters : List (Filter Instruction)) (name : String)
    (workers : Nat) : Stage ε Unit Candidate Unit where
  name
  workers
  handle _ c _ := .pure (c.select program filters) []
  recordSize := 24

end MutationTesting
