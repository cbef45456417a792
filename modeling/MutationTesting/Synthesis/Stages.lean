import MutationTesting.Mutation.Mutator
import MutationTesting.Synthesis.Redirection
import MutationTesting.Workers.Stage

/-!
# Synthesis

The mutants are built into the program by four stages: every module gets the copies of its mutated
functions; the mutated functions lose their bodies; they become stubs with trampolines; and every
mutation is carried out in its copy. A stage that fails keeps what it has changed before.
-/

namespace MutationTesting

open Workers (Stage Handled Ending)

/-- Why a stage of the synthesis fails. -/
inductive SynthesisFault where
  /-- The function to copy is missing. -/
  | nothingToClone (module name : String)
  /-- The function that should lose its body is missing. -/
  | nothingToDelete (name : String)
  /-- The function to redirect is missing. -/
  | nothingToRedirect (name : String)
  /-- A mutation could not be carried out. -/
  | notApplied (point : Point) (reason : ApplyFault)
  deriving DecidableEq, Repr

namespace Synthesis

/-! ## Stages over modules -/

/-- A copy of a function of a module under another name. -/
def copy (m : Module) (name copyName : String) : Except SynthesisFault Function :=
  match m.function? name with
  | some f => .ok (f.rename copyName)
  | none => .error (.nothingToClone m.name name)

/-- The copies that a module needs: of each mutated function, then of each mutation point. -/
def clones (m : Module) : Except SynthesisFault (List Function) := do
  let unmutated ← m.mutatedNames.mapM fun name => copy m name (Point.unmutatedName name)
  let mutants ← m.mutantPoints.mapM fun p => copy m p.function.name p.mutantName
  return unmutated ++ mutants

/-- Adds the copies to a module. -/
def clone (m : Module) : Handled SynthesisFault Unit Module Unit :=
  match clones m with
  | .ok copies =>
    { ending := .done []
      item := { m with functions := m.functions ++ copies }
      state := ()
      notes := [m.name ++ ": " ++ copies.length.repr ++ " clone(s)"] }
  | .error fault => { ending := .failed fault, item := m, state := () }

/-- Takes a step for each of some names in turn, until one fails. -/
def forEachName (step : Module → String → List String × Except SynthesisFault Module) :
    List String → Module → Handled SynthesisFault Unit Module Unit
  | [], m => { ending := .done [], item := m, state := () }
  | name :: names, m =>
    match step m name with
    | (notes, .error fault) => { ending := .failed fault, item := m, state := (), notes }
    | (notes, .ok m) =>
      let h := forEachName step names m
      { h with notes := notes ++ h.notes }

/-- Takes the body of a mutated function away. -/
def deleteBody (m : Module) (name : String) : List String × Except SynthesisFault Module :=
  match m.modifyFunction? name Function.declaration with
  | some m => ([m.name ++ ": dropped body of '" ++ name ++ "'"], .ok m)
  | none => ([], .error (.nothingToDelete name))

/-- Makes a mutated function a stub and adds its trampoline. -/
def redirect (m : Module) (name : String) : List String × Except SynthesisFault Module :=
  let trampoline := m.trampolineFor name
  let note := m.name ++ ": trampoline for '" ++ name ++ "' with "
    ++ trampoline.mutants.length.repr ++ " mutant(s)"
  match m.modifyFunction? name Function.stub with
  | some m => ([note], .ok { m with trampolines := m.trampolines ++ [trampoline] })
  | none => ([note], .error (.nothingToRedirect name))

/-- The stage that adds the copies. -/
def cloneStage (name : String) (workers : Nat) : Stage SynthesisFault Unit Module Unit where
  name
  workers
  handle _ m _ := clone m

/-- The stage that takes the bodies of mutated functions away. -/
def deleteStage (name : String) (workers : Nat) : Stage SynthesisFault Unit Module Unit where
  name
  workers
  handle _ m _ := forEachName deleteBody m.mutatedNames m

/-- The stage that redirects mutated functions. -/
def redirectStage (name : String) (workers : Nat) : Stage SynthesisFault Unit Module Unit where
  name
  workers
  handle _ m _ := forEachName redirect m.mutatedNames m

/-! ## Carrying out mutations -/

/-- Carries out the mutation of a point in the copy that its module holds. -/
def mutateCopy (mutators : List Mutator) (modules : List Module) (p : Point) :
    Except ApplyFault (List Module) := do
  let some mutator := mutators.find? (·.id == p.mutator) | .error (.notEnabled p.mutator)
  let some m := modules[p.function.module]? | .error (.noCopy p.mutantName)
  let some copy := m.function? p.mutantName | .error (.noCopy p.mutantName)
  let mutant ← mutator.mutate p.address copy
  let some m := m.modifyFunction? p.mutantName fun _ => mutant | .error (.noCopy p.mutantName)
  return modules.set p.function.module m

/-- Carries out the mutation of a point and marks the point. -/
def apply (mutators : List Mutator) (p : Point) (modules : List Module) :
    Handled SynthesisFault (List Module) Point Unit :=
  match mutateCopy mutators modules p with
  | .ok modules => { ending := .done [], item := p.markApplied, state := modules }
  | .error reason => { ending := .failed (.notApplied p reason), item := p, state := modules }

/-- The stage that carries out the mutations; its single worker holds all modules. -/
def applyStage (mutators : List Mutator) (name : String) :
    Stage SynthesisFault (List Module) Point Unit where
  name
  workers := 1
  handle _ p modules := apply mutators p modules

/-! ## Preparation -/

/-- The modules after each point has been added to the mutations of its module; a point of a module
that does not exist is left out. -/
def prepare (modules : List Module) (points : List Point) : List Module :=
  points.foldl (fun modules p =>
    modules.modify p.function.module fun m => { m with mutations := m.mutations ++ [p] }) modules

end Synthesis

end MutationTesting
