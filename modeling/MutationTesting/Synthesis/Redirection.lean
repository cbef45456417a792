import MutationTesting.Distinct
import MutationTesting.Ir.Module

/-!
# Redirection

A mutated function is kept as an unmutated copy and as one copy for each of its mutation points. The
function itself becomes a stub that passes all its parameters through a trampoline, and the
trampoline leads to one of the copies.
-/

namespace MutationTesting

namespace Function

/-- The body of a stub: it passes so many parameters through the trampoline of a function and
returns the result. -/
def stubBlock (name : String) (params : UInt32) : Block where
  instructions := [
    { action := .dispatch 0 name ((List.range params.toNat).map fun i => .parameter (.ofNat i)) },
    { action := .ret (.register 0) }]

/-- The function with its body replaced by a stub. -/
def stub (f : Function) : Function :=
  { f with blocks := [stubBlock f.name f.params] }

end Function

namespace Module

/-- The names of the functions with mutation points, in the order in which they are first named. -/
def mutatedNames (m : Module) : List String :=
  distinctBy id (m.mutations.map (·.function.name))

/-- The mutation points that get a copy: one for each name of a copy. -/
def mutantPoints (m : Module) : List Point :=
  distinctBy Point.mutantName m.mutations

/-- Changes the first function that satisfies a condition, if there is one. -/
def modifyFirst? {α : Type} (p : α → Bool) (change : α → α) : List α → Option (List α)
  | [] => none
  | a :: rest =>
    if p a then some (change a :: rest) else (modifyFirst? p change rest).map (a :: ·)

/-- Changes the first function of a name, if there is one. -/
def modifyFunction? (m : Module) (name : String) (change : Function → Function) : Option Module :=
  (modifyFirst? (·.name == name) change m.functions).map fun functions => { m with functions }

/-- The trampoline of a mutated function. -/
def trampolineFor (m : Module) (name : String) : Trampoline where
  function := name
  unmutated := Point.unmutatedName name
  mutants := (m.mutantPoints.filter (·.function.name == name)).map fun p =>
    { selector := p.selector, function := p.mutantName }

end Module

end MutationTesting
