import MutationTesting.Ir.Function
import MutationTesting.Mutation.Point
import MutationTesting.Storage.Path

/-!
# Modules

A module is one compilation unit: its functions, the trampolines that lead to their mutants, and the
mutation points whose mutants it will hold.
-/

namespace MutationTesting

/-- A mutant that a trampoline can lead to. -/
structure Mutant where
  /-- The environment variable that selects it. -/
  selector : String
  /-- The function that carries the mutation. -/
  function : String
  deriving DecidableEq, Repr

/-- The redirection of a mutated function. -/
structure Trampoline where
  /-- The function that is redirected. -/
  function : String
  /-- The function that is called if no mutant is selected. -/
  unmutated : String
  /-- The mutants, the first selected one being called. -/
  mutants : List Mutant
  deriving DecidableEq, Repr

/-- A compilation unit. -/
structure Module where
  /-- The name of the unit. -/
  name : String
  /-- The path of the source file it was made from. -/
  sourceFile : String
  /-- Its functions. -/
  functions : List Function := []
  /-- Its trampolines. -/
  trampolines : List Trampoline := []
  /-- The points whose mutants it will hold; they are not stored. -/
  mutations : List Point := []
  deriving DecidableEq, Repr

namespace Module

/-- The first function of a name. -/
def function? (m : Module) (name : String) : Option Function :=
  m.functions.find? (·.name == name)

/-- The file name of the unit, by which coverage records speak of it; the whole text of a path that
names no file. -/
def unitFile (m : Module) : String :=
  (Path.fileName? m.sourceFile).getD m.sourceFile

end Module

end MutationTesting
