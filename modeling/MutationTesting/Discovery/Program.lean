import MutationTesting.Ir.Module

/-!
# Programs

A program is a list of modules together with the paths of the object files and libraries that are
linked to them as they are.
-/

namespace MutationTesting

/-- A program under test. -/
structure Program where
  /-- Its modules. -/
  modules : List Module
  /-- The object files that are linked as they are. -/
  precompiledObjects : List String := []
  /-- The libraries that are linked as they are. -/
  dynamicLibraries : List String := []
  deriving DecidableEq, Repr

/-- A defined function of a program with its reference and its module. -/
structure Definition where
  /-- The reference. -/
  ref : FunctionRef
  /-- The module that owns the function. -/
  owner : Module
  /-- The function. -/
  function : Function
  deriving DecidableEq, Repr

namespace Program

/-- The function that a reference stands for: the first of its name in its module. -/
def function? (p : Program) (ref : FunctionRef) : Option Function :=
  p.modules[ref.module]?.bind (·.function? ref.name)

/-- Every function with a body, in the order of modules. -/
def defined (p : Program) : List Definition :=
  p.modules.zipIdx.flatMap fun (owner, module) =>
    (owner.functions.filter fun f => !f.isDeclaration).map fun function =>
      { ref := { module, name := function.name }, owner, function }

/-- Some module has a function of this name, the first of which has a body. -/
def hasFunction (p : Program) (name : String) : Bool :=
  p.modules.any fun m => (m.function? name).any fun f => !f.isDeclaration

/-- The names of the tests of a program: its main function, if it has one. -/
def mainTests (p : Program) : List String :=
  if p.hasFunction "main" then ["main"] else []

end Program

end MutationTesting
