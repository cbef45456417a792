import MutationTesting.Toolchain.Launcher
import MutationTesting.Toolchain.ObjectFile

/-!
# Linking

Object modules are put together to an image. Every function may have one body and every function one
trampoline among them all, every function that is called needs a body, every trampoline that is
dispatched through has to be there, and there has to be a main function.
-/

namespace MutationTesting

/-- Why modules cannot be linked. -/
inductive LinkFault where
  /-- An object file cannot be loaded. -/
  | badObject (fault : LoadFault)
  /-- Two modules define one function. -/
  | duplicateSymbol (name previous module : String)
  /-- Two trampolines redirect one function. -/
  | duplicateTrampoline (function : String)
  /-- A called function has no body. -/
  | undefinedSymbol (name function : String)
  /-- A dispatch names a function without trampoline. -/
  | undefinedTrampoline (name function : String)
  /-- There is no main function. -/
  | noMain
  deriving DecidableEq, Repr

namespace LinkFault

/-- A fault as users read it. -/
def message : LinkFault → String
  | .badObject fault => fault.moduleMessage
  | .duplicateSymbol name previous module =>
    "duplicate symbol '" ++ name ++ "' in '" ++ previous ++ "' and '" ++ module ++ "'"
  | .duplicateTrampoline function => "duplicate trampoline for '" ++ function ++ "'"
  | .undefinedSymbol name function =>
    "undefined symbol '" ++ name ++ "' referenced from '" ++ function ++ "'"
  | .undefinedTrampoline name function =>
    "undefined trampoline '" ++ name ++ "' referenced from '" ++ function ++ "'"
  | .noMain => "undefined symbol 'main'"

end LinkFault

namespace Link

/-! ## Resolving symbols -/

/-- The functions with a body, each with the name of its module. -/
def definitions (modules : List Module) : List (String × Function) :=
  modules.flatMap fun m =>
    (m.functions.filter fun f => !f.isDeclaration).map fun f => (m.name, f)

/-- Checks that no two definitions have one name, given those before them. -/
def checkSymbols : List (String × Function) → List (String × Function) → Except LinkFault Unit
  | _, [] => .ok ()
  | seen, d :: ds =>
    match seen.find? (·.2.name == d.2.name) with
    | some previous => .error (.duplicateSymbol d.2.name previous.1 d.1)
    | none => checkSymbols (d :: seen) ds

/-- Checks that no two trampolines redirect one function, given those before them. -/
def checkTrampolines : List String → List Trampoline → Except LinkFault Unit
  | _, [] => .ok ()
  | seen, t :: ts =>
    if seen.contains t.function then .error (.duplicateTrampoline t.function)
    else checkTrampolines (t.function :: seen) ts

/-- Checks the symbol that an action of a function refers to. -/
def checkAction (image : Image) (function : String) : Action → Except LinkFault Unit
  | .call _ callee _ =>
    if image.functions.any (·.name == callee) then .ok ()
    else .error (.undefinedSymbol callee function)
  | .dispatch _ trampoline _ =>
    if image.trampolines.any (·.function == trampoline) then .ok ()
    else .error (.undefinedTrampoline trampoline function)
  | _ => .ok ()

/-- Checks the symbols that a function refers to. -/
def checkFunction (image : Image) (f : Function) : Except LinkFault Unit :=
  f.addressed.forM fun (_, i) => checkAction image f.name i.action

/-- The image of object modules, in their order. -/
def resolve (modules : List Module) : Except LinkFault Image := do
  let defs := definitions modules
  checkSymbols [] defs
  let image : Image :=
    { functions := defs.map (·.2), trampolines := modules.flatMap (·.trampolines) }
  checkTrampolines [] image.trampolines
  image.functions.forM (checkFunction image)
  if image.functions.any (·.name == "main") then .ok image else .error .noMain

/-! ## Writing the program -/

/-- The path of the image of a program. -/
def imagePath (directory name : String) : String :=
  Path.join directory (name ++ ".image.json")

/-- Writes an image and the script that runs it to a directory: the path of the script, and the disk
afterwards. -/
def install (image : Image) (runner directory name : String) (d : Disk) :
    Disk × Except IoError String :=
  match d.createDirectories directory with
  | .error reason => (d, .error reason)
  | .ok d =>
    match d.write (imagePath directory name) image.encode with
    | .error reason => (d, .error reason)
    | .ok d =>
      let executable := Path.join directory name
      match d.write executable (Launcher.script runner (imagePath directory name)) with
      | .error reason => (d, .error reason)
      | .ok d =>
        match d.makeExecutable executable with
        | .error reason => (d, .error reason)
        | .ok d => (d, .ok executable)

end Link

end MutationTesting
