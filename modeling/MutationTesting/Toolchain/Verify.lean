import MutationTesting.Ir.Module

/-!
# Verification

A module is fit to be compiled if its function names are distinct, every block ends in a terminator,
control stays inside the function, every dispatch has a trampoline in the module, and every
trampoline leads to functions with a body there. The first fault found is reported.
-/

namespace MutationTesting

/-- Why a module is not fit to be compiled. -/
inductive VerifyFault where
  /-- Two functions have one name. -/
  | definedTwice (function : String)
  /-- A block does not end in a terminator. -/
  | noTerminator (block : Nat) (function : String)
  /-- A jump leads to a block that does not exist. -/
  | jumpOutside (function : String) (target : Nat)
  /-- A branch leads to a block that does not exist. -/
  | branchOutside (function : String)
  /-- A dispatch names a function without trampoline. -/
  | unknownTrampoline (function trampoline : String)
  /-- A trampoline leads to a function without body. -/
  | noTargetBody (trampoline target : String)
  deriving DecidableEq, Repr

namespace VerifyFault

/-- A fault as users read it. -/
def message : VerifyFault → String
  | .definedTwice function => "function '" ++ function ++ "' is defined twice"
  | .noTerminator block function => "block " ++ block.repr ++ " of '" ++ function
      ++ "' has no terminator"
  | .jumpOutside function target => "'" ++ function ++ "' jumps to missing block " ++ target.repr
  | .branchOutside function => "'" ++ function ++ "' branches to a missing block"
  | .unknownTrampoline function trampoline =>
    "'" ++ function ++ "' dispatches through unknown trampoline '" ++ trampoline ++ "'"
  | .noTargetBody trampoline target =>
    "trampoline '" ++ trampoline ++ "' targets '" ++ target ++ "', which has no body"

end VerifyFault

namespace Module

/-- Checks an action of a function with so many blocks. -/
def verifyAction (m : Module) (function : String) (blocks : Nat) :
    Action → Except VerifyFault Unit
  | .jump target =>
    if target.toNat < blocks then .ok () else .error (.jumpOutside function target.toNat)
  | .branch _ thenBlock elseBlock =>
    if thenBlock.toNat < blocks ∧ elseBlock.toNat < blocks then .ok ()
    else .error (.branchOutside function)
  | .dispatch _ trampoline _ =>
    if m.trampolines.any (·.function == trampoline) then .ok ()
    else .error (.unknownTrampoline function trampoline)
  | _ => .ok ()

/-- Checks a block of a function with so many blocks. -/
def verifyBlock (m : Module) (function : String) (blocks : Nat) (b : Block × Nat) :
    Except VerifyFault Unit :=
  if b.1.instructions.getLast?.any (·.action.isTerminator) then
    b.1.instructions.forM fun i => m.verifyAction function blocks i.action
  else .error (.noTerminator b.2 function)

/-- Checks the blocks of a function. -/
def verifyFunction (m : Module) (f : Function) : Except VerifyFault Unit :=
  f.blocks.zipIdx.forM (m.verifyBlock f.name f.blocks.length)

/-- Checks functions in order, given the names of those before them. -/
def verifyFunctions (m : Module) : List String → List Function → Except VerifyFault Unit
  | _, [] => .ok ()
  | seen, f :: fs =>
    if seen.contains f.name then .error (.definedTwice f.name)
    else do
      m.verifyFunction f
      m.verifyFunctions (f.name :: seen) fs

/-- Checks the functions that a trampoline leads to. -/
def verifyTrampoline (m : Module) (t : Trampoline) : Except VerifyFault Unit :=
  (t.unmutated :: t.mutants.map (·.function)).forM fun target =>
    if (m.function? target).any fun f => !f.isDeclaration then .ok ()
    else .error (.noTargetBody t.function target)

/-- Checks that a module is fit to be compiled. -/
def verify (m : Module) : Except VerifyFault Unit := do
  m.verifyFunctions [] m.functions
  m.trampolines.forM m.verifyTrampoline

end Module

end MutationTesting
