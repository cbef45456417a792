/-!
# Traps

The reasons for which a run stops without a value.
-/

namespace MutationTesting

/-- The depth at which no further call is made. -/
def maxCallDepth : Nat :=
  1024

/-- Why a run stopped without a value. -/
inductive Trap where
  /-- A division by zero in a function. -/
  | divisionByZero (function : String)
  /-- A call of a function without a body. -/
  | unknownFunction (name : String)
  /-- A read of a register that was not written before. -/
  | undefinedRegister (function : String) (register : UInt32)
  /-- A read of a parameter beyond the arguments of the call. -/
  | missingParameter (function : String) (index : UInt32)
  /-- Control left for a block that does not exist, or fell off the end of one. -/
  | invalidBlock (function : String) (block : Nat)
  /-- The calls nest too deeply. -/
  | stackOverflow
  deriving DecidableEq, Repr

namespace Trap

/-- A trap as users read it. -/
def message : Trap → String
  | .divisionByZero function => "division by zero in '" ++ function ++ "'"
  | .unknownFunction name => "call to unknown function '" ++ name ++ "'"
  | .undefinedRegister function register =>
    "read of undefined register %" ++ register.toNat.repr ++ " in '" ++ function ++ "'"
  | .missingParameter function index =>
    "missing parameter " ++ index.toNat.repr ++ " in '" ++ function ++ "'"
  | .invalidBlock function block =>
    "control reached invalid block " ++ block.repr ++ " in '" ++ function ++ "'"
  | .stackOverflow => "call depth exceeded " ++ maxCallDepth.repr

end Trap

end MutationTesting
