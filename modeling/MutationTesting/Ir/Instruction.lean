import MutationTesting.Ir.Operator

/-!
# Instructions

An instruction reads operands (registers and parameters of its frame, and constants), and most write
one register. Where it stands inside its function is its address; where it comes from in the source
text is its location.
-/

namespace MutationTesting

/-- A place in a source text. -/
structure Location where
  /-- The path of the source file. -/
  file : String
  /-- The line. -/
  line : UInt32
  /-- The column. -/
  column : UInt32
  deriving DecidableEq, Repr

namespace Location

/-- A place as users see it: `file:line:column`. -/
def text (l : Location) : String :=
  l.file ++ ":" ++ l.line.toNat.repr ++ ":" ++ l.column.toNat.repr

end Location

/-- The position of an instruction: its block, and its index there. -/
structure Address where
  /-- The index of the block. -/
  block : Nat
  /-- The index of the instruction in its block. -/
  index : Nat
  deriving DecidableEq, Repr

namespace Address

/-- An address as it stands in names: `block_index`. -/
def text (a : Address) : String :=
  a.block.repr ++ "_" ++ a.index.repr

end Address

/-- What an instruction reads. -/
inductive Operand where
  /-- A register of the frame. -/
  | register (index : UInt32)
  /-- An argument of the frame. -/
  | parameter (index : UInt32)
  /-- A constant. -/
  | constant (value : Int64)
  deriving DecidableEq, Repr

/-- What an instruction does. -/
inductive Action where
  /-- Writes the result of an operator. -/
  | binary (dst : UInt32) (op : Operator) (lhs rhs : Operand)
  /-- Calls a function by name; without a destination the result is dropped. -/
  | call (dst : Option UInt32) (callee : String) (args : List Operand)
  /-- Calls whatever function a trampoline leads to in this process. -/
  | dispatch (dst : UInt32) (trampoline : String) (args : List Operand)
  /-- Prints a value on a line of its own. -/
  | print (value : Operand)
  /-- Continues with another block. -/
  | jump (target : UInt64)
  /-- Continues with one of two blocks: the first if the condition is not zero. -/
  | branch (cond : Operand) (thenBlock elseBlock : UInt64)
  /-- Ends the call with a value. -/
  | ret (value : Operand)
  deriving DecidableEq, Repr

/-- An action and where it comes from. -/
structure Instruction where
  /-- What the instruction does. -/
  action : Action
  /-- Where it comes from, if known. -/
  location : Option Location := none
  deriving DecidableEq, Repr

namespace Action

/-- The action ends its block. -/
def isTerminator : Action → Bool
  | .jump _ => true
  | .branch _ _ _ => true
  | .ret _ => true
  | _ => false

end Action

end MutationTesting
