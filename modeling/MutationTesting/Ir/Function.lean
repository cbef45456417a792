import MutationTesting.Ir.Instruction

/-!
# Functions

A function is a name, a number of parameters and blocks of instructions. Without blocks it only
declares its name.
-/

namespace MutationTesting

/-- A sequence of instructions. -/
structure Block where
  /-- The instructions in order. -/
  instructions : List Instruction
  deriving DecidableEq, Repr, Inhabited

/-- A function of a program. -/
structure Function where
  /-- The name by which it is called. -/
  name : String
  /-- The number of its parameters. -/
  params : UInt32
  /-- Its blocks; the first is entered by a call. -/
  blocks : List Block
  /-- Where it is defined, if known. -/
  location : Option Location := none
  deriving DecidableEq, Repr

namespace Function

/-- A function without blocks only declares its name. -/
def isDeclaration (f : Function) : Bool :=
  f.blocks.isEmpty

/-- The instruction at an address. -/
def instruction? (f : Function) (a : Address) : Option Instruction :=
  f.blocks[a.block]?.bind fun block => block.instructions[a.index]?

/-- The function after a change to the instructions of one block. -/
def modifyBlock (f : Function) (block : Nat) (change : List Instruction → List Instruction) :
    Function :=
  { f with blocks := f.blocks.modify block fun b => ⟨change b.instructions⟩ }

/-- The function with another instruction at an address; an address outside changes nothing. -/
def setInstruction (f : Function) (a : Address) (i : Instruction) : Function :=
  f.modifyBlock a.block fun is => is.set a.index i

/-- The function without the instruction at an address. -/
def eraseInstruction (f : Function) (a : Address) : Function :=
  f.modifyBlock a.block fun is => is.eraseIdx a.index

/-- Every instruction with its address, in the order of blocks. -/
def addressed (f : Function) : List (Address × Instruction) :=
  f.blocks.zipIdx.flatMap fun (block, b) =>
    block.instructions.zipIdx.map fun (i, index) => (⟨b, index⟩, i)

/-- A copy under another name. -/
def rename (f : Function) (name : String) : Function :=
  { f with name }

/-- The declaration of a function: its name without its blocks. -/
def declaration (f : Function) : Function :=
  { f with blocks := [] }

end Function

end MutationTesting
