import MutationTesting.Machine.Image
import MutationTesting.Machine.Registers
import MutationTesting.Machine.Trap

/-!
# Runs

A machine is a linked program whose trampolines have been resolved for one process. A run calls a
function: it enters blocks, executes their instructions, and ends with a value or a trap, having
printed values on the way.

## Termination

Calls nest at most `maxCallDepth` deep, so a call is defined by recursion on the depth that is left.
Inside one frame control may go round in circles; a frame therefore has a number of blocks that it
may enter, and a run in which a frame spends them all is unfinished. A run terminates if it ends for
some such number.
-/

namespace MutationTesting

/-! ## Machines -/

/-- A linked program with resolved trampolines. -/
structure Machine where
  /-- The functions with a body, the last one first. -/
  functions : List Function
  /-- The function that each trampoline leads to, the last trampoline first. -/
  targets : List (String × String)

/-- The function that a trampoline leads to: its first mutant whose variable is set, else the
unmutated copy. -/
def Trampoline.target (t : Trampoline) (isSet : String → Bool) : String :=
  match t.mutants.find? fun m => isSet m.selector with
  | some m => m.function
  | none => t.unmutated

namespace Machine

/-- The machine of an image in a process with these environment variables set. -/
def load (image : Image) (isSet : String → Bool) : Machine where
  functions := (image.functions.filter fun f => !f.isDeclaration).reverse
  targets := (image.trampolines.map fun t => (t.function, t.target isSet)).reverse

/-- The body that is run for a name. -/
def body? (m : Machine) (name : String) : Option Function :=
  m.functions.find? (·.name == name)

/-- The function that the trampoline of a function leads to. -/
def target? (m : Machine) (trampoline : String) : Option String :=
  m.targets.lookup trampoline

end Machine

/-! ## The effects of a run -/

/-- Why a run has no value. -/
inductive Stop where
  /-- It trapped. -/
  | trap (trap : Trap)
  /-- A frame spent all its blocks. -/
  | unfinished
  deriving DecidableEq, Repr

/-- A run prints values, the newest first, and may stop. -/
abbrev Run := EStateM Stop (List Int64)

namespace Run

/-- Prints a value. -/
def emit (value : Int64) : Run Unit :=
  modify (value :: ·)

/-- Stops with a trap. -/
def trap {α : Type} (t : Trap) : Run α :=
  throw (.trap t)

/-- The value, or a trap without one. -/
@[macro_inline]
def getOr {α : Type} (t : Trap) : Option α → Run α
  | some a => pure a
  | none => trap t

end Run

/-! ## Frames -/

/-- What a call knows of its surroundings: its function and its arguments. -/
structure Frame where
  /-- The function that was called. -/
  function : Function
  /-- The arguments of the call. -/
  args : List Int64

/-- How control leaves a block. -/
inductive Departure where
  /-- To another block. -/
  | goto (block : Nat) (registers : Registers)
  /-- Back to the caller. -/
  | leave (value : Int64)

/-- How control goes on after an instruction. -/
inductive Next where
  /-- To the next instruction of the block. -/
  | advance (registers : Registers)
  /-- Out of the block. -/
  | depart (departure : Departure)

namespace Frame

/-- The value of an operand. -/
@[inline]
def read (frame : Frame) (registers : Registers) : Operand → Run Int64
  | .constant value => pure value
  | .parameter index =>
    Run.getOr (.missingParameter frame.function.name index) frame.args[index.toNat]?
  | .register index =>
    Run.getOr (.undefinedRegister frame.function.name index) (registers.get? index)

/-- The values of operands, from the first to the last. -/
def readAll (frame : Frame) (registers : Registers) : List Operand → Run (List Int64)
  | [] => pure []
  | operand :: operands => do
    let value ← frame.read registers operand
    return value :: (← frame.readAll registers operands)

/-- Executes an action; `invoke` calls a function. -/
@[inline]
def execute (m : Machine) (invoke : String → List Int64 → Run Int64) (frame : Frame)
    (registers : Registers) : Action → Run Next
  | .binary dst op lhs rhs => do
    let lhs ← frame.read registers lhs
    let rhs ← frame.read registers rhs
    let value ← Run.getOr (.divisionByZero frame.function.name) (op.evaluate lhs rhs)
    return .advance (registers.set dst value)
  | .call dst callee operands => do
    let values ← frame.readAll registers operands
    let value ← invoke callee values
    return .advance (dst.elim registers fun dst => registers.set dst value)
  | .dispatch dst trampoline operands => do
    let target ← Run.getOr (.unknownFunction trampoline) (m.target? trampoline)
    let values ← frame.readAll registers operands
    let value ← invoke target values
    return .advance (registers.set dst value)
  | .print operand => do
    Run.emit (← frame.read registers operand)
    return .advance registers
  | .jump target => return .depart (.goto target.toNat registers)
  | .branch cond thenBlock elseBlock => do
    let cond ← frame.read registers cond
    return .depart (.goto (if cond != 0 then thenBlock else elseBlock).toNat registers)
  | .ret operand => return .depart (.leave (← frame.read registers operand))

/-- Executes the instructions of a block; falling off its end is a trap. -/
def runBlock (m : Machine) (invoke : String → List Int64 → Run Int64) (frame : Frame)
    (block : Nat) : List Instruction → Registers → Run Departure
  | [], _ => Run.trap (.invalidBlock frame.function.name block)
  | i :: rest, registers => do
    match ← frame.execute m invoke registers i.action with
    | .advance registers => runBlock m invoke frame block rest registers
    | .depart departure => return departure

/-- Runs a frame from a block on, entering at most so many blocks. -/
def runBlocks (m : Machine) (invoke : String → List Int64 → Run Int64) (frame : Frame) :
    Nat → Nat → Registers → Run Int64
  | 0, _, _ => throw .unfinished
  | blocks + 1, block, registers => do
    let current ← Run.getOr (.invalidBlock frame.function.name block)
      frame.function.blocks[block]?
    match ← runBlock m invoke frame block current.instructions registers with
    | .leave value => return value
    | .goto target registers => runBlocks m invoke frame blocks target registers

end Frame

namespace Machine

/-- Calls a function with so much call depth left, each frame entering at most so many blocks. -/
def call (m : Machine) (blocks : Nat) : Nat → String → List Int64 → Run Int64
  | 0, _, _ => Run.trap .stackOverflow
  | depth + 1, name, args => do
    let function ← Run.getOr (.unknownFunction name) (m.body? name)
    Frame.runBlocks m (call m blocks depth) ⟨function, args⟩ blocks 0 .empty

end Machine

/-! ## Whole runs -/

/-- What a run came to: how it ended, and what it printed, in order. -/
@[ext]
structure Outcome where
  /-- The value, or why there is none. -/
  ending : Except Stop Int64
  /-- The printed values in order. -/
  printed : List Int64

namespace Outcome

/-- The printed text: each value on a line of its own. -/
def output (o : Outcome) : String :=
  o.printed.foldl (fun text value => text ++ value.toInt.repr ++ "\n") ""

end Outcome

namespace Machine

/-- Calls a function at a depth of nesting, each frame entering at most so many blocks. -/
def callAt (m : Machine) (blocks : Nat) (name : String) (args : List Int64) (depth : Nat) :
    Outcome :=
  match (m.call blocks (maxCallDepth - depth) name args).run [] with
  | .ok value printed => { ending := .ok value, printed := printed.reverse }
  | .error stop printed => { ending := .error stop, printed := printed.reverse }

/-- Runs the main function, each frame entering at most so many blocks. -/
def runMain (m : Machine) (blocks : Nat) (args : List Int64) : Outcome :=
  m.callAt blocks "main" args 0

end Machine

/-! ## Exit status -/

/-- The exit status of a process whose main function gave a value. Only the low byte reaches the
parent, so a value other than zero with a zero low byte gives 1. -/
def exitStatus (value : Int64) : Nat :=
  let low := (value.toInt % 256).toNat
  if low = 0 ∧ value ≠ 0 then 1 else low

end MutationTesting
