import MutationTesting.Ir.Function

/-!
# Building functions

A builder holds a function under construction, the block that instructions are appended to, the
location that they carry, and the next unused register. Every instruction with a result writes a
register of its own.
-/

namespace MutationTesting

/-- A function under construction. -/
structure Builder where
  /-- What has been built so far. -/
  function : Function
  /-- The index of the block that instructions are appended to. -/
  current : Nat := 0
  /-- The location that instructions carry. -/
  location : Option Location := none
  /-- The next unused register. -/
  next : UInt32 := 0
  deriving DecidableEq, Repr

namespace Builder

/-- A builder of a function with one empty block. -/
def start (name : String) (params : UInt32) : Builder :=
  { function := { name, params, blocks := [⟨[]⟩] } }

/-- Appends an instruction to the current block, which has to exist. -/
def emit? (b : Builder) (action : Action) : Option Builder :=
  if b.current < b.function.blocks.length then
    some { b with
      function := b.function.modifyBlock b.current (· ++ [{ action, location := b.location }]) }
  else none

/-- Appends an instruction that writes an unused register, and answers that register. -/
def emitResult? (b : Builder) (action : UInt32 → Action) : Option (Builder × Operand) :=
  ({ b with next := b.next + 1 }.emit? (action b.next)).map fun b' => (b', .register b.next)

/-- A step of building a function. -/
inductive Command where
  /-- Sets where the function is defined. -/
  | located (file : String) (line column : UInt32)
  /-- Sets the location of what follows, in the file of the function. -/
  | at (line column : UInt32)
  /-- What follows carries no location. -/
  | withoutLocation
  /-- Appends an empty block. -/
  | block
  /-- Appends what follows to another block. -/
  | switchTo (block : Nat)
  /-- Appends an operator. -/
  | binary (op : Operator) (lhs rhs : Operand)
  /-- Appends a call with a result. -/
  | call (callee : String) (args : List Operand)
  /-- Appends a call whose result is dropped. -/
  | callVoid (callee : String) (args : List Operand)
  /-- Appends a call through a trampoline. -/
  | dispatch (trampoline : String) (args : List Operand)
  /-- Appends the printing of a value. -/
  | print (value : Operand)
  /-- Appends a jump. -/
  | jump (target : UInt64)
  /-- Appends a branch. -/
  | branch (cond : Operand) (thenBlock elseBlock : UInt64)
  /-- Appends a return. -/
  | ret (value : Operand)
  deriving DecidableEq, Repr

/-- What a step answers. -/
inductive Reply where
  /-- Nothing. -/
  | done
  /-- The operand that holds a result. -/
  | value (operand : Operand)
  /-- The index of a new block. -/
  | block (index : Nat)
  deriving DecidableEq, Repr

/-- Carries out a step; none if the current block does not exist. -/
def perform? (b : Builder) : Command → Option (Builder × Reply)
  | .located file line column =>
    some ({ b with function := { b.function with location := some ⟨file, line, column⟩ } }, .done)
  | .at line column =>
    let file := (b.function.location.map (·.file)).getD ""
    some ({ b with location := some ⟨file, line, column⟩ }, .done)
  | .withoutLocation => some ({ b with location := none }, .done)
  | .block =>
    let blocks := b.function.blocks ++ [⟨[]⟩]
    some ({ b with function := { b.function with blocks } }, .block b.function.blocks.length)
  | .switchTo block => some ({ b with current := block }, .done)
  | .binary op lhs rhs => valued (b.emitResult? fun dst => .binary dst op lhs rhs)
  | .call callee args => valued (b.emitResult? fun dst => .call (some dst) callee args)
  | .callVoid callee args => done (b.emit? (.call none callee args))
  | .dispatch trampoline args => valued (b.emitResult? fun dst => .dispatch dst trampoline args)
  | .print value => done (b.emit? (.print value))
  | .jump target => done (b.emit? (.jump target))
  | .branch cond thenBlock elseBlock => done (b.emit? (.branch cond thenBlock elseBlock))
  | .ret value => done (b.emit? (.ret value))
where
  /-- A step without an answer. -/
  done (b : Option Builder) : Option (Builder × Reply) :=
    b.map fun b => (b, .done)
  /-- A step that answers an operand. -/
  valued (b : Option (Builder × Operand)) : Option (Builder × Reply) :=
    b.map fun (b, operand) => (b, .value operand)

/-- Carries out steps in order, with their answers. -/
def run? (b : Builder) : List Command → Option (Builder × List Reply)
  | [] => some (b, [])
  | c :: cs => do
    let (b, reply) ← b.perform? c
    let (b, replies) ← b.run? cs
    return (b, reply :: replies)

end Builder

end MutationTesting
