import MutationTesting.Ir.Module

/-!
# Mutators

A mutator recognises the actions that it can change, and changes one of them in a copy of their
function: it puts another operator in the place of an operator, or takes out a call whose result
nobody uses. Finding and changing look at the same condition.
-/

namespace MutationTesting

/-- A small change of meaning. -/
inductive Mutator where
  /-- Puts one operator in the place of another. -/
  | replaceOperator (id : String) (source target : Operator)
  /-- Takes out a call whose result is dropped. -/
  | removeVoidCall
  deriving DecidableEq, Repr

/-- Why a mutation could not be carried out. -/
inductive ApplyFault where
  /-- The mutator of the point is not among the enabled ones. -/
  | notEnabled (mutator : String)
  /-- The module has no copy to carry the mutation. -/
  | noCopy (name : String)
  /-- The address holds no instruction with the operator. -/
  | noOperator (op : Operator) (address : Address) (function : String)
  /-- The address holds no call whose result is dropped. -/
  | noVoidCall (address : Address) (function : String)
  deriving DecidableEq, Repr

namespace ApplyFault

/-- A fault as users read it. -/
def message : ApplyFault → String
  | .notEnabled mutator => "mutator '" ++ mutator ++ "' is not enabled"
  | .noCopy name => "no mutant copy '" ++ name ++ "'"
  | .noOperator op address function =>
    "no '" ++ op.symbol ++ "' instruction at " ++ address.text ++ " in '" ++ function ++ "'"
  | .noVoidCall address function =>
    "no void call at " ++ address.text ++ " in '" ++ function ++ "'"

end ApplyFault

namespace Mutator

/-- The identifier by which a mutator is chosen and reported. -/
def id : Mutator → String
  | .replaceOperator id _ _ => id
  | .removeVoidCall => "cxx_remove_void_call"

/-- What a mutator does. -/
def description : Mutator → String
  | .replaceOperator _ source target =>
    "Replaces " ++ source.symbol ++ " with " ++ target.symbol
  | .removeVoidCall => "Removes calls to functions whose result is ignored"

/-- What a mutator does to an action, for users; none if it cannot change it. -/
def replacement? : Mutator → Action → Option String
  | .replaceOperator _ source target, .binary _ op _ _ =>
    if op = source then some ("Replaced " ++ source.symbol ++ " with " ++ target.symbol) else none
  | .removeVoidCall, .call none callee _ => some ("Removed the call to '" ++ callee ++ "'")
  | _, _ => none

/-- The point of a mutator at an address of a function, if it can change the instruction there. -/
def pointAt? (m : Mutator) (ref : FunctionRef) (function : Function) (address : Address) :
    Option Point := do
  let instruction ← function.instruction? address
  let replacement ← m.replacement? instruction.action
  return { mutator := m.id, function := ref, address, location := instruction.location, replacement }

/-- The points of a mutator among the selected instructions of a function, in their order. -/
def find (m : Mutator) (candidate : Candidate) (function : Function) : List Point :=
  candidate.selected.filterMap (m.pointAt? candidate.function function)

/-- Carries out a mutation at an address of a function. -/
def mutate (m : Mutator) (address : Address) (function : Function) : Except ApplyFault Function :=
  match m, function.instruction? address with
  | .replaceOperator _ source target, some ⟨.binary dst op lhs rhs, location⟩ =>
    if op = source then
      .ok (function.setInstruction address ⟨.binary dst target lhs rhs, location⟩)
    else .error (.noOperator source address function.name)
  | .replaceOperator _ source _, _ => .error (.noOperator source address function.name)
  | .removeVoidCall, some ⟨.call none _ _, _⟩ => .ok (function.eraseInstruction address)
  | .removeVoidCall, _ => .error (.noVoidCall address function.name)

end Mutator

end MutationTesting
