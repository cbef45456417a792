/-!
# Binary operators

The operators of the register machine on 64-bit words with sign. Arithmetic wraps; division truncates
toward zero and has no result for a zero divisor; a shift takes its amount modulo 64; a comparison
gives 1 or 0.
-/

namespace MutationTesting

/-- A binary operator. -/
inductive Operator where
  | add | sub | mul | div | rem
  | and | or | xor | shl | shr
  | eq | ne | lt | le | gt | ge
  deriving DecidableEq, Repr, Inhabited

namespace Operator

/-- Every operator, in the order of their declaration. -/
def all : List Operator :=
  [.add, .sub, .mul, .div, .rem, .and, .or, .xor, .shl, .shr, .eq, .ne, .lt, .le, .gt, .ge]

/-- The name of an operator in stored programs. -/
def name : Operator → String
  | .add => "add"
  | .sub => "sub"
  | .mul => "mul"
  | .div => "div"
  | .rem => "rem"
  | .and => "and"
  | .or => "or"
  | .xor => "xor"
  | .shl => "shl"
  | .shr => "shr"
  | .eq => "eq"
  | .ne => "ne"
  | .lt => "lt"
  | .le => "le"
  | .gt => "gt"
  | .ge => "ge"

/-- The operator of a stored name. -/
def ofName? (name : String) : Option Operator :=
  all.find? (·.name == name)

/-- The sign of an operator as users see it. -/
def symbol : Operator → String
  | .add => "+"
  | .sub => "-"
  | .mul => "*"
  | .div => "/"
  | .rem => "%"
  | .and => "&"
  | .or => "|"
  | .xor => "^"
  | .shl => "<<"
  | .shr => ">>"
  | .eq => "=="
  | .ne => "!="
  | .lt => "<"
  | .le => "<="
  | .gt => ">"
  | .ge => ">="

/-- The word of a truth value. -/
@[inline]
def truth (b : Bool) : Int64 :=
  if b then 1 else 0

/-- The result of an operator, none for a division by zero. -/
@[inline]
def evaluate (op : Operator) (lhs rhs : Int64) : Option Int64 :=
  match op with
  | .add => some (lhs + rhs)
  | .sub => some (lhs - rhs)
  | .mul => some (lhs * rhs)
  | .div => if rhs = 0 then none else some (lhs / rhs)
  | .rem => if rhs = 0 then none else some (lhs % rhs)
  | .and => some (lhs &&& rhs)
  | .or => some (lhs ||| rhs)
  | .xor => some (lhs ^^^ rhs)
  | .shl => some (lhs <<< rhs)
  | .shr => some (lhs >>> rhs)
  | .eq => some (truth (lhs == rhs))
  | .ne => some (truth (lhs != rhs))
  | .lt => some (truth (lhs < rhs))
  | .le => some (truth (lhs ≤ rhs))
  | .gt => some (truth (rhs < lhs))
  | .ge => some (truth (rhs ≤ lhs))

/-- Every operator is found by its own name. -/
theorem ofName?_name (op : Operator) : ofName? op.name = some op := by
  cases op <;> decide

end Operator

end MutationTesting
