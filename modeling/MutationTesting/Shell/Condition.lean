import MutationTesting.Shell.State
import MutationTesting.Text.Integer

/-!
# Conditions of the shell

The command that tests its arguments: texts, numbers and files, joined by negation, conjunction and
disjunction. Whether a word is an operator depends on what stands behind it.
-/

namespace MutationTesting.Shell

/-- Why a condition cannot be decided. -/
inductive ConditionFault where
  /-- An operator has no operand. -/
  | noArgument (op : String)
  /-- A word stands where it may not. -/
  | unexpectedOperator (word : String)
  /-- A bracket is not closed. -/
  | noBracket
  /-- An operand is no number. -/
  | notANumber (text : String)
  deriving DecidableEq, Repr

/-- A fault as users read it. -/
def ConditionFault.message : ConditionFault → String
  | .noArgument op => op ++ ": argument expected"
  | .unexpectedOperator word => word ++ ": unexpected operator"
  | .noBracket => "closing paren expected"
  | .notANumber text => "Illegal number: " ++ text

namespace Condition

/-! ## Operators -/

/-- The operators on one operand. -/
def unaryOperators : List String :=
  ["-r", "-w", "-x", "-e", "-f", "-d", "-c", "-b", "-p", "-u", "-g", "-k", "-s", "-t", "-z", "-n",
    "-O", "-G", "-L", "-h", "-S"]

/-- The operators on two operands. -/
def binaryOperators : List String :=
  ["=", "!=", "<", ">", "-eq", "-ne", "-ge", "-gt", "-le", "-lt", "-nt", "-ot", "-ef"]

/-- What the first of some words is. -/
inductive Kind where
  /-- There is none. -/
  | missing
  /-- An operator or bracket. -/
  | op (text : String)
  /-- An operand. -/
  | operand
  deriving DecidableEq, Repr

/-- What the first of some words is: an operator on one operand is an operand itself if nothing stands
behind it, or an operator on two. -/
def kindOf : List String → Kind
  | [] => .missing
  | w :: rest =>
    if unaryOperators.contains w then
      match rest with
      | [] => .operand
      | next :: _ :: _ => if binaryOperators.contains next then .operand else .op w
      | [_] => .op w
    else if w == "(" then if rest.isEmpty then .operand else .op w
    else if binaryOperators.contains w || ["!", "-a", "-o", ")"].contains w then .op w
    else .operand

/-- The node of a path, if there is one. -/
def nodeOf (st : State) (path : String) : Option Node :=
  (st.find path).toOption

/-- The outcome of an operator on one operand. -/
def unary (st : State) (op arg : String) : Bool :=
  match op with
  | "-n" => arg != ""
  | "-z" => arg == ""
  | "-e" => (nodeOf st arg).isSome
  | "-f" => match nodeOf st arg with
    | some (.file _ _) => true
    | some .runner => true
    | _ => false
  | "-d" => nodeOf st arg == some .directory
  | "-r" => (nodeOf st arg).isSome
  | "-w" => (nodeOf st arg).isSome
  | "-O" => (nodeOf st arg).isSome
  | "-G" => (nodeOf st arg).isSome
  | "-x" => match nodeOf st arg with
    | some (.file _ executable) => executable
    | some _ => true
    | none => false
  | "-s" => match nodeOf st arg with
    | some (.file content _) => content != ""
    | some _ => true
    | none => false
  | _ => false

/-- The number of a text, possibly with blanks around it. -/
def number (text : String) : Except ConditionFault Int :=
  match integer? text.trimAscii.toString with
  | some n => .ok n
  | none => .error (.notANumber text)

/-- The outcome of an operator on two operands. -/
def binary (op a b : String) : Except ConditionFault Bool := do
  match op with
  | "=" => return a == b
  | "!=" => return a != b
  | "<" => return a < b
  | ">" => return b < a
  | "-eq" => return (← number a) == (← number b)
  | "-ne" => return (← number a) != (← number b)
  | "-lt" => return (← number a) < (← number b)
  | "-le" => return (← number a) ≤ (← number b)
  | "-gt" => return (← number b) < (← number a)
  | "-ge" => return (← number b) ≤ (← number a)
  | _ => return false

/-! ## Conditions -/

mutual

/-- The disjunction in front, and the words from its last one on. -/
def readOr (st : State) : Nat → Kind → List String → Except ConditionFault (Bool × List String)
  | 0, _, ws => .ok (false, ws)
  | bound + 1, k, ws => do
    let (a, ws) ← readAnd st bound k ws
    if kindOf ws.tail = .op "-o" then
      let (b, ws) ← readOr st bound (kindOf (ws.drop 2)) (ws.drop 2)
      return (a || b, ws)
    else return (a, ws)

/-- The conjunction in front, and the words from its last one on. -/
def readAnd (st : State) : Nat → Kind → List String → Except ConditionFault (Bool × List String)
  | 0, _, ws => .ok (false, ws)
  | bound + 1, k, ws => do
    let (a, ws) ← readNot st bound k ws
    if kindOf ws.tail = .op "-a" then
      let (b, ws) ← readAnd st bound (kindOf (ws.drop 2)) (ws.drop 2)
      return (a && b, ws)
    else return (a, ws)

/-- The possibly negated condition in front, and the words from its last one on. -/
def readNot (st : State) : Nat → Kind → List String → Except ConditionFault (Bool × List String)
  | 0, _, ws => .ok (false, ws)
  | bound + 1, k, ws => do
    if k = .op "!" then
      let inner := kindOf ws.tail
      let (a, ws) ← readNot st bound inner (if inner = .missing then ws else ws.tail)
      return (!a, ws)
    else readPrimary st bound k ws

/-- The condition in front without negation, and the words from its last one on. -/
def readPrimary (st : State) :
    Nat → Kind → List String → Except ConditionFault (Bool × List String)
  | 0, _, ws => .ok (false, ws)
  | bound + 1, k, ws => do
    let w := ws.headD ""
    if k = .missing then return (false, ws)
    else if k = .op "(" then
      let inner := kindOf ws.tail
      if inner = .op ")" then return (false, ws.tail)
      else
        let (a, ws) ← readOr st bound inner ws.tail
        if kindOf ws.tail = .op ")" then return (a, ws.tail) else throw .noBracket
    else if k = .op w ∧ unaryOperators.contains w then
      match ws.tail with
      | [] => throw (.noArgument w)
      | arg :: rest => return (unary st w arg, arg :: rest)
    else
      match ws with
      | a :: op :: rest =>
        if binaryOperators.contains op && kindOf (op :: rest) = .op op then
          match rest with
          | [] => throw (.noArgument op)
          | b :: rest => return (← binary op a b, b :: rest)
        else return (a != "", ws)
      | _ => return (w != "", ws)

end

/-- The outcome of a condition. -/
def decide (st : State) (args : List String) : Except ConditionFault Bool := do
  let isBinary := args.length == 3 && binaryOperators.contains (args.getD 1 "")
  let args := if !isBinary && (args.length == 3 || args.length == 4) && args.head? == some "("
      && args.getLast? == some ")" then args.tail.dropLast else args
  let k := if isBinary then .operand
    else if (args.length == 3 || args.length == 4) && args.head? == some "!" then .op "!"
    else kindOf args
  let (holds, rest) ← readOr st (4 * args.length + 8) k args
  match rest with
  | w :: _ :: _ => throw (.unexpectedOperator w)
  | _ => return holds

end Condition

/-- Decides a condition for a command. -/
def test (command : String) (args : List String) (st : State) : State :=
  match Condition.decide st args with
  | .ok holds => st.withStatus (if holds then 0 else 1)
  | .error fault => st.refuse command fault.message

end MutationTesting.Shell
