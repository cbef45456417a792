import MutationTesting.Text.Integer

/-!
# Arithmetic expressions of the shell

Integers of 64 bits, variables, assignments, and the operators of comparison, logic and arithmetic
with their usual precedence. A variable that is unset or empty counts as zero. What a condition
leaves out is read but not carried out.
-/

namespace MutationTesting.Shell.Arithmetic

/-- Why an expression has no value. -/
inductive Fault where
  /-- An operand is missing. -/
  | noPrimary
  /-- Something stands behind the expression. -/
  | notEnded
  /-- A bracket is not closed. -/
  | noBracket
  /-- A condition has one branch only. -/
  | noColon
  /-- A division by zero. -/
  | divisionByZero
  /-- A variable holds no number. -/
  | notANumber (value : String)
  deriving DecidableEq, Repr

/-- A fault in an expression as users read it. -/
def Fault.message (expression : String) : Fault → String
  | .noPrimary => "arithmetic expression: expecting primary: \"" ++ expression ++ "\""
  | .notEnded => "arithmetic expression: expecting EOF: \"" ++ expression ++ "\""
  | .noBracket => "arithmetic expression: expecting ')': \"" ++ expression ++ "\""
  | .noColon => "arithmetic expression: expecting ':': \"" ++ expression ++ "\""
  | .divisionByZero => "arithmetic expression: division by zero: \"" ++ expression ++ "\""
  | .notANumber value => "Illegal number: " ++ value

/-! ## Tokens -/

/-- A token of an expression. -/
inductive Token where
  /-- A number. -/
  | number (n : Int64)
  /-- A variable. -/
  | name (cs : List Char)
  /-- An operator or bracket. -/
  | op (text : String)
  /-- A character that belongs to no expression. -/
  | other
  deriving DecidableEq, Repr

/-- The operators and brackets, those that begin like another one behind it. -/
def operators : List String :=
  ["<<=", ">>=", "<<", ">>", "<=", ">=", "==", "!=", "&&", "||", "+=", "-=", "*=", "/=", "%=", "&=",
    "|=", "^=", "=", "+", "-", "*", "/", "%", "<", ">", "&", "|", "^", "!", "~", "(", ")", "?", ":"]

/-- The value of a digit in a base, if it is one. -/
def digit? (base : Nat) (c : Char) : Option Nat :=
  let value := if c.isDigit then c.toNat - '0'.toNat
    else if 'a' ≤ c ∧ c ≤ 'f' then c.toNat - 'a'.toNat + 10
    else if 'A' ≤ c ∧ c ≤ 'F' then c.toNat - 'A'.toNat + 10 else base
  if value < base then some value else none

/-- The number in front in a base, held at the greatest word, and what follows it. -/
def spanNumber (base : Nat) (cs : List Char) : Int64 × List Char :=
  let (digits, rest) := cs.span fun c => (digit? base c).isSome
  let n := (digits.filterMap (digit? base)).foldl (fun n d => n * base + d) 0
  (Int64.ofInt (min n Int64.maxValue.toInt), rest)

/-- The number in front: hexadecimal behind `0x`, octal behind a zero, else decimal. -/
def readNumber (cs : List Char) : Int64 × List Char :=
  match cs with
  | '0' :: 'x' :: c :: rest =>
    if (digit? 16 c).isSome then spanNumber 16 (c :: rest) else (0, 'x' :: c :: rest)
  | '0' :: rest => spanNumber 8 ('0' :: rest)
  | cs => spanNumber 10 cs

/-- The tokens of an expression, with a bound on their number. -/
def tokenize : Nat → List Char → List Token
  | 0, _ => []
  | bound + 1, cs =>
    match cs with
    | [] => []
    | c :: rest =>
      if c.isWhitespace then tokenize bound rest
      else if c.isDigit then
        let (n, rest) := readNumber cs
        .number n :: tokenize bound rest
      else if c.isAlpha || c == '_' then
        let (name, rest) := cs.span fun c => c.isAlphanum || c == '_'
        .name name :: tokenize bound rest
      else match operators.find? fun op => op.toList.isPrefixOf cs with
        | some op => .op op :: tokenize bound (cs.drop op.length)
        | none => [.other]

/-! ## Expressions -/

/-- An expression. -/
inductive Expression where
  /-- A number. -/
  | number (n : Int64)
  /-- The value of a variable. -/
  | variable (name : String)
  /-- An operator on one operand. -/
  | unary (op : String) (e : Expression)
  /-- An operator on two operands. -/
  | binary (op : String) (a b : Expression)
  /-- The second expression if the first holds, else the third. -/
  | choose (condition a b : Expression)
  /-- The value of an expression, assigned to a variable. -/
  | assign (name : String) (e : Expression)
  deriving Repr

/-- How tightly a binary operator binds. -/
def precedence? : String → Option Nat
  | "||" => some 1
  | "&&" => some 2
  | "|" => some 3
  | "^" => some 4
  | "&" => some 5
  | "==" => some 6
  | "!=" => some 6
  | "<" => some 7
  | ">" => some 7
  | "<=" => some 7
  | ">=" => some 7
  | "<<" => some 8
  | ">>" => some 8
  | "+" => some 9
  | "-" => some 9
  | "*" => some 10
  | "/" => some 10
  | "%" => some 10
  | _ => none

/-- The operator that an assignment applies first, none for a plain one. -/
def assignment? : String → Option (Option String)
  | "=" => some none
  | "==" => none
  | "!=" => none
  | "<=" => none
  | ">=" => none
  | op => if op.endsWith "=" then some (some (op.dropEnd 1).toString) else none

/-- The assignment of an expression to a variable by an operator. -/
def Expression.assigned (name : String) (op? : Option String) (e : Expression) : Expression :=
  match op? with
  | none => .assign name e
  | some op => .assign name (.binary op (.variable name) e)

/-- Reads from the tokens of an expression. -/
abbrev Reader (α : Type) := StateT (List Token) (Except Fault) α

mutual

/-- The operand in front. -/
def readOperand : Nat → Reader Expression
  | 0 => throw .noPrimary
  | bound + 1 => do
    match ← get with
    | .number n :: rest =>
      set rest
      return .number n
    | .name cs :: rest =>
      set rest
      return .variable (String.ofList cs)
    | .op "(" :: rest =>
      set rest
      let e ← readExpression bound
      match ← get with
      | .op ")" :: rest =>
        set rest
        return e
      | _ => throw .noBracket
    | .op op :: rest =>
      if op == "-" || op == "+" || op == "!" || op == "~" then
        set rest
        return .unary op (← readOperand bound)
      else throw .noPrimary
    | _ => throw .noPrimary

/-- The expression in front whose binary operators bind more tightly than a limit. -/
def readBinary : Nat → Nat → Reader Expression
  | 0, _ => throw .noPrimary
  | bound + 1, limit => do
    continueBinary bound limit (← readOperand bound)

/-- The expression that a left operand begins. -/
def continueBinary : Nat → Nat → Expression → Reader Expression
  | 0, _, _ => throw .noPrimary
  | bound + 1, limit, a => do
    match ← get with
    | .op op :: rest =>
      match (precedence? op).filter (limit < ·) with
      | some p =>
        set rest
        let b ← readBinary bound p
        continueBinary bound limit (.binary op a b)
      | none => return a
    | _ => return a

/-- The condition or plain expression in front. -/
def readCondition : Nat → Reader Expression
  | 0 => throw .noPrimary
  | bound + 1 => do
    let condition ← readBinary bound 0
    match ← get with
    | .op "?" :: rest =>
      set rest
      let a ← readExpression bound
      match ← get with
      | .op ":" :: rest =>
        set rest
        return .choose condition a (← readCondition bound)
      | _ => throw .noColon
    | _ => return condition

/-- The expression in front, possibly an assignment. -/
def readExpression : Nat → Reader Expression
  | 0 => throw .noPrimary
  | bound + 1 => do
    match ← get with
    | .name cs :: .op op :: rest =>
      match assignment? op with
      | some op? =>
        set rest
        return .assigned (String.ofList cs) op? (← readExpression bound)
      | none => readCondition bound
    | _ => readCondition bound

end

/-- The expression of a text. -/
def read (cs : List Char) : Except Fault Expression := do
  let ts := tokenize (cs.length + 1) cs
  let (e, rest) ← (readExpression (8 * ts.length + 8)).run ts
  if rest.isEmpty then return e else throw .notEnded

/-! ## Values -/

/-- The word of a truth value. -/
def truth (b : Bool) : Int64 :=
  if b then 1 else 0

/-- The value of an operator that needs both operands, none for a division by zero. -/
def binary? (op : String) (a b : Int64) : Option Int64 :=
  match op with
  | "|" => some (a ||| b)
  | "^" => some (a ^^^ b)
  | "&" => some (a &&& b)
  | "==" => some (truth (a == b))
  | "!=" => some (truth (a != b))
  | "<" => some (truth (a < b))
  | ">" => some (truth (b < a))
  | "<=" => some (truth (a ≤ b))
  | ">=" => some (truth (b ≤ a))
  | "<<" => some (a <<< b)
  | ">>" => some (a >>> b)
  | "+" => some (a + b)
  | "-" => some (a - b)
  | "*" => some (a * b)
  | "/" => if b = 0 then none else some (a / b)
  | "%" => if b = 0 then none else some (a % b)
  | _ => none

/-- The value of an operator on one operand. -/
def unary (op : String) (a : Int64) : Int64 :=
  match op with
  | "-" => -a
  | "!" => truth (a == 0)
  | "~" => ~~~a
  | _ => a

/-- The number that a text stands for as the value of a variable. -/
def numberOf (text : String) : Except Fault Int64 :=
  let cs := text.toList.dropWhile Char.isWhitespace
  if cs.isEmpty then .ok 0
  else
    let (negative, cs) := match cs with
      | '-' :: rest => (true, rest)
      | '+' :: rest => (false, rest)
      | cs => (false, cs)
    let (n, rest) := readNumber cs
    if cs.head?.any Char.isDigit && rest.all Char.isWhitespace then
      .ok (if negative then -n else n)
    else .error (.notANumber text)

/-- The value of an expression; the state holds what has been assigned, the newest first. -/
def Expression.value (lookup : String → String) :
    Expression → StateT (List (String × Int64)) (Except Fault) Int64
  | .number n => return n
  | .variable name => do
    match (← get).lookup name with
    | some n => return n
    | none => numberOf (lookup name)
  | .unary op e => return Arithmetic.unary op (← e.value lookup)
  | .binary op a b => do
    let x ← a.value lookup
    if op == "&&" then
      if x == 0 then return 0 else return truth ((← b.value lookup) != 0)
    else if op == "||" then
      if x != 0 then return 1 else return truth ((← b.value lookup) != 0)
    else
      match binary? op x (← b.value lookup) with
      | some n => return n
      | none => throw .divisionByZero
  | .choose condition a b => do
    if (← condition.value lookup) != 0 then a.value lookup else b.value lookup
  | .assign name e => do
    let n ← e.value lookup
    modify ((name, n) :: ·)
    return n

/-- The value of an expression and what it assigns, the newest first. -/
def evaluate (lookup : String → String) (cs : List Char) :
    Except Fault (Int64 × List (String × Int64)) := do
  (← read cs).value lookup |>.run []

end MutationTesting.Shell.Arithmetic
