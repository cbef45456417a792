import MutationTesting.Regex.Reader
import MutationTesting.Shell.Format
import MutationTesting.Shell.Utility.Request

/-!
# Numbers and expressions

Utilities that print numbers in steps, and the value of an expression whose tokens are the arguments.
-/

namespace MutationTesting.Shell.Utility

/-! ## Numbers in steps -/

/-- A decimal number, and the number of its decimal places. -/
def decimal? (text : String) : Option (Rat × Nat) := do
  let (isNegative, cs) := Formatted.spanSign text.toList
  let (q, rest) ← Formatted.spanSize 10 'e' cs
  if !rest.isEmpty then none
  else
    let places := match (cs.takeWhile fun c => c.toLower != 'e').dropWhile (· != '.') with
      | _ :: digits => digits.length
      | [] => 0
    return (if isNegative then -q else q, places)

/-- A number with some decimal places. -/
def withPlaces (places : Nat) (q : Rat) : String :=
  (if q < 0 then "-" else "") ++ Decimal.fixed places (if q < 0 then -q else q)

/-- A text filled up with zeros behind its sign. -/
def padZeros (width : Nat) (text : String) : String :=
  let zeros := String.ofList (List.replicate (width - text.length) '0')
  if text.startsWith "-" then "-" ++ zeros ++ (text.drop 1).toString else zeros ++ text

/-- The most numbers that are printed. -/
def mostNumbers : Nat :=
  3000000

/-- The numbers from one to another in steps. -/
def numbers (first step last : Rat) : List Rat :=
  if (0 < step ∧ last < first) ∨ (step < 0 ∧ first < last) then []
  else
    let count := ((last - first) / step).floor.toNat + 1
    (List.range (min count mostNumbers)).map fun (i : Nat) => first + step * i

/-- Arguments with a mark in front of the first one that is an operand: one without a hyphen, or a
number. -/
def endOptions (isNumber : String → Bool) : List String → List String
  | [] => []
  | "--" :: args => "--" :: args
  | "-s" :: value :: args => "-s" :: value :: endOptions isNumber args
  | "-f" :: value :: args => "-f" :: value :: endOptions isNumber args
  | arg :: args =>
    if isNumber arg || !arg.startsWith "-" then "--" :: arg :: args
    else arg :: endOptions isNumber args

/-- Prints numbers in steps. -/
def sequence (args : List String) (st : State) : State :=
  let g : Grammar :=
    { flags := "w", valued := "sf", isOrdered := true
      names := [("separator", 's'), ("equal-width", 'w'), ("format", 'f')] }
  let isNumber (arg : String) : Bool := match arg.toList with
    | '-' :: c :: _ => c.isDigit || c == '.'
    | _ => false
  withRequest "seq" 1 g (endOptions isNumber args) st
    fun r st =>
      let fail (text : String) := fault "seq" (text ++ hint "seq") st
      match r.operands.find? fun arg => (decimal? arg).isNone with
      | some arg =>
        if 3 < r.operands.length then fail ("extra operand " ++ inQuotes (r.operands.getD 3 ""))
        else fail ("invalid floating point argument: " ++ inQuotes arg)
      | none =>
        let given := r.operands.filterMap decimal?
        let print (first step last : Rat × Nat) : State :=
          if step.1 = 0 then
            fail ("invalid Zero increment value: " ++ inQuotes (r.operands.getD 1 ""))
          else
            let places := max first.2 step.2
            let values := numbers first.1 step.1 last.1
            let texts := match r.value? 'f' with
              | some format => values.map fun q =>
                  let f := formatOnce (format.length + 1) format.toList
                    { args := [withPlaces (max places 6) q] }
                  String.ofList (Octets.chars f.bytes)
              | none => values.map (withPlaces places)
            let width := if r.has 'w' then
                max (withPlaces places first.1).length
                  ((withPlaces places ((values.getLast?).getD first.1)).length)
              else 0
            let texts := texts.map (padZeros width)
            if texts.isEmpty then st
            else st.print (((r.value? 's').getD "\n").intercalate texts ++ "\n")
        match given with
        | [] => fail "missing operand"
        | [last] => print (1, 0) (1, 0) last
        | [first, last] => print first (1, 0) last
        | [first, step, last] => print first step last
        | _ => fail ("extra operand " ++ inQuotes (r.operands.getD 3 ""))

/-! ## Expressions -/

namespace Expression

/-- What is wrong with an expression, and the status for it. -/
structure Fault where
  /-- The text. -/
  text : String
  /-- The status. -/
  status : Nat := 2

/-- Reads from the arguments that are left; the last one read is kept for faults. -/
abbrev Reader (α : Type) := StateT (List String × String) (Except Fault) α

/-- Fails with a text. -/
def fail {α : Type} (text : String) : Reader α :=
  throw { text }

/-- The next argument, which has to be there. -/
def next : Reader String := do
  match ← get with
  | (arg :: rest, _) =>
    set (rest, arg)
    return arg
  | ([], last) => fail ("syntax error: missing argument after " ++ inQuotes last)

/-- The first argument that is left is one of some operators, which is taken. -/
def accept? (operators : List String) : Reader (Option String) := do
  match ← get with
  | (arg :: rest, _) =>
    if operators.contains arg then
      set (rest, arg)
      return some arg
    else return none
  | ([], _) => return none

/-- The integer of a text: digits behind an optional minus sign. -/
def int? (text : String) : Option Int :=
  if text.startsWith "+" then none else integer? text

/-- The text is nothing or zero. -/
def isNull (text : String) : Bool :=
  let cs := text.toList
  cs.isEmpty || (let digits := if cs.head? == some '-' then cs.tail else cs
    !digits.isEmpty && digits.all (· == '0'))

/-- What an expression matches at the beginning of a text: the text of its first group, or the number
of characters. -/
def matchText (text pattern : String) : Reader String := do
  match Regex.read {} pattern.toList with
  | .error fault => fail fault.message
  | .ok (r, groups) =>
    match Regex.matchAt? false r (Regex.Place.ofText text.toList) with
    | some m =>
      if 0 < groups then return String.ofList (m.group 1)
      else return m.text.length.repr
    | none => return if 0 < groups then "" else "0"

/-- The value of an operator on integers. -/
def arithmetic (op a b : String) : Reader String := do
  match int? a, int? b with
  | some m, some n =>
    if n = 0 ∧ (op = "/" ∨ op = "%") then fail "division by zero"
    else return (match op with
      | "+" => m + n
      | "-" => m - n
      | "*" => m * n
      | "/" => Int.tdiv m n
      | _ => Int.tmod m n).repr
  | _, _ => fail "non-integer argument"

/-- The value of a comparison, of integers if both sides are. -/
def comparison (op a b : String) : String :=
  let o := match int? a, int? b with
    | some m, some n => compare m n
    | _, _ => compare a b
  let holds : Bool := match op with
    | "<" => o == .lt
    | "<=" => o != .gt
    | ">" => o == .gt
    | ">=" => o != .lt
    | "!=" => o != .eq
    | _ => o == .eq
  if holds then "1" else "0"

/-- The place of the first character of a text that is among others. -/
def indexOf (text chars : String) : Nat :=
  match text.toList.findIdx? fun c => chars.toList.contains c with
  | some i => i + 1
  | none => 0

mutual

/-- The value of the alternatives in front. -/
def readOr : Nat → Reader String
  | 0 => fail "syntax error"
  | bound + 1 => do
    restOr bound (← readAnd bound)

/-- The value of alternatives whose first one is known. -/
def restOr : Nat → String → Reader String
  | 0, a => return a
  | bound + 1, a => do
    match ← accept? ["|"] with
    | none => return a
    | some _ =>
      let b ← readAnd bound
      restOr bound (if isNull a then if isNull b then "0" else b else a)

/-- The value of the conjunction in front. -/
def readAnd : Nat → Reader String
  | 0 => fail "syntax error"
  | bound + 1 => do
    restAnd bound (← readLevel 0 bound)

/-- The value of a conjunction whose first part is known. -/
def restAnd : Nat → String → Reader String
  | 0, a => return a
  | bound + 1, a => do
    match ← accept? ["&"] with
    | none => return a
    | some _ =>
      let b ← readLevel 0 bound
      restAnd bound (if isNull a || isNull b then "0" else a)

/-- The value of the operators of a level in front, which bind more tightly at higher levels. -/
def readLevel (level : Nat) : Nat → Reader String
  | 0 => fail "syntax error"
  | bound + 1 => do
    if level < 4 then restLevel level bound (← readLevel (level + 1) bound)
    else readPrimary bound

/-- The value of the operators of a level whose first operand is known. -/
def restLevel (level : Nat) : Nat → String → Reader String
  | 0, a => return a
  | bound + 1, a => do
    let operators := match level with
      | 0 => ["<", "<=", "=", "==", "!=", ">=", ">"]
      | 1 => ["+", "-"]
      | 2 => ["*", "/", "%"]
      | _ => [":"]
    match ← accept? operators with
    | none => return a
    | some op =>
      let b ← readLevel (level + 1) bound
      match level with
      | 0 => restLevel level bound (comparison op a b)
      | 3 => restLevel level bound (← matchText a b)
      | _ => restLevel level bound (← arithmetic op a b)

/-- The value of a single operand. -/
def readPrimary : Nat → Reader String
  | 0 => fail "syntax error"
  | bound + 1 => do
    let token ← next
    match token with
    | "+" => next
    | "length" => return (← readPrimary bound).length.repr
    | "match" =>
      let text ← readPrimary bound
      matchText text (← readPrimary bound)
    | "index" =>
      let text ← readPrimary bound
      return (indexOf text (← readPrimary bound)).repr
    | "substr" =>
      let text ← readPrimary bound
      let first ← readPrimary bound
      let size ← readPrimary bound
      match int? first, int? size with
      | some i, some n =>
        if i ≤ 0 ∨ n ≤ 0 then return ""
        else return String.ofList ((text.toList.drop (i.toNat - 1)).take n.toNat)
      | _, _ => return ""
    | "(" =>
      let value ← readOr bound
      match ← get with
      | (")" :: rest, _) =>
        set (rest, ")")
        return value
      | (arg :: _, _) => fail ("syntax error: expecting ')' instead of " ++ inQuotes arg)
      | ([], last) => fail ("syntax error: expecting ')' after " ++ inQuotes last)
    | ")" => fail "syntax error: unexpected ')'"
    | token => return token

end

/-- The value of an expression. -/
def value (args : List String) : Except Fault String := do
  let (value, rest, _) ← (readOr (12 * args.length + 12)).run (args, "")
  match rest with
  | [] => return value
  | ")" :: _ => throw { text := "syntax error: unexpected ')'" }
  | arg :: _ => throw { text := "syntax error: unexpected argument " ++ inQuotes arg }

end Expression

/-- Prints the value of an expression, and fails if it is nothing or zero. -/
def expression (args : List String) (st : State) : State :=
  let args := if args.head? == some "--" then args.tail else args
  if args.isEmpty then faultWith 2 "expr" ("missing operand" ++ hint "expr") st
  else match Expression.value args with
    | .ok value => (st.print (value ++ "\n")).withStatus (if Expression.isNull value then 1 else 0)
    | .error f => faultWith f.status "expr" f.text st

end MutationTesting.Shell.Utility
