import MutationTesting.Shell.Glob
import MutationTesting.Shell.Utility.File
import MutationTesting.Shell.Utility.Path

/-!
# Finding files

The utility that walks through directories and carries out an expression for every path: tests of the
path, and actions such as printing it or running a program, joined by negation, conjunction and
disjunction.
-/

namespace MutationTesting.Shell.Utility

namespace Finding

/-- What is carried out for a path; it holds or it does not. -/
inductive Expression where
  /-- Something is true of the path. -/
  | test (holds : State → String → Bool)
  /-- The path is printed, with an end. -/
  | print (ending : String)
  /-- A text is printed in which marks stand for parts of the path. -/
  | printFormat (format : String)
  /-- What the path leads to is removed. -/
  | delete
  /-- What is below the path is passed over. -/
  | prune
  /-- Nothing more is looked at. -/
  | quit
  /-- A program is run. -/
  | execute (words : List String)
  /-- A program is run once for all paths. -/
  | executeAll (words : List String)
  /-- An expression does not hold. -/
  | not (e : Expression)
  /-- Both expressions hold; the second is not carried out if the first does not. -/
  | and (a b : Expression)
  /-- One of two expressions holds; the second is not carried out if the first does. -/
  | or (a b : Expression)

/-- An expression does something besides testing. -/
def Expression.acts : Expression → Bool
  | .test _ => false
  | .prune => false
  | .not e => e.acts
  | .and a b => a.acts || b.acts
  | .or a b => a.acts || b.acts
  | _ => true

/-- An expression asks for what is below a directory in front of it. -/
def Expression.isDeep : Expression → Bool
  | .delete => true
  | .not e => e.isDeep
  | .and a b => a.isDeep || b.isDeep
  | .or a b => a.isDeep || b.isDeep
  | _ => false

/-! ## Reading -/

/-- What is left of the arguments, and how far down the walk goes. -/
structure Reading where
  /-- The arguments that are left. -/
  args : List String
  /-- The least depth. -/
  least : Nat := 0
  /-- The greatest depth. -/
  most : Nat := 1000
  /-- What is below a directory comes in front of it. -/
  isDeep : Bool := false

/-- Reads from arguments, or stops with what is wrong. -/
abbrev Reader (α : Type) := StateT Reading (Except String) α

/-- The next argument, if there is one. -/
def next? : Reader (Option String) := do
  match (← get).args with
  | arg :: args =>
    modify fun r => { r with args }
    return some arg
  | [] => return none

/-- The value of a predicate. -/
def value (predicate : String) : Reader String := do
  match ← next? with
  | some text => return text
  | none => throw ("missing argument to `" ++ predicate ++ "'")

/-- The number that is the value of a predicate. -/
def number (predicate : String) : Reader Nat := do
  let text ← value predicate
  match digits? text.toList with
  | some n => return n
  | none =>
    throw ("Expected a positive decimal integer argument to " ++ predicate ++ ", but got "
      ++ inQuotes text)

/-- The words of a command up to its end, and whether it is run once for all paths. -/
def commandWords : List String → Option (List String × Bool × List String)
  | [] => none
  | ";" :: rest => some ([], false, rest)
  | "\x7b\x7d" :: "+" :: rest => some ([], true, rest)
  | word :: rest => (commandWords rest).map fun (words, more) => (word :: words, more)

/-- A number behind a possible sign compares with another one. -/
def compares (text : String) (n : Nat) : Bool :=
  match text.toList with
  | '+' :: cs => (digits? cs).any (· < n)
  | '-' :: cs => (digits? cs).any (n < ·)
  | cs => digits? cs == some n

/-- The size of what a path leads to fits a text: a number with a unit. -/
def fitsSize (text : String) (st : State) (path : String) : Bool :=
  let cs := text.toList
  let unit := match cs.getLast? with
    | some 'c' => 1
    | some 'w' => 2
    | some 'k' => 1024
    | some 'M' => 1048576
    | some 'G' => 1073741824
    | _ => 512
  let number := if cs.getLast?.any Char.isDigit then cs else cs.dropLast
  compares (String.ofList number) ((sizeOf st path + unit - 1) / unit)

/-- What a path leads to is of a kind. -/
def isOfKind (kind : String) (st : State) (path : String) : Bool :=
  match kind with
  | "d" => isDirectory st path
  | "f" => !isDirectory st path
  | _ => false

/-- A directory or a file is empty. -/
def isEmpty (st : State) (path : String) : Bool :=
  match st.find path, st.place path with
  | .ok .directory, .ok place => (st.namesIn place).isEmpty
  | .ok (.file content _), _ => content == ""
  | _, _ => false

/-- The expression of a predicate. -/
def readPredicate (predicate : String) : Reader Expression := do
  let matching (text : String → String) (fold : Char → Char) : Reader Expression := do
    let pattern ← value predicate
    return .test fun _ path =>
      matchesPattern (pattern.toList.map fold) ((text path).toList.map fold)
  match predicate with
  | "-name" => matching (lastName · "") id
  | "-iname" => matching (lastName · "") Char.toLower
  | "-path" => matching id id
  | "-wholename" => matching id id
  | "-ipath" => matching id Char.toLower
  | "-type" =>
    let kind ← value predicate
    return .test (isOfKind kind)
  | "-size" =>
    let text ← value predicate
    return .test (fitsSize text)
  | "-perm" =>
    let mode ← value predicate
    return .test fun st path =>
      let wantsX := mode.toList.any fun c => c == 'x' || c == '1' || c == '5' || c == '7'
      wantsX == (rightsText st path).toList.contains 'x'
  | "-empty" => return .test isEmpty
  | "-executable" => return .test fun st path => (rightsText st path).toList.contains 'x'
  | "-readable" => return .test fun _ _ => true
  | "-writable" => return .test fun _ _ => true
  | "-true" => return .test fun _ _ => true
  | "-false" => return .test fun _ _ => false
  | "-maxdepth" =>
    let most ← number predicate
    modify fun r => { r with most }
    return .test fun _ _ => true
  | "-mindepth" =>
    let least ← number predicate
    modify fun r => { r with least }
    return .test fun _ _ => true
  | "-depth" =>
    modify fun r => { r with isDeep := true }
    return .test fun _ _ => true
  | "-print" => return .print "\n"
  | "-print0" => return .print "\x00"
  | "-printf" => return .printFormat (← value predicate)
  | "-delete" => return .delete
  | "-prune" => return .prune
  | "-quit" => return .quit
  | "-exec" =>
    match commandWords (← get).args with
    | some (words, isOnce, args) =>
      modify fun r => { r with args }
      return if isOnce then .executeAll words else .execute words
    | none => throw "missing argument to `-exec'"
  | text =>
    if text.startsWith "-" then throw ("unknown predicate `" ++ text ++ "'")
    else throw ("paths must precede expression: `" ++ text ++ "'")

mutual

/-- A disjunction, with a bound on the nesting. -/
def readOr : Nat → Reader Expression
  | 0 => throw "expression is too complex"
  | bound + 1 => do
    let a ← readAnd bound
    match (← get).args with
    | "-o" :: args =>
      modify fun r => { r with args }
      return .or a (← readOr bound)
    | "-or" :: args =>
      modify fun r => { r with args }
      return .or a (← readOr bound)
    | _ => return a

/-- A conjunction. -/
def readAnd : Nat → Reader Expression
  | 0 => throw "expression is too complex"
  | bound + 1 => do
    let a ← readNot bound
    match (← get).args with
    | [] => return a
    | "-o" :: _ => return a
    | "-or" :: _ => return a
    | ")" :: _ => return a
    | "-a" :: args =>
      modify fun r => { r with args }
      return .and a (← readAnd bound)
    | "-and" :: args =>
      modify fun r => { r with args }
      return .and a (← readAnd bound)
    | _ => return .and a (← readAnd bound)

/-- An expression that is negated, stands between brackets or is a predicate. -/
def readNot : Nat → Reader Expression
  | 0 => throw "expression is too complex"
  | bound + 1 => do
    match ← next? with
    | none => throw "invalid expression"
    | some "!" => return .not (← readNot bound)
    | some "-not" => return .not (← readNot bound)
    | some "(" =>
      let e ← readOr bound
      match ← next? with
      | some ")" => return e
      | _ => throw "invalid expression; I was expecting to find a ')' somewhere but did not see one."
    | some predicate => readPredicate predicate

end

/-! ## Walking -/

/-- The state of a walk. -/
structure Walk where
  /-- The state of the shell. -/
  st : State
  /-- What is below the path is passed over. -/
  isPruned : Bool := false
  /-- Nothing more is looked at. -/
  isOver : Bool := false
  /-- The paths for programs that are run once, the last one first. -/
  collected : List (List String × List String) := []

/-- A text in which marks stand for parts of a path, with a bound on the number of its pieces. -/
def formatted (st : State) (path : String) (depth : Nat) : Nat → List Char → List Char
  | 0, _ => []
  | bound + 1, cs =>
    let go (text : String) (rest : List Char) : List Char :=
      text.toList ++ formatted st path depth bound rest
    match cs with
    | [] => []
    | '%' :: 'p' :: rest => go path rest
    | '%' :: 'f' :: rest => go (lastName path "") rest
    | '%' :: 'h' :: rest => go (directoryOf path) rest
    | '%' :: 's' :: rest => go (sizeOf st path).repr rest
    | '%' :: 'd' :: rest => go depth.repr rest
    | '%' :: 'y' :: rest => go (if isDirectory st path then "d" else "f") rest
    | '%' :: '%' :: rest => go "%" rest
    | '\\' :: 'n' :: rest => go "\n" rest
    | '\\' :: 't' :: rest => go "\t" rest
    | '\\' :: '0' :: rest => go "\x00" rest
    | c :: rest => c :: formatted st path depth bound rest

/-- Runs a program of the shell. -/
abbrev Runner := List String → State → State

/-- A word of a command with a path where it is asked for. -/
def withPath (path word : String) : String :=
  path.intercalate (word.splitOn "\x7b\x7d")

/-- Carries out an expression for a path. -/
def carryOut (run : Runner) (path : String) (depth : Nat) : Expression → Walk → Bool × Walk
  | .test holds, w => (holds w.st path, w)
  | .print ending, w => (true, { w with st := w.st.print (path ++ ending) })
  | .printFormat format, w =>
    let cs := formatted w.st path depth (format.length + 1) format.toList
    (true, { w with st := printChars w.st cs })
  | .delete, w =>
    match w.st.place path with
    | .ok place => (true, { w with st := removeTree w.st place })
    | .error _ => (false, w)
  | .prune, w => (true, { w with isPruned := true })
  | .quit, w => (true, { w with isOver := true })
  | .execute words, w =>
    let st := run (words.map (withPath path)) w.st
    (st.status == 0, { w with st := st.withStatus w.st.status })
  | .executeAll words, w =>
    let others := w.collected.filter (·.1 != words)
    (true, { w with collected := (words, path :: (w.collected.lookup words).getD []) :: others })
  | .not e, w =>
    let (holds, w) := carryOut run path depth e w
    (!holds, w)
  | .and a b, w =>
    match carryOut run path depth a w with
    | (true, w) => carryOut run path depth b w
    | result => result
  | .or a b, w =>
    match carryOut run path depth a w with
    | (false, w) => carryOut run path depth b w
    | result => result

/-- Walks through a path and what is below it, with a bound on the depth. -/
def walk (run : Runner) (r : Reading) (e : Expression) : Nat → Nat → String → Walk → Walk
  | 0, _, _, w => w
  | bound + 1, depth, path, w =>
    if w.isOver || !w.st.isRunning then w
    else
      let visit (w : Walk) : Walk :=
        if depth < r.least || w.isOver then w else (carryOut run path depth e w).2
      let names := match w.st.find path, w.st.place path with
        | .ok .directory, .ok place => if depth < r.most then w.st.namesIn place else []
        | _, _ => []
      let below (w : Walk) : Walk := names.foldl (fun w name =>
        walk run r e bound (depth + 1) (inDirectory path name) w) w
      if r.isDeep then visit (below w)
      else
        let w := visit { w with isPruned := false }
        if w.isPruned then { w with isPruned := false } else below w

end Finding

/-- Finds the files below paths for which an expression holds. -/
def find (run : Finding.Runner) (args : List String) (st : State) : State :=
  let paths := args.takeWhile fun a => !(a.startsWith "-" && a != "-") && a != "!" && a != "("
  let args := args.drop paths.length
  let e : Finding.Reader Finding.Expression := do
    if (← get).args.isEmpty then return .print "\n"
    let e ← Finding.readOr (3 * args.length + 3)
    match (← get).args with
    | [] => return if e.acts then e else .and e (.print "\n")
    | _ => throw "invalid expression; you have too many ')'"
  match e.run { args } with
  | .error text => fault "find" text st
  | .ok (e, r) =>
    let r := { r with isDeep := r.isDeep || e.isDeep }
    let w := (if paths.isEmpty then ["."] else paths).foldl (fun (w : Finding.Walk) path =>
      match w.st.find path with
      | .error reason => { w with st := fault "find" (inQuotes path ++ ": " ++ ioText reason) w.st }
      | .ok _ => Finding.walk run r e 1000 0 path w) { st := st.withStatus 0 }
    w.collected.reverse.foldl (fun st (words, paths) =>
      let after := run (words ++ paths.reverse) st
      after.withStatus (if after.status = 0 then st.status else 1)) w.st

end MutationTesting.Shell.Utility
