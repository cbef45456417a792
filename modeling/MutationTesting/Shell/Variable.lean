import MutationTesting.Shell.State
import MutationTesting.Text.Integer

/-!
# Variables of the shell

The commands that set variables, mark them, list them and take them away, and the texts in which
values are listed so that the shell reads them back.
-/

namespace MutationTesting.Shell

/-! ## Numbers -/

/-- The greatest number that a command of the shell takes. -/
def maxNumber : Nat :=
  2147483647

/-- The number of an argument, possibly with blanks around it and a plus sign. -/
def number? (arg : String) : Option Nat := do
  let cs := arg.trimAscii.toString.toList
  let n ← digits? (if cs.head? == some '+' then cs.tail else cs)
  if n ≤ maxNumber then some n else none

/-- Goes on with the number of the first argument, or with a usual one. -/
def withNumber (command : String) (usual : Nat) (args : List String) (st : State)
    (next : Nat → State) : State :=
  match args with
  | [] => next usual
  | arg :: _ =>
    match number? arg with
    | some n => next n
    | none => st.refuse command ("Illegal number: " ++ arg)

/-! ## Options -/

/-- The letters of the options in front of arguments, and the arguments behind them; or the first
letter that is not known. -/
def splitOptions (known : List Char) : List String → Except Char (List Char × List String)
  | [] => .ok ([], [])
  | arg :: args =>
    match arg.toList with
    | ['-', '-'] => .ok ([], args)
    | '-' :: c :: cs =>
      match (c :: cs).find? fun c => !known.contains c with
      | some c => .error c
      | none => (splitOptions known args).map fun (letters, rest) => (c :: cs ++ letters, rest)
    | _ => .ok ([], arg :: args)

/-- Goes on with the options and the other arguments of a command. -/
def withOptions (command : String) (known : List Char) (args : List String) (st : State)
    (next : List Char → List String → State) : State :=
  match splitOptions known args with
  | .ok (letters, args) => next letters args
  | .error c => st.refuse command ("Illegal option -" ++ String.singleton c)

/-! ## Quoted texts -/

/-- Characters between single quotes; single quotes among them stand between double quotes, with a
bound on the number of pieces. -/
def quotedPieces : Nat → List Char → List Char
  | 0, _ => []
  | bound + 1, cs =>
    let plain := cs.takeWhile (· != '\'')
    let rest := cs.drop plain.length
    let quotes := rest.takeWhile (· == '\'')
    let after := rest.drop quotes.length
    '\'' :: plain ++ '\'' :: (if quotes.isEmpty then [] else '"' :: quotes ++ ['"'])
      ++ (if after.isEmpty then [] else quotedPieces bound after)

/-- A text as a word that stands for it. -/
def quoteWord (text : String) : String :=
  String.ofList (quotedPieces (text.length + 1) text.toList)

/-! ## Variables -/

/-- The name and the value that an argument assigns. -/
def splitAssignment (arg : String) : String × Option String :=
  match arg.toList.span (· != '=') with
  | (name, _ :: value) => (String.ofList name, some (String.ofList value))
  | (name, []) => (String.ofList name, none)

/-- The state with a variable set, unless it cannot be changed. -/
def assign (name value : String) (st : State) : State :=
  if st.fixed.contains name then st.abandon (name ++ ": is read only") else st.set name value

/-- Marks variables, each possibly with a value. -/
def declare (command : String) (mark : String → State → State) (args : List String)
    (st : State) : State :=
  args.foldl (fun st arg =>
    if !st.isRunning then st
    else
      let (name, value?) := splitAssignment arg
      if !isName name.toList then st.refuse command (name ++ ": bad variable name")
      else
        let st := match value? with
          | some value => assign name value st
          | none => st
        if st.isRunning then mark name st else st) (st.withStatus 0)

/-- Marks a variable for the environment of programs. -/
def exportName (name : String) (st : State) : State :=
  { st with exported := name :: st.exported.filter (· != name) }

/-- Marks a variable as one that cannot be changed. -/
def fixName (name : String) (st : State) : State :=
  { st with fixed := name :: st.fixed }

/-- A variable as a list shows it. -/
def listedVariable (st : State) (name : String) : String :=
  match st.get? name with
  | some value => name ++ "=" ++ quoteWord value
  | none => name

/-- Marks variables, or lists those that are marked. -/
def declareOrList (command : String) (mark : String → State → State) (marked : List String)
    (args : List String) (st : State) : State :=
  withOptions command ['p'] args st fun letters args =>
    if args.isEmpty || letters.contains 'p' then
      let names := (marked.eraseDups).mergeSort (· ≤ ·)
      (st.print (String.join (names.map fun name =>
        command ++ " " ++ listedVariable st name ++ "\n"))).withStatus 0
    else declare command mark args st

/-- Lists all variables. -/
def listVariables (st : State) : State :=
  let names := (st.vars.map (·.1)).mergeSort (· ≤ ·)
  (st.print (String.join (names.map fun name => listedVariable st name ++ "\n"))).withStatus 0

/-- Makes variables local to the function that is carried out. -/
def makeLocal (args : List String) (st : State) : State :=
  match st.locals with
  | none => st.refuse "local" "not in a function"
  | some locals =>
    let names := args.map fun arg => (splitAssignment arg).1
    let st := { st with
      locals := some (names.map (fun name => (name, st.get? name)) ++ locals) }
    declare "local" (fun _ st => st) args st

/-- The state with the variables of a function as they were outside. -/
def restoreLocals (outside : Option (List (String × Option String))) (st : State) : State :=
  let st := (st.locals.getD []).foldl (fun (st : State) (name, value?) =>
    match value? with
    | some value => { st with vars := st.vars.set name value }
    | none => { st with vars := st.vars.filter (·.1 != name) }) st
  { st with locals := outside }

/-- Takes variables or functions away. -/
def unsetAll (args : List String) (st : State) : State :=
  withOptions "unset" ['f', 'v'] args st fun letters names =>
    if letters.getLast? == some 'f' then
      { st with functions := st.functions.filter fun f => !names.contains f.1, status := 0 }
    else
      names.foldl (fun st name =>
        if !st.isRunning then st
        else if !isName name.toList then st.refuse "unset" (name ++ ": bad variable name")
        else if st.fixed.contains name then st.refuse "unset" (name ++ ": is read only")
        else st.unset name) (st.withStatus 0)

/-! ## Aliases -/

/-- An alias as a list shows it. -/
def listedAlias (name text : String) : String :=
  name ++ "=" ++ quoteWord text

/-- Sets aliases, or shows them. -/
def setAliases (args : List String) (st : State) : State :=
  if args.isEmpty then
    let sorted := st.aliases.reverse.mergeSort fun a b => State.namePlace a.1 ≤ State.namePlace b.1
    (st.print (String.join (sorted.map fun (name, text) => listedAlias name text ++ "\n"))).withStatus
      0
  else
    args.foldl (fun st arg =>
      match splitAssignment arg with
      | ("", _) => st
      | (name, some text) =>
        { st with aliases :=
            if (st.aliases.lookup name).isSome then
              st.aliases.map fun a => if a.1 == name then (name, text) else a
            else (name, text) :: st.aliases }
      | (name, none) =>
        match st.aliases.lookup name with
        | some text => st.print (listedAlias name text ++ "\n")
        | none => (st.complain ("alias: " ++ name ++ " not found\n")).withStatus 1)
      (st.withStatus 0)

/-- Takes aliases away. -/
def unsetAliases (args : List String) (st : State) : State :=
  withOptions "unalias" ['a'] args st fun letters names =>
    if letters.contains 'a' then { st with aliases := [], status := 0 }
    else
      names.foldl (fun st name =>
        if (st.aliases.lookup name).isSome then
          { st with aliases := st.aliases.filter (·.1 != name) }
        else (st.complain ("unalias: " ++ name ++ " not found\n")).withStatus 1) (st.withStatus 0)

end MutationTesting.Shell
