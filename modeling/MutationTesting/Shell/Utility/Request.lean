import MutationTesting.Shell.State
import MutationTesting.Text.Lines

/-!
# Requests to utilities

The arguments of a utility: options, which are letters or names and may have a value, and operands.
Options may stand behind operands, up to an argument that ends them. What a utility reads are files
in order, or what is left to read.
-/

namespace MutationTesting.Shell.Utility

/-! ## Faults -/

/-- Tells what is wrong, with the name of the utility, which fails with a status. -/
def faultWith (status : Nat) (utility text : String) (st : State) : State :=
  (st.complain (utility ++ ": " ++ text ++ "\n")).withStatus status

/-- Tells what is wrong, with the name of the utility, which fails. -/
def fault (utility text : String) (st : State) : State :=
  faultWith 1 utility text st

/-- A refusal of the system without its number. -/
def ioText : IoError → String
  | .isDirectory => "Is a directory"
  | .notDirectory => "Not a directory"
  | .permissionDenied => "Permission denied"
  | .nameTooLong => "File name too long"
  | .alreadyExists => "File exists"
  | _ => "No such file or directory"

/-- A text between single quotes. -/
def inQuotes (text : String) : String :=
  "'" ++ text ++ "'"

/-! ## Options -/

/-- What options a utility knows. -/
structure Grammar where
  /-- The letters that stand alone. -/
  flags : String := ""
  /-- The letters that have a value. -/
  valued : String := ""
  /-- The letters that names stand for. -/
  names : List (String × Char) := []
  /-- Operands end the options. -/
  isOrdered : Bool := false

/-- The arguments of a utility. -/
structure Request where
  /-- The options with their values, in order. -/
  options : List (Char × String) := []
  /-- The operands. -/
  operands : List String := []
  deriving DecidableEq, Repr

namespace Request

/-- An option has been given. -/
def has (r : Request) (letter : Char) : Bool :=
  r.options.any (·.1 == letter)

/-- The last value of an option. -/
def value? (r : Request) (letter : Char) : Option String :=
  r.options.reverse.lookup letter

/-- The values of an option in order. -/
def values (r : Request) (letter : Char) : List String :=
  (r.options.filter (·.1 == letter)).map (·.2)

/-- The last of some options that has been given. -/
def last? (r : Request) (letters : String) : Option Char :=
  (r.options.reverse.find? fun o => letters.toList.contains o.1).map (·.1)

/-- The request with a further option in front. -/
def withOption (r : Request) (letter : Char) (value : String) : Request :=
  { r with options := (letter, value) :: r.options }

/-- The request with a further operand in front. -/
def withOperand (r : Request) (operand : String) : Request :=
  { r with operands := operand :: r.operands }

end Request

namespace Grammar

/-- The letters of an argument as options; one that has a value takes the rest of the argument, or the
next argument. -/
def letters (g : Grammar) : List Char → List String →
    Except String (List (Char × String) × List String)
  | [], args => .ok ([], args)
  | c :: cs, args =>
    if g.valued.toList.contains c then
      if !cs.isEmpty then .ok ([(c, String.ofList cs)], args)
      else match args with
        | value :: args => .ok ([(c, value)], args)
        | [] => .error ("option requires an argument -- " ++ inQuotes (String.singleton c))
    else if g.flags.toList.contains c then
      (letters g cs args).map fun (options, args) => ((c, "") :: options, args)
    else .error ("invalid option -- " ++ inQuotes (String.singleton c))

/-- The letter that a name, or the beginning of one, stands for. -/
def letter? (g : Grammar) (name : String) : Except String Char :=
  match g.names.lookup name with
  | some c => .ok c
  | none =>
    match (g.names.filter fun n => n.1.startsWith name).map (·.2) |>.eraseDups with
    | [c] => .ok c
    | [] => .error ("unrecognized option '--" ++ name ++ "'")
    | _ =>
      let fits := (g.names.filter fun n => n.1.startsWith name).map fun n => " '--" ++ n.1 ++ "'"
      .error ("option '--" ++ name ++ "' is ambiguous; possibilities:" ++ String.join fits)

/-- The name of an option as an option; its value stands behind an equals sign, or is the next
argument. -/
def named (g : Grammar) (text : String) (args : List String) :
    Except String ((Char × String) × List String) := do
  let name := String.ofList (text.toList.takeWhile (· != '='))
  let value? := if name.length < text.length then some (text.drop (name.length + 1)).toString
    else none
  let c ← g.letter? name
  if g.valued.toList.contains c then
    match value?, args with
    | some value, args => return ((c, value), args)
    | none, value :: args => return ((c, value), args)
    | none, [] => throw ("option '--" ++ name ++ "' requires an argument")
  else if value?.isSome then throw ("option '--" ++ name ++ "' doesn't allow an argument")
  else return ((c, ""), args)

/-- Reads arguments, with a bound on their number. -/
def readArgs (g : Grammar) : Nat → List String → Except String Request
  | 0, args => .ok { operands := args }
  | bound + 1, args =>
    match args with
    | [] => .ok {}
    | "--" :: args => .ok { operands := args }
    | arg :: args =>
      match arg.toList with
      | '-' :: '-' :: _ => do
        let (option, args) ← g.named (arg.drop 2).toString args
        return (← readArgs g bound args).withOption option.1 option.2
      | '-' :: c :: cs => do
        let (options, args) ← g.letters (c :: cs) args
        let r ← readArgs g bound args
        return { r with options := options ++ r.options }
      | _ =>
        if g.isOrdered then .ok { operands := arg :: args }
        else (readArgs g bound args).map fun r => r.withOperand arg

/-- Reads arguments. -/
def read (g : Grammar) (args : List String) : Except String Request :=
  g.readArgs (args.length + 1) args

end Grammar

/-- How a utility hints at its help. -/
def hint (utility : String) : String :=
  "\nTry '" ++ utility ++ " --help' for more information."

/-- Goes on with the arguments of a utility, or fails with a status. -/
def withRequest (utility : String) (status : Nat) (g : Grammar) (args : List String) (st : State)
    (next : Request → State → State) : State :=
  match g.read args with
  | .ok r => next r (st.withStatus 0)
  | .error text => faultWith status utility (text ++ hint utility) st

/-! ## Input -/

/-- The number of bytes that are read from a device that never ends. -/
def endlessBytes : Nat :=
  1000000

/-- What an operand names as input, and the state behind reading it. -/
def openInput (path : String) (st : State) : Except IoError (List Char) × State :=
  if path == "-" || path == "/dev/stdin" then
    let (cs, st) := st.takeInput
    (.ok cs, st)
  else if path == "/dev/null" then (.ok [], st)
  else if path == "/dev/zero" then (.ok (List.replicate endlessBytes '\x00'), st)
  else match st.readFile path with
    | .ok text => (.ok text.toList, st)
    | .error reason => (.error reason, st)

/-- How most utilities say that a file cannot be read. -/
def plainMessage (path reason : String) : String :=
  path ++ ": " ++ reason

/-- How utilities say that a file cannot be opened for reading. -/
def openMessage (path reason : String) : String :=
  "cannot open " ++ inQuotes path ++ " for reading: " ++ reason

/-- The inputs that operands name, with their names; those that cannot be read are passed over with a
message. Without operands it is what is left to read. -/
def inputsOf (utility : String) (message : String → String → String) (operands : List String)
    (st : State) : List (String × List Char) × State :=
  let (inputs, st) := (if operands.isEmpty then ["-"] else operands).foldl
    (fun (inputs, st) path =>
      match openInput path st with
      | (.ok cs, st) => ((path, cs) :: inputs, st)
      | (.error reason, st) => (inputs, fault utility (message path (ioText reason)) st))
    ([], st)
  (inputs.reverse, st)

/-- All inputs as one. -/
def inputOf (utility : String) (message : String → String → String) (operands : List String)
    (st : State) : List Char × State :=
  let (inputs, st) := inputsOf utility message operands st
  (inputs.flatMap (·.2), st)

/-! ## Output -/

/-- Prints characters. -/
def printChars (st : State) (cs : List Char) : State :=
  st.print (String.ofList cs)

/-- Prints lines. -/
def printLines (st : State) (lines : List (List Char)) : State :=
  printChars st (Lines.join lines)

/-- A text filled up with blanks in front. -/
def padLeft (width : Nat) (text : String) : String :=
  String.ofList (List.replicate (width - text.length) ' ') ++ text

end MutationTesting.Shell.Utility
