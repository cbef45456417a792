import MutationTesting.Process.Runner
import MutationTesting.Shell.Builtin
import MutationTesting.Shell.System

/-!
# Programs that run programs

What is asked for by the arguments of shells and of utilities that run other programs, how a script
names its interpreter, and how refusals are told.
-/

namespace MutationTesting.Shell

/-! ## Shells -/

/-- How a shell is called. -/
structure ShellRequest where
  /-- The first operand is a script itself. -/
  isScript : Bool := false
  /-- The script is what is left to read, and the operands are arguments. -/
  isInput : Bool := false
  /-- What is switched on. -/
  options : Options := {}
  /-- The operands. -/
  operands : List String := []

/-- How a shell is called, or what is wrong with its arguments. -/
def shellRequest : ShellRequest → List String → Except String ShellRequest
  | r, [] => .ok r
  | r, arg :: args =>
    match arg.toList with
    | ['-'] => .ok { r with operands := args }
    | ['-', '-'] => .ok { r with operands := args }
    | sign :: c :: cs =>
      if sign = '-' ∨ sign = '+' then
        let letters := (c :: cs).filter fun c => c != 'c' && c != 's' && c != 'o'
        match switchAll (sign = '-') letters r.options with
        | .error c => .error ("Illegal option " ++ String.ofList [sign, c])
        | .ok options =>
          let r := { r with
            options
            isScript := r.isScript || (c :: cs).contains 'c'
            isInput := r.isInput || (c :: cs).contains 's' }
          if !(c :: cs).contains 'o' then shellRequest r args
          else match args with
            | [] => .ok r
            | name :: args =>
              match options.switchNamed? (sign = '-') name with
              | some options => shellRequest { r with options } args
              | none => .error ("Illegal option " ++ String.ofList [sign, 'o', ' '] ++ name)
      else .ok { r with operands := arg :: args }
    | _ => .ok { r with operands := arg :: args }

/-- The interpreter that the first line of a script names, with its argument. -/
def interpreter? (content : String) : Option (List String) :=
  match content.toList with
  | '#' :: '!' :: rest =>
    let line := (rest.takeWhile (· != '\n')).dropWhile isBlank
    let path := line.takeWhile fun c => !isBlank c
    let arg := ((line.drop path.length).dropWhile isBlank).reverse.dropWhile isBlank
    some (String.ofList path :: if arg.isEmpty then [] else [String.ofList arg.reverse])
  | _ => none

/-- The shell of a process that ended. -/
def afterEnded (e : Ended) (st : State) : State :=
  let st := (st.write e.stdout).writeTo (st.sink 2) e.stderr
  match e.exit with
  | .code n => { st with status := n, control := .exited }
  | .signal => { st with control := .killed Signal.abort }
  | .never => { st with control := .stuck }

/-- Tells that the shell cannot run a program, which ends it if the program was to replace it. -/
def refuseProgram (replaces : Bool) (name : String) (reason : IoError) (st : State) : State :=
  let (status, text) := match reason with
    | .notFound => (127, "not found")
    | .notDirectory => (127, "not found")
    | reason => (if name.toList.contains '/' then 126 else 127, Utility.ioText reason)
  let caller? := if replaces then some "exec" else st.caller?
  let st := { ({ st with caller? }).report (name ++ ": " ++ text) with caller? := st.caller? }
  { st with status, control := if replaces then .exited else st.control }

/-- The path of a program that can be run, or why there is none. -/
def runnablePath (st : State) (path name : String) : Except IoError String :=
  let paths := candidates path name
  match paths.find? (isRunnable st) with
  | some path => .ok path
  | none =>
    if paths.any fun p => (st.find p).toOption.isSome then .error .permissionDenied
    else .error .notFound

/-! ## Environments -/

/-- The environment with a variable set where it stands, or at its end. -/
def putVariable (env : Environment) (name value : String) : Environment :=
  if env.has name then env.map fun v => if v.1 == name then (name, value) else v
  else env ++ [(name, value)]

/-- The words of a command that name a program and its variables: assignments in front are taken
off. -/
def splitAssignments : List String → List (String × String) × List String
  | [] => ([], [])
  | arg :: args =>
    match splitAssignment arg with
    | (name, some value) =>
      let (rest, command) := splitAssignments args
      ((name, value) :: rest, command)
    | (_, none) => ([], arg :: args)

/-- The environment and the command that arguments ask for, or what is wrong with them. -/
def environmentRequest (env : Environment) (args : List String) :
    Except String (Environment × List String) := do
  let g : Utility.Grammar :=
    { flags := "i0v", valued := "uC", isOrdered := true
      names := [("ignore-environment", 'i'), ("unset", 'u'), ("null", '0'), ("chdir", 'C')] }
  let r ← g.read args
  let clears := r.has 'i' || r.operands.head? == some "-"
  let (assignments, command) :=
    splitAssignments (if r.operands.head? == some "-" then r.operands.tail else r.operands)
  let kept := (if clears then [] else env).filter fun v => !(r.values 'u').contains v.1
  return (assignments.foldl (fun env v => putVariable env v.1 v.2) kept, command)

/-- An environment as lines. -/
def environmentText (env : Environment) : String :=
  String.join (env.map fun v => v.1 ++ "=" ++ v.2 ++ "\n")

/-- Prints the values of variables of an environment, or all of it. -/
def printEnvironment (env : Environment) (args : List String) (st : State) : State :=
  if args.isEmpty then (st.print (environmentText env)).withStatus 0
  else
    let values : List (Option String) := args.map fun name => env.lookup name
    (st.print (String.join (values.map fun value? => (value?.map (· ++ "\n")).getD ""))).withStatus
      (if values.all (·.isSome) then 0 else 1)

/-- Tells that a utility cannot run a program, which it names in its own way. -/
def refuseFor (utility name : String) (reason : IoError) (st : State) : State :=
  let status := match reason with
    | .notFound => 127
    | .notDirectory => 127
    | _ => 126
  let shown := match utility with
    | "env" => Utility.inQuotes name
    | "nice" => Utility.inQuotes name
    | "find" => Utility.inQuotes name
    | "xargs" => name
    | _ => "failed to run command " ++ Utility.inQuotes name
  Utility.faultWith status utility (shown ++ ": " ++ Utility.ioText reason) st

/-- The path on which a program with an environment searches for others. -/
def searchPathOf (env : Environment) : String :=
  (env.lookup "PATH").getD "/bin:/usr/bin"

/-! ## Time limits -/

/-- A time limit for a command: the milliseconds, the status at its end, and the command. -/
structure Deadline where
  /-- The milliseconds. -/
  ms : Nat
  /-- The status when the time is over. -/
  status : Nat
  /-- The command. -/
  command : List String

/-- The time limit and the command that arguments ask for, or what is wrong with them. -/
def deadlineOf (args : List String) : Except String Deadline := do
  let g : Utility.Grammar :=
    { flags := "vp", valued := "ks", isOrdered := true
      names := [("kill-after", 'k'), ("signal", 's'), ("preserve-status", 'p'), ("foreground", 'v'),
        ("verbose", 'v')] }
  let r ← (g.read args).mapError (· ++ Utility.hint "timeout")
  let s? := (r.value? 's').map fun text =>
    Signal.ofText? (if text.startsWith "SIG" then (text.drop 3).toString else text)
  match s?, r.operands with
  | some none, _ => throw (Utility.inQuotes ((r.value? 's').getD "") ++ ": invalid signal"
      ++ Utility.hint "timeout")
  | _, time :: program :: args =>
    match Utility.duration? time with
    | none =>
      throw ("invalid time interval " ++ Utility.inQuotes time ++ Utility.hint "timeout")
    | some ms =>
      let s := (s?.bind id).getD usualSignal
      let status := if s.name == "KILL" then 137 else if r.has 'p' then s.status else 124
      return { ms, status, command := program :: args }
  | _, _ => throw ""

/-! ## Arguments from input -/

/-- The words of a text in which quotes and backslashes keep blanks; the word that goes on, if any, is
carried along with its quote. -/
def quotedWords : Option (List Char) → Option Char → List Char → List String
  | word?, _, [] => (word?.map fun w => String.ofList w.reverse).toList
  | word?, some q, c :: cs =>
    if c == q then quotedWords word? none cs else quotedWords (some (c :: word?.getD [])) (some q) cs
  | word?, none, '\\' :: c :: cs => quotedWords (some (c :: word?.getD [])) none cs
  | word?, none, c :: cs =>
    if c == '"' || c == '\'' then quotedWords (some (word?.getD [])) (some c) cs
    else if c.isWhitespace then
      (word?.map fun w => String.ofList w.reverse).toList ++ quotedWords none none cs
    else quotedWords (some (c :: word?.getD [])) none cs

/-- Lists of at most some elements each. -/
def batches (size : Nat) : Nat → List α → List (List α)
  | 0, _ => []
  | bound + 1, xs =>
    if xs.isEmpty then [] else xs.take size :: batches size bound (xs.drop size)

/-- The words of lines, or words themselves, in groups that each become the arguments of a command: at
most some lines, or at most some words. -/
def wordGroups (lines? words? : Option Nat) (words : List String) (rows : List (List Char)) :
    List (List String) :=
  match lines? with
  | some size =>
    let full := rows.filter fun row => !row.isEmpty
    (batches size (words.length + 1) full).map fun group => group.flatMap (quotedWords none none)
  | none => batches (words?.getD 5000) (words.length + 1) words

/-- The commands to run for the words of an input, or what is wrong with the arguments. -/
def commandsFor (args : List String) (input : List Char) : Except String (List (List String)) := do
  let g : Utility.Grammar :=
    { flags := "0rtx", valued := "nILdPs", isOrdered := true
      names := [("null", '0'), ("no-run-if-empty", 'r'), ("max-args", 'n'), ("replace", 'I'),
        ("delimiter", 'd'), ("max-lines", 'L'), ("max-procs", 'P'), ("verbose", 't')] }
  let r ← (g.read args).mapError (· ++ Utility.hint "xargs")
  let command := if r.operands.isEmpty then ["echo"] else r.operands
  let number (letter : Char) : Option Nat :=
    (r.value? letter).bind fun text => (digits? text.toList).filter (0 < ·)
  let mark? : Option Char :=
    if r.has '0' then some '\x00'
    else (r.value? 'd').bind fun text => match text.toList with
      | ['\\', 'n'] => some '\n'
      | ['\\', 't'] => some '\t'
      | ['\\', '0'] => some '\x00'
      | c :: _ => some c
      | [] => none
  let rows : List (List Char) := Lines.split input
  let pieces (mark : Char) : List String :=
    let swapped := input.map fun c => if c == mark then '\n' else if c == '\n' then mark else c
    (Lines.split swapped).map fun line =>
      String.ofList (line.map fun c => if c == mark then '\n' else c)
  match r.value? 'I' with
  | some text =>
    let lines : List String := match mark? with
      | some mark => pieces mark
      | none => (rows.map fun row => String.ofList (row.dropWhile isBlank)).filter (· != "")
    return lines.map fun line => command.map fun word => line.intercalate (word.splitOn text)
  | none =>
    let words := match mark? with
      | some mark => pieces mark
      | none => quotedWords none none input
    if words.isEmpty then return if r.has 'r' then [] else [command]
    else
      return (wordGroups (number 'L') (number 'n') words rows).map fun group => command ++ group

/-- The state behind a command with a time limit that began at a state. -/
def afterDeadline (d : Deadline) (before after : State) : State :=
  let after := { after with limit := before.limit }
  match after.control with
  | .killed s => { after with status := s.status, control := .running }
  | .stuck =>
    let ended := before.slept + d.ms
    if d.ms = 0 ∨ before.limit ≤ ended then after
    else
      let control := if d.status = 137 then (Signal.ofText? "KILL").elim .running .killed else .running
      { after with status := d.status, slept := ended, control }
  | _ => after

/-- The status behind commands that ended with statuses. -/
def statusOfAll (statuses : List Nat) : Nat :=
  if statuses.contains 127 then 127
  else if statuses.contains 126 then 126
  else if statuses.contains 255 then 124
  else if statuses.any (· != 0) then 123
  else 0

end MutationTesting.Shell
