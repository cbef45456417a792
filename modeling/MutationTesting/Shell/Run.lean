import MutationTesting.Shell.Arithmetic
import MutationTesting.Shell.Field
import MutationTesting.Shell.Program
import MutationTesting.Shell.Redirection

/-!
# Running scripts

Words are expanded to fields, redirections are set up, and commands are carried out one after the
other on the state of the shell.

## Termination

A script may loop for ever. Running it therefore has a bound on the nesting and the number of its
steps, and a shell that reaches the bound counts as one that never ends.
-/

namespace MutationTesting.Shell

/-! ## Control -/

/-- The state after a loop whose body has been left, and whether the loop goes on. -/
def afterBody (st : State) : State × Bool :=
  match st.control with
  | .running => (st, true)
  | .again (n + 2) => ({ st with control := .again (n + 1) }, false)
  | .again _ => ({ st with control := .running }, true)
  | .leave (n + 2) => ({ st with control := .leave (n + 1) }, false)
  | .leave _ => ({ st with control := .running }, false)
  | _ => (st, false)

/-- The state after a failure whose status is not looked at, if the shell ends then. -/
def settle (st : State) : State :=
  if st.isRunning && st.status != 0 && st.options.stopsOnFailure && !st.isTested then
    { st with control := .exited }
  else st

/-- A shell that never ends. -/
def State.stuck (st : State) : State :=
  { st with control := .stuck }

/-! ## Words -/

/-- What a parameter is replaced by. -/
inductive Replacement where
  /-- A text. -/
  | text (text : String)
  /-- A word that is expanded in its place. -/
  | word (w : Word)
  /-- Nothing, because the shell does not go on. -/
  | nothing

/-- How the words of a command are expanded. -/
inductive WordMode where
  /-- The name of the command is still to come. -/
  | first
  /-- Words that look like assignments are expanded as such. -/
  | declaring
  /-- Words are expanded to fields. -/
  | plain

/-- How words are expanded behind one that was expanded to fields. -/
def WordMode.next (mode : WordMode) (fields : List String) : WordMode :=
  match mode, fields.getLast? with
  | .first, some field =>
    if ["export", "readonly", "local", "alias"].contains field then .declaring
    else if field == "command" || field.startsWith "-" then .first
    else .plain
  | mode, _ => mode

/-- The word in front of every command that is told. -/
def promptWord (st : State) : Word :=
  let mark : DocumentMark := { last := [], isLiteral := false, stripsTabs := false }
  (documentWord mark 1 ((st.get? "PS4").getD "").toList).toOption.getD []

/-- The state with the variables of some names as they were before. -/
def restoreVars (names : List String) (before after : State) : State :=
  let vars := names.foldl (fun vars name =>
    match before.get? name with
    | some value => vars.set name value
    | none => vars.filter (·.1 != name)) after.vars
  let exported := (names.filter before.exported.contains)
    ++ after.exported.filter fun name => !names.contains name
  { after with vars, exported }

/-! ## Signals -/

/-- A job that got a signal. -/
def Job.signalled (j : Job) (now : Nat) (s : Signal) : Job :=
  let isOver := j.until?.any (· ≤ now)
  match s.reaction with
  | .terminate =>
    if isOver then j else { j with status := s.status, until? := some now, signal? := some s }
  | _ => j

/-! ## Running -/

mutual

/-- The fields of a word, and the state after its expansions. -/
def expandParts : Nat → Word → Fields → State → Fields × State
  | 0, _, f, st => (f, st.stuck)
  | _ + 1, [], f, st => (f, st)
  | bound + 1, part :: parts, f, st =>
    match part with
    | .text cs quoted => expandParts bound parts (f.pushText quoted cs) st
    | .command text line quoted =>
      let (text, st) := substitute bound { line? := some line, text } st
      expandParts bound parts (f.add quoted text) st
    | .backquoted text quoted =>
      let (text, st) := substitute bound { line? := none, text } st
      expandParts bound parts (f.add quoted text) st
    | .arithmetic expression quoted =>
      let (inner, st) := expandParts bound expression { separators := [] } st
      if !st.isRunning then (f, st)
      else
        let text := inner.text
        match Arithmetic.evaluate (fun name => (st.get? name).getD "") text.toList with
        | .ok (n, assigned) =>
          let st := assigned.reverse.foldl (fun st (name, value) =>
            assign name value.toInt.repr st) st
          expandParts bound parts (f.add quoted n.toInt.repr.toList) st
        | .error fault => (f, st.abandon (fault.message text))
    | .parameter ['@'] .plain quoted => expandParts bound parts (f.addAll quoted st.args) st
    | .parameter ['*'] .plain quoted =>
      let f := if quoted then f.pushText true ((argumentSeparator st).intercalate st.args).toList
        else f.addAll quoted st.args
      expandParts bound parts f st
    | .parameter name modifier quoted =>
      match expandParameter bound name modifier st with
      | (.text text, st) => expandParts bound parts (f.add quoted text.toList) st
      | (.word w, st) =>
        if quoted then
          let (f, st) := expandParts bound w (f.push true []) st
          expandParts bound parts f st
        else
          let (f', st) := expandParts bound (replaceTildes st false true w)
            { f with isResult := true } st
          expandParts bound parts { f' with isResult := f.isResult } st
      | (.nothing, st) => (f, st)

/-- The text of a word that stands alone. -/
def expandText : Nat → Word → State → String × State
  | 0, _, st => ("", st.stuck)
  | bound + 1, w, st =>
    let (f, st) := expandParts bound (replaceTildes st false true w) { separators := [] } st
    (f.text, st)

/-- What a parameter is replaced by after its modifier. -/
def expandParameter : Nat → List Char → Modifier → State → Replacement × State
  | 0, _, _, st => (.nothing, st.stuck)
  | bound + 1, name, modifier, st =>
    let value? := parameter? st name
    let value := value?.getD ""
    let isMissing (colon : Bool) := value?.isNone || (colon && value == "")
    let complain (text : String) :=
      (Replacement.nothing, st.abandon (String.ofList name ++ ": " ++ text))
    match modifier with
    | .plain => if mustBeSet st name then complain "parameter not set" else (.text value, st)
    | .length =>
      if mustBeSet st name then complain "parameter not set" else (.text value.length.repr, st)
    | .default colon word => if isMissing colon then (.word word, st) else (.text value, st)
    | .alternative colon word => if isMissing colon then (.text "", st) else (.word word, st)
    | .assign colon word =>
      if isMissing colon then
        let (text, st) := expandText bound word st
        if !st.isRunning then (.nothing, st)
        else if isName name then (.text text, assign (String.ofList name) text st)
        else (.nothing, st.abandon (String.ofList name ++ ": bad variable name"))
      else (.text value, st)
    | .require colon word =>
      if !isMissing colon then (.text value, st)
      else if word.isEmpty then
        complain (if colon then "parameter not set or null" else "parameter not set")
      else
        let (text, st) := expandText bound word st
        (.nothing, if st.isRunning then st.abandon (String.ofList name ++ ": " ++ text) else st)
    | .trim atEnd longest pattern =>
      if mustBeSet st name then complain "parameter not set"
      else
        let (f, st) := expandParts bound (replaceTildes st false true pattern)
          { separators := [] } st
        (.text (String.ofList (trimPattern atEnd longest f.pattern value.toList)), st)
    | .invalid => (.nothing, st.abandon "Bad substitution")

/-- The fields of words in order. -/
def expandWords : Nat → WordMode → List Word → State → List String × State
  | 0, _, _, st => ([], st.stuck)
  | _ + 1, _, [], st => ([], st)
  | bound + 1, mode, w :: ws, st =>
    if !st.isRunning then ([], st)
    else
      match mode, assignment? w with
      | .declaring, some (name, value) =>
        let (f, st) := expandParts bound (replaceTildes st true true value) { separators := [] } st
        let (rest, st) := expandWords bound mode ws st
        ((String.ofList name ++ "=" ++ f.text) :: rest, st)
      | _, _ =>
        let (f, st) := expandParts bound (replaceTildes st false true w)
          { separators := st.separators } st
        let fields := f.toList.flatMap (fileNames st)
        let (rest, st) := expandWords bound (mode.next fields) ws st
        (fields ++ rest, st)

/-- The output of a script that a copy of the shell runs. -/
def substitute : Nat → Script → State → List Char × State
  | 0, _, st => ([], st.stuck)
  | bound + 1, script, st =>
    let copy := match script.command with
      | .sequence [] => st.gathering.withStatus 0
      | c => (finish bound (runCommand bound c st.gathering)).gathered
    (outputText copy.stdout,
      { st.afterGathered copy with status := st.status, substituted := copy.status })

/-- Sets up redirections in order, as far as they can be, and says why one cannot. -/
def redirectAll : Nat → List Redirect → State → State × Option String
  | 0, _, st => (st.stuck, none)
  | _ + 1, [], st => (st, none)
  | bound + 1, r :: rs, st =>
    let target := if r.kind = .document then r.target else replaceTildes st false true r.target
    let (f, st) := expandParts bound target { separators := [] } st
    if !st.isRunning then (st, none)
    else match redirectTo r f.text st with
      | .ok st => redirectAll bound rs st
      | .error (.failed text) => (st, some text)
      | .error (.senseless text) => (st.abandon text, none)

/-- Carries out a command with redirections that hold for it alone. -/
def runRedirected : Nat → List Redirect → Command → State → State
  | 0, _, _, st => st.stuck
  | bound + 1, rs, c, st =>
    match redirectAll bound rs st with
    | (redirected, none) => restore st (runCommand bound c redirected)
    | (redirected, some text) => settle (((restore st redirected).report text).withStatus 2)

/-- Makes assignments in order, and tells the values. -/
def assignAll : Nat → List (List Char × Word) → State → List (String × String) × State
  | 0, _, st => ([], st.stuck)
  | _ + 1, [], st => ([], st)
  | bound + 1, (name, w) :: rest, st =>
    if !st.isRunning then ([], st)
    else
      let (f, st) := expandParts bound (replaceTildes st true true w) { separators := [] } st
      if !st.isRunning then ([], st)
      else
        let (values, st) := assignAll bound rest (assign (String.ofList name) f.text st)
        ((String.ofList name, f.text) :: values, st)

/-- Carries out a command by its name; functions count if it is asked for, and programs are searched
for on a path. -/
def invoke : Nat → Bool → Option String → String → List String → State → State
  | 0, _, _, _, _, st => st.stuck
  | bound + 1, usesFunctions, path?, command, args, st =>
    match (st.functions.lookup command).filter fun _ => usesFunctions with
    | some body =>
      let outer := (st.args, st.optionIndex, st.optionPlace, st.loops, st.locals)
      let after := runCommand bound body { st.withArgs args with locals := some [], loops := 0 }
      let after := restoreLocals outer.2.2.2.2 after
      { after with
        args := outer.1
        optionIndex := outer.2.1
        optionPlace := outer.2.2.1
        loops := outer.2.2.2.1
        control := if after.control == .back then .running else after.control }
    | none =>
      match command, args with
      | "exec", [] => st.withStatus 0
      | "exec", program :: args => runProgram bound true path? program args st
      | "command", args => runPlainly bound path? args st
      | "eval", args =>
        let outer := (st.caller?, st.line)
        let after := runScript bound (" ".intercalate args).toList
          { st.withStatus 0 with caller? := some "eval" }
        { after with caller? := outer.1, line := outer.2 }
      | ".", [] => st.withStatus 0
      | ".", file :: _ => runSource bound file st
      | "kill", args => runKill bound args st
      | command, args =>
        match builtin? command with
        | some run =>
          let caller? := st.caller?
          let after := run args { st with caller? := some command }
          if after.isLost then
            let after := (after.report (command ++ ": I/O error")).withStatus 1
            { after with caller?, isLost := false }
          else { after with caller? }
        | none => runProgram bound false path? command args st

/-- Carries out a command by its name, which is not that of a function, or says what it stands for. -/
def runPlainly : Nat → Option String → List String → State → State
  | 0, _, _, st => st.stuck
  | bound + 1, path?, args, st =>
    withOptions "command" ['p', 'v', 'V'] args st fun letters args =>
      let path? := if letters.contains 'p' then some usualPath else path?
      match args with
      | [] => st.withStatus 0
      | name :: args =>
        if letters.contains 'v' || letters.contains 'V' then
          describeName (letters.contains 'v') (path?.getD st.searchPath) name (st.withStatus 0)
        else
          let after := invoke bound false path? name args { st with isShielded := true }
          { after with isShielded := st.isShielded }

/-- Runs a script from a file in the shell itself. -/
def runSource : Nat → String → State → State
  | 0, _, st => st.stuck
  | bound + 1, name, st =>
    let found? := (candidates st.searchPath name).findSome? fun path =>
      (st.readFile path).toOption.map (path, ·)
    match found? with
    | some (path, text) =>
      let after := runScript bound text.toList { st.withStatus 0 with caller? := some path }
      { after with
        caller? := st.caller?
        line := st.line
        control := if after.control == .back then .running else after.control }
    | none =>
      st.refuse "." (if name.toList.contains '/' then "cannot open " ++ name ++ ": No such file"
        else name ++ ": not found")

/-- Sends signals, on which the shell may take an action of its own. -/
def runKill : Nat → List String → State → State
  | 0, _, st => st.stuck
  | bound + 1, args, st =>
    match killRequest args with
    | .wrong text => st.refuse "kill" text
    | .list lines => (st.print (String.join (lines.map (· ++ "\n")))).withStatus 0
    | .send signal? targets =>
      let process? (target : String) : Option Nat :=
        if target.startsWith "%" then (st.job? target).map (·.process) else number? target
      match targets.find? fun t => (process? t).isNone with
      | some target =>
        st.refuse "kill" ((if target.startsWith "%" then "No such job: " else "Illegal number: ")
          ++ target)
      | none => sendAll bound signal? (targets.filterMap process?) (st.withStatus 0)

/-- Sends a signal, or none, to processes in order. -/
def sendAll : Nat → Option Signal → List Nat → State → State
  | 0, _, _, st => st.stuck
  | _ + 1, _, [], st => st
  | bound + 1, signal?, target :: targets, st =>
    let isJob := st.jobs.any (·.process == target)
    let st := match signal? with
      | none =>
        if target = st.process || isJob then st
        else (st.report "kill: No such process\n").withStatus 1
      | some s =>
        if target = st.process then
          if st.isCopy then { st with pending := (st.slept, s) :: st.pending }
          else receive bound s st
        else if isJob then
          { st with
            jobs := st.jobs.map fun j =>
              if j.process == target then j.signalled st.slept s else j
            delayed := st.delayed.filter fun d =>
              s.reaction != .terminate || d.process != target || d.time ≤ st.slept }
        else (st.report "kill: No such process\n").withStatus 1
    if st.isRunning then sendAll bound signal? targets st else st

/-- The shell after it got a signal. -/
def receive : Nat → Signal → State → State
  | 0, _, st => st.stuck
  | bound + 1, s, st =>
    match (st.traps.lookup s).filter fun _ => s.isCatchable with
    | some action =>
      let after := runScript bound action st
      if after.isRunning then { after with status := st.status, line := st.line } else after
    | none => signalled s st

/-- The shell after it got the signals that its copies sent. -/
def receiveAll : Nat → List Signal → State → State
  | 0, _, st => st.stuck
  | _ + 1, [], st => st
  | bound + 1, s :: signals, st =>
    let st := receive bound s st
    if st.isRunning then receiveAll bound signals st else st

/-- Runs another program, possibly in the place of the shell. -/
def runProgram : Nat → Bool → Option String → String → List String → State → State
  | 0, _, _, _, _, st => st.stuck
  | bound + 1, replaces, path?, command, args, st =>
    match runnablePath st (path?.getD st.searchPath) command with
    | .error reason => refuseProgram replaces command reason st
    | .ok file =>
      match runFile bound file args st.environment st with
      | .ok after => (st.remember (.program file (st.found.contains command)) command).afterProcess
          replaces after
      | .error reason => refuseProgram replaces command reason st

/-- Runs the program of a file in an environment, or says why it cannot be run. -/
def runFile : Nat → String → List String → Environment → State → Except IoError State
  | 0, _, _, _, st => .ok st.stuck
  | bound + 1, file, args, env, st =>
    match st.find file with
    | .ok .runner =>
      let env := env.map fun v => (Octets.toText v.1, Octets.toText v.2)
      .ok (afterEnded (Runner.run st.disk env (args.map Octets.toText)) st)
    | .ok (.file content _) =>
      match programOf? content with
      | some program => .ok (runUtility bound program args env st)
      | none =>
        match interpreter? (Octets.ofText content) with
        | some (interpreter :: more) =>
          if isRunnable st interpreter then
            runFile bound interpreter (more ++ file :: args) env st
          else .error .notFound
        | _ => .ok (runShell bound (file :: args) env st)
    | _ => .error .permissionDenied

/-- Runs a program for a utility. -/
def runFor : Nat → String → List String → Environment → State → State
  | 0, _, _, _, st => st.stuck
  | _ + 1, _, [], _, st => st
  | bound + 1, utility, program :: args, env, st =>
    match runnablePath st (searchPathOf env) program with
    | .error reason => refuseFor utility program reason st
    | .ok file =>
      match runFile bound file args env st with
      | .ok st => st
      | .error reason => refuseFor utility program reason st

/-- Runs a program for a utility with each of some lists of arguments, and tells the statuses. -/
def runEach : Nat → List (List String) → Environment → State → List Nat × State
  | 0, _, _, st => ([], st.stuck)
  | _ + 1, [], _, st => ([], st)
  | bound + 1, command :: commands, env, st =>
    let st := st.afterProcess false (runFor bound "xargs" command env st)
    if !st.isRunning then ([], st)
    else
      let (statuses, after) := runEach bound commands env st
      (st.status :: statuses, after)

/-- Runs a program that is no script, in an environment. -/
def runUtility : Nat → String → List String → Environment → State → State
  | 0, _, _, _, st => st.stuck
  | bound + 1, program, args, env, st =>
    match program with
    | "sh" => runShell bound args env st
    | "dash" => runShell bound args env st
    | "bash" => runShell bound args env st
    | "which" => showPaths (searchPathOf env) args st
    | "find" =>
      Utility.find (fun command st => st.afterProcess false (runFor bound "find" command env st)) args
        st
    | "nice" =>
      match args with
      | "-n" :: _ :: args => runFor bound "nice" args env st
      | args => runFor bound "nice" args env st
    | "printenv" => printEnvironment env args st
    | "kill" => runKill bound args st
    | "env" =>
      match environmentRequest env args with
      | .error text => Utility.faultWith 125 "env" (text ++ Utility.hint "env") st
      | .ok (env, []) => (st.print (environmentText env)).withStatus 0
      | .ok (env, command) => runFor bound "env" command env st
    | "nohup" =>
      if args.isEmpty then Utility.faultWith 125 "nohup" ("missing operand" ++ Utility.hint "nohup") st
      else runFor bound "nohup" args env st
    | "timeout" =>
      match deadlineOf args with
      | .error "" => 
        (st.complain (((Utility.hint "timeout").drop 1).toString ++ "\n")).withStatus 125
      | .error text => Utility.faultWith 125 "timeout" text st
      | .ok d =>
        let limit := if d.ms = 0 then st.limit else min st.limit (st.slept + d.ms)
        afterDeadline d st (runFor bound "timeout" d.command env { st with limit })
    | "xargs" =>
      let (input, st) := st.takeInput
      match commandsFor args input with
      | .error text => Utility.fault "xargs" text st
      | .ok commands =>
        let (statuses, st) := runEach bound commands env (st.redirect 0 .nowhere)
        if st.isRunning then st.withStatus (statusOfAll statuses) else st
    | name =>
      match utility? name args st with
      | none => st.withStatus 127
      | some after =>
        if after.isLost then
          Utility.fault name "write error: Bad file descriptor" { after with isLost := false }
        else after

/-- Runs a new shell that gets arguments and an environment. -/
def runShell : Nat → List String → Environment → State → State
  | 0, _, _, st => st.stuck
  | bound + 1, args, env, st =>
    let child := st.child env
    match shellRequest {} args with
    | .error text => (child "sh" []).abandon text
    | .ok r =>
      let operands := if r.isInput && !r.isScript then [] else r.operands
      match r.isScript, operands with
      | true, [] => (child "sh" []).abandon "-c requires an argument"
      | true, script :: rest =>
        finish bound (runScript bound script.toList
          { child (rest.headD "sh") rest.tail with options := r.options })
      | false, [] =>
        let (script, st) := (child "sh" r.operands).takeInput
        finish bound (runScript bound script { st with options := r.options })
      | false, file :: rest =>
        match st.readFile file with
        | .ok text =>
          finish bound (runScript bound text.toList { child file rest with options := r.options })
        | .error _ => (child "sh" []).abandon ("cannot open " ++ file ++ ": No such file")

/-- The shell after it got the signals that its copies sent up to now. -/
def receivePending : Nat → State → State
  | 0, st => st.stuck
  | bound + 1, st =>
    if st.pending.isEmpty || st.isCopy || !st.isRunning then st
    else
      let (due, pending) := st.pending.partition (·.1 ≤ st.slept)
      receiveAll bound (due.reverse.map (·.2)) { st with pending }

/-- Carries out a command. -/
def runCommand : Nat → Command → State → State
  | 0, _, st => st.stuck
  | bound + 1, c, st =>
    if !st.isRunning || st.options.onlyReads then st
    else match c with
      | .simple line assignments words redirects =>
        receivePending bound (runSimple bound assignments words redirects { st with line })
      | .pipeline negated stages =>
        if negated then
          let st := runTested bound (.pipeline false stages) st
          if st.isRunning then st.withStatus (if st.status = 0 then 1 else 0) else st
        else match stages with
          | [c] => runCommand bound c st
          | stages => settle (receivePending bound (runStages bound stages st))
      | .andThen first second =>
        let st := runTested bound first st
        if st.status = 0 then runCommand bound second st else st
      | .orElse first second =>
        let st := runTested bound first st
        if st.status = 0 then st else runCommand bound second st
      | .sequence commands => runAll bound commands st
      | .background c =>
        let process := st.process + 100 + st.jobs.length
        let copy := finish bound (runCommand bound c
          ({ st.copy with behind? := st.behind? <|> some (st.slept, process) }.redirect 0 .nowhere))
        let after := st.afterCopy copy
        { after with
          status := 0
          slept := st.slept
          control := .running
          lastJob? := some process
          jobs :=
            { process
              status := match copy.control with
                | .killed s => s.status
                | _ => copy.status
              until? := if copy.control == .stuck then none else some copy.slept } :: st.jobs }
      | .redirected line body redirects => runRedirected bound redirects body { st with line }
      | .subshell line body =>
        let st := { st with line }
        settle (receivePending bound (st.afterCopy (finish bound (runCommand bound body st.copy))))
      | .choose branches otherwise => runBranches bound branches otherwise st
      | .repeat negated condition body =>
        let outer := st.loops
        { runLoop bound negated condition body 0 { st with loops := outer + 1 } with loops := outer }
      | .forEach line name words body =>
        let (fields, inner) := match words with
          | some words => expandWords bound .plain words { st with line }
          | none => (st.args, { st with line })
        if !inner.isRunning then inner
        else
          let outer := inner.loops
          let after := runForEach bound (String.ofList name) fields body
            { inner.withStatus 0 with loops := outer + 1 }
          { after with loops := outer }
      | .select line word arms =>
        let (text, st) := expandText bound word { st with line }
        if st.isRunning then runArms bound text arms st else st
      | .define line name body =>
        { st with line, functions := (String.ofList name, body) :: st.functions, status := 0 }

/-- Carries out a command whose status is looked at. -/
def runTested : Nat → Command → State → State
  | 0, _, st => st.stuck
  | bound + 1, c, st =>
    let outer := st.isTested
    { runCommand bound c { st with isTested := true } with isTested := outer }

/-- Tells a command before it is carried out. -/
def trace : Nat → List (String × String) → List String → State → State
  | 0, _, _, st => st.stuck
  | bound + 1, values, fields, st =>
    let texts := values.map (fun v => v.1 ++ "=" ++ v.2) ++ fields
    if st.options.traces && !texts.isEmpty then
      let quiet := { st.options with traces := false }
      let (f, after) := expandParts bound (promptWord st) { separators := [] }
        { st with options := quiet }
      { after with options := st.options }.complain (f.text ++ " ".intercalate texts ++ "\n")
    else st

/-- Carries out a simple command. -/
def runSimple : Nat → List (List Char × Word) → List Word → List Redirect → State → State
  | 0, _, _, _, st => st.stuck
  | bound + 1, assignments, words, redirects, st =>
    let (fields, st) := expandWords bound .first words { st with substituted := 0 }
    if !st.isRunning then st
    else if redirects.isEmpty then settle (runFields bound none assignments fields st)
    else
      match redirectAll bound redirects st with
      | (redirected, some text) =>
        let st := ((restore st redirected).report text).withStatus 2
        if fields.head?.any specialCommands.contains && !st.isShielded then st.exit 2 else settle st
      | (redirected, none) =>
        if !redirected.isRunning then restore st redirected
        else
          let after := runFields bound (some st.sinks) assignments fields redirected
          settle (if fields == ["exec"] || fields == ["command", "exec"] then after
            else restore st after)

/-- Carries out a command whose words have been expanded to fields, with assignments in front; it is
told where the streams lead without its redirections. -/
def runFields : Nat → Option (List (Nat × Sink)) → List (List Char × Word) → List String → State →
    State
  | 0, _, _, _, st => st.stuck
  | bound + 1, outer?, assignments, fields, st =>
    if assignments.isEmpty && !st.options.traces then
      match fields with
      | [] => st.withStatus st.substituted
      | command :: args => invoke bound true none command args st
    else
      let (values, inner) := assignAll bound assignments st
      if !inner.isRunning then inner
      else
        let sinks := inner.sinks
        let inner :=
          { trace bound values fields { inner with sinks := outer?.getD sinks } with sinks }
        match fields with
        | [] => inner.withStatus inner.substituted
        | command :: args =>
          if specialCommands.contains command && command != "exec" then
            invoke bound true none command args inner
          else
            let names := values.map (·.1)
            let after := invoke bound true none command args
              { inner with exported := names ++ inner.exported }
            if values.isEmpty || command == "exec" then after else restoreVars names st after

/-- Carries out commands in order as long as the shell goes on. -/
def runAll : Nat → List Command → State → State
  | 0, _, st => st.stuck
  | _ + 1, [], st => st
  | bound + 1, c :: cs, st =>
    let st := runCommand bound c st
    if st.isRunning then runAll bound cs st else st

/-- Carries out the stages of a pipeline, each in a copy of the shell that reads what the one before
wrote. A stage that never ends but writes ends when nobody reads any more. -/
def runStages : Nat → List Command → State → State
  | 0, _, st => st.stuck
  | _ + 1, [], st => st
  | bound + 1, [c], st => st.afterCopy (finish bound (runCommand bound c st.copy))
  | bound + 1, c :: cs, st =>
    let copy := (finish bound (runCommand bound c st.gathering)).gathered
    let between := { st with
      disk := { copy.disk with current := st.disk.current }
      sources := st.olderSources copy
      pending := copy.pending
      slept := if st.behind?.isSome then copy.slept else st.slept
      stderr := copy.stderr }
    let rest := runStages bound cs (between.feed 0 { rest := Octets.chars copy.stdout })
    { restore st rest with
      slept := max copy.slept rest.slept
      control :=
        if copy.control == .stuck && copy.stdout.isEmpty then copy.control else rest.control }

/-- Carries out the commands behind the first condition that holds. -/
def runBranches : Nat → List (Command × Command) → Option Command → State → State
  | 0, _, _, st => st.stuck
  | _ + 1, [], none, st => st.withStatus 0
  | bound + 1, [], some otherwise, st => runCommand bound otherwise st
  | bound + 1, (condition, body) :: branches, otherwise, st =>
    let st := runTested bound condition st
    if !st.isRunning then st
    else if st.status = 0 then runCommand bound body st
    else runBranches bound branches otherwise st

/-- Carries out a body as long as a condition holds, or does not. -/
def runLoop : Nat → Bool → Command → Command → Nat → State → State
  | 0, _, _, _, _, st => st.stuck
  | bound + 1, negated, condition, body, status, st =>
    let st := runTested bound condition st
    if !st.isRunning then (afterBody st).1
    else if (st.status = 0) = negated then st.withStatus status
    else
      let (st, goesOn) := afterBody (runCommand bound body st)
      if goesOn then runLoop bound negated condition body st.status st else st

/-- Carries out a body for each of some values of a variable. -/
def runForEach : Nat → String → List String → Command → State → State
  | 0, _, _, _, st => st.stuck
  | _ + 1, _, [], _, st => st
  | bound + 1, name, value :: values, body, st =>
    let (st, goesOn) := afterBody (runCommand bound body (assign name value st))
    if goesOn then runForEach bound name values body st else st

/-- Carries out the commands behind the first pattern that matches a text. -/
def runArms : Nat → String → List (List Word × Command) → State → State
  | 0, _, _, st => st.stuck
  | _ + 1, _, [], st => st.withStatus 0
  | bound + 1, text, (patterns, body) :: arms, st =>
    let (holds, st) := matchesAny bound text patterns st
    if !st.isRunning then st
    else if holds then runCommand bound body (st.withStatus 0)
    else runArms bound text arms st

/-- A text matches one of some patterns. -/
def matchesAny : Nat → String → List Word → State → Bool × State
  | 0, _, _, st => (false, st.stuck)
  | _ + 1, _, [], st => (false, st)
  | bound + 1, text, pattern :: patterns, st =>
    let (f, st) := expandParts bound (replaceTildes st false true pattern) { separators := [] } st
    if st.isRunning && !matchesPattern f.pattern text.toList then
      matchesAny bound text patterns st
    else (st.isRunning, st)

/-- Carries out the lines of a script. -/
def runLines : Nat → List Placed → State → State
  | 0, _, st => st.stuck
  | bound + 1, ts, st =>
    if ts.isEmpty || !st.isRunning then st
    else match ((readLine (ts.length + 1)).run st.aliases).run ts with
      | .ok (commands, rest) => runLines bound rest (runAll bound commands st)
      | .error (fault, line) => { st with line }.abandon ("Syntax error: " ++ fault.message)

/-- Carries out a script. -/
def runScript : Nat → List Char → State → State
  | 0, _, st => st.stuck
  | bound + 1, script, st => runLines bound (checkedTokens script) st

/-- Ends a shell: the action for its end is taken. -/
def finish : Nat → State → State
  | 0, st => st.stuck
  | bound + 1, st =>
    let ends := match st.control with
      | .killed _ => false
      | .stuck => false
      | _ => true
    match (st.traps.lookup Signal.exit).filter fun _ => ends with
    | some action =>
      let after := runScript bound action
        { st with control := .running, traps := st.traps.filter (·.1 != Signal.exit) }
      { after with status := if after.isRunning then st.status else after.status }
    | none => st

end

/-- The number of steps after which a script counts as one that never ends. -/
def stepLimit : Nat :=
  600000

/-- How a shell ends; what it does not wait for still writes. -/
def State.ended (st : State) : Ended :=
  let exit := match st.control with
    | .killed _ => .signal
    | .stuck => if (st.deadlySignal? (st.limit - 1)).isSome then .signal else .never
    | _ => .code (st.status % 256)
  let st := st.gathered
  { exit, stdout := st.stdout, stderr := st.stderr }

/-- Runs a script under a name with arguments, in an environment and for at most some
milliseconds. -/
def run (d : Disk) (env : Environment) (limit : Nat) (name script : String) (args : List String) :
    Ended :=
  let parent : State :=
    { disk := d.withSystem, vars := [], exported := [], name := "", args := [], limit }
  let env := env.map fun v => (Octets.ofText v.1, Octets.ofText v.2)
  let st := parent.child env (Octets.ofText name) (args.map Octets.ofText)
  (finish stepLimit (runScript stepLimit (Octets.ofText script).toList st)).ended

end MutationTesting.Shell
