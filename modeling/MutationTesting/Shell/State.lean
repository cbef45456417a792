import MutationTesting.Process.Basic
import MutationTesting.Shell.Command
import MutationTesting.Shell.Signal
import MutationTesting.Storage.Disk
import MutationTesting.Text.Integer
import MutationTesting.Text.Octets

/-!
# The state of a shell

Variables, arguments and functions, the streams and where they lead, the time spent asleep, and
whether the shell goes on. All texts of a shell are octets; the names and contents of files on the
disk are not, and are changed into octets and back where they are asked for.
-/

namespace MutationTesting.Shell

/-- Where a stream leads. -/
inductive Sink where
  /-- To the output of the shell. -/
  | output
  /-- To the error stream of the shell. -/
  | error
  /-- To the end of a file. -/
  | file (place : List String)
  /-- Nowhere. -/
  | nowhere
  /-- It is read from the source of a number. -/
  | source (index : Nat)
  deriving DecidableEq, Repr

/-- What is read from. -/
structure Source where
  /-- What is left to read. -/
  rest : List Char
  /-- The size of the file that it comes from, if it is one. -/
  fileSize? : Option Nat := none
  deriving DecidableEq, Repr

/-- Whether the shell goes on. -/
inductive Control where
  /-- It does. -/
  | running
  /-- A number of loops is left. -/
  | leave (loops : Nat)
  /-- A number of loops is left, and the last of them goes on. -/
  | again (loops : Nat)
  /-- A function is left. -/
  | back
  /-- It has ended with its status. -/
  | exited
  /-- It has been ended by a signal. -/
  | killed (signal : Signal)
  /-- It never ends. -/
  | stuck
  deriving DecidableEq, Repr

/-- What can be switched on in a shell. -/
structure Options where
  /-- It ends when a command fails whose status is not looked at. -/
  stopsOnFailure : Bool := false
  /-- It ends when a parameter is expanded that is not set. -/
  stopsOnUnset : Bool := false
  /-- It tells every command before it is carried out. -/
  traces : Bool := false
  /-- Patterns are not replaced by the names of files. -/
  keepsPatterns : Bool := false
  /-- Files are not emptied by redirections. -/
  keepsFiles : Bool := false
  /-- Variables are for the environment of programs when they are set. -/
  exportsAll : Bool := false
  /-- Commands are read but not carried out. -/
  onlyReads : Bool := false
  /-- The letters of what is switched on without an effect. -/
  others : List Char := []
  deriving DecidableEq, Repr

namespace Options

/-- The names of what can be switched on, with their letters as far as they have one. -/
def names : List (String × Option Char) :=
  [("errexit", some 'e'), ("noglob", some 'f'), ("ignoreeof", some 'I'), ("interactive", some 'i'),
    ("monitor", some 'm'), ("noexec", some 'n'), ("stdin", some 's'), ("xtrace", some 'x'),
    ("verbose", some 'v'), ("vi", some 'V'), ("emacs", some 'E'), ("noclobber", some 'C'),
    ("allexport", some 'a'), ("notify", some 'b'), ("nounset", some 'u'), ("privileged", some 'p'),
    ("nolog", none), ("debug", none)]

/-- What a letter stands for is switched on. -/
def has (o : Options) : Char → Bool
  | 'e' => o.stopsOnFailure
  | 'u' => o.stopsOnUnset
  | 'x' => o.traces
  | 'f' => o.keepsPatterns
  | 'C' => o.keepsFiles
  | 'a' => o.exportsAll
  | 'n' => o.onlyReads
  | c => o.others.contains c

/-- The letters of what is switched on, the last one first. -/
def letters (o : Options) : String :=
  String.ofList ((names.filterMap (·.2)).reverse.filter o.has)

/-- Switches something on or off by its letter. -/
def switch? (o : Options) (on : Bool) : Char → Option Options
  | 'e' => some { o with stopsOnFailure := on }
  | 'u' => some { o with stopsOnUnset := on }
  | 'x' => some { o with traces := on }
  | 'f' => some { o with keepsPatterns := on }
  | 'C' => some { o with keepsFiles := on }
  | 'a' => some { o with exportsAll := on }
  | 'n' => some { o with onlyReads := on }
  | c =>
    if names.any (·.2 == some c) then
      some { o with others := (if on then [c] else []) ++ o.others.filter (· != c) }
    else none

/-- Switches something on or off by its name. -/
def switchNamed? (o : Options) (on : Bool) (name : String) : Option Options :=
  match names.lookup name with
  | none => none
  | some none => some o
  | some (some c) => o.switch? on c

end Options

/-- A command that is not waited for. -/
structure Job where
  /-- The number of its process. -/
  process : Nat
  /-- Its status. -/
  status : Nat
  /-- The time asleep after which it ends, if it does. -/
  until? : Option Nat
  /-- The signal that ended it, unless it was already told. -/
  signal? : Option Signal := none
  deriving DecidableEq, Repr

/-- The commands of the shell on which it does not depend. -/
def ordinaryCommands : List String :=
  ["[", "alias", "bg", "cd", "chdir", "command", "echo", "false", "fg", "getopts", "hash", "jobs",
    "kill", "printf", "pwd", "read", "test", "true", "type", "ulimit", "umask", "unalias", "wait"]

/-- Bytes that are written while others go on. -/
structure Delayed where
  /-- The time asleep at which they are written. -/
  time : Nat
  /-- The process that writes them. -/
  process : Nat
  /-- They are errors. -/
  isError : Bool
  /-- The bytes. -/
  bytes : ByteArray

/-- The state of a shell. -/
structure State where
  /-- The files. -/
  disk : Disk
  /-- The variables. -/
  vars : Environment
  /-- The names of the variables that programs get. -/
  exported : List String
  /-- The names of the variables that cannot be changed. -/
  fixed : List String := []
  /-- The functions. -/
  functions : List (String × Command) := []
  /-- The aliases, the newest first. -/
  aliases : Aliases := []
  /-- The rights that new files do not get. -/
  mask : Nat := 18
  /-- The number of the argument that is searched for options next. -/
  optionIndex : Nat := 1
  /-- What has been read of the argument in front of it; all of it if none. -/
  optionPlace : Nat := 0
  /-- The programs that have been found by their names. -/
  found : List String := []
  /-- The variables of the function that is carried out, with their values outside. -/
  locals : Option (List (String × Option String)) := none
  /-- The name by which the script was called. -/
  name : String
  /-- The arguments. -/
  args : List String
  /-- The number of the process of the shell. -/
  process : Nat := 4242
  /-- The line of the command that is carried out. -/
  line : Nat := 0
  /-- The status of the last command. -/
  status : Nat := 0
  /-- The status of the last script inside the words of the command that is carried out. -/
  substituted : Nat := 0
  /-- What is switched on. -/
  options : Options := {}
  /-- The command of the shell that carries out others, if there is one. -/
  caller? : Option String := none
  /-- A command of the shell that fails does not end it, whichever it is. -/
  isShielded : Bool := false
  /-- The status of the command that is carried out is looked at. -/
  isTested : Bool := false
  /-- The number of loops around the command that is carried out. -/
  loops : Nat := 0
  /-- The actions to take on signals and at the end. -/
  traps : List (Signal × List Char) := []
  /-- The shell is a copy of the one that runs the script. -/
  isCopy : Bool := false
  /-- The time asleep at which a command began that is not waited for, and its process, if the shell is
  a copy for it. -/
  behind? : Option (Nat × Nat) := none
  /-- What commands that are not waited for write later, the last one first. -/
  delayed : List Delayed := []
  /-- The signals that copies send to the shell that runs the script, with their times, the last one
  first. -/
  pending : List (Nat × Signal) := []
  /-- The commands that were not waited for, the last one first. -/
  jobs : List Job := []
  /-- The process of the last command that was not waited for. -/
  lastJob? : Option Nat := none
  /-- Whether the shell goes on. -/
  control : Control := .running
  /-- What is read from, the newest first. -/
  sources : List (Nat × Source) := [(0, { rest := [] })]
  /-- What has been written to the output. -/
  stdout : ByteArray := .empty
  /-- What has been written to the error stream. -/
  stderr : ByteArray := .empty
  /-- Where the streams of commands lead. -/
  sinks : List (Nat × Sink) := [(0, .source 0), (1, .output), (2, .error)]
  /-- Something has been written to a stream that is closed. -/
  isLost : Bool := false
  /-- The milliseconds spent asleep. -/
  slept : Nat := 0
  /-- The milliseconds after which nobody waits any more. -/
  limit : Nat

namespace State

/-! ## Variables -/

/-- The value of a variable. -/
def get? (st : State) (name : String) : Option String :=
  st.vars.lookup name

/-- The state with a variable set. -/
def set (st : State) (name value : String) : State :=
  { st with
    vars := st.vars.set name value
    exported := if st.options.exportsAll && !st.exported.contains name then name :: st.exported
      else st.exported
    optionIndex := if name == "OPTIND" then ((digits? value.toList).getD 1) else st.optionIndex
    optionPlace := if name == "OPTIND" then 0 else st.optionPlace
    found := if name == "PATH" then [] else st.found }

/-- The state without a variable. -/
def unset (st : State) (name : String) : State :=
  { st with vars := st.vars.filter (·.1 != name), exported := st.exported.filter (· != name) }

/-- The place of a name among all names when variables are handed on. -/
def namePlace (name : String) : Nat :=
  let cs := name.toList.map Char.toNat
  (cs.headD 0 * 16 + cs.foldl (· + ·) 0) % 39

/-- The environment that programs get. -/
def environment (st : State) : Environment :=
  (st.vars.filter fun v => st.exported.contains v.1).mergeSort fun a b =>
    namePlace a.1 ≤ namePlace b.1

/-! ## Status and control -/

/-- The state with a status. -/
def withStatus (st : State) (status : Nat) : State :=
  { st with status }

/-- The shell has ended with a status. -/
def exit (st : State) (status : Nat) : State :=
  { st with status, control := .exited }

/-- The shell goes on. -/
def isRunning (st : State) : Bool :=
  st.control == .running

/-! ## Streams -/

/-- Where a stream leads. -/
def sink (st : State) (stream : Nat) : Sink :=
  (st.sinks.lookup stream).getD .nowhere

/-- The state with a stream leading elsewhere. -/
def redirect (st : State) (stream : Nat) (sink : Sink) : State :=
  { st with sinks := (stream, sink) :: st.sinks.filter (·.1 != stream) }

/-- Writes bytes where a sink leads. -/
def writeTo (st : State) (sink : Sink) (bytes : ByteArray) : State :=
  let delay (isError : Bool) : Option State :=
    match st.behind? with
    | some (start, process) =>
      if start < st.slept then
        some { st with delayed := { time := st.slept, process, isError, bytes } :: st.delayed }
      else none
    | none => none
  match sink with
  | .output => (delay false).getD { st with stdout := st.stdout ++ bytes }
  | .error => (delay true).getD { st with stderr := st.stderr ++ bytes }
  | .nowhere => st
  | .source _ => st
  | .file place =>
    match st.disk.node? place with
    | some (.file content executable) =>
      { st with disk := st.disk.put place (.file (content ++ Utf8.decodeText bytes) executable) }
    | _ => st

/-- The state with a stream that is closed. -/
def close (st : State) (stream : Nat) : State :=
  { st with sinks := st.sinks.filter (·.1 != stream) }

/-- Writes bytes to the output of commands. -/
def write (st : State) (bytes : ByteArray) : State :=
  match st.sinks.lookup 1 with
  | some sink => st.writeTo sink bytes
  | none => { st with isLost := st.isLost || !bytes.isEmpty }

/-- Writes a text to the output of commands. -/
def print (st : State) (text : String) : State :=
  st.write (Octets.bytes text)

/-- Writes a text to the errors of commands. -/
def complain (st : State) (text : String) : State :=
  st.writeTo (st.sink 2) (Octets.bytes text)

/-- Tells what is wrong, with the name of the script, the line, and the command of the shell that
carries out others. -/
def report (st : State) (text : String) : State :=
  let caller := (st.caller?.map (· ++ ": ")).getD ""
  st.complain (st.name ++ ": " ++ st.line.repr ++ ": " ++ caller ++ text ++ "\n")

/-- Gives up because of an error: what the shell depends on ends it, and other commands of the shell
only fail. -/
def abandon (st : State) (text : String) : State :=
  let st := (st.report text).withStatus 2
  if st.isShielded || st.caller?.any ordinaryCommands.contains then st else st.exit 2

/-- Refuses to carry out a command of the shell. -/
def refuse (st : State) (command text : String) : State :=
  { ({ st with caller? := some command }).abandon text with caller? := st.caller? }

/-! ## Input -/

/-- What the input comes from. -/
def source? (st : State) : Option Source :=
  match st.sink 0 with
  | .source index => st.sources.lookup index
  | _ => none

/-- What is left to read. -/
def input (st : State) : List Char :=
  (st.source?.map (·.rest)).getD []

/-- The state with something else left to read. -/
def withInput (st : State) (rest : List Char) : State :=
  match st.sink 0 with
  | .source index =>
    { st with sources := st.sources.map fun s =>
        if s.1 == index then (index, { s.2 with rest }) else s }
  | _ => st

/-- The state with a stream that is read from a new source. -/
def feed (st : State) (stream : Nat) (source : Source) : State :=
  let index := (st.sources.head?.map (·.1)).getD 0 + 1
  { st with sources := (index, source) :: st.sources }.redirect stream (.source index)

/-- Takes what is left to read. -/
def takeInput (st : State) : List Char × State :=
  (st.input, st.withInput [])

/-! ## Files -/

/-- The node of a path. -/
def find (st : State) (path : String) : Except IoError Node :=
  st.disk.find (Octets.toText path)

/-- The place of a path. -/
def place (st : State) (path : String) : Except IoError (List String) :=
  st.disk.place (Octets.toText path)

/-- What a file holds. -/
def readFile (st : State) (path : String) : Except IoError String :=
  (st.disk.read (Octets.toText path)).map Octets.ofText

/-- The state with a file that holds something. -/
def writeFile (st : State) (path content : String) : Except IoError State :=
  (st.disk.write (Octets.toText path) (Octets.toText content)).map fun disk => { st with disk }

/-- The names in a directory, in order. -/
def namesIn (st : State) (place : List String) : List String :=
  (st.disk.nodes.filterMap fun (n, _) =>
    if n != [] && n.dropLast == place then n.getLast?.map Octets.ofText else none).mergeSort (· ≤ ·)

/-- The path of the directory from which relative paths are read. -/
def directory (st : State) : String :=
  Octets.ofText ("/" ++ "/".intercalate st.disk.current)

/-! ## Time -/

/-- Writes what was to be written up to a time. -/
def catchUp (st : State) (time : Nat) : State :=
  if st.behind?.isSome || st.delayed.isEmpty then st
  else
    let (due, later) := st.delayed.partition (·.time ≤ time)
    due.reverse.mergeSort (fun a b => a.time ≤ b.time) |>.foldl (fun st d =>
      if d.isError then { st with stderr := st.stderr ++ d.bytes }
      else { st with stdout := st.stdout ++ d.bytes }) { st with delayed := later }

/-- The first signal up to a time that ends the shell, with its time. -/
def deadlySignal? (st : State) (time : Nat) : Option (Nat × Signal) :=
  if st.isCopy then none
  else st.pending.reverse.find? fun (t, s) =>
    t ≤ time && s.reaction == .terminate && ((st.traps.lookup s).isNone || !s.isCatchable)

/-- Waits until some milliseconds have been spent asleep. -/
def sleepUntil (st : State) (ms : Nat) : State :=
  let slept := max st.slept ms
  match st.deadlySignal? (min slept (st.limit - 1)) with
  | some (time, _) => { st.catchUp time with slept := max st.slept time }
  | none =>
    let st := st.catchUp slept
    { st with slept, control := if slept < st.limit then st.control else .stuck }

/-- Sleeps some milliseconds. -/
def sleep (st : State) (ms : Nat) : State :=
  (st.sleepUntil (st.slept + ms)).withStatus 0

/-- Waits for a command that was not waited for before. -/
def await (st : State) (job : Job) : State :=
  match job.until? with
  | none => { st with control := .stuck }
  | some ms =>
    let st := (st.sleepUntil ms).withStatus job.status
    match job.signal?.filter (·.description != "") with
    | none => st
    | some s =>
      let jobs := st.jobs.map fun j =>
        if j.process == job.process then { j with signal? := none } else j
      { st with jobs }.complain (s.description ++ "\n")

/-- The command that was not waited for that a text names: by its process, or by its place among the
others behind a percent sign. -/
def job? (st : State) (text : String) : Option Job :=
  match text.toList with
  | '%' :: cs =>
    match digits? cs with
    | some n => if n = 0 then none else st.jobs.reverse[n - 1]?
    | none => if cs == ['-'] then st.jobs.tail.head? else st.jobs.head?
  | cs => (digits? cs).bind fun n => st.jobs.find? (·.process == n)

/-! ## Copies of the shell -/

/-- A copy of the shell for commands of its own: no action is left that is not to do nothing. -/
def copy (st : State) : State :=
  { st with traps := st.traps.filter (·.2.isEmpty), jobs := [], isCopy := true }

/-- A copy of the shell whose output is gathered. -/
def gathering (st : State) : State :=
  { st.copy with stdout := .empty, isLost := false, behind? := none, delayed := [] }.redirect 1 .output

/-- A copy whose output was gathered, up to the end of all that writes to it. -/
def gathered (copy : State) : State :=
  let last := (copy.delayed.map (·.time)).foldl max copy.slept
  { copy.catchUp last with slept := last }

/-- The variables that a shell begins with in a directory: those of its environment, and its own. -/
def startVars (directory : String) (parent : Nat) (env : Environment) : Environment :=
  let own : Environment :=
    [("PATH", "/usr/local/sbin:/usr/local/bin:/usr/sbin:/usr/bin:/sbin:/bin"), ("IFS", " \t\n"),
      ("OPTIND", "1"), ("PPID", parent.repr), ("PS1", "# "), ("PS2", "> "), ("PS4", "+ ")]
  let given := env.filter fun v => isName v.1.toList
  Environment.set (given.foldl (fun vars v => Environment.set vars v.1 v.2) own) "PWD" directory

/-- A new shell that gets an environment. -/
def child (st : State) (env : Environment) (name : String) (args : List String) : State :=
  { st with
    name, args
    vars := startVars st.directory st.process env
    exported := (env.map (·.1)).filter (isName ·.toList) ++ ["PWD"]
    fixed := [], functions := [], aliases := [], locals := none
    optionIndex := 1, optionPlace := 0, found := []
    process := st.process + 1
    line := 0, status := 0, options := {}, isTested := false, loops := 0
    caller? := none, isShielded := false
    traps := st.traps.filter (·.2.isEmpty), jobs := []
    isCopy := false, pending := [] }

/-- The sources of a state that are not newer than another one. -/
def olderSources (before after : State) : List (Nat × Source) :=
  after.sources.dropWhile fun s => (before.sources.head?.map (·.1)).getD 0 < s.1

/-- The state after a copy: only what it wrote, its status and its end are seen. -/
def afterCopy (before after : State) : State :=
  { before with
    disk := { after.disk with current := before.disk.current }
    status := after.status
    sources := before.olderSources after
    pending := after.pending
    delayed := after.delayed
    stdout := after.stdout
    stderr := after.stderr
    slept := after.slept
    control := match after.control with
      | .killed signal => .killed signal
      | .stuck => .stuck
      | _ => .running }

/-- The state after a copy whose output was gathered. -/
def afterGathered (before after : State) : State :=
  { before.afterCopy after with stdout := before.stdout, delayed := before.delayed }.catchUp after.slept

/-- The state after another process that took the place of the shell, or was called by it and waited
for. -/
def afterProcess (replaces : Bool) (before after : State) : State :=
  let st := before.afterCopy after
  match st.control with
  | .killed signal =>
    if replaces then st
    else
      let st := { st with status := signal.status, control := .running }
      if signal.description.isEmpty then st else st.complain (signal.description ++ "\n")
  | .running => if replaces then { st with control := .exited } else st
  | _ => st

end State

end MutationTesting.Shell
