import MutationTesting.Shell.Variable

/-!
# Actions on signals

The command that sets what a shell does when it gets a signal or ends, and what the arguments of the
command that sends signals ask for.
-/

namespace MutationTesting.Shell

/-- Sets the actions on signals, or takes them away. -/
def setTraps (args : List String) (st : State) : State :=
  let remove (st : State) (s : Signal) : State :=
    { st with traps := st.traps.filter (·.1 != s) }
  let forEach (change : State → Signal → State) (names : List String) : State :=
    names.foldl (fun st name =>
      match Signal.ofText? name with
      | some s => if st.status = 0 then change st s else st
      | none => if st.status = 0 then (st.complain ("trap: " ++ name ++ ": bad trap\n")).withStatus 1
          else st) (st.withStatus 0)
  withOptions "trap" [] args st fun _ args =>
    match args with
    | [] =>
      let shown := (st.traps.mergeSort fun a b => a.1.number ≤ b.1.number).map fun (s, action) =>
        "trap -- " ++ quoteWord (String.ofList action) ++ " " ++ s.name ++ "\n"
      (st.print (String.join shown)).withStatus 0
    | [name] => forEach remove [name]
    | "-" :: names => forEach remove names
    | action :: names =>
      if (Signal.ofText? action).isSome then forEach remove (action :: names)
      else
        forEach (fun st s =>
          { remove st s with traps := (s, action.toList) :: (remove st s).traps }) names

/-- The state after the shell got a signal for which it has no action. -/
def signalled (s : Signal) (st : State) : State :=
  match s.reaction with
  | .none => st.withStatus 0
  | .stop => { st with control := .stuck }
  | .terminate => { st with control := .killed s }

/-- What the arguments of a kill ask for. -/
inductive KillRequest where
  /-- Some lines. -/
  | list (lines : List String)
  /-- A signal for processes, or none, which only asks whether they are there. -/
  | send (signal? : Option Signal) (targets : List String)
  /-- Nothing that can be understood. -/
  | wrong (text : String)

/-- The signal that a kill sends unless it is told another one. -/
def usualSignal : Signal :=
  (Signal.ofText? "TERM").getD Signal.abort

/-- How to call a kill. -/
def killUsage : String :=
  "Usage: kill [-s sigspec | -signum | -sigspec] [pid | job]... or\nkill -l [exitstatus]"

/-- The name of the signal of a number, or of a status that it leaves. -/
def killList (args : List String) : KillRequest :=
  match args with
  | [] => .list ("0" :: Signal.all.map (·.name))
  | arg :: _ =>
    match digits? arg.toList with
    | none => .wrong ("Illegal number: " ++ arg)
    | some n =>
      let number := if 128 < n then n - 128 else n
      match Signal.all.find? (·.number == number) with
      | some s => .list [s.name]
      | none => if n = 0 then .list ["0"] else
          .wrong ("invalid signal number or exit status: " ++ arg)

/-- What the arguments of a kill ask for. -/
def killRequest (args : List String) : KillRequest :=
  let send (s : Signal) (targets : List String) : KillRequest :=
    if targets.isEmpty then .wrong killUsage
    else .send (if s.number = 0 then none else some s) targets
  match args with
  | [] => .wrong killUsage
  | "-l" :: rest => killList rest
  | ["-s"] => .wrong "No arg for -s option"
  | "-s" :: name :: targets =>
    match Signal.ofText? name with
    | some s => send s targets
    | none => .wrong ("invalid signal number or name: " ++ name)
  | "--" :: targets => send usualSignal targets
  | first :: rest =>
    match first.toList with
    | '-' :: c :: cs =>
      match Signal.ofText? (String.ofList (c :: cs)) with
      | some s => send s rest
      | none => .wrong ("Illegal option -" ++ String.singleton c)
    | _ => send usualSignal (first :: rest)

end MutationTesting.Shell
