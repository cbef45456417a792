/-!
# Signals

The signals that end, stop or do not bother a process, with their numbers, names and descriptions.
-/

namespace MutationTesting.Shell

/-- A signal. -/
structure Signal where
  /-- Its number. -/
  number : Nat
  /-- Its name. -/
  name : String
  /-- What is said of a process that it ended. -/
  description : String
  deriving DecidableEq, Repr

/-- What a signal does to a process that has no action for it. -/
inductive Reaction where
  /-- Nothing. -/
  | none
  /-- It stops the process. -/
  | stop
  /-- It ends the process. -/
  | terminate
  deriving DecidableEq, Repr

namespace Signal

/-- The mark of the end of a shell, which counts as a signal where actions are set. -/
def exit : Signal :=
  ⟨0, "EXIT", ""⟩

/-- The signal that programs end themselves with. -/
def abort : Signal :=
  ⟨6, "ABRT", "Aborted"⟩

/-- The signals with names of their own, by number. -/
def named : List Signal :=
  [⟨1, "HUP", "Hangup"⟩, ⟨2, "INT", ""⟩, ⟨3, "QUIT", "Quit"⟩, ⟨4, "ILL", "Illegal instruction"⟩,
    ⟨5, "TRAP", "Trace/breakpoint trap"⟩, abort, ⟨7, "BUS", "Bus error"⟩,
    ⟨8, "FPE", "Floating point exception"⟩, ⟨9, "KILL", "Killed"⟩,
    ⟨10, "USR1", "User defined signal 1"⟩, ⟨11, "SEGV", "Segmentation fault"⟩,
    ⟨12, "USR2", "User defined signal 2"⟩, ⟨13, "PIPE", ""⟩, ⟨14, "ALRM", "Alarm clock"⟩,
    ⟨15, "TERM", "Terminated"⟩, ⟨16, "16", "Stack fault"⟩, ⟨17, "CHLD", "Child exited"⟩,
    ⟨18, "CONT", "Continued"⟩, ⟨19, "STOP", "Stopped (signal)"⟩, ⟨20, "TSTP", "Stopped"⟩,
    ⟨21, "TTIN", "Stopped (tty input)"⟩, ⟨22, "TTOU", "Stopped (tty output)"⟩,
    ⟨23, "URG", "Urgent I/O condition"⟩, ⟨24, "XCPU", "CPU time limit exceeded"⟩,
    ⟨25, "XFSZ", "File size limit exceeded"⟩, ⟨26, "VTALRM", "Virtual timer expired"⟩,
    ⟨27, "PROF", "Profiling timer expired"⟩, ⟨28, "WINCH", "Window changed"⟩,
    ⟨29, "IO", "I/O possible"⟩, ⟨30, "PWR", "Power failure"⟩, ⟨31, "SYS", "Bad system call"⟩]

/-- The signal of a number that has no name of its own: it counts from the first or the last of its
kind. -/
def unnamed (number : Nat) : Signal :=
  let name :=
    if number < 34 then number.repr
    else if number = 34 then "RTMIN"
    else if number < 50 then "RTMIN+" ++ (number - 34).repr
    else if number < 64 then "RTMAX-" ++ (64 - number).repr
    else "RTMAX"
  ⟨number, name, "Real-time signal " ++ (number - 34).repr⟩

/-- The signals by number. -/
def all : List Signal :=
  named ++ (List.range 33).map fun i => unnamed (i + 32)

/-- The signal of a number or of a name in either case. -/
def ofText? (text : String) : Option Signal :=
  (exit :: all).find? fun s =>
    s.number.repr == text || s.name == String.ofList (text.toList.map Char.toUpper)

/-- What a signal does to a process that has no action for it. -/
def reaction (s : Signal) : Reaction :=
  if s.number = 0 ∨ ["CHLD", "CONT", "URG", "WINCH"].contains s.name then .none
  else if ["STOP", "TSTP", "TTIN", "TTOU"].contains s.name then .stop
  else .terminate

/-- The signal can be given an action. -/
def isCatchable (s : Signal) : Bool :=
  s.name != "KILL" && s.name != "STOP"

/-- The status by which a shell knows that a signal ended a process. -/
def status (s : Signal) : Nat :=
  128 + s.number

end Signal

end MutationTesting.Shell
