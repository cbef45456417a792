/-!
# Processes

A process gets arguments and an environment, writes to two streams, and ends with a code, by a
signal, or never.
-/

namespace MutationTesting

/-- The variables of a process with their values, names being distinct. -/
abbrev Environment := List (String × String)

namespace Environment

/-- The environment with a variable set. -/
def set (env : Environment) (name value : String) : Environment :=
  env.filter (·.1 != name) ++ [(name, value)]

/-- A variable is set. -/
def has (env : Environment) (name : String) : Bool :=
  env.any (·.1 == name)

end Environment

/-- How a process ends. -/
inductive Exit where
  /-- With a code. -/
  | code (n : Nat)
  /-- By a signal. -/
  | signal
  /-- Not at all. -/
  | never
  deriving DecidableEq, Repr

/-- What a process leaves behind. -/
structure Ended where
  /-- How it ended. -/
  exit : Exit
  /-- What it wrote to its output. -/
  stdout : ByteArray := .empty
  /-- What it wrote to its error stream. -/
  stderr : ByteArray := .empty

end MutationTesting
