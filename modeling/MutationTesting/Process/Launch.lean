import MutationTesting.Shell.Run

/-!
# Launching

A program is launched by its path with arguments and an environment. A script is run by the shell;
the runner of images runs by itself. What cannot be launched is refused with the reason that the
system gives.
-/

namespace MutationTesting

/-- A program to launch. -/
structure Launch where
  /-- Its path, or its name if the search path is to be used. -/
  program : String
  /-- Its arguments. -/
  args : List String := []
  /-- Its environment, as names and values. -/
  env : Environment := []
  /-- The milliseconds for which its end is waited for. -/
  limit : Nat

namespace Launch

/-- A text that cannot be handed to a program. -/
def hasNul (text : String) : Bool :=
  text.toList.contains '\x00'

/-- The variable that a program finds: the name ends at the first equals sign behind its first
character. -/
def received? (v : String × String) : Option (String × String) :=
  match (v.1 ++ "=" ++ v.2).toList with
  | [] => none
  | c :: rest =>
    match rest.span (· != '=') with
    | (name, _ :: value) => some (String.ofList (c :: name), String.ofList value)
    | (_, []) => none

/-- The environment that a program finds. -/
def receivedAll (env : Environment) : Environment :=
  env.filterMap received?

/-- The line that a script begins with. -/
def shellLine : String :=
  "#!/bin/sh\n"

/-- Launches a program; how it ends, or why it cannot be launched. -/
def run (d : Disk) (l : Launch) : Except IoError Ended :=
  if hasNul l.program || l.args.any hasNul || l.env.any fun v => hasNul v.1 || hasNul v.2 then
    .error .nulInData
  else
    let env := receivedAll l.env
    let call (name : String) : Ended :=
      Shell.run d env l.limit "sh" ("exec " ++ name ++ " \"$@\"") l.args
    if !l.program.toList.contains '/' then
      if Shell.programNames.contains l.program then .ok (call l.program) else .error .notFound
    else do
      match ← d.withSystem.find l.program with
      | .directory => .error .permissionDenied
      | .file _ false => .error .permissionDenied
      | .runner => .ok (Runner.run d env l.args)
      | .file content true =>
        match Shell.programOf? content with
        | some name => .ok (call name)
        | none =>
          if content.startsWith shellLine then .ok (Shell.run d env l.limit l.program content l.args)
          else .error .badFormat

end Launch

end MutationTesting
