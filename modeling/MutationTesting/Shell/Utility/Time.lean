import MutationTesting.Shell.Utility.Request

/-!
# Time

The utility that sleeps, the texts in which times are given, and the utility that prints for ever.
-/

namespace MutationTesting.Shell.Utility

/-- Milliseconds of a decimal number of seconds. -/
def milliseconds? (text : String) : Option Nat :=
  match text.splitOn "." with
  | [whole] => (digits? whole.toList).map (· * 1000)
  | [whole, fraction] => do
    if whole == "" && fraction == "" then none
    let n ← if whole == "" then some 0 else digits? whole.toList
    let all ← if fraction == "" then some 0 else digits? fraction.toList
    let thousandths ← digits? ((fraction.toList ++ ['0', '0', '0']).take 3)
    return if all = 0 then n * 1000 else max 1 (n * 1000 + thousandths)
  | _ => none

/-- Milliseconds of a time with a possible unit. -/
def duration? (text : String) : Option Nat :=
  let unit (seconds : Nat) := (milliseconds? (text.dropEnd 1).toString).map (· * seconds)
  if text == "infinity" || text == "inf" then some 1000000000000
  else if text.endsWith "s" then unit 1
  else if text.endsWith "m" then unit 60
  else if text.endsWith "h" then unit 3600
  else if text.endsWith "d" then unit 86400
  else milliseconds? text

/-- Sleeps for the times that the arguments give. -/
def sleepFor (args : List String) (st : State) : State :=
  withRequest "sleep" 1 {} args st fun r st =>
    if r.operands.isEmpty then fault "sleep" ("missing operand" ++ hint "sleep") st
    else
      match r.operands.filter fun arg => (duration? arg).isNone with
      | [] => st.sleep ((r.operands.filterMap duration?).foldl (· + ·) 0)
      | wrong =>
        let st := wrong.foldl (fun st arg =>
          fault "sleep" ("invalid time interval " ++ inQuotes arg) st) st
        (st.complain "Try 'sleep --help' for more information.\n").withStatus 1

/-- The number of lines that stand for a command that prints for ever. -/
def endlessLines : Nat :=
  200000

/-- Prints a line for ever. -/
def printForever (args : List String) (st : State) : State :=
  let text := (if args.isEmpty then "y" else " ".intercalate args) ++ "\n"
  let line := Octets.bytes text
  let bytes := (List.range endlessLines).foldl (fun bytes _ => bytes ++ line) .empty
  { st.write bytes with control := .stuck }

end MutationTesting.Shell.Utility
