import MutationTesting.Campaign.Result
import MutationTesting.Decimal.Shortest
import MutationTesting.Text.Style

/-!
# Reports

The summary of a run for users: the tests, the verdict on every mutant, the counts, the score and the
mutants that survived. Numbers with decimals are doubles, printed with a fixed number of places; the
minutes of a duration are a double too, printed with its shortest digits.
-/

namespace MutationTesting

/-! ## Numbers -/

namespace RunResult

/-- The percentage of executed mutants that were killed, as a double; 100 if none was executed. -/
def score (r : RunResult) : Rat :=
  let killed := r.count .killed
  let executed := killed + r.count .survived
  if executed = 0 then 100
  else Decimal.toDouble (Decimal.toDouble ((killed : Rat) / (executed : Rat)) * 100)

end RunResult

namespace Report

/-- The double of the seconds in so many nanoseconds: whole seconds and the rest are rounded each for
itself. -/
def seconds (nanos : Nat) : Rat :=
  let whole : Nat := nanos / 1000000000
  let rest : Nat := nanos % 1000000000
  Decimal.toDouble (Decimal.toDouble whole + Decimal.toDouble ((rest : Rat) / 1000000000))

/-- A duration as users read it: milliseconds below a second, seconds below a minute, else minutes
and seconds. -/
def durationText (nanos : Nat) : String :=
  let secs := seconds nanos
  if secs < 1 then Decimal.fixed 0 (Decimal.toDouble (secs * 1000)) ++ "ms"
  else if secs < 60 then Decimal.fixed 1 secs ++ "s"
  else
    let minutes := (Decimal.toDouble (secs / 60)).floor.toNat
    let rest := secs - 60 * (secs / 60).floor
    (Decimal.shortest minutes).repr ++ "m " ++ Decimal.fixed 0 rest ++ "s"

/-- The style of a score. -/
def scoreStyle (score : Rat) : Style :=
  if 90 ≤ score then .boldGreen else if 70 ≤ score then .boldYellow else .boldRed

/-! ## Lines -/

/-- A line of so many copies of a character. -/
def rule (c : Char) (count : Nat) : String :=
  String.ofList (List.replicate count c)

/-- A text followed by blanks up to a width. -/
def padRight (width : Nat) (text : String) : String :=
  text ++ rule ' ' (width - text.length)

/-- The mark of a verdict. -/
def verdictText (colours : Bool) : Verdict → String
  | .killed => Style.boldGreen.apply colours "[KILLED]"
  | .survived => Style.boldRed.apply colours "[SURVIVED]"
  | .notExecuted => Style.boldYellow.apply colours "[NOT RUN]"

/-- The line of a test. -/
def testLine (colours : Bool) (t : TestOutcome) : String :=
  let status := (t.execution.map (·.status.text)).getD "not run"
  "Test " ++ t.name ++ ": " ++ Style.dimmed.apply colours status

/-- The lines of a mutant. -/
def mutantLines (colours : Bool) (r : MutationResult) : List String :=
  let place := match r.point.location with
    | some location => location.text
    | none => r.point.address.text
  [verdictText colours r.verdict ++ " " ++ Style.dimmed.apply colours r.point.mutator ++ " "
      ++ r.point.replacement,
    "        " ++ Style.dimmed.apply colours place ++ " in function '" ++ r.point.function.name
      ++ "' (" ++ r.execution.status.text ++ ")"]

/-- The line of a count that is shown only if something was counted. -/
def countLine (r : RunResult) (status : Status) : List String :=
  let count := r.countStatus status
  if 0 < count then [padRight 19 (status.text ++ ":") ++ count.repr] else []

/-- The counts. -/
def summaryLines (colours : Bool) (r : RunResult) : List String :=
  ["",
    Style.bold.apply colours "Summary",
    rule '-' 40,
    "Mutation points:   " ++ r.points.length.repr,
    "Killed:            " ++ (r.count .killed).repr ++ " "
      ++ Style.dimmed.apply colours "(good - tests caught the mutation)",
    "Survived:          " ++ (r.count .survived).repr ++ " "
      ++ Style.dimmed.apply colours "(bad - tests missed the mutation)"]
    ++ countLine r .crashed ++ countLine r .timedOut ++ countLine r .dryRun

/-- The score and the time, if anything was executed. -/
def scoreLines (colours : Bool) (r : RunResult) : List String :=
  if r.count .notExecuted < r.results.length then
    ["",
      "Mutation Score:    "
        ++ (scoreStyle r.score).apply colours (Decimal.fixed 1 r.score ++ "%"),
      "Duration:          " ++ durationText r.totalTime]
  else []

/-- The mutants that survived, if any. -/
def survivorLines (colours : Bool) (r : RunResult) : List String :=
  if r.survivors.isEmpty then []
  else
    ["", Style.boldRed.apply colours "Surviving Mutations (improve your tests!)", rule '-' 40]
      ++ r.survivors.map fun s => "  • " ++ Style.yellow.apply colours s.point.text

/-- The lines of a report. -/
def lines (colours : Bool) (r : RunResult) : List String :=
  ["", Style.bold.apply colours "Mutation Testing Report", rule '=' 60, ""]
    ++ r.tests.map (testLine colours)
    ++ (if r.tests.isEmpty then [] else [""])
    ++ r.results.flatMap (mutantLines colours)
    ++ summaryLines colours r
    ++ scoreLines colours r
    ++ survivorLines colours r

/-- The text of a report. -/
def render (colours : Bool) (r : RunResult) : String :=
  String.join ((lines colours r).map (· ++ "\n"))

end Report

end MutationTesting
