import MutationTesting.Json.Decode
import MutationTesting.Json.Reader

/-!
# Coverage

Coverage data counts how often functions were executed. A record names a function either plainly or
behind the file name of its unit and a colon; a record of zero executions covers nothing.
-/

namespace MutationTesting

/-- How often a function was executed. -/
structure CoverageRecord where
  /-- The name, behind a file name and a colon if it is scoped. -/
  name : String
  /-- The number of executions. -/
  count : UInt64
  deriving DecidableEq, Repr

/-- The executed functions. -/
structure Covered where
  /-- The names that cover every unit. -/
  everywhere : List String := []
  /-- The file names and the names that each covers. -/
  inUnit : List (String × String) := []
  deriving DecidableEq, Repr

namespace CoverageRecord

/-- The record of a stored form. -/
def ofJson? (value : Json) : Option CoverageRecord := do
  match ← value.fields? ["name", "count"] with
  | [name, count] =>
    return {
      name := ← Json.required? Json.text? name
      count := ← Json.required? Json.word64? count }
  | _ => none

/-- The records of a coverage file. -/
def decodeAll? (text : String) : Option (List CoverageRecord) := do
  match ← (← Json.read? text).fields? ["functions"] with
  | [functions] => Json.required? (Json.list? ofJson?) functions
  | _ => none

end CoverageRecord

namespace Covered

/-- What stands before the first colon and behind it. -/
def splitScope? (name : String) : Option (String × String) :=
  match name.toList.span (· != ':') with
  | (scope, _ :: rest) => some (String.ofList scope, String.ofList rest)
  | (_, []) => none

/-- Adds the function of an executed record. -/
def insert (covered : Covered) (name : String) : Covered :=
  match splitScope? name with
  | some (scope, name) =>
    if scope = "" then { covered with everywhere := name :: covered.everywhere }
    else { covered with inUnit := (scope, name) :: covered.inUnit }
  | none => { covered with everywhere := name :: covered.everywhere }

/-- The executed functions of coverage data. -/
def ofRecords (records : List CoverageRecord) : Covered :=
  (records.filter (·.count != 0)).foldl (fun covered r => covered.insert r.name) {}

/-- A function of a unit with this file name was executed. -/
def contains (covered : Covered) (name unitFile : String) : Bool :=
  covered.everywhere.contains name || covered.inUnit.contains (unitFile, name)

end Covered

end MutationTesting
