import MutationTesting.Ir.Codec

/-!
# Images

An image holds every function and trampoline of a linked program.
-/

namespace MutationTesting

/-- A linked program. -/
structure Image where
  /-- Its functions; of those with a name in common the last is called. -/
  functions : List Function := []
  /-- Its trampolines; of those for a function in common the last one counts. -/
  trampolines : List Trampoline := []
  deriving DecidableEq, Repr, Inhabited

namespace Image

/-- The stored form of an image. -/
def toJson (i : Image) : Json :=
  .ofMembers [("functions", .ofList Function.toJson i.functions),
    ("trampolines", .ofList Trampoline.toJson i.trampolines)]

/-- The image of a stored form. -/
def ofJson? (value : Json) : Option Image := do
  match ← value.fields? ["functions", "trampolines"] with
  | [functions, trampolines] =>
    return {
      functions := ← Json.required? (Json.list? Function.ofJson?) functions
      trampolines := ← Json.optional? [] (Json.list? Trampoline.ofJson?) trampolines }
  | _ => none

/-- The text of a stored image. -/
def encode (i : Image) : String :=
  Json.print .compact i.toJson

/-- The image of a text. -/
def decode? (text : String) : Option Image :=
  (Json.read? text).bind ofJson?

end Image

end MutationTesting
