import MutationTesting.Ir.Instruction
import MutationTesting.Text.Fingerprint

/-!
# Mutation points

A mutation point is an instruction of a function together with the mutator that would change it
there, and the tests that reach it. The names that a point gives rise to (its identifier, the variable
that selects its mutant, the name of the mutated copy) are functions of the point alone.
-/

namespace MutationTesting

/-- A function by the module that owns it and its name. -/
structure FunctionRef where
  /-- The index of the module in its program. -/
  module : Nat
  /-- The name of the function. -/
  name : String
  deriving DecidableEq, Repr

/-- A function that a test reaches. -/
structure Candidate where
  /-- The function. -/
  function : FunctionRef
  /-- The index of the test. -/
  test : Nat
  /-- The weight of the candidate. -/
  weight : UInt32 := 1
  /-- The addresses that may be mutated. -/
  selected : List Address := []
  deriving DecidableEq, Repr

/-- An instruction and the mutator that would change it. -/
structure Point where
  /-- The identifier of the mutator. -/
  mutator : String
  /-- The function that holds the instruction. -/
  function : FunctionRef
  /-- The address of the instruction in its function. -/
  address : Address
  /-- The location of the instruction, if known. -/
  location : Option Location := none
  /-- What the mutator does, for users. -/
  replacement : String
  /-- The indices of the tests that reach the instruction. -/
  tests : List Nat := []
  /-- The mutation has been carried out in the mutated copy. -/
  applied : Bool := false
  deriving DecidableEq, Repr

namespace Point

/-- What tells a point from all others of its program. -/
def identifier (p : Point) : String :=
  p.mutator ++ ":" ++ p.function.module.repr ++ ":" ++ p.function.name ++ ":" ++ p.address.text

/-- The name of a point for users: its place in the source text, else its address. Points of one
place share it. -/
def userIdentifier (p : Point) : String :=
  match p.location with
  | some location => p.mutator ++ ":" ++ location.text
  | none => p.mutator ++ ":" ++ p.function.name ++ ":" ++ p.address.text

/-- A character that may stand in the name of a variable, else an underscore. -/
def identifierChar (c : Char) : Char :=
  if c.isAlphanum then c else '_'

/-- The environment variable that selects the mutant of a point. It is a name for every shell, and
the fingerprint keeps points apart that share their readable part. -/
def selector (p : Point) : String :=
  "MUTANT_" ++ String.ofList (p.userIdentifier.toList.map identifierChar) ++ "_"
    ++ fingerprintText p.identifier

/-- The name of the copy that carries the mutation. -/
def mutantName (p : Point) : String :=
  p.function.name ++ ".mutant." ++ p.mutator ++ "." ++ p.address.text

/-- The name of the unmutated copy of a function. -/
def unmutatedName (function : String) : String :=
  function ++ ".original"

/-- A point as users read it: its place, what is replaced, and by which mutator. -/
def text (p : Point) : String :=
  let place := match p.location with
    | some location => location.text
    | none => p.function.name ++ "@" ++ p.address.text
  place ++ ": " ++ p.replacement ++ " [" ++ p.mutator ++ "]"

/-- The point with its mutation carried out. -/
def markApplied (p : Point) : Point :=
  { p with applied := true }

end Point

end MutationTesting
