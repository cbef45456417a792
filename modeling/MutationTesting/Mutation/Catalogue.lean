import MutationTesting.Distinct
import MutationTesting.Mutation.Mutator

/-!
# The catalogue of mutators

Mutators are chosen by identifier or by the name of a group. A request is expanded in order, groups
standing for their members, and later repetitions are dropped. An empty request asks for the default
group.
-/

namespace MutationTesting.Catalogue

/-- The mutators of arithmetic operators. -/
def arithmetic : List Mutator :=
  [.replaceOperator "cxx_add_to_sub" .add .sub,
    .replaceOperator "cxx_sub_to_add" .sub .add,
    .replaceOperator "cxx_mul_to_div" .mul .div,
    .replaceOperator "cxx_div_to_mul" .div .mul,
    .replaceOperator "cxx_rem_to_div" .rem .div]

/-- The mutators of comparisons: each becomes its negation. -/
def comparison : List Mutator :=
  [.replaceOperator "cxx_eq_to_ne" .eq .ne,
    .replaceOperator "cxx_ne_to_eq" .ne .eq,
    .replaceOperator "cxx_lt_to_ge" .lt .ge,
    .replaceOperator "cxx_gt_to_le" .gt .le,
    .replaceOperator "cxx_le_to_gt" .le .gt,
    .replaceOperator "cxx_ge_to_lt" .ge .lt]

/-- The mutators of bitwise operators. -/
def bitwise : List Mutator :=
  [.replaceOperator "cxx_and_to_or" .and .or,
    .replaceOperator "cxx_or_to_and" .or .and]

/-- The mutators of calls. -/
def calls : List Mutator :=
  [.removeVoidCall]

/-- Every mutator. -/
def mutators : List Mutator :=
  arithmetic ++ comparison ++ bitwise ++ calls

/-- The name of the group that an empty request asks for. -/
def defaultGroup : String :=
  "cxx_default"

/-- The groups with their members. -/
def groups : List (String × List Mutator) :=
  [("cxx_arithmetic", arithmetic),
    ("cxx_comparison", comparison),
    ("cxx_bitwise", bitwise),
    ("cxx_calls", calls),
    (defaultGroup, mutators)]

/-- Every identifier and group name that may be requested. -/
def availableIds : List String :=
  mutators.map (·.id) ++ groups.map (·.1)

/-- The mutator of an identifier. -/
def mutator? (id : String) : Option Mutator :=
  mutators.find? (·.id == id)

/-- The identifiers that a requested name stands for. -/
def members (name : String) : List String :=
  match groups.lookup name with
  | some group => group.map (·.id)
  | none => [name]

/-- The identifiers that a request stands for. -/
def expand (request : List String) : List String :=
  distinctBy id ((if request.isEmpty then [defaultGroup] else request).flatMap members)

/-- A requested name is not in the catalogue. -/
structure UnknownMutator where
  /-- The first such name. -/
  id : String
  deriving DecidableEq, Repr

namespace UnknownMutator

/-- The fault as users read it. -/
def message (fault : UnknownMutator) : String :=
  "Unknown mutator '" ++ fault.id ++ "'\n  Available mutators: "
    ++ ", ".intercalate availableIds

end UnknownMutator

/-- The mutators of a request, or its first unknown name. -/
def resolve (request : List String) : Except UnknownMutator (List Mutator) :=
  (expand request).mapM fun id =>
    match mutator? id with
    | some m => .ok m
    | none => .error ⟨id⟩

end MutationTesting.Catalogue
