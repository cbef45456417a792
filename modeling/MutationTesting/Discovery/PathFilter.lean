import MutationTesting.Ir.Instruction

/-!
# Path filters

A path filter holds patterns that paths have to match and patterns that they must not. A path is
skipped if some exclude pattern matches it, or if there are include patterns and none of them
matches it. Answers are remembered until the next pattern is added.

The language of patterns is a parameter: a partial function from texts to patterns, and a relation
between patterns and paths.
-/

namespace MutationTesting

/-- A language of patterns. -/
structure PatternLanguage (ρ : Type) where
  /-- The pattern of a text, if it is one. -/
  compile? : String → Option ρ
  /-- The pattern matches somewhere in the path. -/
  isMatch : ρ → String → Bool

/-- A text is no pattern. -/
structure InvalidPattern where
  /-- The text. -/
  pattern : String
  deriving DecidableEq, Repr

namespace InvalidPattern

/-- The fault as users read it. -/
def message (fault : InvalidPattern) : String :=
  "Invalid regex '" ++ fault.pattern ++ "': not a pattern"

end InvalidPattern

/-- Include and exclude patterns, and the answers given since the last change. -/
structure PathFilter (ρ : Type) where
  /-- The patterns one of which has to match. -/
  includes : List ρ := []
  /-- The patterns none of which may match. -/
  excludes : List ρ := []
  /-- The remembered answers. -/
  cache : List (String × Bool) := []

namespace PathFilter

variable {ρ : Type}

/-- Adds a pattern that paths may match. -/
def addInclude (lang : PatternLanguage ρ) (f : PathFilter ρ) (pattern : String) :
    Except InvalidPattern (PathFilter ρ) :=
  match lang.compile? pattern with
  | some r => .ok { f with includes := f.includes ++ [r], cache := [] }
  | none => .error ⟨pattern⟩

/-- Adds a pattern that paths must not match. -/
def addExclude (lang : PatternLanguage ρ) (f : PathFilter ρ) (pattern : String) :
    Except InvalidPattern (PathFilter ρ) :=
  match lang.compile? pattern with
  | some r => .ok { f with excludes := f.excludes ++ [r], cache := [] }
  | none => .error ⟨pattern⟩

/-- A path is skipped, by the patterns alone. -/
def evaluate (lang : PatternLanguage ρ) (f : PathFilter ρ) (path : String) : Bool :=
  f.excludes.any (lang.isMatch · path)
    || (!f.includes.isEmpty && !f.includes.any (lang.isMatch · path))

/-- A path is skipped, and the filter that remembers the answer. -/
def query (lang : PatternLanguage ρ) (f : PathFilter ρ) (path : String) : Bool × PathFilter ρ :=
  match f.cache.lookup path with
  | some skip => (skip, f)
  | none =>
    let skip := f.evaluate lang path
    (skip, { f with cache := (path, skip) :: f.cache })

/-- A location is skipped; without one, the empty path stands for it. -/
def skipsLocation (lang : PatternLanguage ρ) (f : PathFilter ρ) (location : Option Location) :
    Bool :=
  (f.query lang ((location.map (·.file)).getD "")).1

/-- Adds patterns in order, leaving out those that are none, and the faults of these. -/
def addAll (add : PathFilter ρ → String → Except InvalidPattern (PathFilter ρ))
    (f : PathFilter ρ) : List String → PathFilter ρ × List InvalidPattern
  | [] => (f, [])
  | pattern :: patterns =>
    match add f pattern with
    | .ok f => addAll add f patterns
    | .error fault =>
      let (f, faults) := addAll add f patterns
      (f, fault :: faults)

end PathFilter

end MutationTesting
