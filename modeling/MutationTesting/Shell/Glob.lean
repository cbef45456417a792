import MutationTesting.Text.AsciiClass

/-!
# Patterns of the shell

A pattern is made of characters that stand for themselves, question marks for one character,
asterisks for any number of them, and brackets for one of a set. A backslash in front of a character
marks that it was quoted and stands for itself.
-/

namespace MutationTesting.Shell

/-- An element of a pattern. -/
inductive Glob where
  /-- A character. -/
  | char (c : Char)
  /-- Any one character. -/
  | one
  /-- Any number of characters. -/
  | any
  /-- One character of some ranges, or of none of them. -/
  | set (negated : Bool) (ranges : List (Char × Char))
  deriving DecidableEq, Repr

namespace Glob

/-- The characters that stand for themselves only if they are quoted. -/
def isSpecial (c : Char) : Bool :=
  c == '*' || c == '?' || c == '[' || c == ']' || c == '\\' || c == '-' || c == '!'

/-- Quoted characters as a part of a pattern. -/
def escape (cs : List Char) : List Char :=
  cs.flatMap fun c => if isSpecial c then ['\\', c] else [c]

/-- The character in front, which a backslash may mark as quoted, and what follows it. -/
def spanChar? : List Char → Option (Char × List Char)
  | '\\' :: c :: rest => some (c, rest)
  | c :: rest => some (c, rest)
  | [] => none

/-- The ranges of the class of characters in front, and what follows it. -/
def spanClass? : List Char → Option (List (Char × Char) × List Char)
  | '[' :: ':' :: rest => do
    let (name, rest) ← spanClassName rest
    return (← asciiClass? name, rest)
  | _ => none

/-- The ranges up to the closing bracket, which does not close if it comes first. -/
def rangesOf (isFirst : Bool) : Nat → List Char → Option (List (Char × Char) × List Char)
  | 0, _ => none
  | bound + 1, cs =>
    let add (ranges : List (Char × Char)) (rest : List Char) :=
      (rangesOf false bound rest).map fun (more, rest) => (ranges ++ more, rest)
    if cs.head? == some ']' && !isFirst then some ([], cs.tail)
    else match spanClass? cs with
      | some (ranges, rest) => add ranges rest
      | none =>
        match spanChar? cs with
        | none => none
        | some (a, '-' :: rest) =>
          match (if rest.head? == some ']' then none else spanChar? rest) with
          | some (b, rest) => add [(a, b)] rest
          | none => add [(a, a)] ('-' :: rest)
        | some (a, rest) => add [(a, a)] rest

/-- The elements of a pattern, with a bound on their number. -/
def elements : Nat → List Char → List Glob
  | 0, _ => []
  | bound + 1, cs =>
    match cs with
    | [] => []
    | '\\' :: c :: rest => .char c :: elements bound rest
    | '?' :: rest => .one :: elements bound rest
    | '*' :: rest => .any :: elements bound rest
    | '[' :: rest =>
      let (negated, inner) := match rest with
        | '!' :: inner => (true, inner)
        | inner => (false, inner)
      match rangesOf true (inner.length + 1) inner with
      | some (ranges, rest) => .set negated ranges :: elements bound rest
      | none => .char '[' :: elements bound rest
    | c :: rest => .char c :: elements bound rest

/-- A text matches the elements of a pattern. -/
def accepts : List Glob → List Char → Bool
  | [], cs => cs.isEmpty
  | .any :: p, [] => accepts p []
  | .any :: p, c :: cs => accepts p (c :: cs) || accepts (.any :: p) cs
  | .char a :: p, c :: cs => a == c && accepts p cs
  | .one :: p, _ :: cs => accepts p cs
  | .set negated ranges :: p, c :: cs =>
    (ranges.any fun (a, b) => a ≤ c && c ≤ b) != negated && accepts p cs
  | _ :: _, [] => false
termination_by p cs => p.length + cs.length

end Glob

/-- A text matches a pattern. -/
def matchesPattern (pattern cs : List Char) : Bool :=
  Glob.accepts (Glob.elements (pattern.length + 1) pattern) cs

/-- A text without what a pattern matches at its beginning or its end, as little or as much as
possible. -/
def trimPattern (atEnd longest : Bool) (pattern cs : List Char) : List Char :=
  let sizes := List.range (cs.length + 1)
  let cut (size : Nat) : List Char × List Char :=
    if atEnd then (cs.drop (cs.length - size), cs.take (cs.length - size))
    else (cs.take size, cs.drop size)
  match (if longest then sizes.reverse else sizes).find? fun size =>
      matchesPattern pattern (cut size).1 with
  | some size => (cut size).2
  | none => cs

end MutationTesting.Shell
