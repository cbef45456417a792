import MutationTesting.Unicode.CodeSet

/-!
# Patterns

A pattern describes parts of a text. It reads a text from a set of positions on and answers the set
of positions where it may end; it matches a text if it can end somewhere after a start anywhere.

Patterns are built by functions that simplify: neighbouring literals are joined, alternatives of
single characters become one set, and what all alternatives begin with is written once.

## Termination

Patterns shrink. A repetition without an upper bound goes on as long as it reaches new positions;
every round adds one, so the number of positions bounds the rounds. What alternatives have in common
is taken away from them, so their size bounds how often that is done.
-/

namespace MutationTesting

open Unicode (CodeSet)

namespace Pattern

/-- A condition on a position of a text. -/
inductive Look where
  /-- The text begins. -/
  | textStart
  /-- The text ends. -/
  | textEnd
  /-- A line begins; with carriage returns as line ends too, or without. -/
  | lineStart (returns : Bool)
  /-- A line ends. -/
  | lineEnd (returns : Bool)
  /-- Of the two characters around the position, exactly one belongs to a word, or not. -/
  | boundary (words : CodeSet) (negated : Bool)
  /-- A word begins. -/
  | wordStart (words : CodeSet)
  /-- A word ends. -/
  | wordEnd (words : CodeSet)
  /-- No word reaches the position from the left. -/
  | noWordBefore (words : CodeSet)
  /-- No word goes on to the right. -/
  | noWordAfter (words : CodeSet)
  deriving DecidableEq

/-- The character in front of a position. -/
def before? (text : Array Char) (i : Nat) : Option Char :=
  if i = 0 then none else text[i - 1]?

/-- The character at a position, if there is one, belongs to a set. -/
def inSet (set : CodeSet) (c : Option Char) : Bool :=
  c.any fun c => set.contains c.toNat

/-- The condition holds at a position. -/
def Look.holds (text : Array Char) (i : Nat) : Look → Bool
  | textStart => i == 0
  | textEnd => i == text.size
  | lineStart false => i == 0 || before? text i == some '\n'
  | lineStart true =>
    i == 0 || before? text i == some '\n'
      || (before? text i == some '\r' && text[i]? != some '\n')
  | lineEnd false => i == text.size || text[i]? == some '\n'
  | lineEnd true =>
    i == text.size || text[i]? == some '\r'
      || (text[i]? == some '\n' && before? text i != some '\r')
  | boundary words negated => (inSet words (before? text i) != inSet words text[i]?) != negated
  | wordStart words => !inSet words (before? text i) && inSet words text[i]?
  | wordEnd words => inSet words (before? text i) && !inSet words text[i]?
  | noWordBefore words => !inSet words (before? text i)
  | noWordAfter words => !inSet words text[i]?

end Pattern

/-- A description of parts of a text. -/
inductive Pattern where
  /-- The empty part. -/
  | empty
  /-- These characters. -/
  | literal (text : List Char)
  /-- One character of a set. -/
  | oneOf (set : CodeSet)
  /-- The empty part where a condition holds. -/
  | look (condition : Pattern.Look)
  /-- At least so many parts in a row, and at most so many if there is a bound; as many as possible
  or as few as possible. -/
  | many (part : Pattern) (least : Nat) (most : Option Nat) (greedy : Bool)
  /-- A part that is remembered under a number. -/
  | group (number : Nat) (part : Pattern)
  /-- One part behind another. -/
  | seq (first second : Pattern)
  /-- One of two parts. -/
  | alt (first second : Pattern)
  deriving DecidableEq

namespace Pattern

/-! ## Lengths -/

/-- The least length of a matched part, as far as the sets in the pattern have members. -/
def leastLength? : Pattern → Option Nat
  | empty => some 0
  | literal text => some text.length
  | oneOf set => if set.changes.isEmpty then none else some 1
  | look _ => some 0
  | many part least _ _ => part.leastLength?.map (· * least)
  | group _ part => part.leastLength?
  | seq first second => do return (← first.leastLength?) + (← second.leastLength?)
  | alt first second => do return min (← first.leastLength?) (← second.leastLength?)

/-- The greatest length of a matched part, if there is a bound, as far as the sets in the pattern
have members. -/
def greatestLength? : Pattern → Option Nat
  | empty => some 0
  | literal text => some text.length
  | oneOf set => if set.changes.isEmpty then none else some 1
  | look _ => some 0
  | many part _ most _ => do return (← part.greatestLength?) * (← most)
  | group _ part => part.greatestLength?
  | seq first second => do return (← first.greatestLength?) + (← second.greatestLength?)
  | alt first second => do return max (← first.greatestLength?) (← second.greatestLength?)

/-- Every matched part is empty. -/
def isAlwaysEmpty (p : Pattern) : Bool :=
  p.greatestLength? == some 0

/-- A match can only be where the text begins. -/
def isAnchoredStart : Pattern → Bool
  | look .textStart => true
  | many part least _ _ => least != 0 && part.isAnchoredStart
  | group _ part => part.isAnchoredStart
  | seq first second =>
    first.isAnchoredStart || (first.isAlwaysEmpty && second.isAnchoredStart)
  | alt first second => first.isAnchoredStart && second.isAnchoredStart
  | _ => false

/-- A match can only be where the text ends. -/
def isAnchoredEnd : Pattern → Bool
  | look .textEnd => true
  | many part least _ _ => least != 0 && part.isAnchoredEnd
  | group _ part => part.isAnchoredEnd
  | seq first second => second.isAnchoredEnd || (second.isAlwaysEmpty && first.isAnchoredEnd)
  | alt first second => first.isAnchoredEnd && second.isAnchoredEnd
  | _ => false

/-- The number of the parts that a pattern is made of, characters and conditions among them. -/
def size : Pattern → Nat
  | literal text => text.length + 1
  | many part _ _ _ => part.size + 1
  | group _ part => part.size + 1
  | seq first second => first.size + second.size + 1
  | alt first second => first.size + second.size + 1
  | _ => 1

/-! ## Building -/

/-- One character of a set; the only member of a set is a literal. -/
def ofSet (set : CodeSet) : Pattern :=
  match set.single? with
  | some c => literal [c]
  | none => oneOf set

/-- The parts that stand behind each other. -/
def parts : Pattern → List Pattern
  | empty => []
  | seq first second => first :: second.parts
  | p => [p]

/-- The alternatives of a pattern. -/
def alternatives : Pattern → List Pattern
  | alt first second => first :: second.alternatives
  | p => [p]

/-- Joins neighbouring literals. -/
def joinLiterals : List Pattern → List Pattern
  | [] => []
  | p :: rest =>
    match p, joinLiterals rest with
    | literal a, literal b :: others => literal (a ++ b) :: others
    | p, others => p :: others

/-- The pattern of parts that stand behind each other. -/
def ofParts : List Pattern → Pattern
  | [] => empty
  | [p] => p
  | p :: rest => seq p (ofParts rest)

/-- Patterns one behind another. -/
def row (ps : List Pattern) : Pattern :=
  ofParts (joinLiterals (ps.flatMap parts))

/-- The pattern of alternatives. -/
def ofAlternatives : List Pattern → Pattern
  | [] => oneOf .empty
  | [p] => p
  | p :: rest => alt p (ofAlternatives rest)

/-- The character that a pattern stands for, if it is one. -/
def character? : Pattern → Option Char
  | literal [c] => some c
  | _ => none

/-- The set that a pattern stands for, if it is one. -/
def set? : Pattern → Option CodeSet
  | oneOf set => some set
  | _ => none

/-- What two lists begin with in common. -/
def commonFront (ps qs : List Pattern) : List Pattern :=
  match ps, qs with
  | p :: ps, q :: qs => if p = q then p :: commonFront ps qs else []
  | _, _ => []

/-- The parts that all alternatives begin with, each of which has several parts. -/
def sharedFront : List Pattern → List Pattern
  | [] => []
  | p :: rest =>
    if (p :: rest).all (fun q => 1 < q.parts.length) then
      rest.foldl (fun front q => commonFront front q.parts) p.parts
    else []

/-- One of several patterns, with a bound on how often a common front is taken away. -/
def choiceWithin : Nat → List Pattern → Pattern
  | 0, ps => ofAlternatives (ps.flatMap alternatives)
  | bound + 1, ps =>
    match ps.flatMap alternatives with
    | [] => ofAlternatives []
    | [p] => p
    | all =>
      match all.mapM character?, all.mapM set? with
      | some cs, _ => ofSet (.ofChars cs)
      | _, some sets => ofSet (.unionAll sets)
      | _, _ =>
        match sharedFront all with
        | [] => ofAlternatives all
        | front =>
          let others := all.map fun p => row (p.parts.drop front.length)
          row (front ++ [choiceWithin bound others])

/-- One of several patterns. -/
def choice (ps : List Pattern) : Pattern :=
  choiceWithin ((ps.map size).foldl (· + ·) 1) ps

/-- A pattern several times; one that is always empty counts once at most. -/
def repeated (p : Pattern) (least : Nat) (most : Option Nat) (greedy : Bool) : Pattern :=
  let (least, most) :=
    if p.isAlwaysEmpty then (min least 1, some (min (most.getD 1) 1)) else (least, most)
  match least, most with
  | 0, some 0 => empty
  | 1, some 1 => p
  | _, _ => many p least most greedy

/-! ## Sets of positions -/

/-- The positions of either list, each once if that holds of both. -/
def merge (ps qs : List Nat) : List Nat :=
  ps ++ qs.filter (!ps.contains ·)

/-- The positions after so many steps; stops where a step changes nothing. -/
def times (step : List Nat → List Nat) : Nat → List Nat → List Nat
  | 0, ps => ps
  | n + 1, ps =>
    let next := step ps
    if next == ps then ps else times step n next

/-- The positions after at most so many steps, where the last one reached the newest. -/
def spread (step : List Nat → List Nat) : Nat → List Nat → List Nat → List Nat
  | 0, reached, _ => reached
  | n + 1, reached, newest =>
    let next := (step newest).filter (!reached.contains ·)
    if next.isEmpty then reached else spread step n (reached ++ next) next

/-! ## Matching -/

/-- The positions behind a character at one of some positions that satisfies a test. -/
def advance (text : Array Char) (test : Char → Bool) (ps : List Nat) : List Nat :=
  (ps.filter fun i => (text[i]?).any test).map (· + 1)

/-- The positions where a pattern may end that starts at one of some positions. -/
def ends (text : Array Char) : Pattern → List Nat → List Nat
  | empty, ps => ps
  | literal cs, ps => cs.foldl (fun ps c => advance text (· == c) ps) ps
  | oneOf set, ps => advance text (fun c => set.contains c.toNat) ps
  | look condition, ps => ps.filter fun i => condition.holds text i
  | many part least most _, ps =>
    let reached := times (part.ends text) least ps
    spread (part.ends text) ((most.map (· - least)).getD (text.size + 1)) reached reached
  | group _ part, ps => part.ends text ps
  | seq first second, ps => second.ends text (first.ends text ps)
  | alt first second, ps => merge (first.ends text ps) (second.ends text ps)

/-- The pattern matches somewhere in a text. -/
def isMatch (p : Pattern) (text : String) : Bool :=
  let chars := text.toList.toArray
  !(p.ends chars (List.range (chars.size + 1))).isEmpty

end Pattern

end MutationTesting
