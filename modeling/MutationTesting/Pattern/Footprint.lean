import MutationTesting.Pattern.Basic
import MutationTesting.Pattern.ByteRange
import MutationTesting.Text.Fingerprint
import Std.Data.HashMap

/-!
# The memory of a pattern

To match a pattern one builds two automata over bytes, one that reads a text forwards and one that
reads it backwards. A pattern is refused if one of them takes more than ten mebibytes.

A state takes 32 bytes. A state with several transitions takes eight more bytes for each, a fork four
for each of its ways. Where a part ends in a fork, whatever follows is one more way of it.

Characters beyond ASCII are several bytes. The automaton that reads forwards shares all states that
go on in the same way. The one that reads backwards shares states that are reached in the same way,
as far as a memo of fixed size remembers them: of two states that fall on the same place in it the
earlier one is forgotten.

## Termination

Patterns shrink. A part that is repeated so many times is built so many times, until the limit is
reached.
-/

namespace MutationTesting.Pattern

open Unicode (CodeSet)

/-- The size of an automaton that is being built. -/
structure Footprint where
  /-- The number of states. -/
  states : Nat := 0
  /-- The bytes that they take beyond their own size. -/
  extra : Nat := 0
  deriving DecidableEq, Repr

namespace Footprint

/-- The bytes that an automaton may take. -/
def limit : Nat :=
  10 * 1024 * 1024

/-- The bytes that an automaton takes. -/
def bytes (f : Footprint) : Nat :=
  32 * f.states + f.extra

end Footprint

/-! ## Steps of building -/

/-- A step of building an automaton, which fails beyond the limit. -/
abbrev Build :=
  StateT Footprint Option

namespace Build

/-- Adds so many states and further bytes. -/
def grow (states extra : Nat) : Build Unit := fun f =>
  let f : Footprint := ⟨f.states + states, f.extra + extra⟩
  if f.bytes ≤ Footprint.limit then some ((), f) else none

/-- Adds so many ways to a fork. -/
def addWays (count : Nat) : Build Unit :=
  grow 0 (4 * count)

/-- Goes on behind a part, which ends in a fork or not. -/
def join (isFork : Bool) : Build Unit :=
  if isFork then addWays 1 else pure ()

end Build

/-! ## Sets, forwards -/

/-- A transition: the bytes that it is taken for, and the state that it leads to. -/
abbrev Transition := Nat × Nat × Nat

/-- The states for a set that reads forwards, by their transitions. -/
structure Forwards where
  /-- The states with their numbers. -/
  known : Std.HashMap (List Transition) Nat := {}
  /-- Their size; the state that all sequences end at is among them. -/
  size : Footprint := ⟨1, 0⟩

namespace Forwards

/-- The state with these transitions. -/
def state (b : Forwards) (transitions : List Transition) : Nat × Forwards :=
  match b.known[transitions]? with
  | some found => (found, b)
  | none =>
    (b.size.states,
      { known := b.known.insert transitions b.size.states
        size := ⟨b.size.states + 1, b.size.extra + 8 * transitions.length⟩ })

/-- The state for sequences in ascending order. Those with the same first range follow each other and
share the transition to the state for what follows in them. -/
def node : Nat → List (List ByteRange) → Forwards → Nat × Forwards
  | 0, _, b => (0, b)
  | depth + 1, sequences, b =>
    let groups := (sequences.filter (!·.isEmpty)).splitBy fun p q => p.head? == q.head?
    let (transitions, b) := groups.foldl (fun (found : List Transition × Forwards) group =>
      match group with
      | (range :: rest) :: others =>
        let (goal, b) :=
          if rest.isEmpty then (0, found.2)
          else node depth (rest :: others.map List.tail) found.2
        ((range.first, range.last, goal) :: found.1, b)
      | _ => found) ([], b)
    b.state transitions.reverse

end Forwards

/-- The size of the states for the sequences of a set, which are of four bytes at most. -/
def forwardsSize (sequences : List (List ByteRange)) : Footprint :=
  (Forwards.node 4 sequences {}).2.size

/-! ## Sets, backwards -/

/-- The states for a set that reads backwards. -/
structure Backwards where
  /-- A state at each place of the memo, with what leads to it. -/
  memo : Array (Option (Transition × Nat))
  /-- The number of the next state. -/
  next : Nat

namespace Backwards

/-- The number of places of the memo. -/
def places : Nat := 1000

/-- The place of a transition in the memo. -/
def place (t : Transition) : Nat :=
  let mix (h : UInt64) (n : Nat) := (h ^^^ n.toUInt64) * Fingerprint.prime
  (mix (mix (mix Fingerprint.basis t.2.2) t.1) t.2.1).toNat % places

/-- The state that is left by a transition. -/
def state (b : Backwards) (t : Transition) : Nat × Backwards :=
  let found := match b.memo[place t]? with
    | some (some (known, state)) => if known = t then some state else none
    | _ => none
  match found with
  | some state => (state, b)
  | none => (b.next, ⟨b.memo.setIfInBounds (place t) (some (t, b.next)), b.next + 1⟩)

/-- The states of a sequence that ends at a state. -/
def addSequence (target : Nat) (b : Backwards) (sequence : List ByteRange) : Backwards :=
  (sequence.foldl (fun (found : Nat × Backwards) range =>
    found.2.state (range.first, range.last, found.1)) (target, b)).2

end Backwards

/-! ## Sets -/

/-- A set with what it takes to build it. -/
structure PreparedSet where
  /-- The set. -/
  set : CodeSet
  /-- Its sequences of bytes. -/
  sequences : List (List ByteRange)
  /-- The size of its states for reading forwards. -/
  forwards : Footprint

namespace PreparedSet

/-- Prepares a set. -/
def ofSet (set : CodeSet) : PreparedSet :=
  let sequences := set.ranges.flatMap ByteRange.sequences
  ⟨set, sequences, forwardsSize sequences⟩

/-- The prepared sets of a pattern that go beyond ASCII. -/
def ofPattern : Pattern → List PreparedSet
  | .oneOf set => if set.isAscii then [] else [ofSet set]
  | .many part _ _ _ => ofPattern part
  | .group _ part => ofPattern part
  | .seq first second => ofPattern first ++ ofPattern second
  | .alt first second => ofPattern first ++ ofPattern second
  | _ => []

/-- Builds a set that reads backwards: a fork with one way for each sequence. -/
def buildBackwards (p : PreparedSet) : Build Unit := do
  Build.grow 2 0
  let next := (← get).states
  let b := p.sequences.foldl (Backwards.addSequence (next - 1))
    ⟨Array.replicate Backwards.places none, next⟩
  Build.grow (b.next - next) (4 * p.sequences.length)

end PreparedSet

/-! ## Alternatives of literals -/

/-- Words of which at most one in front is empty. -/
def oneEmptyFront (words : List (List Nat)) : List (List Nat) :=
  match words with
  | [] :: rest => [] :: rest.dropWhile List.isEmpty
  | words => words

/-- The rows of words up to each empty word, and the words behind the last one. -/
def splitAtEmpty (words : List (List Nat)) : List (List (List Nat)) :=
  match words with
  | [] => [[]]
  | [] :: rest => [] :: splitAtEmpty rest
  | word :: rest =>
    match splitAtEmpty rest with
    | first :: others => (word :: first) :: others
    | [] => [[word]]

/-- The words with the same first letter, which is left out, by their first letters. -/
def groupByHead (words : List (List Nat)) : List (List (List Nat)) :=
  let heads := (words.filterMap List.head?).eraseDups
  heads.map fun head => words.filterMap fun word =>
    if word.head? = some head then some word.tail else none

/-- Builds the state for words of which some are not empty. Where a word ends, the words in front of
it are tried before the end, and those behind it after the end. -/
def buildWords : Nat → List (List Nat) → Build Unit
  | 0, _ => pure ()
  | depth + 1, words => do
    let rows := (splitAtEmpty (oneEmptyFront words)).map groupByHead
    for row in rows do
      for rest in row do
        if rest.any (!·.isEmpty) then buildWords depth rest
      if !row.isEmpty then
        Build.grow 1 (if row.length = 1 then 0 else 8 * row.length)
        Build.addWays 1
    Build.grow 1 0
    Build.addWays (rows.length - 1)

/-! ## Patterns -/

/-- The way that an automaton reads a text. -/
inductive Direction where
  /-- From the front. -/
  | forwards
  /-- From the back. -/
  | backwards
  deriving DecidableEq, Repr

/-- Where a part stands. -/
inductive Place where
  /-- Anywhere but as a later alternative. -/
  | alone
  /-- As the second alternative; the first one ends in a fork or not. -/
  | second (isFork : Bool)
  /-- As a later alternative. -/
  | later

/-- Completes a part, which ends in a fork or not, where it stands. With the second alternative begins
the fork that leads to all of them, and the state that they end at. -/
def Place.complete (place : Place) (isFork : Bool) : Build Bool :=
  match place with
  | alone => return isFork
  | second first => do
    Build.grow 2 0
    Build.addWays 2
    Build.join first
    Build.join isFork
    return false
  | later => do
    Build.addWays 1
    Build.join isFork
    return false

/-- Builds a part so many more times behind one that ends in a fork or not. -/
def followTimes (part : Build Bool) : Nat → Bool → Build Bool
  | 0, isFork => return isFork
  | count + 1, isFork => do
    let next ← part
    Build.join isFork
    followTimes part count next

/-- Builds a part so many times. -/
def exactly (part : Build Bool) : Nat → Build Bool
  | 0 => do
    Build.grow 1 0
    return false
  | count + 1 => do followTimes part count (← part)

/-- Builds a part so many more times, each time behind a fork that also leads to the end. -/
def optionalTimes (part : Build Bool) : Nat → Bool → Build Unit
  | 0, isFork => Build.join isFork
  | count + 1, isFork => do
    Build.grow 1 0
    let next ← part
    Build.join isFork
    Build.addWays 2
    optionalTimes part count next

/-- Builds a part at least so many times; the part may be empty or not. -/
def atLeast (part : Build Bool) (canBeEmpty : Bool) : Nat → Build Bool
  | 0 => do
    if canBeEmpty then
      Build.join (← part)
      Build.grow 3 0
      Build.addWays 4
      return false
    else
      Build.grow 1 0
      Build.join (← part)
      Build.addWays 1
      return true
  | 1 => do
    Build.join (← part)
    Build.grow 1 0
    Build.addWays 1
    return true
  | count + 2 => do
    let front ← exactly part (count + 1)
    let last ← part
    Build.grow 1 0
    Build.join front
    Build.join last
    Build.addWays 1
    return true

/-- Builds a part several times. -/
def several (part : Build Bool) (canBeEmpty : Bool) (least : Nat) : Option Nat → Build Bool
  | none => atLeast part canBeEmpty least
  | some most => do
    if least = 0 ∧ most = 1 then
      Build.grow 1 0
      Build.join (← part)
      Build.grow 1 0
      Build.addWays 2
      return false
    else
      let front ← exactly part least
      if least = most then return front
      else
        Build.grow 1 0
        optionalTimes part (most - least) front
        return false

/-- Builds a set of characters; the prepared ones need not be prepared again. -/
def buildSet (prepared : List PreparedSet) (direction : Direction) (set : CodeSet) : Build Unit :=
  if set.isAscii then Build.grow 2 (8 * set.ranges.length)
  else
    let p := (prepared.find? fun p => p.set = set).getD (.ofSet set)
    match direction with
    | .forwards => Build.grow p.forwards.states p.forwards.extra
    | .backwards => p.buildBackwards

/-- The bytes of a literal in the order in which they are read. -/
def literalBytes (direction : Direction) (text : List Char) : List Nat :=
  let bytes := text.flatMap fun c => (String.utf8EncodeChar c).map (·.toNat)
  match direction with
  | .forwards => bytes
  | .backwards => bytes.reverse

/-- The literal that a pattern is. -/
def literal? : Pattern → Option (List Char)
  | .literal text => some text
  | _ => none

/-- Builds a pattern where it stands; tells whether it ends in a fork. -/
def build (prepared : List PreparedSet) (direction : Direction) : Place → Pattern → Build Bool
  | place, .empty => do
    Build.grow 1 0
    place.complete false
  | place, .literal text => do
    Build.grow (literalBytes direction text).length 0
    place.complete false
  | place, .oneOf set => do
    buildSet prepared direction set
    place.complete false
  | place, .look _ => do
    Build.grow 1 0
    place.complete false
  | place, .many part least most _ => do
    let canBeEmpty := !part.leastLength?.any (0 < ·)
    place.complete (← several (build prepared direction .alone part) canBeEmpty least most)
  | place, .group _ part =>
    match direction with
    | .backwards => build prepared .backwards place part
    | .forwards => do
      Build.grow 1 0
      let inner ← build prepared .forwards .alone part
      Build.grow 1 0
      Build.join inner
      place.complete false
  | place, .seq first second =>
    match direction with
    | .forwards => do
      let front ← build prepared .forwards .alone first
      let back ← build prepared .forwards .alone second
      Build.join front
      place.complete back
    | .backwards => do
      let back ← build prepared .backwards .alone second
      let front ← build prepared .backwards .alone first
      Build.join back
      place.complete front
  | .alone, .alt first second =>
    match (alternatives (.alt first second)).mapM literal? with
    | some texts => do
      let words := texts.map (literalBytes direction)
      Build.grow 1 0
      buildWords ((words.map List.length).foldl max 0 + 1) words
      return false
    | none => do
      let isFork ← build prepared direction .alone first
      build prepared direction (.second isFork) second
  | place, .alt first second => do
    let isFork ← build prepared direction .alone first
    let _ ← place.complete isFork
    build prepared direction .later second

/-- Builds the automaton of a pattern: in front, unless the pattern is anchored, a loop over any
bytes; behind, the state for a match. Going forwards, the whole match is remembered. -/
def buildAutomaton (prepared : List PreparedSet) (direction : Direction) (p : Pattern) : Build Unit := do
  let isAnchored := match direction with
    | .forwards => p.isAnchoredStart
    | .backwards => p.isAnchoredEnd
  if isAnchored then Build.grow 1 0 else Build.grow 3 16
  let whole := match direction with
    | .forwards => .group 0 p
    | .backwards => p
  let isFork ← build prepared direction .alone whole
  Build.grow 1 0
  Build.join isFork

/-- Both automata of a pattern stay within the limit. -/
def fits (p : Pattern) : Bool :=
  let prepared := PreparedSet.ofPattern p
  [Direction.forwards, .backwards].all fun direction =>
    ((buildAutomaton prepared direction p).run {}).isSome

end MutationTesting.Pattern
