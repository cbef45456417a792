import MutationTesting.Regex.Basic
import MutationTesting.Text.AsciiClass

/-!
# Reading regular expressions

There are two ways to write them. In the basic one a group, a choice and most repetitions are marked
by a backslash; in the extended one a backslash takes these meanings away. Some characters only have
a meaning where it makes sense: an asterisk in front stands for itself.

## Termination

Every reader consumes characters, so the length of the text bounds their nesting.
-/

namespace MutationTesting.Regex

/-- How an expression is written. -/
structure Notation where
  /-- In the extended way. -/
  isExtended : Bool := false
  /-- Letters behind a backslash may stand for blanks and line ends. -/
  hasLetters : Bool := false
  /-- A bracket that closes no group stands for itself. -/
  keepsStray : Bool := false
  deriving DecidableEq, Repr

/-- Why a text is no expression. -/
inductive Fault where
  /-- The text ends where a set begins. -/
  | emptySet
  /-- A repetition counts too far. -/
  | tooBig
  /-- A bracket of a set is not closed. -/
  | openSet
  /-- A bracket of a group is not closed. -/
  | openGroup
  /-- A bracket closes no group. -/
  | strayBracket
  /-- A brace of a repetition is not closed. -/
  | openBrace
  /-- The counts of a repetition make no sense. -/
  | badCounts
  /-- Nothing stands in front of a repetition. -/
  | nothingToRepeat
  /-- A range ends before it begins. -/
  | badRange
  /-- A class has no such name. -/
  | badClass
  /-- A class stands outside a set. -/
  | bareClass
  /-- A group is asked for that is not closed yet. -/
  | noSuchGroup
  /-- A backslash stands at the end. -/
  | trailingBackslash
  deriving DecidableEq, Repr

/-- A fault as users read it. -/
def Fault.message : Fault → String
  | .emptySet => "Invalid regular expression"
  | .tooBig => "Regular expression too big"
  | .openSet => "Unmatched [, [^, [:, [., or [="
  | .openGroup => "Unmatched ( or \\("
  | .strayBracket => "Unmatched ) or \\)"
  | .openBrace => "Unmatched \\\x7b"
  | .badCounts => "Invalid content of \\\x7b\\\x7d"
  | .nothingToRepeat => "Invalid preceding regular expression"
  | .badRange => "Invalid range end"
  | .badClass => "Invalid character class name"
  | .bareClass => "character class syntax is [[:space:]], not [:space:]"
  | .noSuchGroup => "Invalid back reference"
  | .trailingBackslash => "Trailing backslash"

/-- What is left to read, and the groups so far. -/
structure Reading where
  /-- The characters that are left. -/
  rest : List Char
  /-- The number of groups that have been opened. -/
  opened : Nat := 0
  /-- The groups that have been closed. -/
  closed : List Nat := []

/-- Reads from a text, or finds a fault. -/
abbrev Reader (α : Type) := StateT Reading (Except Fault) α

namespace Reader

/-- Goes on with some characters. -/
def goOn (rest : List Char) : Reader Unit :=
  modify fun r => { r with rest }

end Reader

open Reader (goOn)

/-! ## Sets -/

/-- The character in front as an end of a range, and what follows it. -/
def setChar? (n : Notation) : List Char → Option (Char × List Char)
  | '[' :: '.' :: c :: '.' :: ']' :: rest => some (c, rest)
  | '\\' :: 'n' :: rest => if n.hasLetters then some ('\n', rest) else some ('\\', 'n' :: rest)
  | '\\' :: 't' :: rest => if n.hasLetters then some ('\t', rest) else some ('\\', 't' :: rest)
  | c :: rest => some (c, rest)
  | [] => none

/-- The ranges of a set up to its closing bracket, which does not close if it comes first; with a
bound on their number. -/
def readRanges (n : Notation) (isFirst : Bool) :
    Nat → List Char → Except Fault (List (Char × Char) × List Char)
  | 0, _ => .error .openSet
  | bound + 1, cs => do
    let add (ranges : List (Char × Char)) (rest : List Char) :
        Except Fault (List (Char × Char) × List Char) := do
      let (more, rest) ← readRanges n false bound rest
      return (ranges ++ more, rest)
    match cs with
    | [] => throw .openSet
    | ']' :: rest => if isFirst then add [(']', ']')] rest else return ([], rest)
    | '[' :: ':' :: rest =>
      match spanClassName rest with
      | some (name, rest) =>
        match asciiClass? name with
        | some ranges => add ranges rest
        | none => throw .badClass
      | none => throw .openSet
    | '[' :: '=' :: c :: '=' :: ']' :: rest => add [(c, c)] rest
    | cs =>
      match setChar? n cs with
      | none => throw .openSet
      | some (a, '-' :: rest) =>
        if rest.head? == some ']' then add [(a, a)] ('-' :: rest)
        else
          match setChar? n rest with
          | none => throw .openSet
          | some (b, rest) => if b < a then throw .badRange else add [(a, b)] rest
      | some (a, rest) => add [(a, a)] rest

/-- The set behind its opening bracket. -/
def readSet (n : Notation) : Reader Regex := do
  let cs := (← get).rest
  let (negated, inner) := match cs with
    | '^' :: inner => (true, inner)
    | inner => (false, inner)
  if inner.isEmpty then throw .emptySet
  let (ranges, rest) ← readRanges n true (inner.length + 1) inner
  let ends := cs.take (cs.length - rest.length - 1)
  if cs.head? == some ':' && ends.length > 1 && ends.getLast? == some ':' then throw .bareClass
  goOn rest
  return .set negated ranges

/-! ## Repetitions -/

/-- The counts of a repetition in front, and what follows them. -/
def counts? (cs : List Char) : Option (Nat × Option Nat × List Char) :=
  let low := cs.takeWhile Char.isDigit
  let least := Nat.ofDigitChars 10 low 0
  match cs.drop low.length with
  | ',' :: rest =>
    let high := rest.takeWhile Char.isDigit
    let most? := if high.isEmpty then none else some (Nat.ofDigitChars 10 high 0)
    some (least, most?, rest.drop high.length)
  | rest => if low.isEmpty then none else some (least, some least, rest)

/-- The greatest count of a repetition. -/
def maxCount : Nat :=
  32767

/-- The repetition behind an opened brace. -/
def readCounts (n : Notation) (r : Regex) : Reader Regex := do
  match counts? (← get).rest with
  | none => throw .badCounts
  | some (least, most?, rest) =>
    let rest? := match n.isExtended, rest with
      | true, '\x7d' :: rest => some rest
      | false, '\\' :: '\x7d' :: rest => some rest
      | _, _ => none
    match rest? with
    | none => throw (if rest.isEmpty then .openBrace else .badCounts)
    | some rest =>
      if most?.getD least < least then throw .badCounts
      if maxCount < most?.getD least then throw .tooBig
      goOn rest
      return .many least most? r

/-- The counts of a repetition stand behind an opened brace. -/
def beginsCounts (cs : List Char) : Bool :=
  match counts? cs with
  | some (_, _, '\x7d' :: _) => true
  | _ => false

/-- The repetitions behind an expression, with a bound on their number. -/
def readRepeats (n : Notation) : Nat → Regex → Reader Regex
  | 0, r => return r
  | bound + 1, r => do
    let again (least : Nat) (most? : Option Nat) (rest : List Char) : Reader Regex := do
      goOn rest
      readRepeats n bound (.many least most? r)
    match n.isExtended, (← get).rest with
    | _, '*' :: rest => again 0 none rest
    | true, '+' :: rest => again 1 none rest
    | true, '?' :: rest => again 0 (some 1) rest
    | true, '\x7b' :: rest =>
      if beginsCounts rest then
        goOn rest
        readRepeats n bound (← readCounts n r)
      else return r
    | false, '\\' :: '+' :: rest => again 1 none rest
    | false, '\\' :: '?' :: rest => again 0 (some 1) rest
    | false, '\\' :: '\x7b' :: rest =>
      goOn rest
      readRepeats n bound (← readCounts n r)
    | _, _ => return r

/-! ## Escapes -/

/-- A character of a word. -/
def wordRanges : List (Char × Char) :=
  [('0', '9'), ('A', 'Z'), ('_', '_'), ('a', 'z')]

/-- The expression that a backslash in front of a character stands for. -/
def readEscape (n : Notation) (c : Char) : Reader Regex := do
  let spaces := (asciiClass? "space").getD []
  match c with
  | 'w' => return .set false wordRanges
  | 'W' => return .set true wordRanges
  | 's' => return .set false spaces
  | 'S' => return .set true spaces
  | 'b' => return .edge .either
  | 'B' => return .edge .neither
  | '<' => return .edge .first
  | '>' => return .edge .last
  | '\x60' => return .start
  | '\'' => return .finish
  | c =>
    if '1' ≤ c && c ≤ '9' then
      let index := c.toNat - '0'.toNat
      if (← get).closed.contains index then return .again index else throw .noSuchGroup
    else if n.hasLetters && c == 'n' then return .char '\n'
    else if n.hasLetters && c == 't' then return .char '\t'
    else return .char c

/-! ## Expressions -/

/-- What ends a sequence stands in front. -/
def endsSequence (n : Notation) (depth : Nat) (cs : List Char) : Bool :=
  match n.isExtended, cs with
  | _, [] => true
  | true, '|' :: _ => true
  | true, ')' :: _ => 0 < depth
  | false, '\\' :: '|' :: _ => true
  | false, '\\' :: ')' :: _ => 0 < depth
  | _, _ => false

mutual

/-- The choice in front, inside so many groups. -/
def readChoice (n : Notation) (depth : Nat) : Nat → Reader Regex
  | 0 => return .empty
  | bound + 1 => do
    let a ← readSequence n depth true bound
    match n.isExtended, (← get).rest with
    | true, '|' :: rest =>
      goOn rest
      return .alt a (← readChoice n depth bound)
    | false, '\\' :: '|' :: rest =>
      goOn rest
      return .alt a (← readChoice n depth bound)
    | _, _ => return a

/-- The sequence in front; at its beginning a repetition stands for itself. -/
def readSequence (n : Notation) (depth : Nat) (isFirst : Bool) : Nat → Reader Regex
  | 0 => return .empty
  | bound + 1 => do
    if endsSequence n depth (← get).rest then return .empty
    else
      let a ← readAtom n depth isFirst bound
      let isAnchor := !n.isExtended && a == .start
      let a ← if isAnchor then pure a else readRepeats n bound a
      return .seq a (← readSequence n depth isAnchor bound)

/-- A single expression. -/
def readAtom (n : Notation) (depth : Nat) (isFirst : Bool) : Nat → Reader Regex
  | 0 => return .empty
  | bound + 1 => do
    let group (rest : List Char) : Reader Regex := do
      let index := (← get).opened + 1
      modify fun r => { r with rest, opened := index }
      let inner ← readChoice n (depth + 1) bound
      let rest? := match n.isExtended, (← get).rest with
        | true, ')' :: rest => some rest
        | false, '\\' :: ')' :: rest => some rest
        | _, _ => none
      match rest? with
      | none => throw .openGroup
      | some rest =>
        modify fun r => { r with rest, closed := index :: r.closed }
        return .group index inner
    match n.isExtended, (← get).rest with
    | _, [] => return .empty
    | true, '(' :: rest => group rest
    | false, '\\' :: '(' :: rest => group rest
    | true, ')' :: rest =>
      if n.keepsStray then
        goOn rest
        return .char ')'
      else throw .strayBracket
    | false, '\\' :: ')' :: _ => throw .strayBracket
    | false, '\\' :: '\x7b' :: rest =>
      if isFirst then throw .nothingToRepeat
      else
        goOn rest
        return .char '\x7b'
    | _, '.' :: rest =>
      goOn rest
      return .any
    | _, '[' :: rest =>
      goOn rest
      readSet n
    | true, '^' :: rest =>
      goOn rest
      return .start
    | true, '$' :: rest =>
      goOn rest
      return .finish
    | false, '^' :: rest =>
      goOn rest
      return if isFirst then .start else .char '^'
    | false, '$' :: rest =>
      goOn rest
      return if endsSequence n depth rest then .finish else .char '$'
    | true, '\x7b' :: rest =>
      if isFirst && beginsCounts rest then throw .nothingToRepeat
      goOn rest
      return .char '\x7b'
    | true, '*' :: rest =>
      goOn rest
      return if isFirst then .empty else .char '*'
    | true, '+' :: rest =>
      goOn rest
      return if isFirst then .empty else .char '+'
    | true, '?' :: rest =>
      goOn rest
      return if isFirst then .empty else .char '?'
    | _, ['\\'] => throw .trailingBackslash
    | _, '\\' :: c :: rest =>
      goOn rest
      readEscape n c
    | _, c :: rest =>
      goOn rest
      return .char c

end

/-- The expression of a text, and the number of its groups. -/
def read (n : Notation) (cs : List Char) : Except Fault (Regex × Nat) := do
  let (r, after) ← (readChoice n 0 (4 * cs.length + 8)).run { rest := cs }
  return (r, after.opened)

/-- The expression of a text that stands for itself. -/
def literal (cs : List Char) : Regex :=
  cs.foldr (fun c r => .seq (.char c) r) .empty

end MutationTesting.Regex
