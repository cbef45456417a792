import MutationTesting.Pattern.Footprint
import MutationTesting.Pattern.NamedSet

/-!
# Reading patterns

Patterns are written with alternatives, groups, repetitions, classes in brackets with set operations,
escapes, and flags that hold up to the end of the group that they stand in. There are no references
to groups and no conditions on what lies ahead or behind.

A text is refused if it is ill formed, if it nests too deeply, if a class could match part of a
character only (which takes the flag for Unicode off), or if its automata take too much memory.

## Termination

Every reader consumes characters before it calls another one for the rest, or goes down one level of
a fixed number of levels; three times the length of the text bounds the depth of the calls.
-/

namespace MutationTesting.Pattern

open Unicode (CodeSet)

/-! ## Flags -/

/-- What changes the meaning of the pattern that follows. -/
structure Flags where
  /-- The case of letters does not count. -/
  caseless : Bool := false
  /-- Line ends count as ends of the text. -/
  multiLine : Bool := false
  /-- The dot stands for line ends too. -/
  dotAll : Bool := false
  /-- The carriage return ends a line too. -/
  returns : Bool := false
  /-- Classes are those of Unicode. -/
  unicode : Bool := true
  /-- Repetitions are as short as possible, unless a question mark makes them long. -/
  lazily : Bool := false
  /-- Blanks and comments in the pattern do not count. -/
  spaced : Bool := false

namespace Flags

/-- Sets the flag of a letter. -/
def set? (flags : Flags) (on : Bool) : Char → Option Flags
  | 'i' => some { flags with caseless := on }
  | 'm' => some { flags with multiLine := on }
  | 's' => some { flags with dotAll := on }
  | 'R' => some { flags with returns := on }
  | 'U' => some { flags with lazily := on }
  | 'u' => some { flags with unicode := on }
  | 'x' => some { flags with spaced := on }
  | _ => none

/-- The flags that letters set; behind a hyphen, of which there is one at most, they unset. No letter
comes twice, and no hyphen comes last. -/
def ofLetters? (flags : Flags) (on : Bool) : List Char → Option Flags
  | [] => some flags
  | ['-'] => none
  | '-' :: rest => if on then ofLetters? flags false rest else none
  | c :: rest => do
    if rest.contains c then none
    ofLetters? (← flags.set? on c) on rest

/-- The characters of words. -/
def wordSet (flags : Flags) : CodeSet :=
  if flags.unicode then Unicode.wordCharacters else asciiWord

/-- A set with the characters that the flag about case adds. -/
def closeCase (flags : Flags) (set : CodeSet) : CodeSet :=
  if !flags.caseless then set
  else if flags.unicode then Unicode.closeCase set
  else asciiCloseCase set

/-- The complement on demand; without Unicode it would hold parts of characters. -/
def negateIf? (flags : Flags) (negated : Bool) (set : CodeSet) : Option CodeSet :=
  if negated && !flags.unicode then none else some (set.negateIf negated)

/-- The start of the text, or of a line. -/
def caret (flags : Flags) : Look :=
  if flags.multiLine then .lineStart flags.returns else .textStart

/-- The end of the text, or of a line. -/
def dollar (flags : Flags) : Look :=
  if flags.multiLine then .lineEnd flags.returns else .textEnd

/-- Any character, or any but line ends; without Unicode it would hold parts of characters. -/
def dot? (flags : Flags) : Option CodeSet :=
  if !flags.unicode then none
  else if flags.dotAll then some .full
  else if flags.returns then some (CodeSet.ofChars ['\n', '\r']).complement
  else some (CodeSet.single '\n').complement

end Flags

/-! ## Blanks and numbers -/

/-- Drops the rest of the line. -/
def dropComment (cs : List Char) : List Char :=
  cs.dropWhile (· != '\n')

/-- Drops blanks and comments, with a bound on their number. -/
def dropSpaced : Nat → List Char → List Char
  | 0, cs => cs
  | bound + 1, cs =>
    match cs with
    | '#' :: rest => dropSpaced bound (dropComment rest)
    | c :: rest => if Unicode.isWhiteSpace c then dropSpaced bound rest else cs
    | [] => []

/-- Drops what does not count under the flags. -/
def Flags.skip (flags : Flags) (cs : List Char) : List Char :=
  if flags.spaced then dropSpaced cs.length cs else cs

/-- The characters in front that satisfy a test, with what does not count between them, and the rest.
The bound is on their number. -/
def Flags.take (flags : Flags) (test : Char → Bool) : Nat → List Char → List Char × List Char
  | bound + 1, c :: rest =>
    if test c then
      let (taken, rest) := flags.take test bound (flags.skip rest)
      (c :: taken, rest)
    else ([], c :: rest)
  | _, cs => ([], cs)

/-- The decimal number in front, of 32 bits, with blanks around it. -/
def Flags.decimal? (flags : Flags) (cs : List Char) : Option (Nat × List Char) := do
  let (digits, rest) := flags.take Char.isDigit cs.length (cs.dropWhile Unicode.isWhiteSpace)
  let (_, rest) := flags.take Unicode.isWhiteSpace rest.length rest
  let n ← digits? digits
  if n < UInt32.size then some (n, rest) else none

/-- The number that hexadecimal digits denote. -/
def hexNumber? (digits : List Char) : Option Nat :=
  if digits.isEmpty then none
  else digits.foldlM (fun n c => do
    let d ← if c.isDigit then some (c.toNat - 48)
      else if 'a' ≤ c.toLower ∧ c.toLower ≤ 'f' then some (c.toLower.toNat - 87)
      else none
    return n * 16 + d) 0

/-- The character of a code point, which is no surrogate. -/
def charOf? (n : Nat) : Option Char :=
  if n.isValidChar then some (Char.ofNat n) else none

/-- The bounds of a repetition between braces, and what follows the closing brace. -/
def Flags.bounds? (flags : Flags) (cs : List Char) : Option ((Nat × Option Nat) × List Char) := do
  let (least, rest) ← flags.decimal? (flags.skip cs)
  match rest with
  | '}' :: rest => return ((least, some least), rest)
  | ',' :: rest =>
    match flags.skip rest with
    | '}' :: rest => return ((least, none), rest)
    | rest =>
      match ← flags.decimal? rest with
      | (most, '}' :: rest) => if least ≤ most then some ((least, some most), rest) else none
      | _ => none
  | _ => none

/-! ## Escapes -/

/-- What an escape stands for. -/
inductive Escape where
  /-- A character; told by two hexadecimal digits it is a byte. -/
  | literal (c : Char) (isByte : Bool)
  /-- A class of Unicode that has a counterpart in ASCII, or its complement. -/
  | kind (unicode ascii : CodeSet) (negated : Bool)
  /-- A property of Unicode, or its complement. -/
  | property (set : CodeSet) (negated : Bool)
  /-- A condition. -/
  | look (condition : Look)

/-- The character that hexadecimal digits tell, either so many or any number in braces. -/
def Flags.hexEscape? (flags : Flags) (count : Nat) (cs : List Char) :
    Option (Escape × List Char) := do
  match flags.skip cs with
  | '{' :: rest =>
    let (digits, rest) := flags.take (· != '}') rest.length (flags.skip rest)
    if rest.isEmpty then none
    else some (.literal (← charOf? (← hexNumber? digits)) false, flags.skip (rest.drop 1))
  | rest =>
    let (digits, rest) := flags.take (fun _ => true) count rest
    if digits.length = count then
      some (.literal (← charOf? (← hexNumber? digits)) (count == 2), rest)
    else none

/-- The parts of a list around the first place where a list stands. -/
def splitAtFirst? (sep : List Char) : List Char → Option (List Char × List Char)
  | [] => none
  | c :: rest =>
    if sep.isPrefixOf (c :: rest) then some ([], (c :: rest).drop sep.length)
    else (splitAtFirst? sep rest).map fun (a, b) => (c :: a, b)

/-- The property that the text between braces tells, or its complement. -/
def propertyIn? (text : List Char) : Option (CodeSet × Bool) :=
  match splitAtFirst? ['!', '='] text with
  | some (name, value) => (withValue? name value).map (·, true)
  | none =>
    match splitAtFirst? [':'] text <|> splitAtFirst? ['='] text with
    | some (name, value) => (withValue? name value).map (·, false)
    | none => (namedSet? text).map (·, false)

/-- The property in front, in braces or of one letter. -/
def Flags.propertyEscape? (flags : Flags) (negated : Bool) (cs : List Char) :
    Option (Escape × List Char) := do
  match flags.skip cs with
  | [] => none
  | '\\' :: _ => none
  | '{' :: rest =>
    let (name, rest) := flags.take (· != '}') rest.length (flags.skip rest)
    if rest.isEmpty then none
    else
      let (set, otherwise) ← propertyIn? name
      some (.property set (negated != otherwise), rest.drop 1)
  | c :: rest => some (.property (← namedSet? [c]) negated, flags.skip rest)

/-- The condition on words in braces behind the escape for word boundaries; digits in front belong to
a repetition instead. -/
def Flags.boundaryEscape? (flags : Flags) (cs : List Char) : Option (Look × List Char) := do
  let isNameChar (c : Char) := c.isAlpha || c == '-'
  let plain := (Look.boundary flags.wordSet false, cs)
  match cs with
  | '{' :: rest =>
    match flags.skip rest with
    | [] => none
    | c :: rest =>
      if !isNameChar c then some plain
      else
        match flags.take isNameChar (rest.length + 1) (c :: rest) with
        | (name, '}' :: rest) =>
          match String.ofList name with
          | "start" => some (.wordStart flags.wordSet, rest)
          | "end" => some (.wordEnd flags.wordSet, rest)
          | "start-half" => some (.noWordBefore flags.wordSet, rest)
          | "end-half" => some (.noWordAfter flags.wordSet, rest)
          | _ => none
        | _ => none
  | _ => some plain

/-- The escape behind a backslash. -/
def Flags.escape? (flags : Flags) : List Char → Option (Escape × List Char)
  | [] => none
  | c :: rest =>
    match c with
    | 'x' => flags.hexEscape? 2 rest
    | 'u' => flags.hexEscape? 4 rest
    | 'U' => flags.hexEscape? 8 rest
    | 'p' => flags.propertyEscape? false rest
    | 'P' => flags.propertyEscape? true rest
    | 'd' => some (.kind Unicode.decimalDigits asciiDigit false, rest)
    | 'D' => some (.kind Unicode.decimalDigits asciiDigit true, rest)
    | 's' => some (.kind Unicode.whiteSpace asciiSpace false, rest)
    | 'S' => some (.kind Unicode.whiteSpace asciiSpace true, rest)
    | 'w' => some (.kind Unicode.wordCharacters asciiWord false, rest)
    | 'W' => some (.kind Unicode.wordCharacters asciiWord true, rest)
    | 'a' => some (.literal '\x07' false, rest)
    | 'f' => some (.literal '\x0c' false, rest)
    | 't' => some (.literal '\t' false, rest)
    | 'n' => some (.literal '\n' false, rest)
    | 'r' => some (.literal '\r' false, rest)
    | 'v' => some (.literal '\x0b' false, rest)
    | 'A' => some (.look .textStart, rest)
    | 'z' => some (.look .textEnd, rest)
    | 'b' => (flags.boundaryEscape? rest).map fun (condition, rest) => (.look condition, rest)
    | 'B' => some (.look (.boundary flags.wordSet true), rest)
    | '<' => some (.look (.wordStart flags.wordSet), rest)
    | '>' => some (.look (.wordEnd flags.wordSet), rest)
    | c => if c.toNat < 128 && !c.isAlphanum then some (.literal c false, rest) else none

namespace Escape

/-- The set that an escape stands for, conditions apart. -/
def set? (flags : Flags) : Escape → Option CodeSet
  | literal c isByte =>
    if isByte && !flags.unicode && 128 ≤ c.toNat then none else some (.single c)
  | kind unicode ascii negated =>
    flags.negateIf? negated (if flags.unicode then unicode else ascii)
  | property set negated =>
    if flags.unicode then some ((flags.closeCase set).negateIf negated) else none
  | look _ => none

end Escape

/-! ## Classes in brackets -/

/-- How two sets make one. -/
inductive SetOperation where
  /-- What belongs to both. -/
  | both
  /-- What belongs to the first alone. -/
  | difference
  /-- What belongs to exactly one. -/
  | either
  deriving DecidableEq, Repr

namespace SetOperation

/-- The set that two sets make. -/
def combine (operation : SetOperation) (a b : CodeSet) : CodeSet :=
  match operation with
  | both => a.intersection b
  | difference => a.difference b
  | either => a.symmetricDifference b

/-- The operator in front. -/
def ofText? : List Char → Option (SetOperation × List Char)
  | '&' :: '&' :: rest => some (both, rest)
  | '-' :: '-' :: rest => some (difference, rest)
  | '~' :: '~' :: rest => some (either, rest)
  | _ => none

end SetOperation

/-- A set together with how deeply its description nests. -/
structure Member where
  /-- The set. -/
  set : CodeSet
  /-- The depth. -/
  depth : Nat := 0

namespace Member

/-- The set of members that stand in a row. -/
def ofRow (members : List Member) : Member :=
  match members with
  | [m] => m
  | [] => ⟨.empty, 0⟩
  | _ => ⟨.unionAll (members.map (·.set)),
      1 + (members.map (·.depth)).foldl max 0⟩

/-- What the operators so far make of the last row. -/
def finish (flags : Flags) (pending : Option (Member × SetOperation)) (row : Member) : Member :=
  match pending with
  | none => row
  | some (left, operation) =>
    ⟨operation.combine (flags.closeCase left.set) (flags.closeCase row.set),
      1 + max left.depth row.depth⟩

end Member

/-- The class of ASCII in front, between brackets with colons. -/
def asciiClassIn? (cs : List Char) : Option ((CodeSet × Bool) × List Char) := do
  match cs with
  | '[' :: ':' :: rest =>
    let (negated, rest) := match rest with
      | '^' :: rest => (true, rest)
      | _ => (false, rest)
    match rest.dropWhile (· != ':') with
    | ':' :: ']' :: after =>
      let set ← asciiClass? (String.ofList (rest.takeWhile (· != ':')))
      return ((set, negated), after)
    | _ => none
  | _ => none

/-- A character or escape of a class. -/
def Flags.classItem? (flags : Flags) : List Char → Option (Escape × List Char)
  | [] => none
  | '\\' :: rest => flags.escape? rest
  | c :: rest => some (.literal c false, rest)

/-- The end of a range, which is a character; without Unicode one of ASCII. -/
def Flags.rangeEnd? (flags : Flags) : Escape → Option Char
  | .literal c _ => if !flags.unicode && 128 ≤ c.toNat then none else some c
  | _ => none

/-- The hyphen in front stands for a range: neither the closing bracket nor another hyphen follows. -/
def Flags.isRangeMark (flags : Flags) : List Char → Bool
  | '-' :: rest =>
    match flags.skip rest with
    | ']' :: _ => false
    | '-' :: _ => false
    | _ => true
  | _ => false

/-- The character, escape or range of a class in front. -/
def Flags.classRange? (flags : Flags) (cs : List Char) : Option (Member × List Char) := do
  let (first, rest) ← flags.classItem? cs
  let rest := flags.skip rest
  if flags.isRangeMark rest then
    let (last, rest) ← flags.classItem? (flags.skip (rest.drop 1))
    let a ← flags.rangeEnd? first
    let b ← flags.rangeEnd? last
    if a ≤ b then some (⟨.range a b, 0⟩, rest) else none
  else
    match first with
    | .literal .. => return (⟨.single (← flags.rangeEnd? first), 0⟩, rest)
    | _ => return (⟨← first.set? flags, 0⟩, rest)

/-- The hyphens in front and, without any, a closing bracket stand for themselves. -/
def Flags.classOpening (flags : Flags) (cs : List Char) : List Member × List Char :=
  let (hyphens, rest) := flags.take (· == '-') cs.length cs
  let members := hyphens.map fun c => (⟨.single c, 0⟩ : Member)
  match members, rest with
  | [], ']' :: rest => ([⟨.single ']', 0⟩], flags.skip rest)
  | _, _ => (members, rest)

mutual

/-- The class behind its opening bracket. -/
def Flags.classBody? (flags : Flags) : Nat → List Char → Option (Member × List Char)
  | 0, _ => none
  | bound + 1, cs => do
    let cs := flags.skip cs
    let (negated, cs) := match cs with
      | '^' :: rest => (true, flags.skip rest)
      | _ => (false, cs)
    let (members, cs) := flags.classOpening cs
    let (m, cs) ← flags.classMembers? bound none members.reverse cs
    let set ← flags.negateIf? negated (flags.closeCase m.set)
    return (⟨set, m.depth + 1⟩, cs)

/-- The members of a class up to its closing bracket; those of the row so far are in reverse. -/
def Flags.classMembers? (flags : Flags) :
    Nat → Option (Member × SetOperation) → List Member → List Char → Option (Member × List Char)
  | 0, _, _, _ => none
  | bound + 1, pending, row, cs =>
    let cs := flags.skip cs
    let finished := Member.finish flags pending (Member.ofRow row.reverse)
    match cs with
    | [] => none
    | ']' :: rest => some (finished, rest)
    | '[' :: rest =>
      match asciiClassIn? cs with
      | some ((set, negated), rest) => do
        let set ← flags.negateIf? negated (flags.closeCase set)
        flags.classMembers? bound pending (⟨set, 0⟩ :: row) rest
      | none => do
        let (m, rest) ← flags.classBody? bound rest
        flags.classMembers? bound pending (m :: row) rest
    | cs =>
      match SetOperation.ofText? cs with
      | some (operation, rest) => flags.classMembers? bound (some (finished, operation)) [] rest
      | none => do
        let (m, rest) ← flags.classRange? cs
        flags.classMembers? bound pending (m :: row) rest

end

/-! ## Pieces -/

/-- A pattern together with how deeply its text nests. -/
structure Piece where
  /-- The pattern. -/
  pattern : Pattern
  /-- The depth. -/
  depth : Nat := 0
  /-- It can be repeated. -/
  repeatable : Bool := true

namespace Piece

/-- How deeply a text may nest. -/
def depthLimit : Nat := 250

/-- The setting of flags, which matches the empty text. -/
def ofFlags : Piece :=
  ⟨.empty, 0, false⟩

/-- The depth of what contains pieces. -/
def depthAbove (pieces : List Piece) : Nat :=
  1 + (pieces.map (·.depth)).foldl max 0

/-- Pieces one behind another. -/
def concat (pieces : List Piece) : Piece :=
  match pieces with
  | [p] => p
  | [] => ⟨.empty, 0, false⟩
  | _ => ⟨.row (pieces.map (·.pattern)), depthAbove pieces, true⟩

/-- Alternatives. -/
def choice (pieces : List Piece) : Piece :=
  match pieces with
  | [p] => p
  | _ => ⟨.choice (pieces.map (·.pattern)), depthAbove pieces, true⟩

/-- A group, which is remembered under a number or not. -/
def grouped (p : Piece) (number : Option Nat) : Piece :=
  { pattern := match number with
      | some n => .group n p.pattern
      | none => p.pattern
    depth := p.depth + 1 }

/-- A repetition. -/
def times (p : Piece) (least : Nat) (most : Option Nat) (greedy : Bool) : Piece :=
  ⟨p.pattern.repeated least most greedy, p.depth + 1, true⟩

/-- A condition. -/
def ofLook (condition : Look) : Piece :=
  { pattern := .look condition }

/-- A set. -/
def ofSet (set : CodeSet) (depth : Nat) : Piece :=
  { pattern := .ofSet set, depth }

/-- An escape. -/
def ofEscape? (flags : Flags) (e : Escape) : Option Piece :=
  match e with
  | .look condition => some (ofLook condition)
  | .literal .. => (e.set? flags).map fun set => ofSet (flags.closeCase set) 0
  | _ => (e.set? flags).map fun set => ofSet set 0

end Piece

/-! ## Groups -/

/-- What a reader of groups knows: the flags, the names of groups so far, and how many groups are
remembered. -/
structure Scope where
  /-- The flags. -/
  flags : Flags := {}
  /-- The names. -/
  names : List (List Char) := []
  /-- The number of the groups that are remembered. -/
  groups : Nat := 0

/-- The name of a group up to the closing bracket, and what follows it. -/
def groupName? (cs : List Char) : Option (List Char × List Char) := do
  let name := cs.takeWhile (· != '>')
  let isFirst (c : Char) := c == '_' || Unicode.isAlphabetic c
  let isOther (c : Char) :=
    isFirst c || c == '.' || c == '[' || c == ']' || Unicode.isNumeric c
  match name, cs.dropWhile (· != '>') with
  | c :: others, _ :: rest => if isFirst c && others.all isOther then some (name, rest) else none
  | _, _ => none

/-- What the text behind an opening bracket begins. -/
inductive Opening where
  /-- A setting of flags for what follows. -/
  | setting (flags : Flags)
  /-- A group, which is remembered under a number or not, and within which the scope holds. -/
  | group (number : Option Nat) (scope : Scope)

/-- The opening of a group that is remembered. -/
def Scope.remember (scope : Scope) : Opening :=
  .group (some (scope.groups + 1)) { scope with groups := scope.groups + 1 }

/-- The opening of a named group. -/
def Scope.named? (scope : Scope) (cs : List Char) : Option (Opening × List Char) := do
  let (name, rest) ← groupName? cs
  if scope.names.contains name then none
  else some ({ scope with names := name :: scope.names }.remember, rest)

/-- The opening behind a bracket. -/
def Scope.opening? (scope : Scope) (cs : List Char) : Option (Opening × List Char) :=
  match scope.flags.skip cs with
  | '?' :: '=' :: _ => none
  | '?' :: '!' :: _ => none
  | '?' :: '<' :: '=' :: _ => none
  | '?' :: '<' :: '!' :: _ => none
  | '?' :: 'P' :: '<' :: rest => scope.named? rest
  | '?' :: '<' :: rest => scope.named? rest
  | '?' :: rest => do
    let letters := rest.takeWhile fun c => c != ':' && c != ')'
    let flags ← scope.flags.ofLetters? true letters
    match rest.drop letters.length with
    | ')' :: rest => if letters.isEmpty then none else some (.setting flags, rest)
    | ':' :: rest => some (.group none { scope with flags }, rest)
    | _ => none
  | rest => some (scope.remember, rest)

/-- A repetition of the last piece; a question mark behind it turns its greed around. -/
def Flags.repeatLast? (flags : Flags) (pieces : List Piece) (least : Nat) (most : Option Nat)
    (rest : List Char) : Option (List Piece × List Char) :=
  match pieces with
  | p :: pieces =>
    if p.repeatable then
      let (greedy, rest) := match rest with
        | '?' :: rest => (flags.lazily, rest)
        | rest => (!flags.lazily, rest)
      some (p.times least most greedy :: pieces, rest)
    else none
  | [] => none

mutual

/-- Alternatives up to the end of the text or a closing bracket. -/
def alternatives? : Nat → Scope → List Char → Option (List Piece × Scope × List Char)
  | 0, _, _ => none
  | bound + 1, scope, cs => do
    let (first, scope, rest) ← pieces? bound scope [] cs
    match rest with
    | '|' :: rest =>
      let (others, scope, rest) ← alternatives? bound scope rest
      return (first :: others, scope, rest)
    | rest => return ([first], scope, rest)

/-- The pieces of an alternative; those so far are in reverse. -/
def pieces? : Nat → Scope → List Piece → List Char → Option (Piece × Scope × List Char)
  | 0, _, _, _ => none
  | bound + 1, scope, row, cs =>
    let flags := scope.flags
    let again (found : Option (List Piece × List Char)) : Option (Piece × Scope × List Char) := do
      let (row, rest) ← found
      pieces? bound scope row rest
    match flags.skip cs with
    | [] => some (Piece.concat row.reverse, scope, [])
    | ')' :: rest => some (Piece.concat row.reverse, scope, ')' :: rest)
    | '|' :: rest => some (Piece.concat row.reverse, scope, '|' :: rest)
    | '*' :: rest => again (flags.repeatLast? row 0 none rest)
    | '+' :: rest => again (flags.repeatLast? row 1 none rest)
    | '?' :: rest => again (flags.repeatLast? row 0 (some 1) rest)
    | '{' :: rest => again do
      let ((least, most), rest) ← flags.bounds? rest
      flags.repeatLast? row least most (flags.skip rest)
    | '(' :: rest => do
      match ← scope.opening? rest with
      | (.setting flags, rest) => pieces? bound { scope with flags } (.ofFlags :: row) rest
      | (.group number inner, rest) =>
        match ← alternatives? bound inner rest with
        | (pieces, inner, ')' :: rest) =>
          pieces? bound { inner with flags } ((Piece.choice pieces).grouped number :: row) rest
        | _ => none
    | '[' :: rest => again do
      let (m, rest) ← flags.classBody? (2 * rest.length + 2) rest
      return (.ofSet m.set m.depth :: row, rest)
    | '.' :: rest => again do
      return (.ofSet (← flags.dot?) 0 :: row, rest)
    | '^' :: rest => again (some (.ofLook flags.caret :: row, rest))
    | '$' :: rest => again (some (.ofLook flags.dollar :: row, rest))
    | '\\' :: rest => again do
      let (e, rest) ← flags.escape? rest
      return ((← Piece.ofEscape? flags e) :: row, rest)
    | c :: rest => again (some (.ofSet (flags.closeCase (.single c)) 0 :: row, rest))

end

/-- The pattern of a text. -/
def ofText? (text : String) : Option Pattern := do
  let cs := text.toList
  match ← alternatives? (3 * cs.length + 3) {} cs with
  | (pieces, _, []) =>
    let p := Piece.choice pieces
    if p.depth ≤ Piece.depthLimit ∧ p.pattern.fits then some p.pattern else none
  | _ => none

end MutationTesting.Pattern
