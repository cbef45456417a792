import MutationTesting.Regex.Reader

/-!
# Editing commands

A script of editing commands, each of which holds for the lines that its addresses select. Groups and
jumps are kept as places in the list of commands.
-/

namespace MutationTesting.Shell.Utility.Edit

/-! ## Commands -/

/-- What selects a line. -/
inductive Address where
  /-- Its number. -/
  | line (n : Nat)
  /-- Its number counted in steps from a first one. -/
  | every (first stride : Nat)
  /-- It is the last one. -/
  | last
  /-- An expression matches it; none stands for the one used before. -/
  | pattern (r? : Option Regex) (ignoresCase : Bool)
  deriving Repr, Inhabited

/-- Where a range of lines ends. -/
inductive RangeEnd where
  /-- With a line that an address selects. -/
  | address (a : Address)
  /-- A number of lines behind its beginning. -/
  | count (n : Nat)
  /-- With a line whose number is a multiple. -/
  | multiple (n : Nat)
  deriving Repr, Inhabited

/-- The lines for which a command holds. -/
structure Selection where
  /-- The address of a line, or of the beginning of a range. -/
  first? : Option Address := none
  /-- The end of a range. -/
  last? : Option RangeEnd := none
  /-- The command holds for the other lines. -/
  isNegated : Bool := false
  deriving Repr, Inhabited

/-- A change of the case of letters in a replacement. -/
inductive CaseChange where
  /-- Letters become capital ones. -/
  | upper
  /-- Letters become small ones. -/
  | lower
  /-- Letters stay. -/
  | keep
  /-- The next letter becomes a capital one. -/
  | upperOne
  /-- The next letter becomes a small one. -/
  | lowerOne
  deriving DecidableEq, Repr

/-- A piece of a replacement. -/
inductive Piece where
  /-- Characters. -/
  | text (cs : List Char)
  /-- What a group matched. -/
  | group (index : Nat)
  /-- A change of case from here on. -/
  | case (change : CaseChange)
  deriving DecidableEq, Repr

/-- How matches are replaced. -/
structure Substitution where
  /-- The expression, none for the one used before. -/
  r? : Option Regex
  /-- The pieces of the replacement. -/
  pieces : List Piece
  /-- The number of the first match that is replaced. -/
  from? : Option Nat := none
  /-- All matches from it on are replaced. -/
  isGlobal : Bool := false
  /-- The result is printed. -/
  prints : Bool := false
  /-- Capital letters count as small ones. -/
  ignoresCase : Bool := false
  /-- The file to which the result is written. -/
  file? : Option String := none
  deriving Repr, Inhabited

/-- What a command does. -/
inductive Action where
  | group (size : Nat)
  | nothing
  | substitute (s : Substitution)
  | delete
  | deleteFirst
  | print
  | printFirst
  | next
  | appendNext
  | get
  | appendHeld
  | hold
  | appendToHeld
  | exchange
  | lineNumber
  | list (width? : Option Nat)
  | quit (prints : Bool) (status : Nat)
  | append (text : List Char)
  | insert (text : List Char)
  | change (text : List Char)
  | readFile (path : String)
  | writeFile (path : String)
  | transliterate (pairs : List (Char × Char))
  | empty
  | fileName
  | label (name : String)
  | branch (name : String)
  | branchIf (holds : Bool) (name : String)
  deriving Repr, Inhabited

/-- A command and the lines for which it holds. -/
structure Command where
  /-- The lines. -/
  selection : Selection
  /-- What it does. -/
  action : Action
  deriving Repr, Inhabited

/-! ## Reading -/

/-- What is left of a script, and how its expressions are written. -/
structure Reading where
  /-- The characters that are left. -/
  rest : List Char
  /-- Expressions are written in the extended way. -/
  isExtended : Bool

/-- What is wrong with a script, and the number of characters behind it; none if it is not at a place
of the script. -/
structure Fault where
  /-- The text. -/
  text : String
  /-- The number of characters behind it. -/
  left? : Option Nat

/-- Reads from a script. -/
abbrev Reader (α : Type) := StateT Reading (Except Fault) α

/-- Fails here. -/
def fail {α : Type} (text : String) : Reader α := do
  throw { text, left? := some (← get).rest.length }

/-- Goes on with some characters. -/
def goOn (rest : List Char) : Reader Unit :=
  modify fun r => { r with rest }

/-- The next character, if there is one. -/
def next? : Reader (Option Char) := do
  match (← get).rest with
  | c :: rest =>
    goOn rest
    return some c
  | [] => return none

/-- Drops the characters in front that are of a kind. -/
def skip (isSkipped : Char → Bool) : Reader Unit := do
  goOn ((← get).rest.dropWhile isSkipped)

/-- A blank that is no line end. -/
def isSpace (c : Char) : Bool :=
  c.isWhitespace && c != '\n'

/-- The number in front, if there is one. -/
def number? : Reader (Option Nat) := do
  let rest := (← get).rest
  let digits := rest.takeWhile Char.isDigit
  goOn (rest.drop digits.length)
  return if digits.isEmpty then none else some (Nat.ofDigitChars 10 digits 0)

/-- The characters of a set in front behind its bracket, and what follows them. -/
def spanSet (cs : List Char) : List Char × List Char :=
  let front := match cs with
    | '^' :: ']' :: _ => cs.take 2
    | '^' :: _ => cs.take 1
    | ']' :: _ => cs.take 1
    | _ => []
  let rest := cs.drop front.length
  let inner := rest.takeWhile fun c => c != ']' && c != '\n'
  (front ++ inner, rest.drop inner.length)

/-- The text up to a delimiter, which a backslash keeps, and what follows the delimiter; with a bound
on the number of pieces. -/
def spanDelimited (delimiter : Char) (isPattern : Bool) : Nat → List Char →
    Option (List Char × List Char)
  | 0, _ => none
  | bound + 1, cs =>
    let add (piece : List Char) (rest : List Char) : Option (List Char × List Char) :=
      (spanDelimited delimiter isPattern bound rest).map fun (text, rest) => (piece ++ text, rest)
    match cs with
    | [] => none
    | '\\' :: c :: rest =>
      if c == delimiter && (isPattern || c != '&') then
        add (if isPattern && !(c.isAlphanum || c == '/' || c == ',') then ['\\', c] else [c]) rest
      else if c == 'n' && isPattern then add ['\n'] rest
      else if c == '\n' && isPattern then add ['\n'] rest
      else add ['\\', c] rest
    | c :: rest =>
      if c == delimiter then some ([], rest)
      else if c == '\n' && isPattern then none
      else if c == '[' && isPattern then
        let (inner, rest) := spanSet rest
        add ('[' :: inner) rest
      else add [c] rest

/-- The text up to a delimiter. -/
def readDelimited (delimiter : Char) (isPattern : Bool) (fault : String) : Reader (List Char) := do
  let rest := (← get).rest
  match spanDelimited delimiter isPattern (rest.length + 1) rest with
  | some (text, rest) =>
    goOn rest
    return text
  | none =>
    goOn []
    fail fault

/-- The expression of a text and the number of its groups; none for an empty text. -/
def readPattern (text : List Char) : Reader (Option Regex × Nat) := do
  if text.isEmpty then return (none, 9)
  else
    match Regex.read { isExtended := (← get).isExtended, hasLetters := true } text with
    | .ok (r, groups) => return (some r, groups)
    | .error fault => fail fault.message

/-! ## Addresses -/

/-- The expression behind its delimiter as an address. -/
def readPatternAddress (delimiter : Char) : Reader Address := do
  let text ← readDelimited delimiter true "unterminated address regex"
  let flags := (← get).rest.takeWhile fun c => c == 'I' || c == 'M'
  goOn ((← get).rest.drop flags.length)
  return .pattern (← readPattern text).1 (flags.contains 'I')

/-- The address in front, if there is one. -/
def readAddress? : Reader (Option Address) := do
  match (← get).rest with
  | '$' :: rest =>
    goOn rest
    return some .last
  | '/' :: rest =>
    goOn rest
    return some (← readPatternAddress '/')
  | '\\' :: delimiter :: rest =>
    goOn rest
    return some (← readPatternAddress delimiter)
  | _ =>
    match ← number? with
    | none => return none
    | some n =>
      match (← get).rest with
      | '~' :: rest =>
        goOn rest
        return some (.every n ((← number?).getD 0))
      | _ => return some (.line n)

/-- The end of a range in front. -/
def readRangeEnd : Reader RangeEnd := do
  match (← get).rest with
  | '+' :: rest =>
    goOn rest
    return .count ((← number?).getD 0)
  | '~' :: rest =>
    goOn rest
    return .multiple ((← number?).getD 0)
  | _ =>
    match ← readAddress? with
    | some a => return .address a
    | none =>
      let _ ← next?
      fail "unexpected `,'"

/-- The lines for which the command in front holds. -/
def readSelection : Reader Selection := do
  let first? ← readAddress?
  skip isSpace
  let last? ← match first?, (← get).rest with
    | some _, ',' :: rest =>
      goOn rest
      skip isSpace
      pure (some (← readRangeEnd))
    | _, _ => pure none
  skip isSpace
  match (← get).rest with
  | '!' :: rest =>
    goOn rest
    skip isSpace
    if (← get).rest.head? == some '!' then
      let _ ← next?
      fail "multiple `!'s"
    return { first?, last?, isNegated := true }
  | _ => return { first?, last? }

/-! ## Parts of commands -/

/-- The pieces of a replacement, with a bound on their number. -/
def piecesOf : Nat → List Char → List Piece
  | 0, _ => []
  | bound + 1, cs =>
    let change? : Char → Option CaseChange
      | 'U' => some .upper
      | 'L' => some .lower
      | 'E' => some .keep
      | 'u' => some .upperOne
      | 'l' => some .lowerOne
      | _ => none
    let char? : Char → Option Char
      | 'n' => some '\n'
      | 't' => some '\t'
      | 'a' => some '\x07'
      | 'f' => some '\x0c'
      | 'r' => some '\r'
      | 'v' => some '\x0b'
      | _ => none
    match cs with
    | [] => []
    | '&' :: rest => .group 0 :: piecesOf bound rest
    | '\\' :: c :: rest =>
      if c.isDigit then .group (c.toNat - '0'.toNat) :: piecesOf bound rest
      else match change? c with
        | some change => .case change :: piecesOf bound rest
        | none => .text [(char? c).getD c] :: piecesOf bound rest
    | c :: rest => .text [c] :: piecesOf bound rest

/-- The greatest group that a replacement asks for. -/
def greatestGroup (pieces : List Piece) : Nat :=
  pieces.foldl (fun n piece => match piece with
    | .group index => max n index
    | _ => n) 0

/-- The rest of the line as the name of a file. -/
def readFileName : Reader String := do
  skip isSpace
  let rest := (← get).rest
  let name := rest.takeWhile (· != '\n')
  goOn (rest.drop name.length)
  if name.isEmpty then fail "missing filename in r/R/w/W commands"
  return String.ofList name

/-- The flags behind a replacement, with a bound on their number. -/
def readFlags : Nat → Substitution → Reader Substitution
  | 0, s => return s
  | bound + 1, s => do
    match ← next? with
    | none => return s
    | some '\n' => return s
    | some ';' => return s
    | some '#' =>
      modify fun r => { r with rest := '#' :: r.rest }
      return s
    | some '\x7d' =>
      modify fun r => { r with rest := '\x7d' :: r.rest }
      return s
    | some 'g' =>
      if s.isGlobal then fail "multiple `g' options to `s' command"
      readFlags bound { s with isGlobal := true }
    | some 'p' =>
      if s.prints then fail "multiple `p' options to `s' command"
      readFlags bound { s with prints := true }
    | some 'i' => readFlags bound { s with ignoresCase := true }
    | some 'I' => readFlags bound { s with ignoresCase := true }
    | some 'm' => readFlags bound s
    | some 'M' => readFlags bound s
    | some 'w' => return { s with file? := some (← readFileName) }
    | some c =>
      if c.isDigit then
        modify fun r => { r with rest := c :: r.rest }
        let n := (← number?).getD 0
        if s.from?.isSome then fail "multiple number options to `s' command"
        if n = 0 then fail "number option to `s' command may not be zero"
        readFlags bound { s with from? := some n }
      else if isSpace c then readFlags bound s
      else fail "unknown option to `s'"

/-- The rest of a substitution behind its letter. -/
def readSubstitution : Reader Action := do
  let fault := "unterminated `s' command"
  match ← next? with
  | none => fail fault
  | some delimiter =>
    if delimiter == '\n' || delimiter == '\\' then fail fault
    let pattern ← readDelimited delimiter true fault
    let replacement ← readDelimited delimiter false fault
    let pieces := piecesOf (replacement.length + 1) replacement
    let s ← readFlags ((← get).rest.length + 1) { r? := none, pieces }
    let (r?, groups) ← readPattern pattern
    if groups < greatestGroup pieces then
      fail ("invalid reference \\" ++ (greatestGroup pieces).repr ++ " on `s' command's RHS")
    return .substitute { s with r? }

/-- The characters of a list for transliteration, their backslashes undone. -/
def listedChars : List Char → List Char
  | '\\' :: 'n' :: rest => '\n' :: listedChars rest
  | '\\' :: 't' :: rest => '\t' :: listedChars rest
  | '\\' :: c :: rest => c :: listedChars rest
  | c :: rest => c :: listedChars rest
  | [] => []

/-- The rest of a transliteration behind its letter. -/
def readTransliteration : Reader Action := do
  let fault := "unterminated `y' command"
  match ← next? with
  | none => fail fault
  | some delimiter =>
    let source ← readDelimited delimiter false fault
    let target ← readDelimited delimiter false fault
    let source := listedChars source
    let target := listedChars target
    if source.length != target.length then fail "strings for `y' command are different lengths"
    return .transliterate (source.zip target)

/-- The text behind a command that prints it: a backslash keeps the next character, a line end in
particular, with a bound on the number of characters. -/
def textLines : Nat → List Char → List Char × List Char
  | 0, cs => ([], cs)
  | bound + 1, cs =>
    match cs with
    | [] => (['\n'], [])
    | '\n' :: rest => (['\n'], rest)
    | '\\' :: c :: rest =>
      let (text, rest) := textLines bound rest
      (c :: text, rest)
    | ['\\'] => (['\n'], [])
    | c :: rest =>
      let (text, rest) := textLines bound rest
      (c :: text, rest)

/-- The text behind a command that prints it. -/
def readText : Reader (List Char) := do
  skip isSpace
  let rest := (← get).rest
  if rest.isEmpty then fail "expected \\ after `a', `c' or `i'"
  let rest := match rest with
    | '\\' :: more =>
      match more.dropWhile isSpace with
      | '\n' :: text => text
      | _ => more
    | rest => rest
  if rest.isEmpty then fail "expected \\ after `a', `c' or `i'"
  let rest := match rest with
    | '\\' :: c :: more => if isSpace c then c :: more else rest
    | rest => rest
  let (text, rest) := textLines (rest.length + 1) rest
  goOn rest
  return text

/-- The name of a label in front. -/
def readLabel (endsAtSemicolon : Bool) : Reader String := do
  skip isSpace
  let rest := (← get).rest
  let name := rest.takeWhile fun c => c != '\n' && !(endsAtSemicolon && (c == ';' || isSpace c))
  goOn (rest.drop name.length)
  return String.ofList name

/-- Nothing but the end of a command may follow. -/
def readEnd (action : Action) : Reader Action := do
  skip isSpace
  match (← get).rest with
  | [] => return action
  | '\n' :: rest =>
    goOn rest
    return action
  | ';' :: rest =>
    goOn rest
    return action
  | '#' :: _ => return action
  | '\x7d' :: _ => return action
  | _ =>
    let _ ← next?
    fail "extra characters after command"

/-- The action of the letter that has been read. -/
def readAction (letter : Char) (s : Selection) : Reader Action := do
  let plain (action : Action) : Reader Action := readEnd action
  let single (action : Reader Action) : Reader Action := do
    if s.last?.isSome then fail "command only uses one address"
    action
  match letter with
  | '=' => plain .lineNumber
  | 'd' => plain .delete
  | 'D' => plain .deleteFirst
  | 'p' => plain .print
  | 'P' => plain .printFirst
  | 'n' => plain .next
  | 'N' => plain .appendNext
  | 'g' => plain .get
  | 'G' => plain .appendHeld
  | 'h' => plain .hold
  | 'H' => plain .appendToHeld
  | 'x' => plain .exchange
  | 'z' => plain .empty
  | 'F' => plain .fileName
  | 'l' =>
    skip isSpace
    let width? ← number?
    plain (.list width?)
  | 'q' => single do
    skip isSpace
    let status ← number?
    plain (.quit true (status.getD 0))
  | 'Q' => single do
    skip isSpace
    let status ← number?
    plain (.quit false (status.getD 0))
  | 'a' => return .append (← readText)
  | 'i' => return .insert (← readText)
  | 'c' => return .change (← readText)
  | 'r' => return .readFile (← readFileName)
  | 'w' => return .writeFile (← readFileName)
  | 's' => readSubstitution
  | 'y' =>
    let action ← readTransliteration
    plain action
  | ':' =>
    if s.first?.isSome then fail ": doesn't want any addresses"
    let name ← readLabel false
    if name.isEmpty then fail "\":\" lacks a label"
    return .label (name.trimAsciiEnd.toString)
  | 'b' =>
    let name ← readLabel true
    plain (.branch name)
  | 't' =>
    let name ← readLabel true
    plain (.branchIf true name)
  | 'T' =>
    let name ← readLabel true
    plain (.branchIf false name)
  | c => fail ("unknown command: `" ++ String.singleton c ++ "'")

/-- A line that is counted from zero begins a range up to a line that is searched for. -/
def isBadZero (s : Selection) : Bool :=
  match s.first?, s.last? with
  | some (.line 0), some (.address (.pattern _ _)) => false
  | some (.line 0), _ => true
  | _, _ => false

/-- The commands of a script inside so many groups, with a bound on their number. -/
def readCommands (depth : Nat) : Nat → Reader (List Command)
  | 0 => return []
  | bound + 1 => do
    skip fun c => c.isWhitespace || c == ';'
    if (← get).rest.isEmpty then
      if depth = 0 then return []
      else throw { text := "unmatched `\x7b'", left? := none }
    else
      let selection ← readSelection
      match ← next? with
      | none => fail "missing command"
      | some '#' =>
        if selection.first?.isSome then fail "comments don't accept any addresses"
        skip (· != '\n')
        readCommands depth bound
      | some '\x7b' =>
        let inner ← readCommands (depth + 1) bound
        let more ← readCommands depth bound
        return { selection, action := .group inner.length } :: inner ++ more
      | some '\x7d' =>
        if depth = 0 then fail "unexpected `\x7d'"
        if selection.first?.isSome then fail "\x7d doesn't want any addresses"
        let action ← readEnd .nothing
        return [{ selection := {}, action }]
      | some letter =>
        if isBadZero selection then fail "invalid usage of line address 0"
        let action ← readAction letter selection
        return { selection, action } :: (← readCommands depth bound)

/-- The label that a command jumps to, if it has one. -/
def target? : Action → Option String
  | .branch name => some name
  | .branchIf _ name => some name
  | _ => none

/-- The commands of a script, or what is wrong with it and where. -/
def read (isExtended : Bool) (script : List Char) : Except Fault (List Command) := do
  let (commands, _) ← (readCommands 0 (2 * script.length + 2)).run { rest := script, isExtended }
  let labels := commands.filterMap fun c => match c.action with
    | .label name => some name
    | _ => none
  match (commands.filterMap (target? ·.action)).find? fun name =>
      name != "" && !labels.contains name with
  | some name => throw { text := "can't find label for jump to `" ++ name ++ "'", left? := none }
  | none => return commands

end MutationTesting.Shell.Utility.Edit
