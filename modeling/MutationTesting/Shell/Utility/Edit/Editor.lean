import MutationTesting.Shell.Utility.Edit.Command
import MutationTesting.Shell.Utility.Request

/-!
# Editors

The state of an editing: the line that commands work on, the text that is held, what is left to read,
and where texts are printed. Commands are carried out for every line in turn.
-/

namespace MutationTesting.Shell.Utility.Edit

/-- A text that commands work on. -/
structure Space where
  /-- The text. -/
  text : List Char := []
  /-- The line that it comes from has an end. -/
  isEnded : Bool := true

/-- What is printed before the next line is read. -/
inductive Queued where
  /-- A text. -/
  | text (cs : List Char)
  /-- What a file holds then. -/
  | file (path : String)

/-- How far a range of lines has come. -/
inductive Progress where
  /-- It goes on up to a line of a number. -/
  | upTo (n : Nat)
  /-- It goes on up to a line that is searched for. -/
  | searching
  /-- It has ended, or it has not begun. -/
  | outside
  deriving DecidableEq

/-- What is read. -/
structure Input where
  /-- Its name. -/
  name : String
  /-- The lines that are left. -/
  lines : List Space

/-- How an editing is done. -/
structure Style where
  /-- Lines are printed only by commands. -/
  isQuiet : Bool := false
  /-- Every input has lines of its own. -/
  isSeparate : Bool := false
  /-- Files are replaced by what is printed; what is added to the names of the old ones. -/
  inPlace? : Option String := none
  /-- The character that ends lines. -/
  mark : Char := '\n'
  /-- The number of characters after which a line that is shown is broken. -/
  width : Nat := 70

/-- The state of an editing. -/
structure Editor where
  /-- The state of the shell. -/
  st : State
  /-- How it is done. -/
  style : Style
  /-- What is read now. -/
  input : Input := ⟨"-", []⟩
  /-- What is read afterwards. -/
  inputs : List Input
  /-- The number of the line. -/
  number : Nat := 0
  /-- The line. -/
  space : Space := {}
  /-- The text that is held. -/
  held : Space := {}
  /-- Something has been replaced since a line was read. -/
  isReplaced : Bool := false
  /-- The expression that was used last. -/
  last? : Option Regex := none
  /-- The expression used last was asked for when there was none. -/
  isBroken : Bool := false
  /-- What is printed before the next line is read, the last one first. -/
  queue : List Queued := []
  /-- How far the ranges of the commands have come. -/
  ranges : List (Nat × Progress) := []
  /-- The outputs whose last lines have no end. -/
  unended : List String := []
  /-- What was printed for the file that is replaced. -/
  replacement : String := ""

namespace Editor

/-! ## Output -/

/-- Prints characters to an output: a file, or the usual one if it has no name. -/
def put (e : Editor) (output : String) (cs : List Char) : Editor :=
  let text := String.ofList cs
  if output == "" && e.style.inPlace?.isSome then { e with replacement := e.replacement ++ text }
  else if output == "" || output == "/dev/stdout" then { e with st := e.st.print text }
  else if output == "/dev/stderr" then { e with st := e.st.complain text }
  else
    let before := (e.st.readFile output).toOption.getD ""
    { e with st := (e.st.writeFile output (before ++ text)).toOption.getD e.st }

/-- Prints the end of a line that lacks it. -/
def endLine (e : Editor) (output : String) : Editor :=
  if e.unended.contains output then
    { e with unended := e.unended.filter (· != output) }.put output [e.style.mark]
  else e

/-- Prints a line. -/
def printLine (e : Editor) (output : String) (cs : List Char) (isEnded : Bool) : Editor :=
  let e := (e.endLine output).put output (if isEnded then cs ++ [e.style.mark] else cs)
  if isEnded then e else { e with unended := output :: e.unended }

/-- Prints the line that commands work on. -/
def printSpace (e : Editor) (output : String) : Editor :=
  e.printLine output e.space.text e.space.isEnded

/-- Prints a text of lines. -/
def printText (e : Editor) (cs : List Char) : Editor :=
  (e.endLine "").put "" cs

/-- Prints the line unless lines are printed only by commands. -/
def printUsually (e : Editor) : Editor :=
  if e.style.isQuiet then e else e.printSpace ""

/-- Prints what is to be printed before the next line is read. -/
def flush (e : Editor) : Editor :=
  e.queue.foldr (fun q e => match q with
    | .text cs => e.printText cs
    | .file path =>
      let (content, st) := openInput path e.st
      { e with st }.printText (content.toOption.getD [])) { e with queue := [] }

/-! ## Input -/

/-- The line is the last one. -/
def isLast (e : Editor) : Bool :=
  e.input.lines.isEmpty && (e.style.isSeparate || e.inputs.all (·.lines.isEmpty))

/-- Replaces the file that has been read by what was printed. -/
def finish (e : Editor) : Editor :=
  match e.style.inPlace? with
  | none => e
  | some ending =>
    if e.input.name == "-" then e
    else
      let path := e.input.name
      let st := match ending, e.st.readFile path with
        | "", _ => e.st
        | ending, .ok old => (e.st.writeFile (path ++ ending) old).toOption.getD e.st
        | _, .error _ => e.st
      let st := (st.writeFile path e.replacement).toOption.getD st
      { e with st, replacement := "", unended := e.unended.filter (· != "") }

/-- Goes on to the next line that is left in some inputs. -/
def nextInput? (e : Editor) : List Input → Option (Space × Editor)
  | [] => none
  | input :: inputs =>
    let e := e.finish
    let e := if e.style.isSeparate then { e with number := 0, ranges := [] } else e
    match input.lines with
    | line :: lines => some (line, { e with input := { input with lines }, inputs })
    | [] => nextInput? { e with input } inputs

/-- The next line, if there is one. -/
def nextLine? (e : Editor) : Option (Space × Editor) :=
  let e := e.flush
  let found? := match e.input.lines with
    | line :: lines => some (line, { e with input := { e.input with lines } })
    | [] => e.nextInput? e.inputs
  found?.map fun (line, e) => (line, { e with number := e.number + 1, isReplaced := false })

/-- The editor without anything left to read. -/
def atEnd (e : Editor) : Editor :=
  let e := e.flush.finish
  e.inputs.foldl (fun e input => { e with input, inputs := [] }.finish) e

/-! ## Addresses -/

/-- The expression to use, which is remembered. -/
def withPattern (e : Editor) (r? : Option Regex) : Regex × Editor :=
  match r? <|> e.last? with
  | some r => (r, { e with last? := some r })
  | none => (.set false [], { e with isBroken := true })

/-- An address selects the line. -/
def holds (e : Editor) : Address → Bool × Editor
  | .line n => (e.number == n, e)
  | .every first 0 => (e.number == first, e)
  | .every first stride => (first ≤ e.number && (e.number - first) % stride == 0, e)
  | .last => (e.isLast, e)
  | .pattern r? ignoresCase =>
    let (r, e) := e.withPattern r?
    ((Regex.search? ignoresCase r (Regex.Place.ofText e.space.text)).isSome, e)

/-- How far the range of a command has come. -/
def progress (e : Editor) (index : Nat) (first : Address) : Progress :=
  (e.ranges.lookup index).getD (match first with
    | .line 0 => .searching
    | _ => .outside)

/-- The editor with the range of a command somewhere. -/
def withProgress (e : Editor) (index : Nat) (p : Progress) : Editor :=
  { e with ranges := (index, p) :: e.ranges.filter (·.1 != index) }

/-- How far a range comes that begins with the line. -/
def begin (e : Editor) : RangeEnd → Progress
  | .address (.line n) => if n ≤ e.number then .outside else .upTo n
  | .address _ => .searching
  | .count 0 => .outside
  | .count n => .upTo (e.number + n)
  | .multiple 0 => .outside
  | .multiple n => if e.number % n = 0 then .outside else .upTo ((e.number / n + 1) * n)

/-- The line is in the range of a command. -/
def isInRange (e : Editor) (index : Nat) (first : Address) (last : RangeEnd) : Bool × Editor :=
  match e.progress index first with
  | .upTo n => (e.number ≤ n, if n ≤ e.number then e.withProgress index .outside else e)
  | .searching =>
    match last with
    | .address a =>
      let (isOver, e) := e.holds a
      (true, if isOver then e.withProgress index .outside else e.withProgress index .searching)
    | _ => (true, e)
  | .outside =>
    let (hit, e) := e.holds first
    (hit, if hit then e.withProgress index (e.begin last) else e)

/-- The command of a number holds for the line. -/
def selects (e : Editor) (index : Nat) (s : Selection) : Bool × Editor :=
  let (hit, e) := match s.first?, s.last? with
    | none, _ => (true, e)
    | some a, none => e.holds a
    | some a, some last => e.isInRange index a last
  (hit != s.isNegated, e)

/-! ## Replacements -/

/-- A character in a case. -/
def inCase (change : CaseChange) (c : Char) : Char :=
  match change with
  | .upper => c.toUpper
  | .upperOne => c.toUpper
  | .lower => c.toLower
  | .lowerOne => c.toLower
  | .keep => c

/-- Characters in a case, the first of them possibly in another one. -/
def inCases (usual : CaseChange) (one? : Option CaseChange) : List Char → List Char
  | [] => []
  | c :: cs => inCase (one?.getD usual) c :: cs.map (inCase usual)

/-- The text that pieces stand for. -/
def render (m : Regex.Match) : CaseChange → Option CaseChange → List Piece → List Char
  | _, _, [] => []
  | usual, one?, piece :: pieces =>
    let add (cs : List Char) : List Char :=
      inCases usual one? cs ++ render m usual (if cs.isEmpty then one? else none) pieces
    match piece with
    | .text cs => add cs
    | .group index => add (m.group index)
    | .case .upperOne => render m usual (some .upperOne) pieces
    | .case .lowerOne => render m usual (some .lowerOne) pieces
    | .case change => render m change one? pieces

/-- A text from a place on with matches replaced. -/
def replaceFrom (pieces : List Piece) : Regex.Place → List Regex.Match → List Char
  | p, [] => p.rest
  | p, m :: ms => p.textTo m.first ++ render m .keep none pieces ++ replaceFrom pieces m.last ms

/-- Replaces matches in the line. -/
def substitute (e : Editor) (s : Substitution) : Editor :=
  let (r, e) := e.withPattern s.r?
  let text := e.space.text
  let found := if s.isGlobal || s.from?.isSome then Regex.allMatches s.ignoresCase r text
    else (Regex.search? s.ignoresCase r (Regex.Place.ofText text)).toList
  let found := found.drop (s.from?.getD 1 - 1)
  let found := if s.isGlobal then found else found.take 1
  if found.isEmpty then e
  else
    let text := replaceFrom s.pieces (Regex.Place.ofText text) found
    let e := { e with space := { e.space with text }, isReplaced := true }
    let e := if s.prints then e.printSpace "" else e
    match s.file? with
    | some path => e.printSpace (if path == "/dev/stdout" && e.style.inPlace?.isNone then "" else path)
    | none => e

/-! ## Lines that are shown -/

/-- A character as it is shown. -/
def shownChar (c : Char) : List Char :=
  let octal (n : Nat) : List Char := Nat.toDigits 8 n
  match c with
  | '\\' => ['\\', '\\']
  | '\x07' => ['\\', 'a']
  | '\x08' => ['\\', 'b']
  | '\x0c' => ['\\', 'f']
  | '\n' => ['\\', 'n']
  | '\r' => ['\\', 'r']
  | '\t' => ['\\', 't']
  | '\x0b' => ['\\', 'v']
  | c =>
    if 32 ≤ c.toNat && c.toNat < 127 then [c]
    else
      let digits := octal c.toNat
      '\\' :: (List.replicate (3 - digits.length) '0' ++ digits)

/-- Pieces broken into lines of a greatest width, none of which is broken itself. -/
def broken (width : Nat) : Nat → List (List Char) → List Char
  | _, [] => ['$']
  | used, piece :: pieces =>
    if 1 < width && width - 1 < used + piece.length then
      '\\' :: '\n' :: (piece ++ broken width piece.length pieces)
    else piece ++ broken width (used + piece.length) pieces

/-! ## Commands -/

/-- What follows a command. -/
inductive Next where
  /-- The command a number of places behind it. -/
  | forward (places : Nat)
  /-- The command behind a label. -/
  | jump (name : String)
  /-- The next line, possibly behind printing this one. -/
  | line (prints : Bool)
  /-- The first command, without reading a line. -/
  | again
  /-- The end with a status, possibly behind printing the line. -/
  | quit (prints : Bool) (status : Nat)

/-- Reads a line and goes on, or does what is usual at the end. -/
def readOn (e : Editor) (join : Space → Space) : Next × Editor :=
  if e.isLast then (.line true, e)
  else match e.nextLine? with
    | some (line, e) => (.forward 1, { e with space := join line })
    | none => (.line true, e)

/-- Carries out the command of a number. -/
def perform (e : Editor) (index : Nat) (s : Selection) (action : Action) : Next × Editor :=
  let text := e.space.text
  let onward (e : Editor) : Next × Editor := (.forward 1, e)
  let withText (text : List Char) : Next × Editor := onward { e with space := { e.space with text } }
  let first := text.takeWhile (· != e.style.mark)
  let join (a b : List Char) : List Char := a ++ e.style.mark :: b
  match action with
  | .group _ => onward e
  | .nothing => onward e
  | .label _ => onward e
  | .substitute s => onward (e.substitute s)
  | .delete => (.line false, e)
  | .deleteFirst =>
    if first.length = text.length then (.line false, e)
    else (.again, { e with space := { e.space with text := text.drop (first.length + 1) } })
  | .print => onward (e.printSpace "")
  | .printFirst => onward (e.printLine "" first true)
  | .next => if e.isLast then (.line true, e) else (e.printUsually).readOn id
  | .appendNext => e.readOn fun line => { line with text := join text line.text }
  | .get => onward { e with space := e.held }
  | .appendHeld => onward { e with space := { e.held with text := join text e.held.text } }
  | .hold => onward { e with held := e.space }
  | .appendToHeld => onward { e with held := { e.space with text := join e.held.text text } }
  | .exchange => onward { e with space := e.held, held := e.space }
  | .lineNumber => onward (e.printText (e.number.repr.toList ++ ['\n']))
  | .list width? =>
    let width := width?.getD e.style.width
    onward (e.printText (broken width 0 (text.map shownChar) ++ ['\n']))
  | .quit prints status => (.quit prints status, e)
  | .append cs => onward { e with queue := .text cs :: e.queue }
  | .insert cs => onward (e.printText cs)
  | .change cs =>
    let isOver : Bool := match s.first?, s.last? with
      | some first, some _ => s.isNegated || e.progress index first == .outside
      | _, _ => true
    (.line false, if isOver then e.printText cs else e)
  | .readFile path => onward { e with queue := .file path :: e.queue }
  | .writeFile path =>
    onward (e.printSpace (if path == "/dev/stdout" && e.style.inPlace?.isNone then "" else path))
  | .transliterate pairs => withText (text.map fun c => (pairs.lookup c).getD c)
  | .empty => withText []
  | .fileName => onward (e.printText (e.input.name.toList ++ ['\n']))
  | .branch name => (.jump name, e)
  | .branchIf wanted name =>
    let jumps := e.isReplaced == wanted
    ((if jumps then .jump name else .forward 1), { e with isReplaced := false })

/-- The place behind a label, or behind all commands. -/
def placeOf (script : Array Command) (name : String) : Nat :=
  if name == "" then script.size
  else (script.findIdx? fun c => match c.action with
    | .label other => other == name
    | _ => false).getD script.size

/-- Gives up because no expression has been used. -/
def abandon (e : Editor) : Editor :=
  let text := "-e expression #1, char 0: no previous regular expression"
  { e with st := fault "sed" text e.st }

/-- Carries out commands from the one of a number on, line after line, with a bound on the number of
commands. -/
def run (script : Array Command) : Nat → Nat → Editor → Editor
  | 0, _, e => { e with st := { e.st with control := .stuck } }
  | fuel + 1, index, e =>
    let nextLine (e : Editor) : Editor :=
      match e.nextLine? with
      | some (space, e) => run script fuel 0 { e with space }
      | none => e.atEnd
    match script[index]? with
    | none => nextLine e.printUsually
    | some c =>
      match e.selects index c.selection with
      | (false, e) =>
        if e.isBroken then e.abandon
        else match c.action with
        | .group size => run script fuel (index + size + 1) e
        | _ => run script fuel (index + 1) e
      | (true, e) =>
        let (next, e) := e.perform index c.selection c.action
        if e.isBroken then e.abandon
        else match (next, e) with
        | (.forward places, e) => run script fuel (index + places) e
        | (.jump name, e) => run script fuel (placeOf script name) e
        | (.line prints, e) => nextLine (if prints then e.printUsually else e)
        | (.again, e) => run script fuel 0 e.flush
        | (.quit prints status, e) =>
          let e := (if prints then e.printUsually.flush else e).finish
          { e with st := e.st.withStatus status }

end Editor

end MutationTesting.Shell.Utility.Edit
