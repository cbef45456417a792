import MutationTesting.Yaml.Cursor

/-!
# Scalars

A scalar is written plain, in single or double quotes, or as a block, literal or folded. Line ends
within plain and quoted scalars are folded: a single one stands for a space, of several all but the
first stand for themselves.

## Termination

Every step of a loop consumes a character, so the length of what is left bounds the loops.
-/

namespace MutationTesting.Yaml

/-- How a scalar is written. -/
inductive Style where
  /-- Without any mark. -/
  | plain
  /-- In single or double quotes. -/
  | quoted
  /-- As a block whose line ends are kept. -/
  | literal
  /-- As a block whose line ends are folded. -/
  | folded
  deriving DecidableEq, Repr

/-! ## Gaps -/

/-- Blanks and line ends between the words of a scalar. -/
structure Gap where
  /-- The blanks, if there is no line end. -/
  blanks : List Char := []
  /-- There is a line end. -/
  broken : Bool := false
  /-- The first line end, unless it was escaped. -/
  first : List Char := []
  /-- The other line ends. -/
  others : List Char := []

namespace Gap

/-- The text that a gap stands for. -/
def text (g : Gap) : List Char :=
  if !g.broken then g.blanks
  else if g.first != ['\n'] then g.first ++ g.others
  else if g.others.isEmpty then [' ']
  else g.others

/-- Reads on through a gap. Tabs may not stand behind a line end in front of a column, if one is
given. -/
def scan (limit : Option Int) : Nat → Gap → Cursor → Option (Gap × Cursor)
  | 0, g, c => some (g, c)
  | bound + 1, g, c =>
    match c.next? with
    | none => some (g, c)
    | some ch =>
      if isBlank ch then
        if g.broken then
          if ch == '\t' && limit.any ((c.column : Int) < ·) then none
          else scan limit bound g (c.skip 1)
        else scan limit bound { g with blanks := g.blanks ++ [ch] } (c.skip 1)
      else if isBreak ch then
        let g :=
          if g.broken then { g with others := g.others ++ c.breakText }
          else { g with broken := true, first := c.breakText }
        scan limit bound g c.skipBreak
      else some (g, c)

end Gap

/-! ## Plain scalars -/

/-- A mark of flow collections. -/
def isFlowMark (c : Char) : Bool :=
  [',', '[', ']', '{', '}'].contains c

/-- The length of the word in front: up to a blank, a colon at the end of a word, or, within flow
collections, a mark of them. There a colon may not stand in front of a mark. -/
def plainWord? (inFlow : Bool) : List Char → Option Nat
  | [] => some 0
  | c :: rest =>
    if isBlank c || isBreak c then some 0
    else if c == ':' && inFlow && rest.head?.any (fun d => isFlowMark d || d == '?') then none
    else if c == ':' && endsWord rest.head? then some 0
    else if inFlow && isFlowMark c then some 0
    else (plainWord? inFlow rest).map (· + 1)

/-- A scalar that was read, whether a line end follows its last word, and what is left. -/
structure Plain where
  /-- The text. -/
  text : List Char
  /-- A line end was read behind it. -/
  broken : Bool
  /-- What is left. -/
  after : Cursor

/-- Reads on in a plain scalar behind a text and a gap. Outside flow collections it goes on only
where lines are indented up to a column. -/
def scanPlain (inFlow : Bool) (column : Int) : Nat → List Char → Gap → Cursor → Option Plain
  | 0, _, _, _ => none
  | bound + 1, text, gap, c =>
    if c.atMarker || c.next? == some '#' then some ⟨text, gap.broken, c⟩
    else do
      let length ← plainWord? inFlow c.rest
      let (text, broken) :=
        if length = 0 then (text, gap.broken)
        else (text ++ gap.text ++ c.rest.take length, false)
      let c := c.skip length
      if !c.atSpace then some ⟨text, broken, c⟩
      else
        let (gap, c) ← Gap.scan (some column) c.rest.length {} c
        if !inFlow && (c.column : Int) < column then some ⟨text, gap.broken, c⟩
        else scanPlain inFlow column bound text gap c

/-! ## Quoted scalars -/

/-- The character of an escape with one character. -/
def escapedChar? : Char → Option Char
  | '0' => some '\x00'
  | 'a' => some '\x07'
  | 'b' => some '\x08'
  | 't' => some '\t'
  | '\t' => some '\t'
  | 'n' => some '\n'
  | 'v' => some '\x0b'
  | 'f' => some '\x0c'
  | 'r' => some '\r'
  | 'e' => some '\x1b'
  | ' ' => some ' '
  | '"' => some '"'
  | '/' => some '/'
  | '\\' => some '\\'
  | 'N' => some '\x85'
  | '_' => some '\xa0'
  | 'L' => some '\u2028'
  | 'P' => some '\u2029'
  | _ => none

/-- The number of hexadecimal digits of an escape. -/
def escapeDigits? : Char → Option Nat
  | 'x' => some 2
  | 'u' => some 4
  | 'U' => some 8
  | _ => none

/-- The value of a hexadecimal digit. -/
def hexDigit? (c : Char) : Option Nat :=
  if c.isDigit then some (c.toNat - 48)
  else if 'a' ≤ c.toLower ∧ c.toLower ≤ 'f' then some (c.toLower.toNat - 87)
  else none

/-- The character that an escape stands for, and the number of characters behind the backslash. -/
def escape? (cs : List Char) : Option (Char × Nat) :=
  match cs with
  | [] => none
  | e :: rest =>
    match escapeDigits? e with
    | none => (escapedChar? e).map (·, 1)
    | some count => do
      let digits ← (rest.take count).mapM hexDigit?
      let code := digits.foldl (fun n d => n * 16 + d) 0
      if digits.length = count ∧ code.isValidChar then some (Char.ofNat code, count + 1) else none

/-- The words in front of a gap, the end of the text or the closing quote, and whether an escaped line
end follows them, which is read too. -/
def quotedWord? (double : Bool) : Nat → List Char → Cursor → Option (List Char × Bool × Cursor)
  | 0, text, c => some (text, false, c)
  | bound + 1, text, c =>
    match c.rest with
    | [] => some (text, false, c)
    | ch :: rest =>
      if isBlank ch || isBreak ch then some (text, false, c)
      else if !double && ch == '\'' && rest.head? == some '\'' then
        quotedWord? double bound (text ++ ['\'']) (c.skip 2)
      else if ch == (if double then '"' else '\'') then some (text, false, c)
      else if double && ch == '\\' then
        if rest.head?.any isBreak then some (text, true, (c.skip 1).skipBreak)
        else do
          let (escaped, length) ← escape? rest
          quotedWord? double bound (text ++ [escaped]) (c.skip (length + 1))
      else quotedWord? double bound (text ++ [ch]) (c.skip 1)

/-- Reads on in a quoted scalar up to and with its closing quote. -/
def scanQuoted (double : Bool) : Nat → List Char → Cursor → Option (List Char × Cursor)
  | 0, _, _ => none
  | bound + 1, text, c =>
    if c.atMarker || c.rest.isEmpty then none
    else do
      let (text, broken, c) ← quotedWord? double c.rest.length text c
      if c.next? == some (if double then '"' else '\'') then some (text, c.skip 1)
      else
        let (gap, c) ← Gap.scan none c.rest.length { broken } c
        scanQuoted double bound (text ++ gap.text) c

/-! ## Block scalars -/

/-- What becomes of the line ends behind the last line of a block. -/
inductive Chomping where
  /-- None is kept. -/
  | strip
  /-- One is kept. -/
  | clip
  /-- All are kept. -/
  | keep
  deriving DecidableEq, Repr

/-- The chomping of a mark. -/
def Chomping.ofMark? : Char → Option Chomping
  | '-' => some strip
  | '+' => some keep
  | _ => none

/-- The head of a block: chomping, and the number of columns that it is indented by, zero for as many
as its first line. Both are optional and come in any order. -/
def blockHead? (c : Cursor) : Option (Chomping × Nat × Cursor) :=
  let digit? (c : Cursor) : Option (Nat × Cursor) :=
    match c.next? with
    | some d =>
      if !d.isDigit then some (0, c)
      else if d == '0' then none
      else some (d.toNat - 48, c.skip 1)
    | none => some (0, c)
  match c.next?.bind Chomping.ofMark? with
  | some chomping => (digit? (c.skip 1)).map fun (n, c) => (chomping, n, c)
  | none => do
    let (n, c) ← digit? c
    match c.next?.bind Chomping.ofMark? with
    | some chomping => some (chomping, n, c.skip 1)
    | none => some (.clip, n, c)

/-- Reads empty lines and the indentation of the next line: the line ends, the widest indentation and
what is left. An indentation of zero is not yet known. Tabs may not stand in it. -/
def blockGap? (indent : Nat) : Nat → List Char → Nat → Cursor → Option (List Char × Nat × Cursor)
  | 0, _, _, _ => none
  | bound + 1, breaks, widest, c =>
    let spaces := (c.rest.takeWhile (· == ' ')).length
    let c := c.skip (if indent = 0 then spaces else min spaces (indent - c.column))
    let widest := max widest c.column
    if (indent = 0 || c.column < indent) && c.next? == some '\t' then none
    else if c.next?.any isBreak then
      blockGap? indent bound (breaks ++ c.breakText) widest c.skipBreak
    else some (breaks, widest, c)

/-- The text of a block so far. -/
structure BlockText where
  /-- The text without the line ends behind it. -/
  text : List Char := []
  /-- The end of the last line. -/
  lineEnd : List Char := []
  /-- The line ends of the empty lines behind it. -/
  emptyLines : List Char := []
  /-- The last line begins with a blank. -/
  indented : Bool := false

/-- Reads the lines of a block. In a folded one the end of a line stands for a space unless it or the
next line begins with a blank. -/
def blockLines? (folded : Bool) (indent : Nat) : Nat → BlockText → Cursor → Option (BlockText × Cursor)
  | 0, _, _ => none
  | bound + 1, b, c =>
    if c.column ≠ indent || c.rest.isEmpty then some (b, c)
    else do
      let indented := c.next?.any isBlank
      let joint :=
        if folded && b.lineEnd == ['\n'] && !b.indented && !indented then
          if b.emptyLines.isEmpty then [' '] else []
        else b.lineEnd
      let after := c.skipLine
      let line := c.rest.takeWhile (!isBreak ·)
      let lineEnd := after.breakText
      let c := after.skipBreak
      let (emptyLines, _, c) ← blockGap? indent (c.rest.length + 1) [] 0 c
      blockLines? folded indent bound
        { text := b.text ++ joint ++ b.emptyLines ++ line, lineEnd, emptyLines, indented } c

/-- Reads a block scalar behind its mark, within a collection that is indented by so many columns. -/
def scanBlock? (folded : Bool) (parent : Int) (c : Cursor) : Option (List Char × Cursor) := do
  let (chomping, given, c) ← blockHead? c
  let c := c.skipWhile isBlank
  let c := if c.next? == some '#' then c.skipLine else c
  if c.next?.any (!isBreak ·) then none
  else
    let c := c.skipBreak
    let indent := if given = 0 then 0 else ((max parent 0) + given).toNat
    let (emptyLines, widest, c) ← blockGap? indent (c.rest.length + 1) [] 0 c
    let indent := if indent = 0 then max (max widest (parent + 1).toNat) 1 else indent
    let (b, c) ← blockLines? folded indent (c.rest.length + 1) { emptyLines } c
    let tail := match chomping with
      | .strip => []
      | .clip => b.lineEnd
      | .keep => b.lineEnd ++ b.emptyLines
    return (b.text ++ tail, c)

end MutationTesting.Yaml
