/-!
# Places in a YAML text

A cursor is what is left of a text together with the place that has been reached: the number of
characters read, the line and the column. Columns decide on the structure of a text, so every step
keeps account of them.
-/

namespace MutationTesting.Yaml

/-- A space or a tab. -/
def isBlank (c : Char) : Bool :=
  c == ' ' || c == '\t'

/-- A line end; a carriage return and a line feed behind it count as one. -/
def isBreak (c : Char) : Bool :=
  ['\n', '\r', '\x85', '\u2028', '\u2029'].contains c

/-- A blank, a line end, or the end of the text. -/
def endsWord (next : Option Char) : Bool :=
  next.all fun c => isBlank c || isBreak c

/-- A character of names: an ASCII letter or digit, a hyphen or an underscore. -/
def isNameChar (c : Char) : Bool :=
  c.isAlphanum || c == '-' || c == '_'

/-- A character that a text may hold. -/
def isAllowed (c : Char) : Bool :=
  let n := c.toNat
  n == 0x09 || n == 0x0A || n == 0x0D || (0x20 ≤ n && n ≤ 0x7E) || n == 0x85
    || (0xA0 ≤ n && n ≤ 0xFFFD) || 0x10000 ≤ n

/-- A place in a text and what is left behind it. -/
structure Cursor where
  /-- What is left. -/
  rest : List Char
  /-- The number of characters in front. -/
  index : Nat := 0
  /-- The number of lines in front. -/
  line : Nat := 0
  /-- The number of characters in front on the line. -/
  column : Nat := 0

namespace Cursor

/-- The next character. -/
def next? (c : Cursor) : Option Char :=
  c.rest.head?

/-- The character behind the next one. -/
def second? (c : Cursor) : Option Char :=
  c.rest[1]?

/-- A blank or a line end comes next. -/
def atSpace (c : Cursor) : Bool :=
  c.next?.any fun ch => isBlank ch || isBreak ch

/-- The cursor behind so many characters of the line. -/
def skip (c : Cursor) (count : Nat) : Cursor :=
  { c with rest := c.rest.drop count, index := c.index + count, column := c.column + count }

/-- The cursor behind the characters in front that satisfy a test, none of which ends a line. -/
def skipWhile (c : Cursor) (test : Char → Bool) : Cursor :=
  c.skip (c.rest.takeWhile test).length

/-- The cursor at the end of the line. -/
def skipLine (c : Cursor) : Cursor :=
  c.skipWhile (!isBreak ·)

/-- The text that the line end in front stands for: a line feed for the usual ones, the separators
of lines and paragraphs for themselves. -/
def breakText (c : Cursor) : List Char :=
  match c.next? with
  | some '\u2028' => ['\u2028']
  | some '\u2029' => ['\u2029']
  | some _ => ['\n']
  | none => []

/-- The cursor behind the line end in front. -/
def skipBreak (c : Cursor) : Cursor :=
  match c.rest with
  | '\r' :: '\n' :: rest => { rest, index := c.index + 2, line := c.line + 1, column := 0 }
  | _ :: rest => { rest, index := c.index + 1, line := c.line + 1, column := 0 }
  | [] => c

/-- A mark of the start or the end of a document begins the line. -/
def atMarker (c : Cursor) : Bool :=
  c.column == 0 && endsWord c.rest[3]?
    && (['-', '-', '-'].isPrefixOf c.rest || ['.', '.', '.'].isPrefixOf c.rest)

end Cursor

end MutationTesting.Yaml
