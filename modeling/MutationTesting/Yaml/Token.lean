import MutationTesting.Yaml.Tag

/-!
# Tokens of YAML

The structure of a text is told by indentation and by marks. Tokens make it explicit: they say where
block collections begin and end, and what is a key. A key is only known by the colon behind it; the
tokens for it are then put in front of it. A key without a mark of its own stands on one line and is
shorter than 1024 characters.

## Termination

Every token but the last ones consumes characters, so the length of the text bounds their number.
-/

namespace MutationTesting.Yaml

/-- A token. -/
inductive Token where
  /-- The version of the format. -/
  | version (major minor : Nat)
  /-- An abbreviation for tags. -/
  | tagHandle (handle : String) (tagPrefix : Tag)
  /-- A document begins. -/
  | documentStart
  /-- A document ends. -/
  | documentEnd
  /-- A block sequence begins. -/
  | blockSequence
  /-- A block mapping begins. -/
  | blockMapping
  /-- A block collection ends. -/
  | blockEnd
  /-- A flow sequence begins. -/
  | flowSequence
  /-- A flow sequence ends. -/
  | flowSequenceEnd
  /-- A flow mapping begins. -/
  | flowMapping
  /-- A flow mapping ends. -/
  | flowMappingEnd
  /-- An entry of a block sequence. -/
  | blockEntry
  /-- What separates entries of flow collections. -/
  | flowEntry
  /-- A key follows. -/
  | key
  /-- A value follows. -/
  | value
  /-- A node that was named before. -/
  | alias (name : String)
  /-- The name of the node that follows. -/
  | anchor (name : String)
  /-- The tag of the node that follows: an abbreviation and the rest. -/
  | tag (handle : String) (suffix : Tag)
  /-- A scalar. -/
  | scalar (text : String) (style : Style)
  deriving DecidableEq, Repr

/-! ## Names and tags -/

/-- The name of an anchor or alias behind its mark, and what is left. -/
def scanName? (c : Cursor) : Option (String × Cursor) :=
  let name := c.rest.takeWhile isNameChar
  let after := c.skip name.length
  let ended := endsWord after.next?
    || after.next?.any fun ch => ['?', ':', ',', ']', '}', '%', '@', '`'].contains ch
  if name.isEmpty || !ended then none else some (String.ofList name, after)

/-- An anchor or alias with its mark, and what is left. -/
def scanNamed? (token : String → Token) (c : Cursor) : Option (Token × Cursor) := do
  let (name, c) ← scanName? (c.skip 1)
  return (token name, c)

/-- The abbreviation of tags in front: an exclamation mark, or one at either end of a name. -/
def tagHandle (c : Cursor) : List Char × Cursor :=
  let name := (c.rest.drop 1).takeWhile isNameChar
  let after := c.skip (name.length + 1)
  if after.next? == some '!' then ('!' :: name ++ ['!'], after.skip 1) else ('!' :: name, after)

/-- The tag in front. -/
def scanTag? (inFlow : Bool) (c : Cursor) : Option (Token × Cursor) := do
  let (handle, suffix, c) ←
    if c.second? == some '<' then do
      let (suffix, c) ← Tag.scan? true false (c.skip 2)
      if c.next? == some '>' then some ("", suffix, c.skip 1) else none
    else
      let (handle, after) := tagHandle c
      if handle.length > 1 && handle.getLast? == some '!' then do
        let (suffix, c) ← Tag.scan? false false after
        some (String.ofList handle, suffix, c)
      else do
        let (suffix, c) ← Tag.scan? false true (c.skip 1)
        some (if suffix.isEmpty then ("", .ofString "!", c) else ("!", suffix, c))
  if endsWord c.next? || (inFlow && c.next? == some ',') then some (.tag handle suffix, c) else none

/-! ## Directives -/

/-- The number of at most nine digits in front. -/
def scanVersionPart? (c : Cursor) : Option (Nat × Cursor) :=
  let digits := c.rest.takeWhile Char.isDigit
  if digits.isEmpty || 9 < digits.length then none
  else some (Nat.ofDigitChars 10 digits 0, c.skip digits.length)

/-- The directive behind the percent sign, without the end of its line. -/
def scanDirective? (c : Cursor) : Option (Token × Cursor) := do
  let name := c.rest.takeWhile isNameChar
  let c := c.skip name.length
  if !endsWord c.next? then none
  else
    let c := c.skipWhile isBlank
    match String.ofList name with
    | "YAML" => do
      let (major, c) ← scanVersionPart? c
      if c.next? != some '.' then none
      else
        let (minor, c) ← scanVersionPart? (c.skip 1)
        return (.version major minor, c)
    | "TAG" => do
      if c.next? != some '!' then none
      else
        let (handle, c) := tagHandle c
        let isHandle := handle == ['!'] || (handle.length > 1 && handle.getLast? == some '!')
        if !isHandle || !c.next?.any isBlank then none
        else
          let (tagPrefix, c) ← Tag.scan? true false (c.skipWhile isBlank)
          if endsWord c.next? then some (.tagHandle (String.ofList handle) tagPrefix, c) else none
    | _ => none

/-- The cursor behind the end of a line on which nothing but a comment is left. -/
def endOfLine? (c : Cursor) : Option Cursor :=
  let c := c.skipWhile isBlank
  let c := if c.next? == some '#' then c.skipLine else c
  if c.next?.any (!isBreak ·) then none else some c.skipBreak

/-! ## The scanner -/

/-- A place where a key may have begun. -/
structure KeyStart where
  /-- Nothing but a key can stand there. -/
  required : Bool
  /-- The number of tokens in front. -/
  position : Nat
  /-- The place. -/
  place : Cursor

/-- The tokens so far and what decides on the next ones. -/
structure Scanner where
  /-- What is left. -/
  cursor : Cursor
  /-- The tokens. -/
  tokens : Array Token := #[]
  /-- The nesting of flow collections. -/
  flowLevel : Nat := 0
  /-- The column of the innermost block collection, or -1. -/
  indent : Int := -1
  /-- The columns of the outer ones. -/
  outer : List Int := []
  /-- A key may begin here. -/
  keyAllowed : Bool := true
  /-- Where a key may have begun on each level of flow collections, the innermost first. -/
  keys : List (Option KeyStart) := [none]

namespace Scanner

/-- Puts a token behind the others. -/
def push (s : Scanner) (t : Token) : Scanner :=
  { s with tokens := s.tokens.push t }

/-- Puts a token at a position. -/
def insert (s : Scanner) (position : Nat) (t : Token) : Scanner :=
  { s with tokens := s.tokens.insertIdxIfInBounds position t }

/-- Skips characters of the line. -/
def skip (s : Scanner) (count : Nat) : Scanner :=
  { s with cursor := s.cursor.skip count }

/-- Forgets where a key may have begun on the innermost level, unless nothing else could stand
there. -/
def dropKey? (s : Scanner) : Option Scanner :=
  match s.keys with
  | some k :: keys => if k.required then none else some { s with keys := none :: keys }
  | _ => some s

/-- Notes that a key may begin here, if it may. -/
def saveKey? (s : Scanner) : Option Scanner :=
  if s.keyAllowed then do
    let required := s.flowLevel == 0 && s.indent == s.cursor.column
    let s ← s.dropKey?
    return { s with
      keys := some { required, position := s.tokens.size, place := s.cursor } :: s.keys.drop 1 }
  else some s

/-- Forgets the beginnings of keys that have become too long or have another line. -/
def dropStaleKeys? (s : Scanner) : Option Scanner := do
  let keys ← s.keys.mapM fun
    | some k =>
      if k.place.line < s.cursor.line || k.place.index + 1024 < s.cursor.index then
        if k.required then none else some none
      else some (some k)
    | none => some none
  return { s with keys }

/-- Begins a block collection at a column if it is indented further than the innermost one; its token
is put at a position, if one is given. -/
def rollIndent (s : Scanner) (column : Nat) (position : Option Nat) (t : Token) : Scanner :=
  if s.flowLevel == 0 && s.indent < column then
    let s := { s with indent := column, outer := s.indent :: s.outer }
    match position with
    | some position => s.insert position t
    | none => s.push t
  else s

/-- Ends the block collections that are indented further than a column, the innermost ones first. -/
def unrollIndent (s : Scanner) (column : Int) : Scanner :=
  if s.flowLevel ≠ 0 then s
  else
    let ended := (s.indent :: s.outer).takeWhile (column < ·)
    match (s.indent :: s.outer).drop ended.length with
    | indent :: outer =>
      { s with
        indent, outer, tokens := s.tokens ++ (ended.map fun _ => Token.blockEnd).toArray }
    | [] => s

/-- Skips blanks, comments and line ends, with a bound on their number. -/
def skipToToken : Nat → Scanner → Scanner
  | 0, s => s
  | bound + 1, s =>
    let c := if s.cursor.index == 0 && s.cursor.next? == some '\uFEFF' then s.cursor.skip 1
      else s.cursor
    let tabs := s.flowLevel != 0 || !s.keyAllowed
    let c := c.skipWhile fun ch => ch == ' ' || (tabs && ch == '\t')
    let c := if c.next? == some '#' then c.skipLine else c
    if c.next?.any isBreak then
      skipToToken bound { s with
        cursor := c.skipBreak, keyAllowed := s.keyAllowed || s.flowLevel == 0 }
    else { s with cursor := c }

/-! ### Single tokens -/

/-- A mark of the start or the end of a document. -/
def scanMarker? (s : Scanner) : Option Scanner := do
  let t := if s.cursor.next? == some '-' then Token.documentStart else .documentEnd
  let s ← (s.unrollIndent (-1)).dropKey?
  return ({ s with keyAllowed := false }.push t).skip 3

/-- A directive. -/
def scanDirectiveLine? (s : Scanner) : Option Scanner := do
  let s ← (s.unrollIndent (-1)).dropKey?
  let (t, c) ← scanDirective? (s.cursor.skip 1)
  return { s with cursor := ← endOfLine? c, keyAllowed := false }.push t

/-- The beginning of a flow collection. -/
def openFlow? (s : Scanner) (t : Token) : Option Scanner := do
  let s ← s.saveKey?
  return ({ s with
    keys := none :: s.keys, flowLevel := s.flowLevel + 1, keyAllowed := true }.push t).skip 1

/-- The end of a flow collection. -/
def closeFlow? (s : Scanner) (t : Token) : Option Scanner := do
  let s ← s.dropKey?
  let s := if s.flowLevel = 0 then s
    else { s with keys := s.keys.drop 1, flowLevel := s.flowLevel - 1 }
  return ({ s with keyAllowed := false }.push t).skip 1

/-- What separates entries of flow collections. -/
def scanFlowEntry? (s : Scanner) : Option Scanner := do
  let s ← s.dropKey?
  return ({ s with keyAllowed := true }.push .flowEntry).skip 1

/-- An entry of a block sequence. -/
def scanBlockEntry? (s : Scanner) : Option Scanner := do
  if s.flowLevel == 0 && !s.keyAllowed then none
  else
    let s ← (s.rollIndent s.cursor.column none .blockSequence).dropKey?
    return ({ s with keyAllowed := true }.push .blockEntry).skip 1

/-- A key with a mark of its own. -/
def scanKey? (s : Scanner) : Option Scanner := do
  if s.flowLevel == 0 && !s.keyAllowed then none
  else
    let s ← (s.rollIndent s.cursor.column none .blockMapping).dropKey?
    return ({ s with keyAllowed := s.flowLevel == 0 }.push .key).skip 1

/-- A value. If a key may have begun, it did. -/
def scanValue? (s : Scanner) : Option Scanner :=
  match s.keys with
  | some k :: keys =>
    let s := (s.insert k.position .key).rollIndent k.place.column (some k.position) .blockMapping
    some (({ s with keys := none :: keys, keyAllowed := false }.push .value).skip 1)
  | _ =>
    if s.flowLevel == 0 && !s.keyAllowed then none
    else
      let s := s.rollIndent s.cursor.column none .blockMapping
      some (({ s with keyAllowed := s.flowLevel == 0 }.push .value).skip 1)

/-- A token that may begin a key and behind which none may begin. -/
def scanNode? (s : Scanner) (scan? : Cursor → Option (Token × Cursor)) : Option Scanner := do
  let s ← s.saveKey?
  let (t, cursor) ← scan? s.cursor
  return { s with cursor, keyAllowed := false }.push t

/-- A block scalar. -/
def scanBlockScalar? (s : Scanner) (folded : Bool) : Option Scanner := do
  let s ← s.dropKey?
  let (text, cursor) ← scanBlock? folded s.indent (s.cursor.skip 1)
  return { s with cursor, keyAllowed := true }.push
    (.scalar (String.ofList text) (if folded then .folded else .literal))

/-- A quoted scalar. -/
def scanQuotedScalar? (s : Scanner) (double : Bool) : Option Scanner :=
  s.scanNode? fun c => do
    let (text, c) ← scanQuoted double (c.rest.length + 1) [] (c.skip 1)
    return (.scalar (String.ofList text) .quoted, c)

/-- A plain scalar. Behind a line end a key may begin again. -/
def scanPlainScalar? (s : Scanner) : Option Scanner := do
  let s ← s.saveKey?
  let p ← scanPlain (s.flowLevel != 0) (s.indent + 1) (s.cursor.rest.length + 1) [] {} s.cursor
  return { s with cursor := p.after, keyAllowed := p.broken }.push
    (.scalar (String.ofList p.text) .plain)

/-- A character that cannot begin a plain scalar. -/
def isIndicator (c : Char) : Bool :=
  ['-', '?', ':', ',', '[', ']', '{', '}', '#', '&', '*', '!', '|', '>', '\'', '"', '%', '@',
    '\x60'].contains c

/-- A plain scalar can begin with a character in front of another one. -/
def beginsPlain (s : Scanner) (ch : Char) : Bool :=
  !(isBlank ch || isBreak ch || isIndicator ch)
    || (ch == '-' && !s.cursor.second?.any isBlank)
    || (s.flowLevel == 0 && (ch == '?' || ch == ':') && !endsWord s.cursor.second?)

/-- The token that begins with a character. -/
def scanToken? (s : Scanner) (ch : Char) : Option Scanner :=
  let wordEnds := endsWord s.cursor.second?
  if s.cursor.column == 0 && ch == '%' then s.scanDirectiveLine?
  else if s.cursor.atMarker then s.scanMarker?
  else if ch == '[' then s.openFlow? .flowSequence
  else if ch == '{' then s.openFlow? .flowMapping
  else if ch == ']' then s.closeFlow? .flowSequenceEnd
  else if ch == '}' then s.closeFlow? .flowMappingEnd
  else if ch == ',' then s.scanFlowEntry?
  else if ch == '-' && wordEnds then s.scanBlockEntry?
  else if ch == '?' && (s.flowLevel != 0 || wordEnds) then s.scanKey?
  else if ch == ':' && (s.flowLevel != 0 || wordEnds) then s.scanValue?
  else if ch == '*' then s.scanNode? (scanNamed? .alias)
  else if ch == '&' then s.scanNode? (scanNamed? .anchor)
  else if ch == '!' then s.scanNode? (scanTag? (s.flowLevel != 0))
  else if ch == '|' && s.flowLevel == 0 then s.scanBlockScalar? false
  else if ch == '>' && s.flowLevel == 0 then s.scanBlockScalar? true
  else if ch == '\'' then s.scanQuotedScalar? false
  else if ch == '"' then s.scanQuotedScalar? true
  else if s.beginsPlain ch then s.scanPlainScalar?
  else none

/-- Scans the text to its end, with a bound on the number of tokens. -/
def scanAll? : Nat → Scanner → Option (Array Token)
  | 0, _ => none
  | bound + 1, s => do
    let s ← (skipToToken (s.cursor.rest.length + 1) s).dropStaleKeys?
    let s := s.unrollIndent s.cursor.column
    match s.cursor.next? with
    | none =>
      let s ← (s.unrollIndent (-1)).dropKey?
      return s.tokens
    | some ch => scanAll? bound (← s.scanToken? ch)

end Scanner

/-- The tokens of a text. -/
def tokens? (text : String) : Option (List Token) :=
  let cs := text.toList
  if cs.all isAllowed then
    (Scanner.scanAll? (cs.length + 2) { cursor := { rest := cs } }).map (·.toList)
  else none

end MutationTesting.Yaml
