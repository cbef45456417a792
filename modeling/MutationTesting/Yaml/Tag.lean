import MutationTesting.Yaml.Scalar

/-!
# Tags

A tag says what a node is meant to be read as. In a text it is written with escapes, each a percent
sign and two hexadecimal digits for a byte; escapes beyond ASCII come in groups of the length that
their first byte announces. A byte that is zero ends what is written.

A tag is kept as bytes, since a group of escapes need not be a character.
-/

namespace MutationTesting.Yaml

/-- A tag, or a part of one. -/
structure Tag where
  /-- Its bytes. -/
  bytes : List UInt8
  deriving DecidableEq, Repr

namespace Tag

/-- The tag that is written without escapes. -/
def ofString (text : String) : Tag :=
  ⟨text.toUTF8.toList⟩

/-- Nothing is written. -/
def isEmpty (t : Tag) : Bool :=
  t.bytes.isEmpty

/-- A tag behind the prefix that an abbreviation stands for. -/
def append (a b : Tag) : Tag :=
  ⟨a.bytes ++ b.bytes⟩

/-- The tag of the core schema with a name. -/
def core (name : String) : Tag :=
  ofString ("tag:yaml.org,2002:" ++ name)

/-- The name of a tag that begins with an exclamation mark, if it is text. -/
def localName? (t : Tag) : Option String :=
  match t.bytes with
  | 0x21 :: name => String.fromUTF8? ⟨name.toArray⟩
  | _ => none

/-! ## Escapes -/

/-- The number of bytes in a group whose first byte this is. -/
def groupLength? (b : UInt8) : Option Nat :=
  if b < 0x80 then some 1
  else if b < 0xC0 then none
  else if b < 0xE0 then some 2
  else if b < 0xF0 then some 3
  else if b < 0xF8 then some 4
  else none

/-- The bytes that still belong to the group behind a byte, of which so many were awaited. -/
def awaitedBehind? (awaited : Nat) (b : UInt8) : Option Nat :=
  match awaited with
  | 0 => (groupLength? b).map (· - 1)
  | n + 1 => if 0x80 ≤ b && b < 0xC0 then some n else none

/-- A character that stands for itself in a tag. -/
def isPlain (verbatim : Bool) (c : Char) : Bool :=
  isNameChar c
    || [';', '/', '?', ':', '@', '&', '=', '+', '$', '.', '!', '~', '*', '\'', '(', ')'].contains c
    || (verbatim && [',', '[', ']'].contains c)

/-- The bytes in front and the number of characters that they are written with, while so many bytes
of a group are awaited. -/
def scanBytes? (verbatim : Bool) (awaited : Nat) : List Char → Option (List UInt8 × Nat)
  | '%' :: a :: b :: rest => do
    let byte := UInt8.ofNat ((← hexDigit? a) * 16 + (← hexDigit? b))
    let (bytes, length) ← scanBytes? verbatim (← awaitedBehind? awaited byte) rest
    return (byte :: bytes, length + 3)
  | [] => if awaited = 0 then some ([], 0) else none
  | c :: rest =>
    if awaited ≠ 0 || c == '%' then none
    else if isPlain verbatim c then do
      let (bytes, length) ← scanBytes? verbatim 0 rest
      return (UInt8.ofNat c.toNat :: bytes, length + 1)
    else some ([], 0)

/-- The tag in front, which may be written with no characters only where that is allowed. -/
def scan? (verbatim mayBeEmpty : Bool) (c : Cursor) : Option (Tag × Cursor) := do
  let (bytes, length) ← scanBytes? verbatim 0 c.rest
  if length = 0 && !mayBeEmpty then none
  else some (⟨bytes.takeWhile (· ≠ 0)⟩, c.skip length)

end Tag

end MutationTesting.Yaml
