import MutationTesting.Json.Value
import MutationTesting.Text.Fingerprint

/-!
# Printing JSON

A value is printed on one line without blanks, or over several lines with two blanks for each level.
The two layouts differ only in the blanks between the tokens. Texts escape the quote, the backslash
and control characters, and nothing else.
-/

namespace MutationTesting.Json

/-- How the tokens of a value are laid out. -/
inductive Layout where
  /-- On one line without blanks. -/
  | compact
  /-- A line for each item and member, two blanks for each level. -/
  | pretty
  deriving DecidableEq, Repr

namespace Layout

/-- What stands before an item or a closing bracket at a level. -/
def lineBreak : Layout → Nat → List Char
  | .compact, _ => []
  | .pretty, level => '\n' :: List.replicate (2 * level) ' '

/-- What stands between a key and its value. -/
def colon : Layout → List Char
  | .compact => [':']
  | .pretty => [':', ' ']

end Layout

/-! ## Texts -/

/-- The written form of a character inside a text. -/
def escapeChar (c : Char) : List Char :=
  if c = '"' then ['\\', '"']
  else if c = '\\' then ['\\', '\\']
  else if c = '\x08' then ['\\', 'b']
  else if c = '\x0c' then ['\\', 'f']
  else if c = '\n' then ['\\', 'n']
  else if c = '\r' then ['\\', 'r']
  else if c = '\t' then ['\\', 't']
  else if c.toNat < 32 then ['\\', 'u', '0', '0', hexDigit (c.toNat / 16), hexDigit c.toNat]
  else [c]

/-- A text between quotes. -/
def quote (text : String) : List Char :=
  '"' :: text.toList.flatMap escapeChar ++ ['"']

/-! ## Numbers -/

/-- An integer in decimal digits, with a sign only if it is negative. -/
def integer (n : Int) : List Char :=
  if 0 ≤ n then Nat.toDigits 10 n.toNat else '-' :: Nat.toDigits 10 (-n).toNat

/-! ## Values -/

/-- The key of a member. -/
def printKey : Option String → List Char
  | some key => quote key
  | none => ['"', '\\', 'u', 'd', '8', '0', '0', '"']

mutual

/-- A value at a level of nesting. -/
def printAt (layout : Layout) (level : Nat) : Json → List Char
  | .null => ['n', 'u', 'l', 'l']
  | .bool true => ['t', 'r', 'u', 'e']
  | .bool false => ['f', 'a', 'l', 's', 'e']
  | .int n => integer n
  | .decimal c e => integer c ++ 'e' :: integer e
  | .str text => quote text
  | .brokenStr => ['"', '\\', 'u', 'd', '8', '0', '0', '"']
  | .arr [] => ['[', ']']
  | .arr (item :: items) =>
    '[' :: layout.lineBreak (level + 1) ++ printAt layout (level + 1) item
      ++ printItems layout (level + 1) items ++ layout.lineBreak level ++ [']']
  | .obj [] => ['\x7b', '\x7d']
  | .obj ((key, value) :: members) =>
    '\x7b' :: layout.lineBreak (level + 1) ++ printKey key ++ layout.colon
      ++ printAt layout (level + 1) value
      ++ printMembers layout (level + 1) members ++ layout.lineBreak level ++ ['\x7d']

/-- The items after the first, each behind a comma. -/
def printItems (layout : Layout) (level : Nat) : List Json → List Char
  | [] => []
  | item :: items =>
    ',' :: layout.lineBreak level ++ printAt layout level item ++ printItems layout level items

/-- The members after the first, each behind a comma. -/
def printMembers (layout : Layout) (level : Nat) : List (Option String × Json) → List Char
  | [] => []
  | (key, value) :: members =>
    ',' :: layout.lineBreak level ++ printKey key ++ layout.colon
      ++ printAt layout level value ++ printMembers layout level members

end

/-- The text of a value in a layout. -/
def print (layout : Layout) (value : Json) : String :=
  String.ofList (printAt layout 0 value)

end MutationTesting.Json
