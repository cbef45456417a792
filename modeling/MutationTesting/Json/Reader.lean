import MutationTesting.Json.Number
import MutationTesting.Json.Value

/-!
# Reading JSON

The grammar of RFC 8259: a text is one value with blanks around it. Numbers keep the distinction
between integers and others; a text whose escapes leave a surrogate unpaired is well formed but
denotes no characters, and is read as such.

## Termination

Texts and blanks are consumed character by character. Values nest, so their reader carries a bound
on the nesting and the number of items; the length of the text is always enough.
-/

namespace MutationTesting.Json

/-- The four characters that may stand between tokens. -/
def isBlank (c : Char) : Bool :=
  c == ' ' || c == '\t' || c == '\n' || c == '\r'

/-- Drops the blanks in front. -/
def skipBlanks (cs : List Char) : List Char :=
  cs.dropWhile isBlank

/-! ## Texts -/

/-- A piece of a text: a character, or half of a surrogate pair. -/
inductive TextUnit where
  | char (c : Char)
  | high (bits : Nat)
  | low (bits : Nat)
  deriving DecidableEq, Repr

/-- The value of a hexadecimal digit of either case. -/
def hexValue? (c : Char) : Option Nat :=
  if c.isDigit then some (c.toNat - '0'.toNat)
  else if 'a' ≤ c ∧ c ≤ 'f' then some (c.toNat - 'a'.toNat + 10)
  else if 'A' ≤ c ∧ c ≤ 'F' then some (c.toNat - 'A'.toNat + 10)
  else none

/-- The code unit of four hexadecimal digits. -/
def hex4? (a b c d : Char) : Option Nat := do
  return (((← hexValue? a) * 16 + (← hexValue? b)) * 16 + (← hexValue? c)) * 16 + (← hexValue? d)

/-- The piece of a text that a code unit stands for. -/
def TextUnit.ofCode (n : Nat) : TextUnit :=
  if 0xD800 ≤ n ∧ n < 0xDC00 then .high (n - 0xD800)
  else if 0xDC00 ≤ n ∧ n < 0xE000 then .low (n - 0xDC00)
  else .char (Char.ofNat n)

/-- The character of a backslash escape with one letter. -/
def simpleEscape? : Char → Option Char
  | '"' => some '"'
  | '\\' => some '\\'
  | '/' => some '/'
  | 'b' => some '\x08'
  | 'f' => some '\x0c'
  | 'n' => some '\n'
  | 'r' => some '\r'
  | 't' => some '\t'
  | _ => none

/-- The pieces of a text up to its closing quote, and what follows. -/
def scanText : List Char → Option (List TextUnit × List Char)
  | [] => none
  | '"' :: rest => some ([], rest)
  | '\\' :: 'u' :: a :: b :: c :: d :: rest => do
    let code ← hex4? a b c d
    let (units, rest) ← scanText rest
    return (.ofCode code :: units, rest)
  | '\\' :: e :: rest => do
    let c ← simpleEscape? e
    let (units, rest) ← scanText rest
    return (.char c :: units, rest)
  | c :: rest =>
    if c.toNat < 32 then none
    else do
      let (units, rest) ← scanText rest
      return (.char c :: units, rest)

/-- The characters of a text, unless a surrogate is unpaired. -/
def joinUnits : List TextUnit → Option (List Char)
  | [] => some []
  | .char c :: units => (joinUnits units).map (c :: ·)
  | .high h :: .low l :: units => (joinUnits units).map (Char.ofNat (0x10000 + h * 1024 + l) :: ·)
  | _ => none

/-- The text that a quoted token denotes, if any. -/
def textOf (units : List TextUnit) : Option String :=
  (joinUnits units).map String.ofList

/-! ## Numbers -/

/-- The digits in front, and what follows them. -/
def spanDigits (cs : List Char) : List Char × List Char :=
  (cs.takeWhile Char.isDigit, cs.dropWhile Char.isDigit)

/-- The fraction digits in front, none without a point. -/
def scanFraction : List Char → Option (List Char × List Char)
  | '.' :: rest =>
    let (digits, rest) := spanDigits rest
    if digits.isEmpty then none else some (digits, rest)
  | cs => some ([], cs)

/-- The digits of an exponent behind its mark. -/
def scanExponentDigits (negative : Bool) (cs : List Char) : Option (Option Int × List Char) :=
  let (digits, rest) := spanDigits cs
  if digits.isEmpty then none
  else
    let size : Int := Nat.ofDigitChars 10 digits 0
    some (some (if negative then -size else size), rest)

/-- The exponent in front, if there is one. -/
def scanExponent : List Char → Option (Option Int × List Char)
  | [] => some (none, [])
  | c :: rest =>
    if c = 'e' ∨ c = 'E' then
      match rest with
      | '+' :: rest => scanExponentDigits false rest
      | '-' :: rest => scanExponentDigits true rest
      | rest => scanExponentDigits false rest
    else some (none, c :: rest)

/-- A number without its sign; a leading zero stands alone. -/
def scanMagnitude (negative : Bool) (cs : List Char) : Option (Json × List Char) := do
  let (whole, rest) := spanDigits cs
  if whole.isEmpty || (whole.head? == some '0' && whole.length != 1) then none
  else
    let (fraction, rest) ← scanFraction rest
    let (exponent?, rest) ← scanExponent rest
    let signed (size : Nat) : Int := if negative then -size else size
    let size := Nat.ofDigitChars 10 whole 0
    if fraction.isEmpty && exponent?.isNone && !(negative && size == 0) then
      return (.int (signed size), rest)
    else
      let (number, scale) := scaled whole fraction
      return (.decimal (signed number) (exponent?.getD 0 + scale), rest)

/-- The number in front. -/
def readNumber : List Char → Option (Json × List Char)
  | '-' :: rest => scanMagnitude true rest
  | cs => scanMagnitude false cs

/-! ## Values -/

/-- The key in front of a member and the colon behind it. -/
def readKey (cs : List Char) : Option (Option String × List Char) :=
  match skipBlanks cs with
  | '"' :: rest => do
    let (units, rest) ← scanText rest
    match skipBlanks rest with
    | ':' :: rest => return (textOf units, rest)
    | _ => none
  | _ => none

mutual

/-- The value in front, and what follows it. -/
def readValue : Nat → List Char → Option (Json × List Char)
  | 0, _ => none
  | bound + 1, cs =>
    match skipBlanks cs with
    | 'n' :: 'u' :: 'l' :: 'l' :: rest => some (.null, rest)
    | 't' :: 'r' :: 'u' :: 'e' :: rest => some (.bool true, rest)
    | 'f' :: 'a' :: 'l' :: 's' :: 'e' :: rest => some (.bool false, rest)
    | '"' :: rest => do
      let (units, rest) ← scanText rest
      return ((textOf units).elim .brokenStr .str, rest)
    | '[' :: rest =>
      match skipBlanks rest with
      | ']' :: rest => some (.arr [], rest)
      | rest => do
        let (item, rest) ← readValue bound rest
        let (items, rest) ← readItems bound rest
        return (.arr (item :: items), rest)
    | '\x7b' :: rest =>
      match skipBlanks rest with
      | '\x7d' :: rest => some (.obj [], rest)
      | rest => do
        let (key, rest) ← readKey rest
        let (value, rest) ← readValue bound rest
        let (members, rest) ← readMembers bound rest
        return (.obj ((key, value) :: members), rest)
    | cs => readNumber cs

/-- The items after the first, up to the closing bracket. -/
def readItems : Nat → List Char → Option (List Json × List Char)
  | 0, _ => none
  | bound + 1, cs =>
    match skipBlanks cs with
    | ']' :: rest => some ([], rest)
    | ',' :: rest => do
      let (item, rest) ← readValue bound rest
      let (items, rest) ← readItems bound rest
      return (item :: items, rest)
    | _ => none

/-- The members after the first, up to the closing brace. -/
def readMembers : Nat → List Char → Option (List (Option String × Json) × List Char)
  | 0, _ => none
  | bound + 1, cs =>
    match skipBlanks cs with
    | '\x7d' :: rest => some ([], rest)
    | ',' :: rest => do
      let (key, rest) ← readKey rest
      let (value, rest) ← readValue bound rest
      let (members, rest) ← readMembers bound rest
      return ((key, value) :: members, rest)
    | _ => none

end

/-- The value of a text that holds one value with blanks around it. -/
def read? (text : String) : Option Json := do
  let cs := text.toList
  let (value, rest) ← readValue (cs.length + 1) cs
  if (skipBlanks rest).isEmpty then some value else none

end MutationTesting.Json
