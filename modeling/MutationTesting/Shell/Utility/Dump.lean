import MutationTesting.Shell.Utility.Request

/-!
# Dumps

Utilities that print bytes in other forms: as numbers or characters with their places, and as texts
over sixty-four characters, which they also read back.
-/

namespace MutationTesting.Shell.Utility

/-! ## Numbers -/

namespace Dump

/-- How some bytes are printed. -/
structure Form where
  /-- The number of bytes that are printed together. -/
  size : Nat
  /-- The number of characters for them, with a blank in front. -/
  width : Nat
  /-- Their text. -/
  text : List Char → String

/-- The number that bytes stand for, the least ones first. -/
def value (cs : List Char) : Nat :=
  cs.foldr (fun c n => n * 256 + c.toNat) 0

/-- A number in a base with zeros in front. -/
def inBase (base width n : Nat) : String :=
  let digits := Nat.toDigits base n
  String.ofList (List.replicate (width - digits.length) '0' ++ digits)

/-- How many numbers some bytes can stand for. -/
def valueCount (size : Nat) : Nat :=
  1 <<< (8 * size)

/-- The number of digits in a base that some bytes need. -/
def digitsFor (base size : Nat) : Nat :=
  (Nat.toDigits base (valueCount size - 1)).length

/-- A byte as a character. -/
def charText (c : Char) : String :=
  match c with
  | '\x00' => "\\0"
  | '\x07' => "\\a"
  | '\x08' => "\\b"
  | '\t' => "\\t"
  | '\n' => "\\n"
  | '\x0b' => "\\v"
  | '\x0c' => "\\f"
  | '\r' => "\\r"
  | c => if 32 ≤ c.toNat && c.toNat < 127 then String.singleton c else inBase 8 3 c.toNat

/-- The names of the characters that cannot be seen. -/
def names : List String :=
  ["nul", "soh", "stx", "etx", "eot", "enq", "ack", "bel", "bs", "ht", "nl", "vt", "ff", "cr", "so",
    "si", "dle", "dc1", "dc2", "dc3", "dc4", "nak", "syn", "etb", "can", "em", "sub", "esc", "fs",
    "gs", "rs", "us", "sp"]

/-- A byte as the name of a character. -/
def nameText (c : Char) : String :=
  let n := c.toNat % 128
  if n = 127 then "del" else names.getD n (String.singleton (Char.ofNat n))

/-- The form for a letter and a size; none if there is none. -/
def form? (letter : Char) (size : Nat) : Option Form :=
  match letter with
  | 'c' => some { size := 1, width := 4, text := fun cs => charText (cs.headD '\x00') }
  | 'a' => some { size := 1, width := 4, text := fun cs => nameText (cs.headD '\x00') }
  | 'o' =>
    let width := digitsFor 8 size
    some { size, width := width + 1, text := fun cs => inBase 8 width (value cs) }
  | 'x' =>
    let width := digitsFor 16 size
    some { size, width := width + 1, text := fun cs => inBase 16 width (value cs) }
  | 'u' => some { size, width := digitsFor 10 size + 1, text := fun cs => (value cs).repr }
  | 'd' =>
    let half := valueCount size / 2
    some { size, width := (Nat.toDigits 10 half).length + 2, text := fun cs =>
      let n := value cs
      if n < half then n.repr else "-" ++ (valueCount size - n).repr }
  | _ => none

/-- The forms of a text: letters with sizes, with a bound on their number. -/
def formsOf : Nat → List Char → Option (List Form)
  | 0, _ => none
  | _ + 1, [] => some []
  | bound + 1, letter :: cs =>
    let digits := cs.takeWhile Char.isDigit
    let rest := cs.drop digits.length
    let (size, rest) := match digits? digits, rest with
      | some n, rest => (n, rest)
      | none, 'C' :: rest => (1, rest)
      | none, 'S' :: rest => (2, rest)
      | none, 'I' :: rest => (4, rest)
      | none, 'L' :: rest => (8, rest)
      | none, rest => (4, rest)
    if ! [1, 2, 4, 8].contains size then none
    else do return (← form? letter size) :: (← formsOf bound rest)

/-- Pieces of a length, with a bound on their number. -/
def pieces (size : Nat) : Nat → List Char → List (List Char)
  | 0, _ => []
  | bound + 1, cs =>
    if cs.isEmpty then [] else cs.take size :: pieces size bound (cs.drop size)

/-- The lines for some bytes, the address standing in front of the first one. -/
def rowText (address : String) (forms : List Form) (cs : List Char) : String :=
  let lines := forms.map fun f =>
    String.join ((pieces f.size cs.length cs).map fun p => padLeft f.width (f.text p))
  let blank := String.ofList (List.replicate address.length ' ')
  String.join (lines.zipIdx.map fun (line, i) =>
    (if i = 0 then address else blank) ++ line ++ "\n")

/-- The lines for rows of bytes; of rows in a row that are the same only the first is shown, unless all
are to be. -/
def rowsText (address : Nat → String) (forms : List Form) (showsAll : Bool) :
    Nat → Option (List Char) → Bool → List (List Char) → List String
  | _, _, _, [] => []
  | place, last?, isMarked, row :: rows =>
    let next := place + row.length
    if !showsAll && last? == some row then
      (if isMarked then [] else ["*\n"]) ++ rowsText address forms showsAll next last? true rows
    else
      rowText (address place) forms row
        :: rowsText address forms showsAll next (some row) false rows

end Dump

/-- Prints bytes as numbers or characters with their places. -/
def dump (args : List String) (st : State) : State :=
  let g : Grammar :=
    { flags := "abcdosxvil", valued := "AtNjw"
      names := [("address-radix", 'A'), ("format", 't'), ("read-bytes", 'N'), ("skip-bytes", 'j'),
        ("width", 'w'), ("output-duplicates", 'v')] }
  withRequest "od" 1 g args st fun r st =>
    let texts := r.options.filterMap fun (letter, value) =>
      match letter with
      | 't' => some value
      | 'a' => some "a"
      | 'b' => some "o1"
      | 'c' => some "c"
      | 'd' => some "u2"
      | 'o' => some "o2"
      | 's' => some "d2"
      | 'x' => some "x2"
      | 'i' => some "d4"
      | 'l' => some "d8"
      | _ => none
    let texts := if texts.isEmpty then ["o2"] else texts
    match texts.mapM fun text => Dump.formsOf (text.length + 1) (text.toList.filter (· != 'z')) with
    | none => fault "od" ("invalid type string " ++ inQuotes (texts.headD "")) st
    | some forms =>
      let number (letter : Char) (usual : Nat) : Nat :=
        ((r.value? letter).bind fun text => digits? text.toList).getD usual
      let (cs, st) := inputOf "od" plainMessage r.operands st
      let skipped := number 'j' 0
      let cs := cs.drop skipped
      let cs := cs.take (number 'N' cs.length)
      let address (n : Nat) : String := match r.value? 'A' with
        | some "n" => ""
        | some "d" => Dump.inBase 10 7 n
        | some "x" => Dump.inBase 16 6 n
        | _ => Dump.inBase 8 7 n
      let rows := Dump.pieces (max 1 (number 'w' 16)) (cs.length + 1) cs
      let last := if r.value? 'A' == some "n" then "" else address (skipped + cs.length) ++ "\n"
      st.print (String.join (Dump.rowsText address forms.flatten (r.has 'v') skipped none false rows)
        ++ last)

/-! ## Sixty-four characters -/

namespace SixtyFour

/-- The characters that stand for six bits each. -/
def alphabet : List Char :=
  "ABCDEFGHIJKLMNOPQRSTUVWXYZabcdefghijklmnopqrstuvwxyz0123456789+/".toList

/-- The character of a number. -/
def charOf (n : Nat) : Char :=
  alphabet.getD (n % 64) 'A'

/-- Bytes as characters; three bytes are four characters. -/
def encode : List Char → List Char
  | a :: b :: c :: rest =>
    let n := a.toNat * 65536 + b.toNat * 256 + c.toNat
    charOf (n / 262144) :: charOf (n / 4096) :: charOf (n / 64) :: charOf n :: encode rest
  | [a, b] =>
    let n := a.toNat * 65536 + b.toNat * 256
    [charOf (n / 262144), charOf (n / 4096), charOf (n / 64), '=']
  | [a] =>
    let n := a.toNat * 65536
    [charOf (n / 262144), charOf (n / 4096), '=', '=']
  | [] => []

/-- The bytes of groups of four characters, and whether all of it could be read. -/
def decode : List Char → List Char × Bool
  | [] => ([], true)
  | a :: b :: c :: d :: rest =>
    match alphabet.idxOf? a, alphabet.idxOf? b, alphabet.idxOf? c, alphabet.idxOf? d with
    | some a, some b, some c, some d =>
      let n := a * 262144 + b * 4096 + c * 64 + d
      let (cs, isWhole) := decode rest
      (Char.ofNat (n / 65536) :: Char.ofNat (n / 256 % 256) :: Char.ofNat (n % 256) :: cs, isWhole)
    | some a, some b, some c, none =>
      let n := a * 262144 + b * 4096 + c * 64
      ([Char.ofNat (n / 65536), Char.ofNat (n / 256 % 256)], d == '=' && rest.isEmpty)
    | some a, some b, none, _ =>
      let n := a * 262144 + b * 4096
      ([Char.ofNat (n / 65536)], c == '=' && d == '=' && rest.isEmpty)
    | _, _, _, _ => ([], false)
  | _ => ([], false)

end SixtyFour

/-- Prints bytes as characters that stand for six bits each, or reads them back. -/
def sixtyFour (args : List String) (st : State) : State :=
  let g : Grammar :=
    { flags := "di", valued := "w"
      names := [("decode", 'd'), ("wrap", 'w'), ("ignore-garbage", 'i')] }
  withRequest "base64" 1 g args st fun r st =>
    let (cs, st) := inputOf "base64" plainMessage r.operands st
    if r.has 'd' then
      let (bytes, isWhole) := SixtyFour.decode (cs.filter (· != '\n'))
      let st := printChars st bytes
      if isWhole then st else fault "base64" "invalid input" st
    else
      let text := SixtyFour.encode cs
      match ((r.value? 'w').bind fun text => digits? text.toList).getD 76 with
      | 0 => printChars st text
      | width => printLines st (Dump.pieces width (text.length + 1) text)

end MutationTesting.Shell.Utility
