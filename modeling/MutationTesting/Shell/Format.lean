import MutationTesting.Decimal.Scientific
import MutationTesting.Shell.Printing

/-!
# Formats

The command that prints its arguments by a format: text with escapes, and directives, each of which
takes an argument and says how it is read and written. The format is used again as long as arguments
are left.
-/

namespace MutationTesting.Shell

/-- A directive of a format. -/
structure Directive where
  /-- Its flags. -/
  flags : List Char
  /-- The least width. -/
  width : Nat
  /-- The number of places, digits or characters. -/
  precision? : Option Nat
  /-- The kind of the argument. -/
  kind : Char
  deriving DecidableEq, Repr

/-- A number that is no integer. -/
inductive Real where
  /-- One with a sign and a size. -/
  | finite (isNegative : Bool) (size : Rat)
  /-- One beyond all others. -/
  | infinite (isNegative : Bool)
  /-- None at all. -/
  | undefined
  deriving DecidableEq, Repr

namespace Directive

/-- A text filled up to the width with blanks. -/
def pad (d : Directive) (text : String) : String :=
  let missing := List.replicate (d.width - text.length) ' '
  if d.flags.contains '-' then text ++ String.ofList missing else String.ofList missing ++ text

/-- A text behind what stands in front of it, filled up to the width with zeros between them if
zeros are asked for. -/
def fill (d : Directive) (withZeros : Bool) (front text : String) : String :=
  if withZeros && d.flags.contains '0' && !d.flags.contains '-' then
    front ++ String.ofList (List.replicate (d.width - front.length - text.length) '0') ++ text
  else d.pad (front ++ text)

/-- The digits of an integer behind what stands in front of them. -/
def digits (d : Directive) (front : String) (cs : List Char) : String :=
  let cs := match d.precision? with
    | some n => if n = 0 && cs == ['0'] then [] else List.replicate (n - cs.length) '0' ++ cs
    | none => cs
  d.fill d.precision?.isNone front (String.ofList cs)

/-- The sign of a number. -/
def sign (d : Directive) (isNegative : Bool) : String :=
  if isNegative then "-" else if d.flags.contains '+' then "+"
  else if d.flags.contains ' ' then " " else ""

/-- A decimal integer. -/
def decimal (d : Directive) (n : Int) : String :=
  d.digits (d.sign (n < 0)) (Nat.toDigits 10 n.natAbs)

/-- An integer in a base, a negative one as the 64-bit word that holds it. -/
def inBase (d : Directive) (base : Nat) (n : Int) : String :=
  let word := (n % UInt64.size).toNat
  let cs := Nat.toDigits base word
  let isMarked := d.flags.contains '#'
  if base = 8 && isMarked then
    let d' := { d with precision? := some (max (d.precision?.getD 0) (cs.length + 1)) }
    if word = 0 then d.digits "" cs else d'.fill d.precision?.isNone "" (d'.digits "" cs)
  else d.digits (if base = 16 && isMarked && word != 0 then "0x" else "") cs

/-- Digits with a point before the last few of them, which stays without digits behind it only if it
is asked for. -/
def pointed (d : Directive) (places : Nat) (cs : List Char) : List Char :=
  Decimal.withPoint places cs ++ (if places = 0 && d.flags.contains '#' then ['.'] else [])

/-- A number with decimal places. -/
def fixedPoint (d : Directive) (places : Nat) (q : Rat) : List Char :=
  d.pointed places (Nat.toDigits 10 (Decimal.nearestEven (q * 10 ^ places)).toNat)

/-- A number with an exponent. -/
def scientific (d : Directive) (places : Nat) (q : Rat) : List Char :=
  let (cs, e) := Decimal.scientific places q
  d.pointed places cs ++ 'e' :: Decimal.exponentText e

/-- Decimal places without the zeros at their end, and without the point if none is left. -/
def withoutZeros (cs : List Char) : List Char :=
  if cs.contains '.' then
    let kept := cs.reverse.dropWhile (· == '0')
    ((if kept.head? == some '.' then kept.tail else kept)).reverse
  else cs

/-- A number with so many digits that count, in the shorter way. -/
def general (d : Directive) (precision : Nat) (q : Rat) : List Char :=
  let precision := max precision 1
  let e := (Decimal.scientific (precision - 1) q).2
  let trim (cs : List Char) := if d.flags.contains '#' then cs else withoutZeros cs
  if -4 ≤ e ∧ e < precision then trim (d.fixedPoint (precision - 1 - e).toNat q)
  else
    let cs := d.scientific (precision - 1) q
    trim (cs.takeWhile (· != 'e')) ++ cs.dropWhile (· != 'e')

/-- A number that is no integer. -/
def real (d : Directive) (r : Real) : String :=
  let precision := d.precision?.getD 6
  match r with
  | .finite isNegative q =>
    d.fill true (d.sign isNegative) (String.ofList (match d.kind.toLower with
      | 'e' => d.scientific precision q
      | 'g' => d.general precision q
      | _ => d.fixedPoint precision q))
  | .infinite isNegative => d.fill false (d.sign isNegative) "inf"
  | .undefined => d.fill false (d.sign false) "nan"

end Directive

/-- What a format made of its arguments. -/
structure Formatted where
  /-- The bytes. -/
  bytes : ByteArray := .empty
  /-- The arguments left over. -/
  args : List String
  /-- What is wrong with arguments, in order. -/
  faults : List String := []
  /-- Nothing more is printed. -/
  stopped : Bool := false
  /-- Why the format cannot be used further. -/
  fault? : Option String := none

namespace Formatted

/-- Appends bytes. -/
def push (f : Formatted) (bytes : ByteArray) : Formatted :=
  { f with bytes := f.bytes ++ bytes }

/-- The next argument, if there is one. -/
def next (f : Formatted) : Option String × Formatted :=
  (f.args.head?, { f with args := f.args.tail })

/-- What is wrong with an argument of which a number was read up to some characters. -/
def conversionFault? (arg : String) (used : Bool) (rest : List Char) (isTooLarge : Bool) :
    Option String :=
  if rest.isEmpty then if isTooLarge then some (arg ++ ": Numerical result out of range") else none
  else if used then some (arg ++ ": not completely converted")
  else some (arg ++ ": expected numeric value")

/-- The sign in front of a number, and what follows it. -/
def spanSign (cs : List Char) : Bool × List Char :=
  match cs.dropWhile Char.isWhitespace with
  | '-' :: rest => (true, rest)
  | '+' :: rest => (false, rest)
  | rest => (false, rest)

/-- The value of a digit up to a base. -/
def digit? (base : Nat) (c : Char) : Option Nat :=
  let n := if c.isDigit then c.toNat - 48
    else if c.isAlpha then c.toLower.toNat - 97 + 10 else base
  if n < base then some n else none

/-- The digits in front, and what follows them. -/
def spanDigits (base : Nat) (cs : List Char) : List Nat × List Char :=
  let front := cs.takeWhile fun c => (digit? base c).isSome
  (front.filterMap (digit? base), cs.drop front.length)

/-- The number of digits in a base. -/
def ofDigits (base : Nat) (digits : List Nat) : Nat :=
  digits.foldl (fun n d => n * base + d) 0

/-- The base of a number by what it begins with, and its digits. -/
def spanBase : List Char → Nat × List Char
  | '0' :: x :: c :: rest =>
    if (x == 'x' || x == 'X') && (digit? 16 c).isSome then (16, c :: rest)
    else (8, '0' :: x :: c :: rest)
  | '0' :: rest => (8, '0' :: rest)
  | cs => (10, cs)

/-- The integer of an argument between two bounds, and what is wrong with it. -/
def integerOf (least most : Int) (arg : String) : Int × Option String :=
  match arg.toList with
  | [] => (0, none)
  | '\'' :: cs => ((cs.headD '\x00').toNat, none)
  | '"' :: cs => ((cs.headD '\x00').toNat, none)
  | cs =>
    let (isNegative, front) := spanSign cs
    let (base, front) := spanBase front
    let (digits, rest) := spanDigits base front
    let n : Int := ofDigits base digits
    let n := if isNegative then -n else n
    let clamped := max least (min most n)
    (clamped,
      conversionFault? arg (!digits.isEmpty) (if digits.isEmpty then cs else rest) (clamped != n))

/-- The next argument as an integer. -/
def nextInteger (f : Formatted) (least most : Int) : Int × Formatted :=
  let (arg?, f) := f.next
  let (n, fault?) := integerOf least most (arg?.getD "")
  (n, { f with faults := f.faults ++ fault?.toList })

/-- The next argument as an integer with a sign. -/
def nextSigned (f : Formatted) : Int × Formatted :=
  f.nextInteger Int64.minValue.toInt Int64.maxValue.toInt

/-- The next argument as a word of 64 bits. -/
def nextWord (f : Formatted) : Int × Formatted :=
  f.nextInteger (1 - (UInt64.size : Int)) (UInt64.size - 1)

/-- The exponent in front behind one of some letters, and what follows it. -/
def spanExponent (letter : Char) (cs : List Char) : Int × List Char :=
  match cs with
  | c :: rest =>
    let (isNegative, front) := match rest with
      | '-' :: rest => (true, rest)
      | '+' :: rest => (false, rest)
      | rest => (false, rest)
    let (digits, after) := spanDigits 10 front
    if c.toLower != letter || digits.isEmpty then (0, cs)
    else
      let n : Int := ofDigits 10 digits
      (if isNegative then -n else n, after)
  | [] => (0, [])

/-- The greatest double. -/
def greatestDouble : Rat :=
  Nat.pow 2 1024 - Nat.pow 2 971

/-- The exponents beyond which a number is surely too large or too small. -/
def exponentLimit : Int :=
  5000

/-- The size of a number in front in a base, and what follows it; none if it has no digits. -/
def spanSize (base : Nat) (letter : Char) (cs : List Char) : Option (Rat × List Char) :=
  let (whole, rest) := spanDigits base cs
  let (places, rest) := match rest with
    | '.' :: more =>
      let (places, after) := spanDigits base more
      if whole.isEmpty && places.isEmpty then ([], rest) else (places, after)
    | rest => ([], rest)
  if whole.isEmpty && places.isEmpty then none
  else
    let (e, rest) := spanExponent letter rest
    let e := max (-exponentLimit) (min exponentLimit e)
    let q : Rat := mkRat (ofDigits base (whole ++ places)) (Nat.pow base places.length)
    some (if base = 16 then q * Decimal.twoPow e else Decimal.scale q e, rest)

/-- The number of an argument, and what is wrong with it. -/
def realOf (arg : String) : Real × Option String :=
  match arg.toList with
  | [] => (.finite false 0, none)
  | '\'' :: cs => (.finite false ((cs.headD '\x00').toNat : Rat), none)
  | '"' :: cs => (.finite false ((cs.headD '\x00').toNat : Rat), none)
  | cs =>
    let (isNegative, front) := spanSign cs
    let begins (name : String) := name.toList.isPrefixOf (front.map Char.toLower)
    if begins "infinity" then (.infinite isNegative, conversionFault? arg true (front.drop 8) false)
    else if begins "inf" then (.infinite isNegative, conversionFault? arg true (front.drop 3) false)
    else if begins "nan" then (.undefined, conversionFault? arg true (front.drop 3) false)
    else
      let size? := match spanBase front with
        | (16, digits) => spanSize 16 'p' digits
        | _ => spanSize 10 'e' front
      match size? with
      | none => (.finite false 0, conversionFault? arg false cs false)
      | some (q, rest) =>
        let q := Decimal.toDouble q
        let isTooLarge := greatestDouble < q
        (if isTooLarge then .infinite isNegative else .finite isNegative q,
          conversionFault? arg true rest isTooLarge)

/-- The next argument as a number. -/
def nextReal (f : Formatted) : Real × Formatted :=
  let (arg?, f) := f.next
  let (r, fault?) := realOf (arg?.getD "")
  (r, { f with faults := f.faults ++ fault?.toList })

/-- Characters cut and filled up as a directive says. -/
def cut (d : Directive) (cs : List Char) : String :=
  d.pad (String.ofList (match d.precision? with
    | some n => cs.take n
    | none => cs))

/-- Carries out a directive; none if its kind is not known. -/
def carryOut? (d : Directive) (f : Formatted) : Option Formatted :=
  let pushText (f : Formatted) (text : String) := f.push (Octets.bytes text)
  match d.kind with
  | 's' =>
    let (arg?, f) := f.next
    some (pushText f (cut d (arg?.getD "").toList))
  | 'b' =>
    let (arg?, f) := f.next
    let (bytes, stopped) := unescaped (arg?.getD "")
    some { pushText f (cut d (Octets.chars bytes)) with stopped }
  | 'c' =>
    let (arg?, f) := f.next
    some (pushText f (d.pad (String.singleton ((arg?.getD "").toList.headD '\x00'))))
  | 'd' => let (n, f) := f.nextSigned; some (pushText f (d.decimal n))
  | 'i' => let (n, f) := f.nextSigned; some (pushText f (d.decimal n))
  | 'u' => let (n, f) := f.nextWord; some (pushText f (d.inBase 10 n))
  | 'o' => let (n, f) := f.nextWord; some (pushText f (d.inBase 8 n))
  | 'x' => let (n, f) := f.nextWord; some (pushText f (d.inBase 16 n))
  | 'X' => let (n, f) := f.nextWord; some (pushText f (d.inBase 16 n).toUpper)
  | kind =>
    if ['e', 'f', 'g'].contains kind.toLower then
      let (r, f) := f.nextReal
      some (pushText f (if kind.isUpper then (d.real r).toUpper else d.real r))
    else none

end Formatted

/-- A count in front of a directive: digits, or an argument for an asterisk. -/
def formatCount (cs : List Char) (f : Formatted) : Int × List Char × Formatted :=
  match cs with
  | '*' :: rest =>
    let (n, f) := f.nextSigned
    (n, rest, f)
  | cs => (Nat.ofDigitChars 10 (cs.takeWhile Char.isDigit) 0, cs.dropWhile Char.isDigit, f)

/-- One use of a format, with a bound on its number of parts. -/
def formatOnce : Nat → List Char → Formatted → Formatted
  | 0, _, f => f
  | bound + 1, cs, f =>
    if f.stopped || f.fault?.isSome then f
    else match cs with
      | [] => f
      | '%' :: '%' :: rest => formatOnce bound rest (f.push "%".toUTF8)
      | '%' :: rest =>
        let (flags, rest) := rest.span fun c => ['-', '+', ' ', '#', '0'].contains c
        let (width, rest, f) := formatCount rest f
        let (precision?, rest, f) := match rest with
          | '.' :: rest =>
            let (n, rest, f) := formatCount rest f
            (if n < 0 then none else some n.toNat, rest, f)
          | rest => (none, rest, f)
        match rest with
        | [] => { f with fault? := some "missing format character" }
        | kind :: after =>
          let flags := if width < 0 then '-' :: flags else flags
          match Formatted.carryOut? { flags, width := width.natAbs, precision?, kind } f with
          | some f => formatOnce bound after f
          | none =>
            let directive := String.ofList (cs.take (cs.length - after.length))
            { f with fault? := some (directive ++ ": invalid directive") }
      | '\\' :: c :: rest =>
        match letterEscape? c with
        | some e => formatOnce bound rest (f.push (charBytes e))
        | none =>
          match octalEscape? false (c :: rest) with
          | some (digits, rest) =>
            formatOnce bound rest (f.push (ByteArray.mk #[UInt8.ofNat (octal digits)]))
          | none => formatOnce bound rest (f.push (Octets.bytes (String.ofList ['\\', c])))
      | c :: rest => formatOnce bound rest (f.push (charBytes c))

/-- A format that is used again as long as arguments are left. -/
def formatAll : Nat → List Char → Formatted → Formatted
  | 0, _, f => f
  | bound + 1, template, f =>
    let after := formatOnce (template.length + 1) template f
    if after.stopped || after.fault?.isSome || after.args.isEmpty
        || after.args.length == f.args.length then after
    else formatAll bound template after

/-- Prints by a format. -/
def printFormat (args : List String) (st : State) : State :=
  let use (template : String) (args : List String) : State :=
    let f := formatAll (args.length + 1) template.toList { args }
    let told := f.faults.foldl (fun st fault => st.report fault) { st with caller? := some "printf" }
    let st := { told with caller? := st.caller? }
    let st := (st.write f.bytes).withStatus (if f.faults.isEmpty then 0 else 1)
    match f.fault? with
    | some fault => st.refuse "printf" fault
    | none => st
  let usage := st.refuse "printf" "usage: printf format [arg ...]"
  match args with
  | [] => usage
  | "--" :: args =>
    match args with
    | [] => usage
    | template :: args => use template args
  | template :: args =>
    match template.toList with
    | '-' :: c :: _ => st.refuse "printf" ("Illegal option -" ++ String.singleton c)
    | _ => use template args

end MutationTesting.Shell
