import MutationTesting.Shell.Printing
import MutationTesting.Shell.Utility.Request
import MutationTesting.Text.AsciiClass

/-!
# Exchanging characters

The utility that exchanges characters for others, leaves some out, and leaves one of several equal
ones in a row. Characters are named by lists with ranges, classes and repetitions.
-/

namespace MutationTesting.Shell.Utility

/-- A character of a list, or one that fills the list up to the length of another one. -/
inductive Named where
  /-- A character. -/
  | char (c : Char)
  /-- A character that fills the list up. -/
  | filler (c : Char)
  deriving DecidableEq, Repr

namespace Named

/-- The characters from one to another. -/
def between (a b : Char) : List Char :=
  (List.range (b.toNat + 1 - a.toNat)).map fun i => Char.ofNat (a.toNat + i)

/-- The character in front, escapes undone, and what follows it. -/
def spanChar? : List Char → Option (Char × List Char)
  | [] => none
  | ['\\'] => some ('\\', [])
  | '\\' :: c :: rest =>
    let digits := ((c :: rest).take 3).takeWhile isOctal
    if digits.isEmpty then some (((letterEscape? c).filter fun _ => c != 'e').getD c, rest)
    else some (Char.ofNat (octal digits % 256), (c :: rest).drop digits.length)
  | c :: rest => some (c, rest)

/-- The repetition in front behind its bracket: the character and how often it stands, none for as
often as it takes. -/
def repetition? (cs : List Char) : Option (Char × Option Nat × List Char) :=
  match spanChar? cs with
  | some (c, '*' :: rest) =>
    let digits := rest.takeWhile Char.isDigit
    match rest.drop digits.length with
    | ']' :: rest =>
      let n := if digits.head? == some '0' then octal digits else Nat.ofDigitChars 10 digits 0
      some (c, if n = 0 then none else some n, rest)
    | _ => none
  | _ => none

/-- The characters that a list names, with a bound on the number of its parts, or what is wrong with
it. -/
def readAll : Nat → List Char → Except String (List Named)
  | 0, _ => .ok []
  | bound + 1, cs => do
    let go (named : List Named) (rest : List Char) : Except String (List Named) := do
      return named ++ (← readAll bound rest)
    let single : Except String (List Named) :=
      match spanChar? cs with
      | none => .ok []
      | some (a, '-' :: rest) =>
        match spanChar? rest with
        | none => go [.char a] ['-']
        | some (b, rest') =>
          if b < a then
            .error ("range-endpoints of '" ++ String.ofList [a, '-', b]
              ++ "' are in reverse collating sequence order")
          else go ((between a b).map .char) rest'
      | some (a, rest) => go [.char a] rest
    match cs with
    | '[' :: ':' :: rest =>
      let name := rest.takeWhile fun c => c != ':' && c != ']'
      match rest.drop name.length with
      | ':' :: ']' :: after =>
        match asciiClass? (String.ofList name) with
        | some ranges => go ((ranges.flatMap fun (a, b) => between a b).map .char) after
        | none => throw ("invalid character class '" ++ String.ofList name ++ "'")
      | _ => single
    | '[' :: '=' :: c :: '=' :: ']' :: rest => go [.char c] rest
    | '[' :: rest =>
      match repetition? rest with
      | some (c, some n, rest) => go (List.replicate n (.char c)) rest
      | some (c, none, rest) => go [.filler c] rest
      | none => single
    | _ => single

/-- The characters that a list names. -/
def read (text : String) : Except String (List Named) :=
  readAll (text.length + 1) text.toList

/-- The characters of a list of a given length, as far as it has a character that fills it up. -/
def fill (length : Nat) (named : List Named) : List Char :=
  let others := (named.filter fun n => match n with
    | .char _ => true
    | .filler _ => false).length
  named.flatMap fun
    | .char c => [c]
    | .filler c => List.replicate (length - others) c

end Named

/-- The characters below 256 that are not in a list. -/
def complementOf (cs : List Char) : List Char :=
  (Named.between '\x00' '\xff').filter fun c => !cs.contains c

/-- A table of the characters below 256. -/
def tableOf (value : Char → α) : Array α :=
  ((Named.between '\x00' '\xff').map value).toArray

/-- The characters with one of several equal ones in a row left, of those that are squeezed. -/
def squeeze (squeezed : Array Bool) (cs : List Char) : List Char :=
  (cs.foldl (fun (out : List Char) c =>
    if out.head? == some c && squeezed.getD c.toNat false then out else c :: out) []).reverse

/-- Prints what is read with characters exchanged, left out or not repeated. -/
def exchange (args : List String) (st : State) : State :=
  let g : Grammar :=
    { flags := "cCdst", isOrdered := true
      names := [("complement", 'c'), ("delete", 'd'), ("squeeze-repeats", 's'),
        ("truncate-set1", 't')] }
  let fail (text : String) (st : State) := fault "tr" (text ++ hint "tr") st
  withRequest "tr" 1 g args st fun r st =>
    let deletes := r.has 'd'
    let squeezes := r.has 's'
    let exchanges := !deletes && (!squeezes || 1 < r.operands.length)
    let most := if deletes && !squeezes then 1 else 2
    let least := if deletes == squeezes then 2 else 1
    let both := "\nTwo strings must be given when "
    match r.operands with
    | [] => fail "missing operand" st
    | first :: others =>
      if r.operands.length < least then
        fail ("missing operand after " ++ inQuotes first ++ both
          ++ (if squeezes then "both deleting and squeezing repeats." else "translating.")) st
      else if most < r.operands.length then
        let extra := "extra operand " ++ inQuotes (r.operands.getD most "")
        fail (if deletes && !squeezes && r.operands.length = 2 then
          extra ++ "\nOnly one string may be given when deleting without squeezing repeats."
          else extra) st
      else
        let lists := do
          let source ← Named.read first
          let target ← Named.read (others.headD "")
          return (Named.fill 0 source, target)
        match lists with
        | .error text => fault "tr" text st
        | .ok (source, target) =>
          let source := if r.has 'c' || r.has 'C' then complementOf source else source
          let target := Named.fill source.length target
          if exchanges && target.isEmpty && !source.isEmpty then
            fault "tr" "when not truncating set1, string2 must be non-empty" st
          else
            let (cs, st) := st.takeInput
            let isSource := tableOf source.contains
            let cs := if deletes then cs.filter fun c => !isSource.getD c.toNat false else cs
            let pairs := if r.has 't' then source.zip target
              else source.zip (target ++ List.replicate (source.length - target.length)
                (target.getLastD ' '))
            let exchanged := tableOf fun c => (pairs.reverse.lookup c).getD c
            let cs := if exchanges then cs.map fun c => exchanged.getD c.toNat c else cs
            let squeezed := if others.isEmpty then source else target
            printChars st (if squeezes then squeeze (tableOf squeezed.contains) cs else cs)

end MutationTesting.Shell.Utility
