import MutationTesting.Shell.State

/-!
# Printing commands of the shell

The command that prints its arguments one after the other, and the escapes that it knows, which stand
for single bytes.
-/

namespace MutationTesting.Shell

/-! ## Escapes -/

/-- The value of octal digits. -/
def octal (cs : List Char) : Nat :=
  cs.foldl (fun n c => n * 8 + (c.toNat - '0'.toNat)) 0

/-- An octal digit. -/
def isOctal (c : Char) : Bool :=
  '0' ≤ c && c ≤ '7'

/-- The byte of a character. -/
def charBytes (c : Char) : ByteArray :=
  ⟨#[UInt8.ofNat c.toNat]⟩

/-- The character of an escape with one letter. -/
def letterEscape? : Char → Option Char
  | 'a' => some '\x07'
  | 'b' => some '\x08'
  | 'e' => some '\x1b'
  | 'f' => some '\x0c'
  | 'n' => some '\n'
  | 'r' => some '\r'
  | 't' => some '\t'
  | 'v' => some '\x0b'
  | '\\' => some '\\'
  | _ => none

/-- The octal digits of an escape, and what follows them: up to three, behind a zero if one has to
lead. -/
def octalEscape? (leadingZero : Bool) (cs : List Char) : Option (List Char × List Char) :=
  let spanned (cs : List Char) :=
    let digits := (cs.take 3).takeWhile isOctal
    (digits, cs.drop digits.length)
  match cs with
  | '0' :: rest => some (if leadingZero then spanned rest else spanned ('0' :: rest))
  | c :: rest => if isOctal c then some (spanned (c :: rest)) else none
  | [] => none

/-- The bytes of a text with escapes, and whether it ends the output; a zero in front of an octal
escape does not count as one of its digits if it leads. -/
def unescape (leadingZero : Bool) : Nat → List Char → ByteArray → ByteArray × Bool
  | 0, _, bytes => (bytes, false)
  | _ + 1, [], bytes => (bytes, false)
  | bound + 1, '\\' :: 'c' :: rest, bytes =>
    if leadingZero then (bytes, true)
    else unescape leadingZero bound rest (bytes ++ "\\c".toUTF8)
  | bound + 1, '\\' :: c :: rest, bytes =>
    match letterEscape? c with
    | some e => unescape leadingZero bound rest (bytes ++ charBytes e)
    | none =>
      match octalEscape? leadingZero (c :: rest) with
      | some (digits, rest) =>
        unescape leadingZero bound rest (bytes.push (UInt8.ofNat (octal digits)))
      | none => unescape leadingZero bound rest (bytes ++ Octets.bytes (String.ofList ['\\', c]))
  | bound + 1, c :: rest, bytes => unescape leadingZero bound rest (bytes ++ charBytes c)

/-- The bytes of a text with escapes in an argument, and whether it ends the output. -/
def unescaped (text : String) : ByteArray × Bool :=
  unescape true (text.length + 1) text.toList .empty

/-! ## Arguments -/

/-- Prints arguments with blanks between them and a line end behind them. -/
def echo (args : List String) (st : State) : State :=
  let (lineEnd, args) := match args with
    | "-n" :: args => (false, args)
    | args => (true, args)
  let (bytes, stopped) := unescaped (" ".intercalate args)
  let bytes := if lineEnd && !stopped then bytes ++ "\n".toUTF8 else bytes
  (st.write bytes).withStatus 0

/-- An argument that switches how arguments are printed. -/
def isEchoOption (arg : String) : Bool :=
  match arg.toList with
  | '-' :: c :: cs => (c :: cs).all fun c => c == 'n' || c == 'e' || c == 'E'
  | _ => false

/-- Prints arguments as the program of that name does: escapes only on demand. -/
def echoProgram (args : List String) (st : State) : State :=
  let flags := (args.takeWhile isEchoOption).flatMap String.toList
  let text := " ".intercalate (args.dropWhile isEchoOption)
  let escapes := (flags.filter fun c => c == 'e' || c == 'E').getLast? == some 'e'
  let (bytes, stopped) := if escapes then unescaped text else (Octets.bytes text, false)
  let bytes := if flags.contains 'n' || stopped then bytes else bytes ++ "\n".toUTF8
  (st.write bytes).withStatus 0

end MutationTesting.Shell
