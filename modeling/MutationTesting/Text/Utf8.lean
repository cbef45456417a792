/-!
# UTF-8

Bytes are read as text. Every maximal piece that cannot begin a character is read as the replacement
character, so that any bytes give a text.
-/

namespace MutationTesting.Utf8

/-- The character that stands for bytes that are none. -/
def replacement : Char :=
  '\ufffd'

/-- A byte that continues a character. -/
def isTail (b : UInt8) : Bool :=
  0x80 ≤ b && b ≤ 0xBF

/-- The number of bytes that follow a first byte; none if no character begins with it. -/
def tailCount? (b : UInt8) : Option Nat :=
  if b < 0x80 then some 0
  else if 0xC2 ≤ b && b ≤ 0xDF then some 1
  else if 0xE0 ≤ b && b ≤ 0xEF then some 2
  else if 0xF0 ≤ b && b ≤ 0xF4 then some 3
  else none

/-- A byte that may follow a first byte: longer forms, surrogates and what lies beyond the last code
point are excluded here. -/
def isSecond (first b : UInt8) : Bool :=
  isTail b && (first != 0xE0 || 0xA0 ≤ b) && (first != 0xED || b ≤ 0x9F)
    && (first != 0xF0 || 0x90 ≤ b) && (first != 0xF4 || b ≤ 0x8F)

/-- The six bits of a byte that continues a character. -/
def tailBits (b : UInt8) : Nat :=
  b.toNat % 64

/-- The text of bytes. -/
def decode : List UInt8 → List Char
  | [] => []
  | a :: rest =>
    match tailCount? a with
    | none => replacement :: decode rest
    | some 0 => Char.ofNat a.toNat :: decode rest
    | some 1 =>
      match rest with
      | b :: rest' =>
        if isSecond a b then Char.ofNat (a.toNat % 32 * 64 + tailBits b) :: decode rest'
        else replacement :: decode (b :: rest')
      | [] => [replacement]
    | some 2 =>
      match rest with
      | b :: c :: rest' =>
        if isSecond a b then
          if isTail c then
            Char.ofNat ((a.toNat % 16 * 64 + tailBits b) * 64 + tailBits c) :: decode rest'
          else replacement :: decode (c :: rest')
        else replacement :: decode (b :: c :: rest')
      | [b] => if isSecond a b then [replacement] else replacement :: decode [b]
      | [] => [replacement]
    | some _ =>
      match rest with
      | b :: c :: d :: rest' =>
        if isSecond a b then
          if isTail c then
            if isTail d then
              Char.ofNat (((a.toNat % 8 * 64 + tailBits b) * 64 + tailBits c) * 64 + tailBits d)
                :: decode rest'
            else replacement :: decode (d :: rest')
          else replacement :: decode (c :: d :: rest')
        else replacement :: decode (b :: c :: d :: rest')
      | [b, c] =>
        if isSecond a b then
          if isTail c then [replacement] else replacement :: decode [c]
        else replacement :: decode [b, c]
      | [b] => if isSecond a b then [replacement] else replacement :: decode [b]
      | [] => [replacement]
  termination_by bytes => bytes.length

/-- The text of bytes. -/
def decodeText (bytes : ByteArray) : String :=
  match String.fromUTF8? bytes with
  | some text => text
  | none => String.ofList (decode bytes.toList)

end MutationTesting.Utf8
