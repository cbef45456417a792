/-!
# Fingerprints

A fingerprint condenses a text to 64 bits, the same on every machine and in every run. Names that
have to stay apart although their readable part was simplified carry the fingerprint of the full
text. The function is FNV-1a over the UTF-8 bytes.
-/

namespace MutationTesting

/-- The fingerprint of the empty text. -/
def Fingerprint.basis : UInt64 := 0xcbf29ce484222325

/-- The multiplier that spreads each byte over the word. -/
def Fingerprint.prime : UInt64 := 0x100000001b3

/-- Mixes one byte into the fingerprint so far. -/
def Fingerprint.absorb (h : UInt64) (b : UInt8) : UInt64 :=
  (h ^^^ b.toUInt64) * Fingerprint.prime

/-- The fingerprint of a text, over its UTF-8 bytes in order. -/
def fingerprint (text : String) : UInt64 :=
  text.toUTF8.toList.foldl Fingerprint.absorb Fingerprint.basis

/-- The lower-case hexadecimal digit of the lowest four bits of a number. -/
def hexDigit (n : Nat) : Char :=
  (n % 16).digitChar

/-- A word as sixteen lower-case hexadecimal digits, the highest first. -/
def hex16 (word : UInt64) : List Char :=
  (List.range 16).map fun i => hexDigit (word.toNat / Nat.pow 16 (15 - i))

/-- The fingerprint of a text in its written form. -/
def fingerprintText (text : String) : String :=
  String.ofList (hex16 (fingerprint text))

end MutationTesting
