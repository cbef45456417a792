import MutationTesting.Unicode.CodeSet

/-!
# Ranges of characters as ranges of bytes

Written in UTF-8, the characters of a range are the texts of a few sequences of byte ranges: for each
sequence, every choice of one byte from each of its ranges. A range is cut where the number of bytes
changes, and then so that all bytes behind the first that differs run through all their values.
-/

namespace MutationTesting.Pattern

/-- The bytes from a first one to a last one. -/
structure ByteRange where
  /-- The first byte. -/
  first : Nat
  /-- The last byte. -/
  last : Nat
  deriving DecidableEq, Repr

namespace ByteRange

/-- Cuts a range of code points behind a code point. -/
def cutBehind (c : Nat) (r : Nat × Nat) : List (Nat × Nat) :=
  if r.1 ≤ c ∧ c < r.2 then [(r.1, c), (c + 1, r.2)] else [r]

/-- Cuts a range of code points so that in every piece either all code points agree above the last
digits to a base, or the last digits run through all values. -/
def cutDigits (base : Nat) (r : Nat × Nat) : List (Nat × Nat) :=
  if r.1 / base = r.2 / base then [r]
  else
    let fullFrom := (r.1 + base - 1) / base * base
    let fullTo := (r.2 + 1) / base * base
    [(r.1, fullFrom - 1), (fullFrom, fullTo - 1), (fullTo, r.2)].filter fun p => p.1 ≤ p.2

/-- The bytes of a code point. -/
def bytes (c : Nat) : List Nat :=
  (String.utf8EncodeChar (Char.ofNat c)).map (·.toNat)

/-- The pieces of a range of characters whose bytes vary independently. -/
def pieces (r : Nat × Nat) : List (Nat × Nat) :=
  let sameLength := ((cutBehind 0x7F r).flatMap (cutBehind 0x7FF)).flatMap (cutBehind 0xFFFF)
  sameLength.flatMap fun p =>
    if p.2 ≤ 0x7F then [p]
    else ((cutDigits 64 p).flatMap (cutDigits 4096)).flatMap (cutDigits 262144)

/-- The sequence of a piece. -/
def ofPiece (p : Nat × Nat) : List ByteRange :=
  List.zipWith ByteRange.mk (bytes p.1) (bytes p.2)

/-- The sequences of a range of characters, in ascending order. -/
def sequences (r : Nat × Nat) : List (List ByteRange) :=
  (pieces r).map ofPiece

end ByteRange

end MutationTesting.Pattern
