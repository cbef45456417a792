/-!
# Integers in texts

A decimal integer with an optional sign in front.
-/

namespace MutationTesting

/-- The number of a nonempty text of decimal digits. -/
def digits? (cs : List Char) : Option Nat :=
  if cs.isEmpty || !cs.all Char.isDigit then none else some (Nat.ofDigitChars 10 cs 0)

/-- The integer of a text: digits behind an optional sign. -/
def integer? (text : String) : Option Int :=
  match text.toList with
  | '-' :: cs => (digits? cs).map fun n => -(n : Int)
  | '+' :: cs => (digits? cs).map Int.ofNat
  | cs => (digits? cs).map Int.ofNat

/-- The 64-bit integer with sign of a text. -/
def int64Text? (text : String) : Option Int64 := do
  let n ← integer? text
  if Int64.minValue.toInt ≤ n ∧ n ≤ Int64.maxValue.toInt then some (Int64.ofInt n) else none

end MutationTesting
