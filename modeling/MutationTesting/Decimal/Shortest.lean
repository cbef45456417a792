import MutationTesting.Decimal.Rounding

/-!
# Shortest digits

A double that is a whole number is written with no more digits than it takes to read it back, and
zeros up to the point. Of the numbers with so few digits that are read back, the nearest one is
written, and of two that are equally near the greater one.
-/

namespace MutationTesting.Decimal

/-- A whole number is read as a double that is one too. -/
def readsAs (c n : Nat) : Bool :=
  toDouble c == n

/-- The multiple of a step that is written for a number: one of the two around the number, if it is
read as the number. -/
def multiple? (n step : Nat) : Option Nat :=
  let below := n / step * step
  let above := below + step
  match readsAs below n, readsAs above n with
  | true, true => some (if n - below < above - n then below else above)
  | true, false => some below
  | false, true => some above
  | false, false => none

/-- The number that is written with at most so many zeros at its end. -/
def shortestFrom (n : Nat) : Nat → Nat
  | 0 => n
  | zeros + 1 => (multiple? n (Nat.pow 10 (zeros + 1))).getD (shortestFrom n zeros)

/-- The number that is written for a double that is a whole number. -/
def shortest (n : Nat) : Nat :=
  shortestFrom n (Nat.toDigits 10 n).length

end MutationTesting.Decimal
