import MutationTesting.Decimal.Rounding

/-!
# Numbers that are no integers

A number that is not an integer of 64 bits stands for a double. Of its digits only so many count as
make a natural number below `2 ^ 64`; the digits of its whole part behind them only scale it, and
those of its fraction are without effect. The double is the product of that number and a power of
ten, each of which is rounded before they are multiplied; a number whose double would be infinite
denotes nothing.
-/

namespace MutationTesting.Json

/-- The number of the digits in front that count, begun with those already read, and the digits
behind them. -/
def significant : Nat → List Char → Nat × List Char
  | kept, [] => (kept, [])
  | kept, c :: cs =>
    let longer := kept * 10 + (c.toNat - '0'.toNat)
    if longer < UInt64.size then significant longer cs else (kept, c :: cs)

/-- The digits of a number in front of its exponent, as a significand and the exponent of ten that
goes with it. -/
def scaled (whole fraction : List Char) : Nat × Int :=
  let (front, dropped) := significant 0 whole
  let (number, ignored) := significant front fraction
  (number, (dropped.length : Int) - (fraction.length - ignored.length : Nat))

/-- The greatest exponent of ten among the doubles. -/
def greatestExponent : Int :=
  308

/-- The least number that rounds beyond the greatest double: `2 ^ 1024 - 2 ^ 970`. -/
def doubleLimit : Nat :=
  Nat.pow 2 1024 - Nat.pow 2 970

/-- A number `significand · 10 ^ exponent` has a double. -/
def isFiniteNumber (significand : Nat) (exponent : Int) : Bool :=
  if significand = 0 ∨ exponent < 0 then true
  else if greatestExponent < exponent then false
  else Decimal.toDouble significand * Decimal.toDouble (10 ^ exponent.toNat) < doubleLimit

/-- An integer has a double. -/
def isFiniteInteger (n : Int) : Bool :=
  let (number, exponent) := scaled (Nat.toDigits 10 n.natAbs) []
  isFiniteNumber number exponent

end MutationTesting.Json
