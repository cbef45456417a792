/-!
# Rounding

Exact numbers are rounded to whole multiples of a unit: to the nearest one, a number halfway between
two going to the even multiple. Two units matter here: decimal places, and the last place of a
double.
-/

namespace MutationTesting.Decimal

/-- The integer nearest to a number; halfway between two it is the even one. -/
def nearestEven (q : Rat) : Int :=
  let below := q.floor
  let rest := q - below
  if rest < 1 / 2 then below
  else if 1 / 2 < rest then below + 1
  else if below % 2 = 0 then below
  else below + 1

/-- A power of two. -/
def twoPow (e : Int) : Rat :=
  if 0 ≤ e then (2 : Rat) ^ e.toNat else 1 / (2 : Rat) ^ (-e).toNat

/-- The greatest exponent of two whose power is not above a positive number. -/
def binaryExponent (q : Rat) : Int :=
  let guess : Int := (q.num.natAbs.log2 : Int) - (q.den.log2 : Int)
  if twoPow guess ≤ q then guess else guess - 1

/-- The least exponent of the last place of a double. -/
def leastExponent : Int :=
  -1074

/-- The exponent of the last place of the doubles around a positive number. -/
def lastPlace (q : Rat) : Int :=
  max (binaryExponent q - 52) leastExponent

/-- The double nearest to a number that is not negative, as an exact number. -/
def toDouble (q : Rat) : Rat :=
  if q ≤ 0 then 0 else nearestEven (q / twoPow (lastPlace q)) * twoPow (lastPlace q)

/-! ## Fixed places -/

/-- Digits with a point before the last few of them. -/
def withPoint (places : Nat) (digits : List Char) : List Char :=
  if places = 0 then digits
  else
    let filled := List.replicate (places + 1 - digits.length) '0' ++ digits
    filled.take (filled.length - places) ++ '.' :: filled.drop (filled.length - places)

/-- A number that is not negative with a fixed number of decimal places. -/
def fixed (places : Nat) (q : Rat) : String :=
  String.ofList (withPoint places (Nat.toDigits 10 (nearestEven (q * 10 ^ places)).toNat))

end MutationTesting.Decimal
