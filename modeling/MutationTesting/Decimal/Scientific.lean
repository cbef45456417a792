import MutationTesting.Decimal.Rounding

/-!
# Digits and an exponent

A number that is not negative is written with one digit in front of the point, a fixed number of them
behind it, and a power of ten.
-/

namespace MutationTesting.Decimal

/-- The greatest exponent of ten whose power is not above a positive number. -/
def decimalExponent (q : Rat) : Int :=
  let digits (n : Nat) : Int := (Nat.toDigits 10 n).length
  let guess := digits q.num.natAbs - digits q.den
  let power (e : Int) : Rat := if 0 ≤ e then (10 : Rat) ^ e.toNat else 1 / (10 : Rat) ^ (-e).toNat
  if power guess ≤ q then guess else guess - 1

/-- A number times a power of ten. -/
def scale (q : Rat) (e : Int) : Rat :=
  if 0 ≤ e then q * (10 : Rat) ^ e.toNat else q / (10 : Rat) ^ (-e).toNat

/-- The digits of a number, one and some more, and the exponent of ten of the first one. -/
def scientific (places : Nat) (q : Rat) : List Char × Int :=
  if q ≤ 0 then (List.replicate (places + 1) '0', 0)
  else
    let e := decimalExponent q
    let digits := Nat.toDigits 10 (nearestEven (scale q (places - e))).toNat
    if digits.length = places + 1 then (digits, e) else (digits.dropLast, e + 1)

/-- An exponent with its sign and at least two digits. -/
def exponentText (e : Int) : List Char :=
  let digits := Nat.toDigits 10 e.natAbs
  (if e < 0 then '-' else '+') :: (List.replicate (2 - digits.length) '0' ++ digits)

end MutationTesting.Decimal
