import Mathlib.Algebra.Order.Field.Rat
import Mathlib.Tactic.Linarith
import Mathlib.Tactic.NormNum
import Mathlib.Tactic.Positivity
import MutationTesting.Json.Decode
import MutationTesting.Proofs.Decimal.Rounding
import MutationTesting.Proofs.Json.Tokens

/-!
# Integers that can be kept

An integer that fits a word has a double: the double is hardly greater than the integer, and so far
below the greatest one. So values whose numbers are such integers can be kept until it is known which
reader they are for.

* `Json.isFiniteInteger_of_lt` — integers that fit a word have doubles
-/

namespace MutationTesting

namespace Json

open Decimal (toDouble)

/-! ## Digits that count -/

/-- If a number stays below the limit, all its digits count. -/
theorem significant_eq : ∀ {cs : List Char} {kept : Nat},
    Nat.ofDigitChars 10 cs kept < UInt64.size →
      significant kept cs = (Nat.ofDigitChars 10 cs kept, [])
  | [], _, _ => rfl
  | c :: cs, kept, h => by
    rw [Nat.ofDigitChars_cons, Nat.mul_comm] at h ⊢
    have hlonger : kept * 10 + (c.toNat - '0'.toNat) < UInt64.size := by
      rw [Nat.ofDigitChars_eq_ofDigitChars_zero] at h
      exact Nat.lt_of_le_of_lt (Nat.le_mul_of_pos_left _ (by positivity))
        (Nat.lt_of_le_of_lt (Nat.le_add_right _ _) h)
    rw [significant, if_pos hlonger, significant_eq h]

theorem scaled_toDigits {n : Nat} (h : n < UInt64.size) : scaled (Nat.toDigits 10 n) [] = (n, 0) := by
  have hwhole : significant 0 (Nat.toDigits 10 n) = (n, []) := by
    rw [significant_eq (by rwa [Nat.ofDigitChars_ten_toDigits]), Nat.ofDigitChars_ten_toDigits]
  rw [scaled, hwhole]
  rfl

/-- The greatest double is far above the integers of 64 bits. -/
theorem two_pow_le_doubleLimit : (2 ^ 66 : Rat) ≤ doubleLimit := by
  have hlimit : 2 ^ 66 ≤ doubleLimit := by decide +kernel
  exact_mod_cast hlimit

/-- **An integer that fits a word has a double.** -/
theorem isFiniteInteger_of_lt {n : Int} (h : n.natAbs < UInt64.size) : isFiniteInteger n = true := by
  have hn : toDouble n.natAbs ≤ n.natAbs + 2 ^ 11 := Decimal.toDouble_natCast_le h
  have hone : toDouble 1 ≤ 1 + 2 ^ 0 := by
    have hcast := Decimal.toDouble_natCast_le (n := 1) (k := 0) (by norm_num)
    simpa using hcast
  have hsize : (n.natAbs : Rat) < 2 ^ 64 := by exact_mod_cast h
  have hproduct : toDouble n.natAbs * toDouble 1 ≤ (n.natAbs + 2 ^ 11) * (1 + 2 ^ 0) :=
    mul_le_mul hn hone (Decimal.toDouble_nonneg 1) (by positivity)
  rw [isFiniteInteger, scaled_toDigits h]
  dsimp only
  unfold isFiniteNumber
  split
  · rfl
  rw [if_neg (by decide), decide_eq_true_eq]
  simp only [Int.toNat_zero, pow_zero]
  have hbound : ((n.natAbs : Rat) + 2 ^ 11) * (1 + 2 ^ 0) < 2 ^ 66 := by linarith
  exact hproduct.trans_lt (hbound.trans_le two_pow_le_doubleLimit)

end Json

end MutationTesting
