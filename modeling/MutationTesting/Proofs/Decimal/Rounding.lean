import Mathlib.Algebra.Order.Field.Rat
import Mathlib.Data.Rat.Floor
import Mathlib.Tactic.FieldSimp
import Mathlib.Tactic.Linarith
import Mathlib.Tactic.NormNum
import Mathlib.Tactic.Positivity
import Mathlib.Tactic.Ring
import MutationTesting.Decimal.Shortest

/-!
# Rounded numbers

An exact number is rounded to a multiple of a unit. The result is at most half a unit away, and it
stays on the same side of every multiple of the unit. For doubles the unit is the last place, which
grows with the number.

* `Decimal.abs_nearestEven_sub_le` — an integer that a number is rounded to is at most one half away
* `Decimal.abs_toDouble_sub_le` — the double of a number is at most half a last place away
* `Decimal.le_toDouble`, `Decimal.toDouble_le` — rounding crosses no multiple of the last place
* `Decimal.toDouble_shortest` — the shortest digits of a double are read back
-/

namespace MutationTesting

namespace Decimal

/-! ## Whole numbers -/

/-- A number is rounded to the integer below it or to the next one. -/
theorem nearestEven_eq (q : Rat) : nearestEven q = q.floor ∨ nearestEven q = q.floor + 1 := by
  unfold nearestEven
  dsimp only
  split
  · exact Or.inl rfl
  split
  · exact Or.inr rfl
  split
  · exact Or.inl rfl
  · exact Or.inr rfl

/-- A rounded number is at most one half away. -/
theorem abs_nearestEven_sub_le (q : Rat) : |(nearestEven q : Rat) - q| ≤ 1 / 2 := by
  have hfloor := q.floor_le
  have hnext := Rat.lt_floor (x := q)
  unfold nearestEven
  dsimp only
  rw [abs_le]
  split_ifs <;> push_cast <;> constructor <;> linarith

/-- Rounding does not cross an integer below. -/
theorem le_nearestEven {n : Int} {q : Rat} (h : n ≤ q) : n ≤ nearestEven q := by
  have hfloor : n ≤ q.floor := Rat.le_floor_iff.mpr h
  rcases nearestEven_eq q with heq | heq <;> omega

/-- Rounding does not cross an integer above. -/
theorem nearestEven_le {n : Int} {q : Rat} (h : q ≤ n) : nearestEven q ≤ n := by
  have hnear := (abs_le.mp (abs_nearestEven_sub_le q)).2
  have hlt : (nearestEven q : Rat) < (n + 1 : Int) := by
    push_cast
    linarith
  exact Int.lt_add_one_iff.mp (Int.cast_lt.mp hlt)

theorem nearestEven_nonneg {q : Rat} (hq : 0 ≤ q) : 0 ≤ nearestEven q :=
  le_nearestEven (by exact_mod_cast hq)

theorem floor_eq {q : Rat} {k : Int} (hle : k ≤ q) (hlt : q < k + 1) : q.floor = k :=
  le_antisymm (Int.lt_add_one_iff.mp (Rat.floor_lt_iff.mpr (by exact_mod_cast hlt)))
    (Rat.le_floor_iff.mpr hle)

/-! ## Powers of two -/

theorem twoPow_eq_zpow (e : Int) : twoPow e = (2 : Rat) ^ e := by
  unfold twoPow
  split
  · next h =>
    conv_rhs => rw [← Int.toNat_of_nonneg h]
    exact (Rat.zpow_natCast _ _).symm
  · next h =>
    have hneg : e = -((-e).toNat : Int) := by omega
    conv_rhs => rw [hneg, Rat.zpow_neg, Rat.zpow_natCast]
    rw [one_div]

theorem twoPow_pos (e : Int) : 0 < twoPow e := by
  rw [twoPow_eq_zpow]
  exact Rat.zpow_pos two_pos

theorem twoPow_natCast (k : Nat) : twoPow k = 2 ^ k := by
  rw [twoPow_eq_zpow, Rat.zpow_natCast]

theorem twoPow_add (e f : Int) : twoPow (e + f) = twoPow e * twoPow f := by
  simp only [twoPow_eq_zpow]
  exact Rat.zpow_add two_ne_zero e f

theorem twoPow_le {e f : Int} (h : e ≤ f) : twoPow e ≤ twoPow f := by
  simp only [twoPow_eq_zpow]
  exact zpow_le_zpow_right₀ one_le_two h

theorem lt_of_twoPow_lt {e f : Int} (h : twoPow e < twoPow f) : e < f :=
  lt_of_not_ge fun hle => absurd (twoPow_le hle) (not_le_of_gt h)

/-- A whole number lies between the power of two of its logarithm and the next one. -/
theorem natCast_between {n : Nat} (hn : n ≠ 0) :
    twoPow n.log2 ≤ n ∧ (n : Rat) < twoPow (n.log2 + 1) := by
  have hnext : ((n.log2 : Int) + 1) = ((n.log2 + 1 : Nat) : Int) := rfl
  rw [hnext, twoPow_natCast, twoPow_natCast]
  exact ⟨by exact_mod_cast Nat.log2_self_le hn, by exact_mod_cast Nat.lt_log2_self⟩

/-- **A positive number lies between the power of two of its exponent and the next one.** -/
theorem binaryExponent_between {q : Rat} (hq : 0 < q) :
    twoPow (binaryExponent q) ≤ q ∧ q < twoPow (binaryExponent q + 1) := by
  have hnum : (q.num.natAbs : Rat) = q.num := by
    rw [Nat.cast_natAbs, abs_of_pos (Rat.num_pos.mpr hq)]
  have hden : (0 : Rat) < q.den := by exact_mod_cast q.den_pos
  have hquotient : q * q.den = q.num.natAbs := by rw [Rat.mul_den_eq_num, hnum]
  obtain ⟨hnumLe, hnumLt⟩ := natCast_between (n := q.num.natAbs) (by simpa using hq.ne')
  obtain ⟨hdenLe, hdenLt⟩ := natCast_between q.den_ne_zero
  -- The logarithms of numerator and denominator leave two powers to choose from.
  set guess : Int := (q.num.natAbs.log2 : Int) - (q.den.log2 : Int) with hguess
  have hbelow : twoPow (guess - 1) ≤ q := by
    have hsum : twoPow (guess - 1) * twoPow (q.den.log2 + 1) = twoPow q.num.natAbs.log2 := by
      rw [← twoPow_add, hguess]
      congr 1
      omega
    have hpower := twoPow_pos (guess - 1)
    have hstep := mul_lt_mul_of_pos_left hdenLt hpower
    refine le_of_mul_le_mul_right ?_ hden
    linarith
  have habove : q < twoPow (guess + 1) := by
    have hsum : twoPow (guess + 1) * twoPow q.den.log2 = twoPow (q.num.natAbs.log2 + 1) := by
      rw [← twoPow_add, hguess]
      congr 1
      omega
    have hstep := mul_le_mul_of_nonneg_left hdenLe (twoPow_pos (guess + 1)).le
    refine lt_of_mul_lt_mul_right ?_ hden.le
    linarith
  unfold binaryExponent
  simp only [← hguess]
  split
  · next hle => exact ⟨hle, habove⟩
  · next hnot => exact ⟨hbelow, by simpa using hnot⟩

/-! ## The last place of a double -/

/-- The last place of a number below a power of two; the least exponent of a double stays away. -/
theorem lastPlace_le {q : Rat} {k : Int} (hq : 0 < q) (h : q < twoPow k) (hk : -1021 ≤ k) :
    lastPlace q ≤ k - 53 := by
  have hexponent := lt_of_twoPow_lt ((binaryExponent_between hq).1.trans_lt h)
  unfold lastPlace leastExponent
  omega

/-- A number is less than `2 ^ 53` last places. -/
theorem lt_twoPow_lastPlace {q : Rat} (hq : 0 < q) : q < twoPow (lastPlace q + 53) := by
  refine (binaryExponent_between hq).2.trans_le (twoPow_le ?_)
  unfold lastPlace
  omega

theorem toDouble_zero : toDouble 0 = 0 :=
  rfl

theorem toDouble_of_pos {q : Rat} (hq : 0 < q) :
    toDouble q = nearestEven (q / twoPow (lastPlace q)) * twoPow (lastPlace q) := by
  rw [toDouble, if_neg (not_le_of_gt hq)]

theorem toDouble_nonneg (q : Rat) : 0 ≤ toDouble q := by
  rcases le_or_gt q 0 with hq | hq
  · rw [toDouble, if_pos hq]
  · have hplace := twoPow_pos (lastPlace q)
    rw [toDouble_of_pos hq]
    exact mul_nonneg (by exact_mod_cast nearestEven_nonneg (div_pos hq hplace).le) hplace.le

/-- **The double of a number below `2 ^ k` is at most `2 ^ (k - 54)` away.** -/
theorem abs_toDouble_sub_le {q : Rat} {k : Int} (hq : 0 ≤ q) (h : q < twoPow k) (hk : -1021 ≤ k) :
    |toDouble q - q| ≤ twoPow (k - 54) := by
  rcases hq.eq_or_lt with rfl | hpos
  · rw [toDouble_zero, sub_zero, abs_zero]
    exact (twoPow_pos _).le
  have hplace := twoPow_pos (lastPlace q)
  have hhalf : twoPow (k - 53) = 2 * twoPow (k - 54) := by
    rw [show k - 53 = 1 + (k - 54) by omega, twoPow_add]
    rfl
  have hdifference : toDouble q - q
      = (nearestEven (q / twoPow (lastPlace q)) - q / twoPow (lastPlace q))
        * twoPow (lastPlace q) := by
    rw [toDouble_of_pos hpos, sub_mul, div_mul_cancel₀ _ hplace.ne']
  calc |toDouble q - q|
      = |nearestEven (q / twoPow (lastPlace q)) - q / twoPow (lastPlace q)|
          * twoPow (lastPlace q) := by rw [hdifference, abs_mul, abs_of_pos hplace]
    _ ≤ 1 / 2 * twoPow (lastPlace q) :=
        mul_le_mul_of_nonneg_right (abs_nearestEven_sub_le _) hplace.le
    _ ≤ 1 / 2 * twoPow (k - 53) := by
        have hle := twoPow_le (lastPlace_le hpos h hk)
        linarith
    _ = twoPow (k - 54) := by rw [hhalf]; ring

/-! ## Grids -/

/-- Being a multiple of a power of two. -/
def OnGrid (e : Int) (c : Rat) : Prop :=
  ∃ j : Int, c = j * twoPow e

theorem onGrid_intCast (n : Int) : OnGrid 0 n :=
  ⟨n, by rw [show twoPow 0 = 1 from rfl, mul_one]⟩

theorem OnGrid.mono {e f : Int} {c : Rat} (h : OnGrid f c) (hle : e ≤ f) : OnGrid e c := by
  obtain ⟨j, rfl⟩ := h
  obtain ⟨k, hk⟩ := Int.eq_ofNat_of_zero_le (Int.sub_nonneg_of_le hle)
  refine ⟨j * 2 ^ k, ?_⟩
  rw [show f = k + e by omega, twoPow_add, twoPow_natCast]
  push_cast
  ring

/-- Different multiples of a power of two are at least that power apart. -/
theorem OnGrid.add_le {e : Int} {a b : Rat} (ha : OnGrid e a) (hb : OnGrid e b) (h : a < b) :
    a + twoPow e ≤ b := by
  obtain ⟨i, rfl⟩ := ha
  obtain ⟨j, rfl⟩ := hb
  have hplace := twoPow_pos e
  have hlt : i + 1 ≤ j := by exact_mod_cast lt_of_mul_lt_mul_right h hplace.le
  calc (i : Rat) * twoPow e + twoPow e = ((i + 1 : Int) : Rat) * twoPow e := by push_cast; ring
    _ ≤ j * twoPow e := mul_le_mul_of_nonneg_right (by exact_mod_cast hlt) hplace.le

theorem onGrid_toDouble {q : Rat} (hq : 0 < q) : OnGrid (lastPlace q) (toDouble q) :=
  ⟨_, toDouble_of_pos hq⟩

/-- The double of a number does not cross a multiple of the last place below. -/
theorem le_toDouble {q c : Rat} (hq : 0 < q) (hgrid : OnGrid (lastPlace q) c) (h : c ≤ q) :
    c ≤ toDouble q := by
  obtain ⟨j, rfl⟩ := hgrid
  have hplace := twoPow_pos (lastPlace q)
  rw [toDouble_of_pos hq]
  refine mul_le_mul_of_nonneg_right ?_ hplace.le
  exact_mod_cast le_nearestEven ((le_div_iff₀ hplace).mpr h)

/-- The double of a number does not cross a multiple of the last place above. -/
theorem toDouble_le {q c : Rat} (hq : 0 < q) (hgrid : OnGrid (lastPlace q) c) (h : q ≤ c) :
    toDouble q ≤ c := by
  obtain ⟨j, rfl⟩ := hgrid
  have hplace := twoPow_pos (lastPlace q)
  rw [toDouble_of_pos hq]
  refine mul_le_mul_of_nonneg_right ?_ hplace.le
  exact_mod_cast nearestEven_le ((div_le_iff₀ hplace).mpr h)

theorem toDouble_le_twoPow {q : Rat} (hq : 0 < q) : toDouble q ≤ twoPow (lastPlace q + 53) := by
  refine toDouble_le hq ⟨2 ^ 53, ?_⟩ (lt_twoPow_lastPlace hq).le
  rw [add_comm, twoPow_add, show twoPow 53 = 2 ^ 53 from rfl]
  norm_cast

theorem toDouble_of_onGrid {q : Rat} (hq : 0 < q) (hgrid : OnGrid (lastPlace q) q) :
    toDouble q = q :=
  le_antisymm (toDouble_le hq hgrid le_rfl) (le_toDouble hq hgrid le_rfl)

/-- **Whole numbers below `2 ^ 53` are doubles.** -/
theorem toDouble_natCast {n : Nat} (h : n < 2 ^ 53) : toDouble n = n := by
  rcases n.eq_zero_or_pos with rfl | hpos
  · rfl
  · have hpos' : (0 : Rat) < n := by exact_mod_cast hpos
    have hlt : (n : Rat) < twoPow 53 := by
      rw [show (53 : Int) = (53 : Nat) from rfl, twoPow_natCast]
      exact_mod_cast h
    exact toDouble_of_onGrid hpos'
      ((onGrid_intCast n).mono (lastPlace_le hpos' hlt (by omega)))

/-- The double of a number below `2 ^ (53 + k)` exceeds the number by at most `2 ^ k`. -/
theorem toDouble_natCast_le {n k : Nat} (h : n < 2 ^ (53 + k)) : toDouble n ≤ n + 2 ^ k := by
  have hlt : (n : Rat) < twoPow (53 + k : Nat) := by
    rw [twoPow_natCast]
    exact_mod_cast h
  have hnear := (abs_le.mp (abs_toDouble_sub_le n.cast_nonneg hlt (by omega))).2
  have hplace : twoPow ((53 + k : Nat) - 54) ≤ 2 ^ k := by
    rw [← twoPow_natCast]
    exact twoPow_le (by omega)
  linarith

/-! ## Shortest digits -/

variable {n c : Nat}

theorem readsAs_iff : readsAs c n = true ↔ toDouble c = n :=
  beq_iff_eq

theorem toDouble_of_multiple? {step : Nat} (h : multiple? n step = some c) : toDouble c = n := by
  unfold multiple? at h
  dsimp only at h
  split at h
  · next hbelow habove =>
    cases h
    split
    · exact readsAs_iff.mp hbelow
    · exact readsAs_iff.mp habove
  · next hbelow _ =>
    cases h
    exact readsAs_iff.mp hbelow
  · next _ habove =>
    cases h
    exact readsAs_iff.mp habove
  · cases h

theorem toDouble_shortestFrom (h : toDouble n = n) : ∀ zeros, toDouble (shortestFrom n zeros) = n
  | 0 => h
  | zeros + 1 => by
    rw [shortestFrom]
    cases hc : multiple? n (Nat.pow 10 (zeros + 1)) with
    | some c => exact toDouble_of_multiple? hc
    | none => exact toDouble_shortestFrom h zeros

/-- **What is written for a double is read as the double.** -/
theorem toDouble_shortest (h : toDouble n = n) : toDouble (shortest n) = n :=
  toDouble_shortestFrom h _

/-- Only the number itself is read as a whole number below `2 ^ 53`. -/
theorem eq_of_toDouble_eq (hn : n < 2 ^ 53) (h : toDouble c = n) : c = n := by
  rcases lt_or_ge c (2 ^ 53) with hc | hc
  · rw [toDouble_natCast hc] at h
    exact_mod_cast h
  · -- the power of two below a number is a multiple of its last place
    have hcast : twoPow 53 ≤ (c : Rat) := by
      rw [show (53 : Int) = (53 : Nat) from rfl, twoPow_natCast]
      exact_mod_cast hc
    have hpos : (0 : Rat) < c := (twoPow_pos 53).trans_le hcast
    obtain ⟨hle, hlt⟩ := binaryExponent_between hpos
    have hexponent : (53 : Int) ≤ binaryExponent c :=
      Int.lt_add_one_iff.mp (lt_of_twoPow_lt (hcast.trans_lt hlt))
    have hplace : lastPlace c ≤ binaryExponent c := by
      unfold lastPlace leastExponent
      omega
    have hgrid : OnGrid (lastPlace c) (twoPow (binaryExponent c)) :=
      OnGrid.mono ⟨1, by rw [Int.cast_one, one_mul]⟩ hplace
    have hread : (2 : Rat) ^ 53 ≤ n := by
      rw [← h, ← twoPow_natCast]
      exact (twoPow_le hexponent).trans (le_toDouble hpos hgrid hle)
    exact absurd hn (not_lt_of_ge (by exact_mod_cast hread))

/-- Whole numbers below `2 ^ 53` are written with all their digits. -/
theorem shortest_of_lt (hn : n < 2 ^ 53) : shortest n = n :=
  eq_of_toDouble_eq hn (toDouble_shortest (toDouble_natCast hn))

-- from `2 ^ 53` on, `2 ^ 58` here, the last digits can be left out
example : shortest 288230376151711744 = 288230376151711740 := by decide +kernel

end Decimal

end MutationTesting
