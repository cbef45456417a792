import Mathlib.Data.Rat.Floor
import Mathlib.Tactic.Linarith
import Mathlib.Tactic.NormNum
import Mathlib.Tactic.Ring
import MutationTesting.Campaign.Report
import MutationTesting.Proofs.Decimal.Rounding
import MutationTesting.Proofs.Mutation.Names

/-!
# Durations as users read them

A duration is shown in milliseconds, in tenths of a second, or in minutes and seconds. The duration
itself decides which of the three it is, and only then is the number rounded. So the number can be
rounded up to the next greater unit, which is written nevertheless in the smaller one.

* `Report.Shown` — what a text says about a duration, with the normal form and the distance
* `Report.Shown.text_inj` — a text says one thing only
* `Report.abs_seconds_sub_le` — up to 194 days, the double of the seconds is less than a nanosecond
  away from the duration
* `Report.renders_normally_iff` — exactly when a text is in normal form and at most half a unit away
-/

namespace MutationTesting

/-- The digits in front of a text that begins with another character are determined by the text. -/
theorem repr_append_inj {m n : Nat} {c d : Char} {l r : List Char}
    (h : m.repr.toList ++ c :: l = n.repr.toList ++ d :: r) (hc : c.isDigit = false)
    (hd : d.isDigit = false) : m = n ∧ c = d ∧ l = r := by
  have htake := congrArg (List.takeWhile Char.isDigit) h
  have hdrop := congrArg (List.dropWhile Char.isDigit) h
  rw [List.takeWhile_append_of_pos fun _ => isDigit_of_mem_repr,
    List.takeWhile_append_of_pos fun _ => isDigit_of_mem_repr,
    List.takeWhile_cons_of_neg (by simp [hc]), List.takeWhile_cons_of_neg (by simp [hd]),
    List.append_nil, List.append_nil] at htake
  rw [List.dropWhile_append_of_pos fun _ => isDigit_of_mem_repr,
    List.dropWhile_append_of_pos fun _ => isDigit_of_mem_repr,
    List.dropWhile_cons_of_neg (by simp [hc]), List.dropWhile_cons_of_neg (by simp [hd]),
    List.cons.injEq] at hdrop
  exact ⟨repr_inj htake, hdrop⟩

namespace Decimal

/-- A number without decimal places is written as the integer it is rounded to. -/
theorem fixed_zero (q : Rat) : fixed 0 q = (nearestEven q).toNat.repr := by
  rw [Nat.repr_eq_ofList_toDigits, fixed, withPoint, if_pos rfl, pow_zero, mul_one]

theorem withPoint_one (n : Nat) :
    withPoint 1 (Nat.toDigits 10 n)
      = Nat.toDigits 10 (n / 10) ++ '.' :: Nat.toDigits 10 (n % 10) := by
  have hdigit : Nat.toDigits 10 (n % 10) = [(n % 10).digitChar] :=
    Nat.toDigits_of_lt_base (Nat.mod_lt n (by decide))
  rcases lt_or_ge n 10 with hlt | hge
  · rw [hdigit, Nat.toDigits_of_lt_base hlt, Nat.div_eq_of_lt hlt, Nat.mod_eq_of_lt hlt]
    rfl
  · have hlength : 0 < (Nat.toDigits 10 (n / 10)).length := Nat.length_toDigits_pos
    rw [hdigit, Nat.toDigits_of_base_le (by decide) hge, withPoint, if_neg (by decide)]
    have hfull : 1 + 1 - (Nat.toDigits 10 (n / 10) ++ [(n % 10).digitChar]).length = 0 := by
      rw [List.length_append, List.length_singleton]
      omega
    dsimp only
    rw [hfull]
    simp

/-- A number with one decimal place is written as its tenths, with a point before the last digit. -/
theorem fixed_one (q : Rat) :
    fixed 1 q = ((nearestEven (q * 10)).toNat / 10).repr ++ "."
      ++ ((nearestEven (q * 10)).toNat % 10).repr := by
  rw [fixed, pow_one, withPoint_one]
  simp [Nat.repr_eq_ofList_toDigits, String.append_assoc]

end Decimal

namespace Report

open Decimal (nearestEven toDouble twoPow lastPlace OnGrid)

/-! ## What a text says -/

/-- What a text says about a duration: a number of milliseconds, of tenths of a second, or of
minutes and seconds. -/
inductive Shown where
  | milliseconds (count : Nat)
  | tenths (count : Nat)
  | minutes (count rest : Nat)
deriving DecidableEq

namespace Shown

/-- How it is written. -/
def text : Shown → String
  | milliseconds n => n.repr ++ "ms"
  | tenths n => (n / 10).repr ++ "." ++ (n % 10).repr ++ "s"
  | minutes m s => m.repr ++ "m " ++ s.repr ++ "s"

/-- The number stays below the next greater unit: a second, a minute, and again a minute. -/
def IsNormal : Shown → Prop
  | milliseconds n => n < 1000
  | tenths n => n < 600
  | minutes _ s => s < 60

/-- The duration that is written, in nanoseconds. -/
def nanos : Shown → Nat
  | milliseconds n => n * 10 ^ 6
  | tenths n => n * 10 ^ 8
  | minutes m s => (m * 60 + s) * 10 ^ 9

/-- The last unit that is written, in nanoseconds. -/
def unit : Shown → Nat
  | milliseconds _ => 10 ^ 6
  | tenths _ => 10 ^ 8
  | minutes _ _ => 10 ^ 9

/-- The duration that is written differs from another one by at most half of the last unit. -/
def IsNear (s : Shown) (nanos : Nat) : Prop :=
  2 * ((s.nanos : Int) - nanos).natAbs ≤ s.unit

instance (s : Shown) : Decidable s.IsNormal := by
  cases s <;> exact inferInstanceAs (Decidable (_ < _))

instance (s : Shown) (nanos : Nat) : Decidable (s.IsNear nanos) :=
  inferInstanceAs (Decidable (_ ≤ _))

theorem toList_milliseconds (n : Nat) :
    (milliseconds n).text.toList = n.repr.toList ++ 'm' :: ['s'] := by
  simp [text]

theorem toList_tenths (n : Nat) :
    (tenths n).text.toList
      = (n / 10).repr.toList ++ '.' :: ((n % 10).repr.toList ++ 's' :: []) := by
  simp [text]

theorem toList_minutes (m s : Nat) :
    (minutes m s).text.toList = m.repr.toList ++ 'm' :: ' ' :: (s.repr.toList ++ 's' :: []) := by
  simp [text]

/-- **A text says one thing only.** -/
theorem text_inj {a b : Shown} (h : a.text = b.text) : a = b := by
  have hl := congrArg String.toList h
  cases a <;> cases b <;>
    simp only [toList_milliseconds, toList_tenths, toList_minutes] at hl <;>
    obtain ⟨hfirst, hmark, hrest⟩ := repr_append_inj hl (by decide) (by decide)
  case milliseconds.milliseconds => rw [hfirst]
  case tenths.tenths =>
    obtain ⟨hlast, -, -⟩ := repr_append_inj hrest (by decide) (by decide)
    rw [tenths.injEq]
    omega
  case minutes.minutes =>
    obtain ⟨hseconds, -, -⟩ :=
      repr_append_inj (List.cons.inj hrest).2 (by decide) (by decide)
    rw [hfirst, hseconds]
  case milliseconds.minutes | minutes.milliseconds => simp at hrest
  all_goals exact absurd hmark (by decide)

end Shown

/-- What is shown about a duration. -/
def shown (nanos : Nat) : Shown :=
  let secs := seconds nanos
  if secs < 1 then .milliseconds (nearestEven (toDouble (secs * 1000))).toNat
  else if secs < 60 then .tenths (nearestEven (secs * 10)).toNat
  else
    .minutes (Decimal.shortest (toDouble (secs / 60)).floor.toNat)
      (nearestEven (secs - 60 * (secs / 60).floor)).toNat

theorem durationText_eq (nanos : Nat) : durationText nanos = (shown nanos).text := by
  unfold durationText shown
  dsimp only
  split
  · rw [Decimal.fixed_zero, Shown.text]
  split
  · rw [Decimal.fixed_one, Shown.text]
  · rw [Decimal.fixed_zero, Shown.text]

/-- The text of a duration is in normal form, and says a duration at most half a unit away. -/
def RendersNormally (nanos : Nat) : Prop :=
  ∃ s : Shown, durationText nanos = s.text ∧ s.IsNormal ∧ s.IsNear nanos

theorem rendersNormally_iff_shown (nanos : Nat) :
    RendersNormally nanos ↔ (shown nanos).IsNormal ∧ (shown nanos).IsNear nanos := by
  constructor
  · rintro ⟨s, htext, hnormal, hnear⟩
    rw [durationText_eq] at htext
    rw [Shown.text_inj htext]
    exact ⟨hnormal, hnear⟩
  · rintro ⟨hnormal, hnear⟩
    exact ⟨shown nanos, durationText_eq nanos, hnormal, hnear⟩

/-! ## The double of the seconds -/

/-- The number of which the seconds are the double: the whole seconds and the double of the rest. -/
def unrounded (nanos : Nat) : Rat :=
  (nanos / 1000000000 : Nat) + toDouble ((nanos % 1000000000 : Nat) / 1000000000)

variable {nanos : Nat}

/-- In 194 days there are less than `2 ^ 24` seconds. -/
theorem seconds_eq (h : nanos < 2 ^ 24 * 1000000000) :
    seconds nanos = toDouble (unrounded nanos) := by
  have hwhole : nanos / 1000000000 < 2 ^ 53 := by omega
  unfold seconds unrounded
  dsimp only
  rw [Decimal.toDouble_natCast hwhole]

theorem natCast_div_eq (nanos : Nat) :
    (nanos : Rat) / 1000000000
      = (nanos / 1000000000 : Nat) + ((nanos % 1000000000 : Nat) : Rat) / 1000000000 := by
  have hsplit : ((1000000000 * (nanos / 1000000000) + nanos % 1000000000 : Nat) : Rat) = nanos := by
    rw [Nat.div_add_mod]
  push_cast at hsplit ⊢
  linarith

theorem abs_unrounded_sub_le (nanos : Nat) :
    |unrounded nanos - nanos / 1000000000| ≤ twoPow (-54) := by
  have hrest : ((nanos % 1000000000 : Nat) : Rat) / 1000000000 < twoPow 0 := by
    rw [show twoPow 0 = 1 from rfl, div_lt_one (by norm_num)]
    exact_mod_cast Nat.mod_lt nanos (by decide)
  have hnear := Decimal.abs_toDouble_sub_le (div_nonneg (Nat.cast_nonneg _) (by norm_num)) hrest
    (by decide)
  rw [natCast_div_eq, unrounded, add_sub_add_left_eq_sub]
  exact hnear

theorem le_unrounded (nanos : Nat) : ((nanos / 1000000000 : Nat) : Rat) ≤ unrounded nanos :=
  le_add_of_nonneg_right (Decimal.toDouble_nonneg _)

theorem unrounded_lt (h : nanos < 2 ^ 24 * 1000000000) : unrounded nanos < twoPow 24 := by
  have hnear := (abs_le.mp (abs_unrounded_sub_le nanos)).2
  have hnanos : (nanos : Rat) + 1 ≤ 2 ^ 24 * 1000000000 := by exact_mod_cast h
  rw [show twoPow (-54) = 1 / 2 ^ 54 from rfl] at hnear
  rw [show twoPow 24 = 2 ^ 24 from rfl]
  linarith

theorem unrounded_nonneg (nanos : Nat) : 0 ≤ unrounded nanos :=
  (Nat.cast_nonneg _).trans (le_unrounded nanos)

/-- **Up to 194 days, the double of the seconds is less than a nanosecond away.** -/
theorem abs_seconds_sub_le (h : nanos < 2 ^ 24 * 1000000000) :
    |1000000000 * seconds nanos - nanos| ≤ 15 / 16 := by
  have hsum := abs_le.mp (abs_unrounded_sub_le nanos)
  have hdouble := abs_le.mp
    (Decimal.abs_toDouble_sub_le (unrounded_nonneg nanos) (unrounded_lt h) (by decide))
  rw [← seconds_eq h] at hdouble
  rw [show twoPow (-54) = 1 / 2 ^ 54 from rfl] at hsum
  rw [show twoPow (24 - 54) = 1 / 2 ^ 30 from rfl] at hdouble
  rw [abs_le]
  constructor <;> linarith

/-- Its last place is behind the point. -/
theorem lastPlace_unrounded_le (h : nanos < 2 ^ 24 * 1000000000) (hpos : 0 < unrounded nanos) :
    lastPlace (unrounded nanos) ≤ -29 :=
  Decimal.lastPlace_le hpos (unrounded_lt h) (by decide)

/-- **Whole numbers of seconds are told apart.** The double is less than a nanosecond away, and
rounding does not cross a whole number. -/
theorem natCast_le_seconds (h : nanos < 2 ^ 24 * 1000000000) (k : Nat) :
    k ≤ seconds nanos ↔ k * 1000000000 ≤ nanos := by
  constructor
  · intro hk
    have hnear := (abs_le.mp (abs_seconds_sub_le h)).2
    have hlt : ((k * 1000000000 : Nat) : Rat) < (nanos + 1 : Nat) := by
      push_cast
      linarith
    exact Nat.lt_add_one_iff.mp (Nat.cast_lt.mp hlt)
  · intro hk
    rw [seconds_eq h]
    have hsum : (k : Rat) ≤ unrounded nanos := by
      refine le_trans ?_ (le_unrounded nanos)
      exact_mod_cast (Nat.le_div_iff_mul_le (by decide)).mpr hk
    rcases (unrounded_nonneg nanos).eq_or_lt with hzero | hpos
    · rw [← hzero] at hsum ⊢
      exact hsum
    · have hgrid := (Decimal.onGrid_intCast k).mono
        ((lastPlace_unrounded_le h hpos).trans (by decide : (-29 : Int) ≤ 0))
      exact Decimal.le_toDouble hpos hgrid hsum

theorem seconds_lt_natCast (h : nanos < 2 ^ 24 * 1000000000) (k : Nat) :
    seconds nanos < k ↔ nanos < k * 1000000000 := by
  rw [← not_le, natCast_le_seconds h, not_le]

/-! ## Minutes -/

/-- **The double of a sixtieth does not reach what the number does not reach.** On the grid of its
last place, the number stays a last place below; the sixtieth has a last place that is finer by five
powers of two, so that rounding it makes up for less. -/
theorem toDouble_div_sixty_lt {g : Int} {x c : Rat} (hx : OnGrid g x) (hc : OnGrid g c)
    (hnonneg : 0 ≤ x) (hbound : x ≤ twoPow (g + 53)) (hg : -1069 ≤ g) (hlt : x < c) :
    toDouble (x / 60) < c / 60 := by
  have hgap := hx.add_le hc hlt
  have hscale : twoPow (g + 53) = 32 * twoPow (g + 48) := by
    rw [show g + 53 = 5 + (g + 48) by omega, Decimal.twoPow_add, show twoPow 5 = 32 from rfl]
  have hfine : twoPow g = 64 * twoPow (g + 48 - 54) := by
    rw [show twoPow g = twoPow (6 + (g + 48 - 54)) by congr 1; omega, Decimal.twoPow_add,
      show twoPow 6 = 64 from rfl]
  have hpower := Decimal.twoPow_pos (g + 48)
  have hhalf := Decimal.twoPow_pos (g + 48 - 54)
  have hnear := (abs_le.mp (Decimal.abs_toDouble_sub_le (q := x / 60) (k := g + 48)
    (by linarith) (by linarith) (by omega))).2
  linarith

theorem toDouble_minutes_lt (h : nanos < 2 ^ 24 * 1000000000) (hminute : 60000000000 ≤ nanos)
    {k : Nat} (hk : seconds nanos < (60 * k : Nat)) : toDouble (seconds nanos / 60) < k := by
  have hsum : (60 : Rat) ≤ unrounded nanos := by
    refine le_trans ?_ (le_unrounded nanos)
    exact_mod_cast (Nat.le_div_iff_mul_le (by decide)).mpr hminute
  have hpos : 0 < unrounded nanos := by linarith
  have hplace := lastPlace_unrounded_le h hpos
  have hlow : 0 < lastPlace (unrounded nanos) + 53 := by
    refine Decimal.lt_of_twoPow_lt (lt_of_le_of_lt ?_ (Decimal.lt_twoPow_lastPlace hpos))
    rw [show twoPow 0 = 1 from rfl]
    linarith
  have hgrid := (Decimal.onGrid_intCast (60 * k : Nat)).mono
    (by omega : lastPlace (unrounded nanos) ≤ 0)
  rw [seconds_eq h] at hk ⊢
  have hnext := toDouble_div_sixty_lt (Decimal.onGrid_toDouble hpos) hgrid
    (Decimal.toDouble_nonneg _) (Decimal.toDouble_le_twoPow hpos) (by omega) hk
  push_cast at hnext
  linarith

theorem sixty_le_seconds (h : nanos < 2 ^ 24 * 1000000000) (hminute : 60000000000 ≤ nanos) :
    60 ≤ seconds nanos := by
  exact_mod_cast (natCast_le_seconds h 60).mpr hminute

/-- **Up to 194 days, the minutes that are shown are those of the duration.** -/
theorem floor_minutes (h : nanos < 2 ^ 24 * 1000000000) (hminute : 60000000000 ≤ nanos) :
    (seconds nanos / 60).floor = (nanos / 60000000000 : Nat)
      ∧ (toDouble (seconds nanos / 60)).floor = (nanos / 60000000000 : Nat) := by
  have hbelow := Nat.mul_div_le nanos 60000000000
  have habove := Nat.lt_mul_div_succ nanos (by decide : 0 < 60000000000)
  generalize nanos / 60000000000 = k at hbelow habove ⊢
  have hle : ((60 * k : Nat) : Rat) ≤ seconds nanos := (natCast_le_seconds h _).mpr (by linarith)
  have hlt : seconds nanos < ((60 * (k + 1) : Nat) : Rat) :=
    (seconds_lt_natCast h _).mpr (by linarith)
  push_cast at hle hlt
  have hsixty := sixty_le_seconds h hminute
  have hpos : 0 < seconds nanos / 60 := by linarith
  have hsmall : seconds nanos / 60 < twoPow 24 := by
    have hbound := (seconds_lt_natCast h (2 ^ 24)).mpr h
    push_cast at hbound
    rw [show twoPow 24 = 2 ^ 24 from rfl]
    linarith
  have hgrid := (Decimal.onGrid_intCast k).mono
    ((Decimal.lastPlace_le hpos hsmall (by decide)).trans (by decide : (24 : Int) - 53 ≤ 0))
  refine ⟨Decimal.floor_eq ?_ ?_, Decimal.floor_eq ?_ ?_⟩
  · push_cast
    linarith
  · push_cast
    linarith
  · refine Decimal.le_toDouble hpos hgrid ?_
    push_cast
    linarith
  · have hnext := toDouble_minutes_lt h hminute (k := k + 1) (by push_cast; exact hlt)
    exact_mod_cast hnext

/-! ## Near -/

/-- An integer less than one above a bound is within the bound. -/
theorem natAbs_le_of_abs_lt {a : Int} {bound : Nat} (h : |(a : Rat)| < bound + 1) :
    a.natAbs ≤ bound := by
  have hcast : ((a.natAbs : Nat) : Rat) < (bound + 1 : Nat) := by
    rw [Nat.cast_natAbs, Int.cast_abs]
    exact_mod_cast h
  exact Nat.lt_add_one_iff.mp (Nat.cast_lt.mp hcast)

/-- If a number of units is less than a nanosecond away from a duration, the rounded number is at
most half a unit away: both are whole numbers of nanoseconds, and so is half a unit. -/
theorem natAbs_nearestEven_sub_le (half : Nat) {q : Rat} {a : Int} (hq : 0 ≤ q)
    (h : |q * (2 * half : Nat) - a| < 1) :
    2 * (((nearestEven q).toNat * (2 * half : Nat) : Int) - a).natAbs ≤ 2 * half := by
  refine Nat.mul_le_mul_left 2 (natAbs_le_of_abs_lt ?_)
  have hround := abs_le.mp (Decimal.abs_nearestEven_sub_le q)
  have hnear := abs_lt.mp h
  have hhalf : (0 : Rat) ≤ half := half.cast_nonneg
  have hlow := mul_le_mul_of_nonneg_right hround.1 hhalf
  have hhigh := mul_le_mul_of_nonneg_right hround.2 hhalf
  rw [Int.toNat_of_nonneg (Decimal.nearestEven_nonneg hq)]
  push_cast at hnear ⊢
  rw [abs_lt]
  constructor <;> linarith

/-- Below a second, what is shown are milliseconds, and they are near. -/
theorem shown_of_lt_second (hsecond : nanos < 1000000000) :
    ∃ n, shown nanos = .milliseconds n ∧ (Shown.milliseconds n).IsNear nanos := by
  have h : nanos < 2 ^ 24 * 1000000000 := by omega
  have hlt : seconds nanos < 1 := by
    exact_mod_cast (seconds_lt_natCast h 1).mpr (by omega)
  have hpos : 0 ≤ seconds nanos := by
    exact_mod_cast (natCast_le_seconds h 0).mpr (by omega)
  have hnear := abs_le.mp (abs_seconds_sub_le h)
  have hdouble := abs_le.mp (Decimal.abs_toDouble_sub_le (q := seconds nanos * 1000) (k := 10)
    (by linarith) (by rw [show twoPow 10 = 1024 from rfl]; linarith) (by decide))
  rw [show twoPow (10 - 54) = 1 / 2 ^ 44 from rfl] at hdouble
  refine ⟨(nearestEven (toDouble (seconds nanos * 1000))).toNat, ?_, ?_⟩
  · unfold shown
    dsimp only
    rw [if_pos hlt]
  · refine natAbs_nearestEven_sub_le 500000 (Decimal.toDouble_nonneg _) ?_
    rw [abs_lt]
    push_cast
    constructor <;> linarith

/-- Below a minute, what is shown are tenths of a second, and they are near. -/
theorem shown_of_lt_minute (hsecond : 1000000000 ≤ nanos) (hminute : nanos < 60000000000) :
    ∃ n, shown nanos = .tenths n ∧ (Shown.tenths n).IsNear nanos := by
  have h : nanos < 2 ^ 24 * 1000000000 := by omega
  have hle : (1 : Rat) ≤ seconds nanos := by
    exact_mod_cast (natCast_le_seconds h 1).mpr (by omega)
  have hlt : seconds nanos < 60 := by
    exact_mod_cast (seconds_lt_natCast h 60).mpr (by omega)
  have hnear := abs_le.mp (abs_seconds_sub_le h)
  refine ⟨(nearestEven (seconds nanos * 10)).toNat, ?_, ?_⟩
  · unfold shown
    dsimp only
    rw [if_neg (not_lt_of_ge hle), if_pos hlt]
  · refine natAbs_nearestEven_sub_le 50000000 (by linarith) ?_
    rw [abs_lt]
    push_cast
    constructor <;> linarith

/-- The seconds behind the whole minutes, as they are rounded. -/
def restShown (nanos : Nat) : Nat :=
  (nearestEven (seconds nanos - 60 * (nanos / 60000000000 : Nat))).toNat

/-- From a minute to 194 days, what is shown are the minutes of the duration and seconds. -/
theorem shown_of_minutes (hminute : 60000000000 ≤ nanos) (h : nanos < 2 ^ 24 * 1000000000) :
    shown nanos = .minutes (nanos / 60000000000) (restShown nanos) := by
  obtain ⟨hfloor, hdouble⟩ := floor_minutes h hminute
  have hsixty := sixty_le_seconds h hminute
  unfold shown restShown
  dsimp only
  rw [if_neg (by linarith), if_neg (not_lt_of_ge hsixty), hfloor, hdouble, Int.toNat_natCast,
    Int.cast_natCast, Decimal.shortest_of_lt (by omega)]

/-- With the minutes of the duration itself, only the rest of the minute counts. -/
theorem isNear_minutes_iff (nanos s : Nat) :
    (Shown.minutes (nanos / 60000000000) s).IsNear nanos
      ↔ 2 * (((s * (2 * 500000000) : Nat) : Int) - (nanos % 60000000000 : Nat)).natAbs
        ≤ 2 * 500000000 := by
  simp only [Shown.IsNear, Shown.nanos, Shown.unit]
  omega

theorem isNear_minutes (h : nanos < 2 ^ 24 * 1000000000) :
    (Shown.minutes (nanos / 60000000000) (restShown nanos)).IsNear nanos := by
  have hnear := abs_le.mp (abs_seconds_sub_le h)
  have hsplit := Nat.div_add_mod nanos 60000000000
  rw [isNear_minutes_iff, restShown]
  generalize nanos / 60000000000 = m at hsplit ⊢
  generalize nanos % 60000000000 = rest at hsplit ⊢
  have hle := (natCast_le_seconds h (60 * m)).mpr (by linarith)
  have hcast : (60000000000 * m + rest : Rat) = nanos := by exact_mod_cast hsplit
  push_cast at hle
  refine natAbs_nearestEven_sub_le 500000000 (by linarith) ?_
  rw [abs_lt]
  push_cast
  constructor <;> linarith

/-! ## Halves -/

/-- Half a second more than a whole number of seconds is a double. -/
theorem seconds_of_half (h : nanos < 2 ^ 24 * 1000000000)
    (hhalf : nanos % 1000000000 = 500000000) :
    seconds nanos = (nanos / 1000000000 : Nat) + 1 / 2 := by
  have hdouble : toDouble ((500000000 : Nat) / 1000000000) = 1 / 2 := by decide +kernel
  have hsum : unrounded nanos = (nanos / 1000000000 : Nat) + 1 / 2 := by
    rw [unrounded, hhalf, hdouble]
  have hpos : 0 < unrounded nanos := by
    rw [hsum]
    positivity
  have hgrid : OnGrid (-1) (unrounded nanos) := by
    refine ⟨2 * (nanos / 1000000000 : Nat) + 1, ?_⟩
    rw [hsum, show twoPow (-1) = 1 / 2 from rfl]
    generalize nanos / 1000000000 = whole
    push_cast
    ring
  rw [seconds_eq h, Decimal.toDouble_of_onGrid hpos (hgrid.mono
    ((lastPlace_unrounded_le h hpos).trans (by decide))), hsum]

/-- Half a second before the next minute, sixty seconds are shown. -/
theorem restShown_of_half (h : nanos < 2 ^ 24 * 1000000000)
    (hhalf : nanos % 60000000000 = 59500000000) : restShown nanos = 60 := by
  have hseconds := seconds_of_half h (by omega)
  have hwhole : nanos / 1000000000 = 60 * (nanos / 60000000000) + 59 := by omega
  have hrest : seconds nanos - 60 * (nanos / 60000000000 : Nat) = 119 / 2 := by
    rw [hseconds, hwhole]
    push_cast
    ring
  rw [restShown, hrest]
  decide +kernel

/-! ## Normal and near -/

/-- A count of units that is near a duration stays below a limit exactly if the duration stays more
than half a unit below it, given that a duration exactly half a unit below is rounded up. -/
theorem count_lt_iff (limit half : Nat) {count : Nat}
    (hnear : 2 * (((count * (2 * half) : Nat) : Int) - nanos).natAbs ≤ 2 * half)
    (htie : nanos + half = limit * (2 * half) → limit ≤ count) :
    count < limit ↔ nanos + half < limit * (2 * half) := by
  constructor
  · intro hlt
    have hstep := Nat.mul_le_mul_right (2 * half) hlt
    rw [Nat.succ_mul] at hstep
    omega
  · intro hlt
    by_contra hge
    have hstep := Nat.mul_le_mul_right (2 * half) (not_lt.mp hge)
    omega

theorem normal_of_lt_second (h : nanos < 1000000000) :
    (shown nanos).IsNormal ∧ (shown nanos).IsNear nanos ↔ nanos < 999500000 := by
  have htie : shown 999500000 = .milliseconds 1000 := by decide +kernel
  obtain ⟨n, hshown, hnear⟩ := shown_of_lt_second h
  have hcount := count_lt_iff 1000 500000 hnear (by
    intro hhalf
    obtain rfl : nanos = 999500000 := by omega
    rw [htie, Shown.milliseconds.injEq] at hshown
    exact hshown.le)
  rw [hshown, and_iff_left hnear]
  exact hcount.trans (by omega)

theorem normal_of_lt_minute (hsecond : 1000000000 ≤ nanos) (h : nanos < 60000000000) :
    (shown nanos).IsNormal ∧ (shown nanos).IsNear nanos ↔ nanos < 59950000000 := by
  have htie : shown 59950000000 = .tenths 600 := by decide +kernel
  obtain ⟨n, hshown, hnear⟩ := shown_of_lt_minute hsecond h
  have hcount := count_lt_iff 600 50000000 hnear (by
    intro hhalf
    obtain rfl : nanos = 59950000000 := by omega
    rw [htie, Shown.tenths.injEq] at hshown
    exact hshown.le)
  rw [hshown, and_iff_left hnear]
  exact hcount.trans (by omega)

theorem normal_of_minutes (hminute : 60000000000 ≤ nanos) (h : nanos < 2 ^ 24 * 1000000000) :
    (shown nanos).IsNormal ∧ (shown nanos).IsNear nanos
      ↔ nanos % 60000000000 < 59500000000 := by
  have hnear := isNear_minutes h
  have hcount := count_lt_iff 60 500000000 ((isNear_minutes_iff _ _).mp hnear)
    fun hhalf => (restShown_of_half h (by omega)).ge
  rw [shown_of_minutes hminute h, and_iff_left hnear]
  exact hcount.trans (by omega)

/-- **When a duration is rendered in normal form.** Up to 194 days the text is in normal form and at
most half a unit away exactly if rounding the number does not carry into the next greater unit: in
the last half millisecond of a second, the last twentieth of a second of a minute, and the last half
second of each later minute, it does. From `2 ^ 24` seconds on, a double is coarser than a
nanosecond, and the numbers that are shown decide. -/
theorem renders_normally_iff (nanos : Nat) :
    RendersNormally nanos ↔
      if nanos < 1000000000 then nanos < 999500000
      else if nanos < 60000000000 then nanos < 59950000000
      else if nanos < 2 ^ 24 * 1000000000 then nanos % 60000000000 < 59500000000
      else (shown nanos).IsNormal ∧ (shown nanos).IsNear nanos := by
  rw [rendersNormally_iff_shown]
  split
  · next hsecond => exact normal_of_lt_second hsecond
  · next hsecond =>
    split
    · next hminute => exact normal_of_lt_minute (not_lt.mp hsecond) hminute
    · next hminute =>
      split
      · next h => exact normal_of_minutes (not_lt.mp hminute) h
      · exact Iff.rfl

/-- Durations that are rounded up to the next greater unit, and one that is more than half a second
away from what is shown. -/
theorem carrying_not_normal :
    ¬ RendersNormally 999600000 ∧ ¬ RendersNormally 59960000000 ∧ ¬ RendersNormally 119600000000
      ∧ ¬ RendersNormally 16777216500000001 := by
  simp only [rendersNormally_iff_shown]
  decide +kernel

end Report

end MutationTesting
