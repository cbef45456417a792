import Mathlib.Data.Int.ModEq
import Mathlib.Data.Rat.Floor
import MutationTesting.Mutation.Catalogue

/-!
# Words and integers

The operators of the machine work on words. Here their results are compared with what the integers
say that the words stand for: a sum, a difference, a product and a quotient are the one word that is
congruent to the exact result, a remainder and a shift to the right are exact, and a comparison
finds what is true of the integers.

* `Operator.WrapsTo` — the result is the one word that is congruent to an integer
* `Operator.shiftAmount` — how far a word shifts another one
* `Operator.finds?` — what a comparison finds
* `Operator.evaluate_exact` — **every operator against the integers**
-/

namespace MutationTesting.Operator

variable {op : Operator} {lhs rhs v : Int64} {z : Int}

/-! ## Congruent words -/

/-- The result of an operator is the word, and the only one, that is congruent to an integer modulo
`2 ^ 64`. -/
def WrapsTo (op : Operator) (lhs rhs : Int64) (z : Int) : Prop :=
  ∃ v, op.evaluate lhs rhs = some v ∧ v.toInt ≡ z [ZMOD 2 ^ 64] ∧
    ∀ w : Int64, w.toInt ≡ z [ZMOD 2 ^ 64] → w = v

theorem wrapsTo_of_bmod (h : op.evaluate lhs rhs = some v) (hv : v.toInt = z.bmod (2 ^ 64)) :
    op.WrapsTo lhs rhs z := by
  refine ⟨v, h, ?_, fun w hw => ?_⟩
  · rw [hv]
    exact Int.bmod_emod
  · have hword : w.toInt = w.toInt.bmod (2 ^ 64) := w.toInt_bmod.symm
    rw [← Int64.toInt_inj, hv, hword, ← Int.emod_bmod, ← Int.emod_bmod (x := z)]
    exact congrArg (Int.bmod · (2 ^ 64)) hw

/-! ## Division -/

theorem toInt_ne_zero (h : rhs ≠ 0) : rhs.toInt ≠ 0 :=
  fun hzero => h (Int64.toInt_inj.mp hzero)

/-- The only operators without a result are divisions and remainders by zero. -/
theorem evaluate_eq_none_iff :
    op.evaluate lhs rhs = none ↔ (op = .div ∨ op = .rem) ∧ rhs = 0 := by
  cases op <;> simp [evaluate]

theorem evaluate_div (h : rhs ≠ 0) : div.evaluate lhs rhs = some (lhs / rhs) :=
  if_neg h

theorem evaluate_rem (h : rhs ≠ 0) : rem.evaluate lhs rhs = some (lhs % rhs) :=
  if_neg h

/-- A remainder is smaller than the divisor and has the sign of the dividend. -/
theorem tmod_spec {x y : Int} (hy : y ≠ 0) :
    (x.tmod y).natAbs < y.natAbs ∧ (x.tmod y ≠ 0 → (x.tmod y).sign = x.sign) := by
  constructor
  · rw [Int.natAbs_tmod]
    exact Nat.mod_lt _ (Int.natAbs_pos.mpr hy)
  · intro hne
    rw [Int.sign_tmod, if_neg]
    exact fun hdvd => hne (Int.tmod_eq_zero_of_dvd hdvd)

/-! ## Shifts -/

/-- How far a word shifts another one: its remainder modulo 64, also if it is negative. -/
def shiftAmount (rhs : Int64) : Nat :=
  (rhs.toInt % 64).toNat

theorem shiftAmount_eq (rhs : Int64) : (shiftAmount rhs : Int) = rhs.toInt % 64 :=
  Int.toNat_of_nonneg (Int.emod_nonneg _ (by decide))

theorem shiftAmount_lt (rhs : Int64) : shiftAmount rhs < 64 := by
  have hlt : rhs.toInt % 64 < 64 := Int.emod_lt_of_pos _ (by decide)
  rw [← shiftAmount_eq] at hlt
  exact_mod_cast hlt

/-- The words that are shifted by are taken modulo 64 as integers. -/
theorem toNat_smod (rhs : Int64) : (rhs.toBitVec.smod 64).toNat = shiftAmount rhs := by
  have hint : (rhs.toBitVec.smod 64).toInt = shiftAmount rhs := by
    rw [BitVec.toInt_smod, shiftAmount_eq, Int.fmod_eq_emod_of_nonneg _ (by decide)]
    rfl
  have hlt := shiftAmount_lt rhs
  rw [BitVec.toInt_eq_toNat_cond] at hint
  split at hint <;> omega

theorem toInt_shiftLeft (lhs rhs : Int64) :
    (lhs <<< rhs).toInt = (lhs.toInt * 2 ^ shiftAmount rhs).bmod (2 ^ 64) := by
  rw [← Int64.toInt_toBitVec, Int64.toBitVec_shiftLeft, BitVec.shiftLeft_eq', toNat_smod,
    BitVec.toInt_shiftLeft, Nat.shiftLeft_eq, ← Int64.toInt_toBitVec, BitVec.toInt_eq_toNat_bmod,
    Int.bmod_mul_bmod]
  push_cast
  rfl

theorem toInt_shiftRight (lhs rhs : Int64) :
    (lhs >>> rhs).toInt = lhs.toInt / 2 ^ shiftAmount rhs := by
  rw [← Int64.toInt_toBitVec, Int64.toBitVec_shiftRight, BitVec.sshiftRight_eq', toNat_smod,
    BitVec.toInt_sshiftRight, Int.shiftRight_eq_div_pow]
  rfl

/-! ## Comparisons -/

/-- What a comparison finds about two integers; the other operators compare nothing. -/
def finds? : Operator → Int → Int → Option Bool
  | .eq, lhs, rhs => some (lhs = rhs)
  | .ne, lhs, rhs => some (lhs ≠ rhs)
  | .lt, lhs, rhs => some (lhs < rhs)
  | .le, lhs, rhs => some (lhs ≤ rhs)
  | .gt, lhs, rhs => some (lhs > rhs)
  | .ge, lhs, rhs => some (lhs ≥ rhs)
  | _, _, _ => none

/-- A comparison of words gives the word of what is true of the integers. -/
theorem evaluate_of_finds {b : Bool} (h : op.finds? lhs.toInt rhs.toInt = some b) :
    op.evaluate lhs rhs = some (truth b) := by
  cases op <;> cases h <;>
    simp only [evaluate, Int64.toInt_inj, Int64.lt_iff_toInt_lt, Int64.le_iff_toInt_le,
      bne, beq_eq_decide, decide_not, gt_iff_lt, ge_iff_le, ne_eq]

/-- The two operators of a mutator of comparisons find the opposite. -/
theorem finds_of_mem_comparison {m : Mutator} (hm : m ∈ Catalogue.comparison) (lhs rhs : Int) :
    ∃ id source target, m = .replaceOperator id source target ∧
      ∃ b, source.finds? lhs rhs = some b ∧ target.finds? lhs rhs = some !b := by
  simp only [Catalogue.comparison, List.mem_cons, List.not_mem_nil, or_false] at hm
  obtain rfl | rfl | rfl | rfl | rfl | rfl := hm <;>
    refine ⟨_, _, _, rfl, _, rfl, ?_⟩ <;>
    simp only [finds?, ← decide_not, ne_eq, not_not, gt_iff_lt, ge_iff_le, not_lt, not_le]

/-! ## All operators -/

/-- What the operators make of two words, said of the integers that the words stand for. -/
structure ExactOn (lhs rhs : Int64) : Prop where
  /-- Only a division and a remainder by zero have no result. -/
  none_iff : ∀ op : Operator, op.evaluate lhs rhs = none ↔ (op = .div ∨ op = .rem) ∧ rhs = 0
  add : WrapsTo .add lhs rhs (lhs.toInt + rhs.toInt)
  sub : WrapsTo .sub lhs rhs (lhs.toInt - rhs.toInt)
  mul : WrapsTo .mul lhs rhs (lhs.toInt * rhs.toInt)
  /-- A quotient is truncated toward zero; only that of the least word by -1 wraps. -/
  div : rhs ≠ 0 → WrapsTo .div lhs rhs (lhs.toInt.tdiv rhs.toInt)
  /-- A remainder is exact, and if it is not zero it has the sign of the dividend; the quotient and
  the remainder give the dividend again. -/
  rem : rhs ≠ 0 → ∃ q r, Operator.div.evaluate lhs rhs = some q ∧
    Operator.rem.evaluate lhs rhs = some r ∧ r.toInt = lhs.toInt.tmod rhs.toInt ∧
    r.toInt.natAbs < rhs.toInt.natAbs ∧ (r.toInt ≠ 0 → r.toInt.sign = lhs.toInt.sign) ∧
    lhs.toInt ≡ q.toInt * rhs.toInt + r.toInt [ZMOD 2 ^ 64]
  /-- A word is shifted by another one modulo 64, which is at least 0 and less than 64. -/
  amount : (shiftAmount rhs : Int) ≡ rhs.toInt [ZMOD 64] ∧ shiftAmount rhs < 64
  shl : WrapsTo .shl lhs rhs (lhs.toInt * 2 ^ shiftAmount rhs)
  /-- A shift to the right rounds down. -/
  shr : ∃ v, Operator.shr.evaluate lhs rhs = some v ∧
    v.toInt = ⌊(lhs.toInt : Rat) / 2 ^ shiftAmount rhs⌋
  /-- A comparison gives 1 if what it finds is true, and else 0. -/
  comparison : ∀ (op : Operator) (b : Bool), op.finds? lhs.toInt rhs.toInt = some b →
    op.evaluate lhs rhs = some (if b then 1 else 0)
  /-- A mutator of comparisons turns 0 into 1 and 1 into 0. -/
  complement : ∀ m ∈ Catalogue.comparison, ∃ id source target,
    m = .replaceOperator id source target ∧
    (source.evaluate lhs rhs = some 0 ∧ target.evaluate lhs rhs = some 1 ∨
      source.evaluate lhs rhs = some 1 ∧ target.evaluate lhs rhs = some 0)

/-- **The operators agree with the integers.** For all words: a result is missing only where it has
to be, sums, differences, products, quotients and shifts to the left wrap around, remainders and
shifts to the right are exact, and mutated comparisons find the opposite. -/
theorem evaluate_exact (lhs rhs : Int64) : ExactOn lhs rhs where
  none_iff op := evaluate_eq_none_iff
  add := wrapsTo_of_bmod rfl (Int64.toInt_add lhs rhs)
  sub := wrapsTo_of_bmod rfl (Int64.toInt_sub lhs rhs)
  mul := wrapsTo_of_bmod rfl (Int64.toInt_mul lhs rhs)
  div h := wrapsTo_of_bmod (evaluate_div h) (Int64.toInt_div lhs rhs)
  rem h := by
    obtain ⟨hlt, hsign⟩ := tmod_spec (x := lhs.toInt) (toInt_ne_zero h)
    refine ⟨lhs / rhs, lhs % rhs, evaluate_div h, evaluate_rem h, Int64.toInt_mod lhs rhs, ?_⟩
    rw [Int64.toInt_mod]
    refine ⟨hlt, hsign, ?_⟩
    have hquotient : (lhs / rhs).toInt ≡ lhs.toInt.tdiv rhs.toInt [ZMOD 2 ^ 64] := by
      rw [Int64.toInt_div]
      exact Int.bmod_emod
    have hdividend : lhs.toInt.tdiv rhs.toInt * rhs.toInt + lhs.toInt.tmod rhs.toInt = lhs.toInt :=
      Int.tdiv_mul_add_tmod ..
    have hreunited := (hquotient.mul_right rhs.toInt).add_right (lhs.toInt.tmod rhs.toInt)
    rw [hdividend] at hreunited
    exact hreunited.symm
  amount := by
    refine ⟨?_, shiftAmount_lt rhs⟩
    rw [shiftAmount_eq]
    exact Int.mod_modEq ..
  shl := wrapsTo_of_bmod rfl (toInt_shiftLeft lhs rhs)
  shr := by
    refine ⟨lhs >>> rhs, rfl, ?_⟩
    have hfloor := Rat.floor_intCast_div_natCast lhs.toInt (2 ^ shiftAmount rhs)
    push_cast at hfloor
    rw [toInt_shiftRight, hfloor]
  comparison op b h := evaluate_of_finds h
  complement m hm := by
    obtain ⟨id, source, target, rfl, b, hsource, htarget⟩ :=
      finds_of_mem_comparison hm lhs.toInt rhs.toInt
    refine ⟨id, source, target, rfl, ?_⟩
    rw [evaluate_of_finds hsource, evaluate_of_finds htarget]
    cases b with
    | false => exact .inl ⟨rfl, rfl⟩
    | true => exact .inr ⟨rfl, rfl⟩

end MutationTesting.Operator
