import Mathlib.Algebra.Group.Nat.Defs
import MutationTesting.Text.Fingerprint

/-!
# Written fingerprints

A fingerprint is written with sixteen hexadecimal digits, and can be read off them.

* `not_mem_hex16` — what is no digit is not in a written fingerprint
* `hex16_inj`, `fingerprintText_inj` — **a fingerprint can be read off its written form**
-/

namespace MutationTesting

variable {c : Char}

theorem hexDigit_inj {m n : Nat} (h : hexDigit m = hexDigit n) : m % 16 = n % 16 := by
  have hdigit : ∀ a < 16, ∀ b < 16, a.digitChar = b.digitChar → a = b := by decide
  exact hdigit _ (Nat.mod_lt _ (by decide)) _ (Nat.mod_lt _ (by decide)) h

/-- Words are written with digits and the letters up to `f`. -/
theorem not_mem_hex16 (h : ∀ a < 16, a.digitChar ≠ c) (word : UInt64) : c ∉ hex16 word := by
  intro hc
  obtain ⟨i, -, hi⟩ := List.mem_map.mp hc
  exact h _ (Nat.mod_lt _ (by decide)) hi

theorem not_mem_fingerprintText (h : ∀ a < 16, a.digitChar ≠ c) (text : String) :
    c ∉ (fingerprintText text).toList := by
  rw [fingerprintText, String.toList_ofList]
  exact not_mem_hex16 h _

theorem length_fingerprintText (text : String) : (fingerprintText text).length = 16 := by
  rw [fingerprintText, String.length_ofList, hex16, List.length_map, List.length_range]

/-- The lowest digits of a number determine what it leaves. -/
theorem mod_pow_eq_of_digits {a b : Nat} :
    ∀ {k : Nat}, (∀ i < k, a / 16 ^ i % 16 = b / 16 ^ i % 16) → a % 16 ^ k = b % 16 ^ k
  | 0, _ => by rw [Nat.pow_zero, Nat.mod_one, Nat.mod_one]
  | k + 1, h => by
    have hlow : a % 16 ^ k = b % 16 ^ k :=
      mod_pow_eq_of_digits fun i hi => h i (Nat.lt_succ_of_lt hi)
    rw [Nat.mod_pow_succ, Nat.mod_pow_succ, hlow, h k (Nat.lt_succ_self k)]

/-- **A word can be read off its digits.** -/
theorem hex16_inj {a b : UInt64} (h : hex16 a = hex16 b) : a = b := by
  have hdigits : ∀ i < 16, a.toNat / 16 ^ i % 16 = b.toNat / 16 ^ i % 16 := by
    intro i hi
    have hdigit := hexDigit_inj (List.map_inj_left.mp h (15 - i) (List.mem_range.mpr (by omega)))
    rwa [show 15 - (15 - i) = i by omega] at hdigit
  have hmod := mod_pow_eq_of_digits hdigits
  have hwhole : ∀ w : UInt64, w.toNat % 16 ^ 16 = w.toNat := fun w => Nat.mod_eq_of_lt w.toNat_lt
  rw [hwhole, hwhole] at hmod
  exact UInt64.toNat_inj.mp hmod

theorem fingerprintText_inj {s t : String} (h : fingerprintText s = fingerprintText t) :
    fingerprint s = fingerprint t :=
  hex16_inj (String.ofList_inj.mp h)

end MutationTesting
