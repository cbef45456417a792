/-!
# Registers

The registers of a frame that have been written, each with the value written last.
-/

namespace MutationTesting

/-- The written registers of a frame, the one written first in front. -/
inductive Registers where
  /-- No register has been written. -/
  | empty
  /-- A register with its value, and the registers written first after it. -/
  | entry (index : UInt32) (value : Int64) (others : Registers)
  deriving DecidableEq, Repr

namespace Registers

/-- A register has been written. -/
def has : Registers → UInt32 → Bool
  | empty, _ => false
  | entry i _ others, index => i == index || others.has index

/-- The value of a written register. -/
def value : Registers → UInt32 → Int64
  | empty, _ => 0
  | entry i v others, index => if i = index then v else others.value index

/-- The value of a register, if it has been written. -/
@[inline]
def get? (r : Registers) (index : UInt32) : Option Int64 :=
  if r.has index then some (r.value index) else none

/-- The registers after a write. -/
def set (r : Registers) (index : UInt32) (value : Int64) : Registers :=
  match r with
  | empty => entry index value empty
  | entry i v others => if i = index then entry i value others else entry i v (others.set index value)

theorem get?_entry (i : UInt32) (v : Int64) (others : Registers) (index : UInt32) :
    (entry i v others).get? index = if i = index then some v else others.get? index := by
  by_cases h : i = index <;> simp [get?, has, value, h]

/-- A register holds what was written to it last. -/
@[simp] theorem get?_set (r : Registers) (index : UInt32) (value : Int64) (j : UInt32) :
    (r.set index value).get? j = if j = index then some value else r.get? j := by
  induction r with
  | empty => simp [set, get?_entry, eq_comm]
  | entry i v others ih =>
    by_cases hi : i = index
    · subst hi
      by_cases hj : i = j
      · simp [set, get?_entry, hj]
      · simp [set, get?_entry, hj, Ne.symm hj]
    · by_cases hj : i = j
      · subst hj
        simp [set, get?_entry, hi]
      · simp [set, get?_entry, hi, hj, ih]

end Registers

end MutationTesting
