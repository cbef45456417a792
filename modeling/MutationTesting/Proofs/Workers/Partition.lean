import Mathlib.Algebra.Ring.Nat
import Mathlib.Data.List.SplitLengths
import MutationTesting.Workers.Stage

/-!
# Partitions

A partition cuts a list at its front, shard by shard, so put together the shards are the list again
as soon as their sizes add up to its length. They do: what the division leaves over goes to the
first shards, one item to each.

* `sum_shardSizes`, `pairwise_shardSizes` — the sizes add up to the length of the list, and they
  fall by one at most
* `flatten_partition` — the shards of a list put together are the list
* `partition_shares_evenly` — **partitions are balanced and lose nothing**, and a stage starts no
  worker without work
-/

namespace MutationTesting.Workers

/-! ## Sizes -/

@[simp] theorem length_shardSizes (total count : Nat) :
    (shardSizes total count).length = count := by
  simp [shardSizes]

/-- The shards of a list take up all of it. -/
theorem sum_shardSizes {count : Nat} (h : 0 < count) (total : Nat) :
    (shardSizes total count).sum = total := by
  -- of the first `n` shards as many are longer by one as there are items left over
  have hsum : ∀ n, ((List.range n).map fun i =>
      total / count + if i < total % count then 1 else 0).sum
        = n * (total / count) + min n (total % count) := by
    intro n
    induction n with
    | zero => simp
    | succ n ih =>
      rw [List.range_succ, List.map_append, List.sum_append, ih, Nat.succ_mul]
      simp only [List.map_cons, List.map_nil, List.sum_cons, List.sum_nil]
      split <;> omega
  rw [shardSizes, hsum, Nat.min_eq_right (Nat.le_of_lt (Nat.mod_lt total h))]
  exact Nat.div_add_mod total count

/-- Of two shards the first is not the smaller one, and it is larger by one at most. -/
theorem pairwise_shardSizes (total count : Nat) :
    (shardSizes total count).Pairwise
      fun earlier later => later ≤ earlier ∧ earlier ≤ later + 1 := by
  rw [shardSizes, List.pairwise_map]
  refine List.pairwise_lt_range.imp fun {i j} hij => ?_
  split <;> split <;> omega

/-- With no more shards than items no shard is empty. -/
theorem shardSizes_pos {total count : Nat} (h : 0 < count) (hle : count ≤ total) :
    ∀ size ∈ shardSizes total count, 0 < size := by
  have hquotient : 0 < total / count := Nat.div_pos hle h
  intro size hsize
  obtain ⟨i, -, rfl⟩ := List.mem_map.mp hsize
  exact Nat.add_pos_left hquotient _

/-! ## Shards -/

variable {α : Type}

theorem cut_eq_splitLengths : ∀ (sizes : List Nat) (items : List α),
    cut sizes items = sizes.splitLengths items
  | [], _ => rfl
  | size :: sizes, items => by rw [cut, List.splitLengths_cons, cut_eq_splitLengths sizes]

@[simp] theorem length_partition (items : List α) (count : Nat) :
    (partition items count).length = count := by
  rw [partition, cut_eq_splitLengths, List.length_splitLengths, length_shardSizes]

/-- **The shards of a list put together are the list.** -/
theorem flatten_partition {count : Nat} (h : 0 < count) (items : List α) :
    (partition items count).flatten = items := by
  rw [partition, cut_eq_splitLengths]
  exact List.flatten_splitLengths _ _ (Nat.le_of_eq (sum_shardSizes h _).symm)

theorem map_length_partition {count : Nat} (h : 0 < count) (items : List α) :
    (partition items count).map List.length = shardSizes items.length count := by
  rw [partition, cut_eq_splitLengths]
  exact List.map_splitLengths_length _ _ (Nat.le_of_eq (sum_shardSizes h _))

theorem ne_nil_of_mem_partition {count : Nat} (h : 0 < count) {items : List α}
    (hle : count ≤ items.length) : ∀ shard ∈ partition items count, shard ≠ [] := by
  rintro shard hshard rfl
  have hsize := List.mem_map_of_mem (f := List.length) hshard
  rw [map_length_partition h] at hsize
  exact Nat.lt_irrefl 0 (shardSizes_pos h hle 0 hsize)

/-- A single worker gets the whole list. -/
theorem partition_one (items : List α) : partition items 1 = [items] := by
  obtain ⟨shard, hshard⟩ := List.length_eq_one_iff.mp (length_partition items 1)
  have hflatten := flatten_partition Nat.one_pos items
  rw [hshard, List.flatten_singleton] at hflatten
  rw [hshard, hflatten]

theorem map_getD_range {shards : List (List α)} {count : Nat} (h : shards.length = count) :
    (List.range count).map (fun worker => shards.getD worker []) = shards := by
  apply List.ext_getElem
  · simp [h]
  · intro i hi hi'
    simp [List.getD_eq_getElem?_getD, List.getElem?_eq_getElem hi']

theorem flatMap_getD_range {shards : List (List α)} {count : Nat} (h : shards.length = count) :
    (List.range count).flatMap (fun worker => shards.getD worker []) = shards.flatten := by
  rw [List.flatMap_def, map_getD_range h]

/-! ## Workers -/

variable {ε σ ι ο : Type}

theorem Stage.threads_pos (stage : Stage ε σ ι ο) (items : List ι) : 0 < stage.threads items := by
  unfold Stage.threads
  omega

/-- There are no more workers than items, but for the one of a list without items. -/
theorem Stage.threads_le {stage : Stage ε σ ι ο} {items : List ι}
    (h : items ≠ [] ∨ 1 < stage.threads items) : stage.threads items ≤ items.length := by
  rw [← List.length_pos_iff] at h
  unfold Stage.threads at h ⊢
  omega

/-- **Partitions are balanced and lose nothing.** A list is cut into as many shards as are asked
for, and put together they are the list. Of two shards the first is not the smaller one, and it is
larger by one at most; no shard is empty if there are no more of them than items. A stage asks for
at least one shard, and all its workers have work as soon as there is an item or a second worker:
the only one without work is the single worker of a stage without items, which is not started on
its own. -/
theorem partition_shares_evenly (stage : Stage ε σ ι ο) (items : List ι) {count : Nat}
    (hcount : 0 < count) :
    (partition items count).length = count ∧
    (partition items count).flatten = items ∧
    ((partition items count).map List.length).Pairwise
      (fun earlier later => later ≤ earlier ∧ earlier ≤ later + 1) ∧
    (count ≤ items.length → ∀ shard ∈ partition items count, shard ≠ []) ∧
    0 < stage.threads items ∧
    (items ≠ [] ∨ 1 < stage.threads items → ∀ worker < stage.threads items,
      (partition items (stage.threads items)).getD worker [] ≠ []) := by
  have hthreads := stage.threads_pos items
  refine ⟨length_partition items count, flatten_partition hcount items, ?_,
    ne_nil_of_mem_partition hcount, hthreads, fun hwork worker hworker => ?_⟩
  · rw [map_length_partition hcount]
    exact pairwise_shardSizes items.length count
  · have hshards := length_partition items (stage.threads items)
    rw [← hshards] at hworker
    rw [List.getD_eq_getElem?_getD, List.getElem?_eq_getElem hworker, Option.getD_some]
    exact ne_nil_of_mem_partition hthreads (Stage.threads_le hwork) _ (List.getElem_mem hworker)

/-- Six workers that give the numbers they get. -/
def passing : Stage Empty Unit Nat Nat where
  name := "passing on"
  workers := 6
  handle _ n _ := .pure n [n]

/-- Ten items for four, and more workers than items. -/
theorem passing_shares_evenly :
    0 < 4 ∧ partition (List.range 10) 4 = [[0, 1, 2], [3, 4, 5], [6, 7], [8, 9]] ∧
    (partition (List.range 10) 4).flatten = List.range 10 ∧
    ((partition (List.range 10) 4).map List.length).Pairwise
      (fun earlier later => later ≤ earlier ∧ earlier ≤ later + 1) ∧
    (∀ shard ∈ partition (List.range 10) 4, shard ≠ []) ∧
    passing.threads [7, 8] = 2 ∧
    ∀ worker < 2, (partition [7, 8] 2).getD worker [] ≠ [] := by
  obtain ⟨-, hflatten, hsizes, hfull, -⟩ :=
    partition_shares_evenly passing (List.range 10) (by decide : 0 < 4)
  obtain ⟨-, -, -, -, -, hwork⟩ := partition_shares_evenly passing [7, 8] (by decide : 0 < 2)
  exact ⟨by decide, by decide, hflatten, hsizes, hfull (by decide), by decide,
    hwork (.inl (by decide))⟩

end MutationTesting.Workers
