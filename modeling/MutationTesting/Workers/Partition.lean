/-!
# Partitions

A list is shared out to workers in contiguous shards whose sizes differ by at most one, the larger
ones first.
-/

namespace MutationTesting.Workers

/-- The sizes of so many shards of a list of some length. -/
def shardSizes (total count : Nat) : List Nat :=
  (List.range count).map fun i => total / count + if i < total % count then 1 else 0

/-- Cuts a list into pieces of the given sizes, from the front. -/
def cut {α : Type} : List Nat → List α → List (List α)
  | [], _ => []
  | size :: sizes, items => items.take size :: cut sizes (items.drop size)

/-- A list in so many contiguous shards. -/
def partition {α : Type} (items : List α) (count : Nat) : List (List α) :=
  cut (shardSizes items.length count) items

end MutationTesting.Workers
