/-!
# Distinct items

A list without later repetitions: of the items with one key the first stays, in its place.
-/

namespace MutationTesting

/-- Appends an item unless one with its key is there already. -/
def appendNew {α : Type} (key : α → String) (kept : List α) (a : α) : List α :=
  if kept.any (key · == key a) then kept else kept ++ [a]

/-- The first item of each key, in the order of the list. -/
def distinctBy {α : Type} (key : α → String) (items : List α) : List α :=
  items.foldl (appendNew key) []

end MutationTesting
