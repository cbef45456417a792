import MutationTesting.Text.Integer

/-!
# Sets of code points

A set of code points is held as the numbers at which membership changes, in ascending order: the
first number of its first range, the number behind that range, the first number of the next range,
and so on. Sets that have the same members are then equal, and every set operation is one sweep over
the changes of both sets.

Surrogates are no characters and belong to no set here.

## Termination

Every step of a sweep passes a change of one set or of both.
-/

namespace MutationTesting.Unicode

/-- A set of code points. -/
structure CodeSet where
  /-- The numbers at which membership changes, in ascending order. -/
  changes : List Nat
  deriving DecidableEq, Repr

namespace CodeSet

/-! ## Changes of membership -/

/-- Membership at a number, given membership in front of all changes. -/
def inside : Bool → List Nat → Nat → Bool
  | within, [], _ => within
  | within, x :: xs, c => if c < x then within else inside (!within) xs c

/-- A change is kept if membership differs behind it. -/
def keepChange (before after : Bool) (x : Nat) (rest : List Nat) : List Nat :=
  if before == after then rest else x :: rest

/-- The changes of what a rule makes of two sets, given membership in front of all changes. -/
def sweep (rule : Bool → Bool → Bool) : Bool → Bool → List Nat → List Nat → List Nat
  | _, _, [], [] => []
  | a, b, x :: xs, [] => keepChange (rule a b) (rule (!a) b) x (sweep rule (!a) b xs [])
  | a, b, [], y :: ys => keepChange (rule a b) (rule a (!b)) y (sweep rule a (!b) [] ys)
  | a, b, x :: xs, y :: ys =>
    if x < y then keepChange (rule a b) (rule (!a) b) x (sweep rule (!a) b xs (y :: ys))
    else if y < x then keepChange (rule a b) (rule a (!b)) y (sweep rule a (!b) (x :: xs) ys)
    else keepChange (rule a b) (rule (!a) (!b)) x (sweep rule (!a) (!b) xs ys)
termination_by _ _ xs ys => xs.length + ys.length

/-! ## Sets -/

/-- A code point belongs to a set. -/
def contains (s : CodeSet) (c : Nat) : Bool :=
  inside false s.changes c

/-- The set that a rule makes of two sets. -/
def combine (rule : Bool → Bool → Bool) (s t : CodeSet) : CodeSet :=
  ⟨sweep rule false false s.changes t.changes⟩

/-- No code point. -/
def empty : CodeSet :=
  ⟨[]⟩

/-- All characters. -/
def full : CodeSet :=
  ⟨[0, 0xD800, 0xE000, 0x110000]⟩

/-- What belongs to one of two sets. -/
def union (s t : CodeSet) : CodeSet :=
  combine (· || ·) s t

/-- What belongs to both of two sets. -/
def intersection (s t : CodeSet) : CodeSet :=
  combine (· && ·) s t

/-- What belongs to the first of two sets alone. -/
def difference (s t : CodeSet) : CodeSet :=
  combine (fun a b => a && !b) s t

/-- What belongs to exactly one of two sets. -/
def symmetricDifference (s t : CodeSet) : CodeSet :=
  combine (· != ·) s t

/-- The characters outside a set. -/
def complement (s : CodeSet) : CodeSet :=
  full.difference s

/-- The complement on demand. -/
def negateIf (negated : Bool) (s : CodeSet) : CodeSet :=
  if negated then s.complement else s

/-- What belongs to some of many sets. -/
def unionAll : List CodeSet → CodeSet
  | [] => empty
  | s :: rest => s.union (unionAll rest)

/-- The characters between two numbers, with both. -/
def between (first last : Nat) : CodeSet :=
  full.intersection ⟨if first ≤ last then [first, last + 1] else []⟩

/-- One character. -/
def single (c : Char) : CodeSet :=
  ⟨[c.toNat, c.toNat + 1]⟩

/-- The characters between two, with both. -/
def range (first last : Char) : CodeSet :=
  between first.toNat last.toNat

/-- Some characters. -/
def ofChars (cs : List Char) : CodeSet :=
  unionAll (cs.map single)

/-- The ranges that changes stand for, each by its first and last number. -/
def pairs : List Nat → List (Nat × Nat)
  | first :: past :: rest => (first, past - 1) :: pairs rest
  | _ => []

/-- The ranges of a set, each by its first and last code point. -/
def ranges (s : CodeSet) : List (Nat × Nat) :=
  pairs s.changes

/-- The only member of a set. -/
def single? (s : CodeSet) : Option Char :=
  match s.ranges with
  | [(first, last)] => if first = last then some (Char.ofNat first) else none
  | _ => none

/-- All members belong to ASCII. -/
def isAscii (s : CodeSet) : Bool :=
  s.changes.all (· ≤ 0x80)

end CodeSet

/-! ## Tables -/

/-- The words of a table, which blanks separate. -/
def tableWords (lines : List String) : List String :=
  lines.flatMap (·.splitOn " ")

/-- The numbers of a table. -/
def tableNumbers (lines : List String) : List Nat :=
  (tableWords lines).filterMap (digits? ·.toList)

/-- The changes behind a number that lie so far from each other. -/
def changesOfGaps (start : Nat) : List Nat → List Nat
  | [] => []
  | gap :: rest => (start + gap) :: changesOfGaps (start + gap) rest

/-- The set of a table, which lists for each range the distance from the end of the last one, and
its size. -/
def readSet (lines : List String) : CodeSet :=
  ⟨changesOfGaps 0 (tableNumbers lines)⟩

end MutationTesting.Unicode
