import MutationTesting.Json.Number
import MutationTesting.Json.Value

/-!
# Reading data out of JSON values

Decoders for numbers, texts, lists and records. A record is written as an object with its fields by
name, where unknown names are ignored and a known name may stand once, or as a list of its fields in
order, where missing ones at the end count as absent.
-/

namespace MutationTesting.Json

/-! ## Scalars -/

/-- The text of a text value. -/
def text? : Json → Option String
  | .str text => some text
  | _ => none

/-- An integer between two limits. -/
def intBetween? (low high : Int) : Json → Option Int
  | .int n => if low ≤ n ∧ n ≤ high then some n else none
  | _ => none

/-- An integer of 32 bits without sign. -/
def word32? (value : Json) : Option UInt32 :=
  (value.intBetween? 0 (UInt32.size - 1)).map fun n => UInt32.ofNat n.toNat

/-- An integer of 64 bits without sign. -/
def word64? (value : Json) : Option UInt64 :=
  (value.intBetween? 0 (UInt64.size - 1)).map fun n => UInt64.ofNat n.toNat

/-- An integer of 64 bits with sign. -/
def int64? (value : Json) : Option Int64 :=
  (value.intBetween? Int64.minValue.toInt Int64.maxValue.toInt).map Int64.ofInt

/-! ## Lists and absent values -/

/-- A list whose items all decode. -/
def list? {α : Type} (decode : Json → Option α) : Json → Option (List α)
  | .arr items => items.mapM decode
  | _ => none

/-- A value that `null` stands for the absence of. -/
def nullable? {α : Type} (decode : Json → Option α) : Json → Option (Option α)
  | .null => some none
  | value => (decode value).map some

/-! ## Records -/

/-- The values of the members with one name. -/
def membersNamed (name : String) (members : List (Option String × Json)) : List Json :=
  members.filterMap fun m => if m.1 == some name then some m.2 else none

/-- The value of a member that may stand once: absent, present, or a repeated member. -/
def single? (name : String) (members : List (Option String × Json)) : Option (Option Json) :=
  match membersNamed name members with
  | [] => some none
  | [value] => some (some value)
  | _ => none

/-- The fields of a record, in the order of the given names, each present or absent. -/
def fields? (names : List String) : Json → Option (List (Option Json))
  | .obj members =>
    if members.all (·.1.isSome) then names.mapM (single? · members) else none
  | .arr items =>
    if items.length ≤ names.length then
      some (items.map some ++ List.replicate (names.length - items.length) none)
    else none
  | _ => none

/-- A field that has to be there. -/
def required? {α : Type} (decode : Json → Option α) (field : Option Json) : Option α :=
  field.bind decode

/-- A field that has a value of its own when it is absent. -/
def optional? {α : Type} (absent : α) (decode : Json → Option α) : Option Json → Option α
  | none => some absent
  | some value => decode value

/-! ## Values kept for later

A value whose reader is chosen by another field is kept before it is known which one reads it. Such
a value has to denote something whichever reader is chosen: its texts are characters, its numbers
are finite, and it nests within a limit.
-/

mutual

/-- A value that can be kept, with so many levels of lists and objects left. -/
def isKeepable : Nat → Json → Bool
  | _, .brokenStr => false
  | _, .int n => isFiniteInteger n
  | _, .decimal c e => isFiniteNumber c.natAbs e
  | 0, .arr _ => false
  | levels + 1, .arr items => areKeepable levels items
  | 0, .obj _ => false
  | levels + 1, .obj members => membersKeepable levels members
  | _, _ => true

/-- Items that can all be kept. -/
def areKeepable : Nat → List Json → Bool
  | _, [] => true
  | levels, item :: items => isKeepable levels item && areKeepable levels items

/-- Members that can all be kept. -/
def membersKeepable : Nat → List (Option String × Json) → Bool
  | _, [] => true
  | levels, (key, value) :: members =>
    key.isSome && isKeepable levels value && membersKeepable levels members

end

end MutationTesting.Json
