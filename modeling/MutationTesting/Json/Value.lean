/-!
# JSON values

A JSON value as it stands in a text: members of an object keep their order and may repeat, and an
integer without fraction and exponent is kept apart from other numbers, since only the former can
stand for a count or an index.
-/

namespace MutationTesting

/-- A JSON value. -/
inductive Json where
  /-- The value of no content. -/
  | null
  /-- A truth value. -/
  | bool (value : Bool)
  /-- A number written without fraction and exponent (`-0` excepted, which is no integer). -/
  | int (value : Int)
  /-- A number written with a fraction or an exponent: `coefficient · 10 ^ exponent`, where the
  coefficient is made of the digits that count. -/
  | decimal (coefficient : Int) (exponent : Int)
  /-- A text. -/
  | str (text : String)
  /-- A text with an unpaired surrogate, which denotes no sequence of characters. -/
  | brokenStr
  /-- A list of values. -/
  | arr (items : List Json)
  /-- An object; a key that is no sequence of characters is `none`. -/
  | obj (members : List (Option String × Json))
  deriving Inhabited

namespace Json

/-- A natural number. -/
def nat (n : Nat) : Json :=
  .int n

/-- An object from its members. -/
def ofMembers (members : List (String × Json)) : Json :=
  .obj (members.map fun m => (some m.1, m.2))

/-- A value that may be absent: `null` then. -/
def ofOption {α : Type} (f : α → Json) : Option α → Json
  | some a => f a
  | none => .null

/-- A list of values of one kind. -/
def ofList {α : Type} (f : α → Json) (items : List α) : Json :=
  .arr (items.map f)

end Json

end MutationTesting
