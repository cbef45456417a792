import MutationTesting.Yaml.Node

/-!
# Values of nodes

What is wanted decides what a node is read as: every scalar can be read as a text, but only a plain
one as a number, a truth value or nothing.
-/

namespace MutationTesting.Yaml.Node

/-- The text of a scalar. -/
def text? : Node → Option String
  | scalar text _ _ => some text
  | _ => none

/-- The text of a scalar that can be other than a text: a plain one, or a literal block with the tag
of what is wanted. -/
def bare? (wanted : Tag) : Node → Option String
  | scalar text .plain _ => some text
  | scalar text .literal (some tag) => if tag = wanted then some text else none
  | _ => none

/-- The scalar stands for nothing. -/
def isNullText (text : String) : Bool :=
  ["null", "Null", "NULL", "~"].contains text

/-- The truth value of a node. -/
def bool? (n : Node) : Option Bool := do
  let text ← n.bare? (.core "bool")
  if ["true", "True", "TRUE"].contains text then some true
  else if ["false", "False", "FALSE"].contains text then some false
  else none

/-- The number that digits to a base denote. -/
def digitsTo? (base : Nat) (cs : List Char) : Option Nat :=
  if cs.isEmpty then none
  else cs.foldlM (fun n c => do
    let d ← hexDigit? c
    if d < base then some (n * base + d) else none) 0

/-- The number of a text: hexadecimal, octal or binary behind a mark, else decimal without leading
zeros; a plus sign may stand in front. -/
def natural? (text : String) : Option Nat :=
  let cs := text.toList
  let cs := if cs.head? == some '+' then cs.drop 1 else cs
  match cs with
  | '0' :: 'x' :: digits => digitsTo? 16 digits
  | '0' :: 'o' :: digits => digitsTo? 8 digits
  | '0' :: 'b' :: digits => digitsTo? 2 digits
  | '0' :: _ :: _ => none
  | digits => digitsTo? 10 digits

/-- The 64-bit word of a node. -/
def word64? (n : Node) : Option UInt64 := do
  let value ← natural? (← n.bare? (.core "int"))
  if value < UInt64.size then some (UInt64.ofNat value) else none

/-- The items of a sequence, each read in one way; an empty plain scalar has none. -/
def list? {α : Type} (item? : Node → Option α) : Node → Option (List α)
  | sequence items => items.mapM item?
  | scalar "" .plain _ => some []
  | _ => none

/-- A value or nothing. -/
def optional? {α : Type} (value? : Node → Option α) (n : Node) : Option (Option α) :=
  match n with
  | scalar text .plain none => if text == "" || isNullText text then some none else (value? n).map some
  | scalar text .plain (some tag) =>
    if tag ≠ .core "null" then (value? n).map some
    else if isNullText text then some none
    else none
  | _ => (value? n).map some

/-- A choice by its name, which is the text of a scalar or its tag. -/
def choice? {α : Type} (named? : String → Option α) : Node → Option α
  | scalar text style tag =>
    match tag.bind Tag.localName? with
    | some name => if style == .plain && (text == "" || isNullText text) then named? name else none
    | none => named? text
  | _ => none

/-- The entries of a mapping whose keys are texts, distinct and among known ones. -/
def fields? (known : List String) : Node → Option (List (String × Node))
  | mapping entries => do
    let fields ← entries.mapM fun (key, value) => do return (← key.text?, value)
    let names := fields.map (·.1)
    if names.all known.contains && names.eraseDups.length == names.length then some fields else none
  | scalar "" .plain _ => some []
  | _ => none

end MutationTesting.Yaml.Node
