import MutationTesting.Unicode.Age
import MutationTesting.Unicode.Folding
import MutationTesting.Unicode.Script
import MutationTesting.Unicode.Segmentation

/-!
# Sets of characters by name

A pattern names classes of ASCII, and properties of Unicode alone or together with a value.

A property is looked up by a loose name: case, blanks, hyphens, underscores and a leading "is" do not
count.
-/

namespace MutationTesting.Pattern

open Unicode (CodeSet Category Property)

/-! ## Classes of ASCII -/

/-- All characters of ASCII. -/
def ascii : CodeSet :=
  .range '\x00' '\x7f'

/-- Digits of ASCII. -/
def asciiDigit : CodeSet :=
  .range '0' '9'

/-- Letters of ASCII. -/
def asciiLetter : CodeSet :=
  (CodeSet.range 'A' 'Z').union (.range 'a' 'z')

/-- Digits and letters of ASCII. -/
def asciiAlphanumeric : CodeSet :=
  asciiDigit.union asciiLetter

/-- Blanks of ASCII. -/
def asciiSpace : CodeSet :=
  (CodeSet.range '\t' '\r').union (.single ' ')

/-- Digits, letters and the underscore of ASCII. -/
def asciiWord : CodeSet :=
  asciiAlphanumeric.union (.single '_')

/-- The class of ASCII that a name stands for. -/
def asciiClass? : String → Option CodeSet
  | "alnum" => some asciiAlphanumeric
  | "alpha" => some asciiLetter
  | "ascii" => some ascii
  | "blank" => some (.ofChars ['\t', ' '])
  | "cntrl" => some ((CodeSet.range '\x00' '\x1f').union (.single '\x7f'))
  | "digit" => some asciiDigit
  | "graph" => some (.range '!' '~')
  | "lower" => some (.range 'a' 'z')
  | "print" => some (.range ' ' '~')
  | "punct" => some ((CodeSet.range '!' '~').difference asciiAlphanumeric)
  | "space" => some asciiSpace
  | "upper" => some (.range 'A' 'Z')
  | "word" => some asciiWord
  | "xdigit" => some (.unionAll [asciiDigit, .range 'A' 'F', .range 'a' 'f'])
  | _ => none

/-- The members of a set of ASCII and the letters that differ from one in case alone. -/
def asciiCloseCase (set : CodeSet) : CodeSet :=
  let upper := set.intersection (.range 'A' 'Z')
  let lower := set.intersection (.range 'a' 'z')
  set.union ((Unicode.Shift.move 65 97 upper).union (Unicode.Shift.move 97 65 lower))

/-! ## Properties -/

/-- A name without what does not count. -/
def looseName (name : List Char) : String :=
  let rest := match name with
    | i :: s :: rest => if i.toLower = 'i' ∧ s.toLower = 's' then rest else name
    | _ => name
  let kept := (rest.filter fun c => c.toNat < 128 && !(c == ' ' || c == '_' || c == '-')).map
    Char.toLower
  if kept == ['c'] && rest.length != name.length then "isc" else String.ofList kept

/-- Two names are equal up to what does not count. -/
def sameName (loose : String) (name : String) : Bool :=
  looseName name.toList == loose

/-- The characters of the general categories that a loose name stands for. No character is a
surrogate, and the name of that category is refused. -/
def category? (loose : String) : Option CodeSet :=
  match loose with
  | "any" => some .full
  | "assigned" => some (Category.select [.cn]).complement
  | "ascii" => some ascii
  | _ =>
    match Category.named? loose with
    | some [.cs] => none
    | found => found.map Category.select

/-- The characters of the script that a loose name stands for. -/
def script? (loose : String) : Option CodeSet :=
  (Unicode.Script.named? (sameName loose)).map Unicode.Script.members

/-- The characters that are used with the script that a loose name stands for. -/
def scriptUsers? (loose : String) : Option CodeSet :=
  (Unicode.Script.named? (sameName loose)).map Unicode.Script.users

/-- The characters of a list of properties that have the one of a loose name. -/
def property? (properties : List Property) (loose : String) : Option CodeSet :=
  (Property.named? properties (sameName loose)).map Property.members

/-- The characters that a name alone stands for: a property, else categories, else a script. -/
def namedSet? (name : List Char) : Option CodeSet :=
  let loose := looseName name
  let property := if ["cf", "sc", "lc"].contains loose then none else property? Property.all loose
  property <|> category? loose <|> script? loose

/-- The properties that have values, by their loose names. -/
def valued? : String → Option (String → Option CodeSet)
  | "gc" => some category?
  | "generalcategory" => some category?
  | "sc" => some script?
  | "script" => some script?
  | "scx" => some scriptUsers?
  | "scriptextensions" => some scriptUsers?
  | "age" => some fun loose => Unicode.Age.named? (sameName loose)
  | "gcb" => some (property? Unicode.Segmentation.graphemes)
  | "graphemeclusterbreak" => some (property? Unicode.Segmentation.graphemes)
  | "wb" => some (property? Unicode.Segmentation.words)
  | "wordbreak" => some (property? Unicode.Segmentation.words)
  | "sb" => some (property? Unicode.Segmentation.sentences)
  | "sentencebreak" => some (property? Unicode.Segmentation.sentences)
  | _ => none

/-- The characters for which the property of a name has the value of another name. -/
def withValue? (property value : List Char) : Option CodeSet := do
  (← valued? (looseName property)) (looseName value)

end MutationTesting.Pattern
