/-!
# Styled text

Text for terminals: a style is switched on by an escape sequence in front of a text and off by
another one behind it. Where the text itself switches styles off, the style is switched on again.
-/

namespace MutationTesting

/-- How a piece of text is shown. -/
inductive Style where
  | bold
  | dimmed
  | yellow
  | boldRed
  | boldGreen
  | boldYellow
  deriving DecidableEq, Repr

namespace Style

/-- The codes of a style. -/
def codes : Style → String
  | .bold => "1"
  | .dimmed => "2"
  | .yellow => "33"
  | .boldRed => "1;31"
  | .boldGreen => "1;32"
  | .boldYellow => "1;33"

/-- What switches a style on. -/
def switchOn (s : Style) : String :=
  "\x1b[" ++ s.codes ++ "m"

/-- What switches styles off. -/
def switchOff : List Char :=
  "\x1b[0m".toList

/-- A text in which every sequence that switches styles off is followed by another text. -/
def afterSwitchOff (again : List Char) : List Char → List Char
  | '\x1b' :: '[' :: '0' :: 'm' :: rest => switchOff ++ again ++ afterSwitchOff again rest
  | c :: rest => c :: afterSwitchOff again rest
  | [] => []

/-- A text in a style; without colours it stays as it is. -/
def apply (s : Style) (colours : Bool) (text : String) : String :=
  if colours then
    s.switchOn ++ String.ofList (afterSwitchOff s.switchOn.toList text.toList)
      ++ String.ofList switchOff
  else text

end Style

end MutationTesting
