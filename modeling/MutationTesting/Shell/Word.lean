/-!
# Words of the shell

A word is a sequence of parts: literal characters, and expansions that are replaced when the command
is carried out. The words that stand inside an expansion are parts of it.
-/

namespace MutationTesting.Shell

mutual

/-- What happens to the value of a parameter when it is expanded. -/
inductive Modifier where
  /-- Nothing. -/
  | plain
  /-- Its length is taken. -/
  | length
  /-- A word replaces it if it is unset or, with a colon, empty. -/
  | default (colon : Bool) (word : List Part)
  /-- As before, and the word is assigned to it. -/
  | assign (colon : Bool) (word : List Part)
  /-- A word replaces it if it is set and, with a colon, not empty. -/
  | alternative (colon : Bool) (word : List Part)
  /-- The shell ends with a message if it is unset or, with a colon, empty. -/
  | require (colon : Bool) (word : List Part)
  /-- What a pattern matches at its beginning or its end, as little or as much as possible, is cut
  off. -/
  | trim (atEnd longest : Bool) (pattern : List Part)
  /-- It cannot be understood. -/
  | invalid
  deriving Repr

/-- A part of a word. -/
inductive Part where
  /-- Literal characters. -/
  | text (cs : List Char) (quoted : Bool)
  /-- The value of a parameter. -/
  | parameter (name : List Char) (modifier : Modifier) (quoted : Bool)
  /-- The output of a script that begins on a line. -/
  | command (script : List Char) (line : Nat) (quoted : Bool)
  /-- The output of a script between backquotes, whose lines count on their own. -/
  | backquoted (script : List Char) (quoted : Bool)
  /-- The value of an arithmetic expression. -/
  | arithmetic (expression : List Part) (quoted : Bool)
  deriving Repr

end

/-- A word. -/
abbrev Word := List Part

/-- Why a script cannot be understood. -/
inductive SyntaxFault where
  /-- A token stands where it may not, possibly in the place of another one. -/
  | unexpected (token : String) (expected : Option String)
  /-- A quote is not closed. -/
  | openQuote
  /-- A backquote is not closed. -/
  | openBackquote
  /-- A brace of an expansion is not closed. -/
  | openBrace
  /-- The brackets of an arithmetic expansion are not closed. -/
  | openArithmetic
  /-- A loop over words has no variable. -/
  | badLoopVariable
  /-- A function cannot have its name. -/
  | badFunctionName
  deriving DecidableEq, Repr

namespace SyntaxFault

/-- A fault as users read it. -/
def message : SyntaxFault → String
  | .unexpected token none => token ++ " unexpected"
  | .unexpected token (some expected) => token ++ " unexpected (expecting " ++ expected ++ ")"
  | .openQuote => "Unterminated quoted string"
  | .openBackquote => "EOF in backquote substitution"
  | .openBrace => "Missing '\x7d'"
  | .openArithmetic => "Missing '))'"
  | .badLoopVariable => "Bad for loop variable"
  | .badFunctionName => "Bad function name"

/-- A bracket of an expansion is not closed. -/
def openBracket : SyntaxFault :=
  .unexpected "end of file" (some "\")\"")

end SyntaxFault

/-! ## Characters -/

/-- A blank between words. -/
def isBlank (c : Char) : Bool :=
  c == ' ' || c == '\t'

/-- A character that ends a word unless it is quoted. -/
def endsWord (c : Char) : Bool :=
  isBlank c || c == '\n' || c == ';' || c == '&' || c == '|' || c == '<' || c == '>'
    || c == '(' || c == ')'

/-- A character that a name begins with. -/
def isNameStart (c : Char) : Bool :=
  c.isAlpha || c == '_'

/-- A character of a name. -/
def isNameChar (c : Char) : Bool :=
  c.isAlphanum || c == '_'

/-- The name of a parameter that is not a variable. -/
def isSpecial (c : Char) : Bool :=
  c.isDigit || c == '@' || c == '*' || c == '#' || c == '?' || c == '-' || c == '$' || c == '!'

/-- A text is a name. -/
def isName : List Char → Bool
  | [] => false
  | c :: cs => isNameStart c && cs.all isNameChar

/-! ## What words hold -/

/-- The characters of a word, its quotes undone, and whether it had any. -/
def wordText : Word → List Char × Bool
  | [] => ([], false)
  | .text cs quoted :: parts =>
    let (rest, anyQuoted) := wordText parts
    (cs ++ rest, quoted || anyQuoted)
  | _ :: parts => wordText parts

/-- The characters of a word without quotes and expansions. -/
def literal? : Word → Option (List Char)
  | [] => some []
  | .text cs false :: parts => (literal? parts).map (cs ++ ·)
  | _ => none

/-- A script inside a word: the line on which it begins, unless its lines count on their own, and its
text. -/
structure Script where
  /-- The line on which it begins. -/
  line? : Option Nat
  /-- Its text. -/
  text : List Char
  deriving DecidableEq, Repr

mutual

/-- The scripts inside a modifier, in order. -/
def Modifier.scripts : Modifier → List Script
  | .plain => []
  | .length => []
  | .default _ word => scriptsOf word
  | .assign _ word => scriptsOf word
  | .alternative _ word => scriptsOf word
  | .require _ word => scriptsOf word
  | .trim _ _ pattern => scriptsOf pattern
  | .invalid => []

/-- The scripts inside a part of a word, in order. -/
def Part.scripts : Part → List Script
  | .text _ _ => []
  | .parameter _ modifier _ => modifier.scripts
  | .command text line _ => [{ line? := some line, text }]
  | .backquoted text _ => [{ line? := none, text }]
  | .arithmetic expression _ => scriptsOf expression

/-- The scripts inside a word, in order. -/
def scriptsOf : List Part → List Script
  | [] => []
  | part :: parts => part.scripts ++ scriptsOf parts

end

end MutationTesting.Shell
