import MutationTesting.Shell.Word.Reader

/-!
# Tokens of the shell

A script is cut into words, operators and ends of lines. A document that a command reads from the
script itself stands behind the line of the command, up to a line of its own that ends it; as a token
it stands where the command asks for it.

## Termination

Every token is made of at least one character, so the length of the script bounds their number.
-/

namespace MutationTesting.Shell

/-- A token of a script. -/
inductive Token where
  /-- A word. -/
  | word (w : Word)
  /-- A number in front of a redirection. -/
  | descriptor (n : Nat)
  /-- An operator. -/
  | op (text : String)
  /-- The document that a command reads. -/
  | document (text : Word)
  /-- The end of a line. -/
  | newline
  /-- The end of the script. -/
  | finish
  /-- Text that is no token. -/
  | broken (fault : SyntaxFault)
  deriving Repr

namespace Token

/-- The token is an operator. -/
def isOp (t : Token) (text : String) : Bool :=
  match t with
  | .op text' => text' == text
  | _ => false

/-- The token is the end of the script. -/
def isFinish : Token → Bool
  | .finish => true
  | _ => false

end Token

/-- A token and the line on which it ends. -/
abbrev Placed := Token × Nat

/-! ## Operators -/

/-- The operator in front, the longest one that fits. -/
def operator? : List Char → Option (String × List Char)
  | '&' :: '&' :: rest => some ("&&", rest)
  | '|' :: '|' :: rest => some ("||", rest)
  | ';' :: ';' :: rest => some (";;", rest)
  | '>' :: '>' :: rest => some (">>", rest)
  | '>' :: '&' :: rest => some (">&", rest)
  | '>' :: '|' :: rest => some (">|", rest)
  | '<' :: '&' :: rest => some ("<&", rest)
  | '<' :: '>' :: rest => some ("<>", rest)
  | '&' :: rest => some ("&", rest)
  | '|' :: rest => some ("|", rest)
  | ';' :: rest => some (";", rest)
  | '(' :: rest => some ("(", rest)
  | ')' :: rest => some (")", rest)
  | '<' :: rest => some ("<", rest)
  | '>' :: rest => some (">", rest)
  | _ => none

/-- The digit in front if a redirection follows it at once. -/
def descriptor? : List Char → Option (Nat × List Char)
  | c :: d :: rest =>
    if c.isDigit && (d == '<' || d == '>') then some (c.toNat - '0'.toNat, d :: rest) else none
  | _ => none

/-! ## Tokens -/

/-- The line on which an unfinished text is given up: that of its beginning for a brace, and the last
one otherwise. -/
def faultLine (fault : SyntaxFault) (line lastLine : Nat) : Nat :=
  if fault = .openBrace then line else lastLine

/-- Finds a fault in a script inside a word, and its line. -/
abbrev Check := Script → Option (SyntaxFault × Nat)

/-- The tokens of a script whose last line has a number, with a bound on their number, and the
documents that the line asks for, of which some have been asked for before. -/
def tokenize (check : Check) (lastLine : Nat) :
    Nat → List DocumentMark → List Char → List Placed × List Word
  | 0, _, _ => ([(.finish, lastLine)], [])
  | bound + 1, marks, cs =>
    let emit (t : Token) (marks : List DocumentMark) (rest : List Char) :=
      let (ts, documents) := tokenize check lastLine bound marks rest
      ((t, lastLine - rest.count '\n') :: ts, documents)
    let giveUp (fault : SyntaxFault) : List Placed × List Word :=
      ([(.broken fault, faultLine fault (lastLine - cs.count '\n') lastLine)], [])
    match cs with
    | [] => ([(.finish, lastLine)], [])
    | '\n' :: rest =>
      match readDocuments lastLine marks rest with
      | .error (fault, line) => ([(.broken fault, line)], [])
      | .ok (documents, rest) =>
        match (documents.flatMap scriptsOf).findSome? check with
        | some (fault, line) => ([(.broken fault, line)], [])
        | none => ((emit .newline [] rest).1, documents)
    | '\\' :: '\n' :: rest => tokenize check lastLine bound marks rest
    | '#' :: rest => tokenize check lastLine bound marks (rest.dropWhile (· != '\n'))
    | '<' :: '<' :: rest =>
      match documentMark lastLine rest with
      | .ok (mark, rest) =>
        let (ts, documents) := tokenize check lastLine bound (marks ++ [mark]) rest
        ((.document (documents.getD marks.length []), lastLine - rest.count '\n') :: ts, documents)
      | .error fault => giveUp fault
    | c :: rest =>
      if isBlank c then tokenize check lastLine bound marks rest
      else match descriptor? cs with
        | some (n, rest) => emit (.descriptor n) marks rest
        | none =>
          match operator? cs with
          | some (text, rest) => emit (.op text) marks rest
          | none =>
            match scanWordBefore lastLine cs with
            | .error fault => giveUp fault
            | .ok (w, rest) =>
              match (scriptsOf w).findSome? check with
              | some (fault, line) => ([(.broken fault, line)], [])
              | none => emit (.word w) marks rest

/-- The tokens of a script that begins on a line, the last of which is its end or a fault. -/
def tokensFrom (check : Check) (firstLine : Nat) (cs : List Char) : List Placed :=
  (tokenize check (firstLine + cs.count '\n') (cs.length + 1) [] cs).1

/-- The tokens of a script whose inner scripts are not looked at. -/
def tokens (cs : List Char) : List Placed :=
  tokensFrom (fun _ => none) 1 cs

end MutationTesting.Shell
