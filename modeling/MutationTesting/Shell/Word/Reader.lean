import MutationTesting.Shell.Word

/-!
# Reading words

Single quotes keep every character; double quotes keep all but the dollar sign, the backquote and the
backslash; outside quotes a backslash keeps the next character. Where the script of an expansion ends
can only be told by reading its tokens: a bracket closes it unless it belongs to a group, a quote, a
comment, a document or a pattern of a choice.

## Termination

Every reader of a character goes on behind it, and every other one hands over to a reader of one.
Twice the length of the text therefore bounds the number of steps, and readers that call each other
carry that bound.
-/

namespace MutationTesting.Shell

/-! ## Pieces of fixed extent -/

/-- The characters up to a single quote. -/
def scanSingle : List Char → Except SyntaxFault (List Char × List Char)
  | [] => .error .openQuote
  | c :: rest =>
    if c = '\'' then .ok ([], rest) else (scanSingle rest).map fun (cs, rest) => (c :: cs, rest)

/-- The script between backquotes, its backslashes undone; between double quotes a backslash also
keeps a double quote. -/
def scanBackquoted (quoted : Bool) : List Char → Except SyntaxFault (List Char × List Char)
  | [] => .error .openBackquote
  | '`' :: rest => .ok ([], rest)
  | '\\' :: c :: rest =>
    (scanBackquoted quoted rest).map fun (cs, rest) =>
      (if c = '`' ∨ c = '\\' ∨ c = '$' ∨ (quoted ∧ c = '"') then c :: cs else '\\' :: c :: cs, rest)
  | c :: rest => (scanBackquoted quoted rest).map fun (cs, rest) => (c :: cs, rest)

/-! ## Documents -/

/-- How a document is asked for. -/
structure DocumentMark where
  /-- The line that ends it. -/
  last : List Char
  /-- No expansions are made in it. -/
  isLiteral : Bool
  /-- Tabs in front of its lines do not count. -/
  stripsTabs : Bool
  deriving DecidableEq, Repr

/-- The lines of a document, and what follows it, with a bound on their number. -/
def documentLines (mark : DocumentMark) : Nat → List Char → List Char × List Char
  | 0, cs => ([], cs)
  | bound + 1, cs =>
    if cs.isEmpty then ([], [])
    else
      let line := cs.takeWhile (· != '\n')
      let rest := cs.drop (line.length + 1)
      let line := if mark.stripsTabs then line.dropWhile (· == '\t') else line
      if line = mark.last then ([], rest)
      else
        let (lines, rest) := documentLines mark bound rest
        (line ++ '\n' :: lines, rest)

/-- What follows the documents in front, one for each mark. -/
def skipDocuments (marks : List DocumentMark) (cs : List Char) : List Char :=
  marks.foldl (fun cs mark => (documentLines mark (cs.length + 1) cs).2) cs

/-! ## Parameters -/

/-- The name of a parameter in front, and what follows it. -/
def spanParameter (cs : List Char) : List Char × List Char :=
  match cs with
  | [] => ([], [])
  | c :: rest =>
    if isNameStart c then cs.span isNameChar
    else if c.isDigit then cs.span Char.isDigit
    else if isSpecial c then ([c], rest)
    else ([], cs)

/-- The parameter whose length is asked for, up to the closing brace, and what follows it. -/
def measured? (cs : List Char) : Option (List Char × List Char) :=
  match spanParameter cs with
  | ([], _) => none
  | (name, '\x7d' :: rest) => some (name, rest)
  | _ => none

/-- The modifier that operator characters stand for, and what follows them. -/
def modifier? : List Char → Option ((Word → Modifier) × List Char)
  | ':' :: '-' :: rest => some (.default true, rest)
  | '-' :: rest => some (.default false, rest)
  | ':' :: '=' :: rest => some (.assign true, rest)
  | '=' :: rest => some (.assign false, rest)
  | ':' :: '+' :: rest => some (.alternative true, rest)
  | '+' :: rest => some (.alternative false, rest)
  | ':' :: '?' :: rest => some (.require true, rest)
  | '?' :: rest => some (.require false, rest)
  | _ => none

/-- The modifier that cuts off what a pattern matches, and what follows its operator. -/
def trim? : List Char → Option ((Word → Modifier) × List Char)
  | '%' :: '%' :: rest => some (.trim true true, rest)
  | '%' :: rest => some (.trim true false, rest)
  | '#' :: '#' :: rest => some (.trim false true, rest)
  | '#' :: rest => some (.trim false false, rest)
  | _ => none

/-! ## Words -/

/-- Where a reader of parts is. -/
inductive Setting where
  /-- In a word of a command. -/
  | word
  /-- Between double quotes. -/
  | quotes
  /-- In a document. -/
  | document
  /-- Between the braces of an expansion, possibly of one between double quotes. -/
  | braces (inQuotes : Bool)
  /-- In an arithmetic expansion, inside so many brackets. -/
  | arithmetic (depth : Nat)
  deriving DecidableEq, Repr

namespace Setting

/-- Literal characters and expansions count as quoted. -/
def isQuoted : Setting → Bool
  | .word => false
  | .quotes => true
  | .document => true
  | .braces inQuotes => inQuotes
  | .arithmetic _ => true

/-- What is wrong if the text ends here, if anything is. -/
def fault? : Setting → Option SyntaxFault
  | .word => none
  | .quotes => some .openQuote
  | .document => none
  | .braces inQuotes => some (if inQuotes then .openQuote else .openBrace)
  | .arithmetic _ => some .openArithmetic

/-- A character that a backslash keeps, so that the backslash itself is dropped. -/
def isEscapable (s : Setting) (c : Char) : Bool :=
  c == '$' || c == '`' || c == '\\' || match s with
    | .word => true
    | .quotes => c == '"'
    | .document => false
    | .braces inQuotes => !inQuotes || c == '"' || c == '\x7d'
    | .arithmetic _ => c == '"'

/-- A character that stands for itself. -/
def isPlain (s : Setting) (c : Char) : Bool :=
  c != '\\' && c != '$' && c != '`' && match s with
    | .word => c != '\'' && c != '"' && !endsWord c
    | .quotes => c != '"'
    | .document => true
    | .braces inQuotes => (inQuotes || c != '\'') && c != '"' && c != '\x7d'
    | .arithmetic _ => c != '(' && c != ')'

end Setting

/-- What the tokens of a script are inside of, where that matters for its end. -/
inductive Enclosure where
  /-- A group between brackets. -/
  | group
  /-- A choice whose word is to come. -/
  | subject
  /-- A choice behind its word. -/
  | entry
  /-- A choice in front of a pattern. -/
  | patterns
  /-- A choice behind a pattern. -/
  | arm
  deriving DecidableEq, Repr

/-- The reserved words behind which a command begins. -/
def openers : List String :=
  ["!", "\x7b", "do", "elif", "else", "if", "then", "until", "while"]

/-- What a word that stands behind an enclosure changes: the enclosures, and whether a command may
begin behind it. -/
def passWord (w : Word) (begins : Bool) (enclosures : List Enclosure) : List Enclosure × Bool :=
  let text := ((literal? w).map String.ofList).getD ""
  match enclosures with
  | .subject :: outer => (.entry :: outer, false)
  | .entry :: outer => (if text == "in" then .patterns :: outer else enclosures, false)
  | .patterns :: outer => (if text == "esac" then outer else enclosures, false)
  | enclosures =>
    if !begins then (enclosures, false)
    else if text == "case" then (.subject :: enclosures, false)
    else if text == "esac" && enclosures.head? == some .arm then (enclosures.tail, false)
    else (enclosures, openers.contains text)

mutual

/-- The parts in front up to their end, and what follows it. The text ends on a line of a given
number. -/
def scanParts (s : Setting) (lastLine : Nat) : Nat → List Char →
    Except SyntaxFault (Word × List Char)
  | 0, _ => .error .openBracket
  | bound + 1, cs => do
    let follow (parts : Word) (s : Setting) (rest : List Char) :
        Except SyntaxFault (Word × List Char) := do
      let (more, rest) ← scanParts s lastLine bound rest
      return (parts ++ more, rest)
    match cs with
    | [] =>
      match s.fault? with
      | some fault => throw fault
      | none => return ([], [])
    | '\\' :: '\n' :: rest => scanParts s lastLine bound rest
    | '\\' :: c :: rest =>
      follow [.text (if s.isEscapable c then [c] else ['\\', c]) true] s rest
    | ['\\'] => follow [.text ['\\'] true] s []
    | '$' :: rest =>
      let (part, rest) ← scanDollar s lastLine bound rest
      follow [part] s rest
    | '`' :: rest =>
      let (script, rest) ← scanBackquoted (s != .document && s.isQuoted) rest
      follow [.backquoted script s.isQuoted] s rest
    | c :: rest =>
      if s.isPlain c then
        let run := cs.takeWhile s.isPlain
        follow [.text run s.isQuoted] s (cs.drop run.length)
      else match s, c with
        | .quotes, _ => return ([], rest)
        | .word, '\'' =>
          let (run, rest) ← scanSingle rest
          follow [.text run true] s rest
        | .braces _, '\'' =>
          let (run, rest) ← scanSingle rest
          follow [.text run true] s rest
        | .word, '"' =>
          let (inner, rest) ← scanParts .quotes lastLine bound rest
          follow (if inner.isEmpty then [.text [] true] else inner) s rest
        | .braces _, '"' =>
          let (inner, rest) ← scanParts .quotes lastLine bound rest
          follow (if inner.isEmpty then [.text [] true] else inner) s rest
        | .braces _, _ => return ([], rest)
        | .arithmetic depth, '(' => follow [.text ['('] true] (.arithmetic (depth + 1)) rest
        | .arithmetic (depth + 1), _ => follow [.text [')'] true] (.arithmetic depth) rest
        | .arithmetic 0, _ =>
          match rest with
          | ')' :: rest => return ([], rest)
          | rest => follow [.text [')'] true] s rest
        | _, _ => return ([], cs)

/-- The expansion behind a dollar sign, and what follows it; a lone dollar sign stands for itself. -/
def scanDollar (s : Setting) (lastLine : Nat) : Nat → List Char →
    Except SyntaxFault (Part × List Char)
  | 0, _ => .error .openBracket
  | bound + 1, cs => do
    match cs with
    | '(' :: '(' :: rest =>
      let (expression, rest) ← scanParts (.arithmetic 0) lastLine bound rest
      return (.arithmetic expression s.isQuoted, rest)
    | '(' :: inner =>
      let rest ← skipScript lastLine bound [] true [] inner
      let script := inner.take (inner.length - rest.length - 1)
      return (.command script (lastLine - inner.count '\n') s.isQuoted, rest)
    | '\x7b' :: inner => scanBraces s lastLine bound inner
    | c :: rest =>
      if isNameStart c then
        return (.parameter (cs.takeWhile isNameChar) .plain s.isQuoted, cs.dropWhile isNameChar)
      else if isSpecial c then return (.parameter [c] .plain s.isQuoted, rest)
      else return (.text ['$'] s.isQuoted, cs)
    | [] => return (.text ['$'] s.isQuoted, [])

/-- The parameter behind an opened brace, and what follows the closing one. -/
def scanBraces (s : Setting) (lastLine : Nat) : Nat → List Char →
    Except SyntaxFault (Part × List Char)
  | 0, _ => .error .openBrace
  | bound + 1, cs => do
    let inner (modifier : Word → Modifier) (inQuotes : Bool) (name rest : List Char) :
        Except SyntaxFault (Part × List Char) := do
      let (word, rest) ← scanParts (.braces inQuotes) lastLine bound rest
      return (.parameter name (modifier word) s.isQuoted, rest)
    match (if cs.head? == some '#' then measured? cs.tail else none) with
    | some (name, rest) => return (.parameter name .length s.isQuoted, rest)
    | none =>
      let (name, rest) := spanParameter cs
      if name.isEmpty then inner (fun _ => .invalid) s.isQuoted name rest
      else match rest with
        | '\x7d' :: rest => return (.parameter name .plain s.isQuoted, rest)
        | rest =>
          match modifier? rest with
          | some (modifier, rest) => inner modifier s.isQuoted name rest
          | none =>
            match trim? rest with
            | some (modifier, rest) => inner modifier false name rest
            | none => inner (fun _ => .invalid) s.isQuoted name rest

/-- What follows the bracket that closes a script, of which the tokens in front are inside of
enclosures; a command may begin here, and documents have been asked for. -/
def skipScript (lastLine : Nat) : Nat → List Enclosure → Bool → List DocumentMark → List Char →
    Except SyntaxFault (List Char)
  | 0, _, _, _, _ => .error .openBracket
  | bound + 1, enclosures, begins, marks, cs => do
    match cs with
    | [] => throw .openBracket
    | '\n' :: rest => skipScript lastLine bound enclosures true [] (skipDocuments marks rest)
    | '\\' :: '\n' :: rest => skipScript lastLine bound enclosures begins marks rest
    | '#' :: rest =>
      skipScript lastLine bound enclosures begins marks (rest.dropWhile (· != '\n'))
    | '<' :: '<' :: rest =>
      let (stripsTabs, rest) := match rest with
        | '-' :: rest => (true, rest)
        | rest => (false, rest)
      let (w, rest) ← scanParts .word lastLine bound (rest.dropWhile isBlank)
      let (last, isLiteral) := wordText w
      skipScript lastLine bound enclosures false (marks ++ [⟨last, isLiteral, stripsTabs⟩]) rest
    | ';' :: ';' :: rest =>
      match enclosures with
      | .arm :: outer => skipScript lastLine bound (.patterns :: outer) false marks rest
      | enclosures => skipScript lastLine bound enclosures true marks rest
    | '(' :: rest =>
      match enclosures with
      | .patterns :: _ => skipScript lastLine bound enclosures false marks rest
      | enclosures => skipScript lastLine bound (.group :: enclosures) true marks rest
    | ')' :: rest =>
      match enclosures with
      | .group :: outer => skipScript lastLine bound outer true marks rest
      | .patterns :: outer => skipScript lastLine bound (.arm :: outer) true marks rest
      | _ => return rest
    | c :: rest =>
      if isBlank c then skipScript lastLine bound enclosures begins marks rest
      else if endsWord c then
        skipScript lastLine bound enclosures (begins || (c != '<' && c != '>')) marks rest
      else
        let (w, rest) ← scanParts .word lastLine bound cs
        let (enclosures, begins) := passWord w begins enclosures
        skipScript lastLine bound enclosures begins marks rest

end

/-- The number of steps that reading a text takes at most. -/
def readingBound (cs : List Char) : Nat :=
  4 * cs.length + 4

/-- The word in front of a text that ends on a line of a given number, and what follows it. -/
def scanWordBefore (lastLine : Nat) (cs : List Char) : Except SyntaxFault (Word × List Char) :=
  scanParts .word lastLine (readingBound cs) cs

/-- The word in front, and what follows it. -/
def scanWord (cs : List Char) : Except SyntaxFault (Word × List Char) :=
  scanWordBefore (cs.count '\n' + 1) cs

/-- The document mark behind its operator, and what follows it. -/
def documentMark (lastLine : Nat) (cs : List Char) :
    Except SyntaxFault (DocumentMark × List Char) := do
  let (stripsTabs, cs) := match cs with
    | '-' :: rest => (true, rest)
    | cs => (false, cs)
  let (w, rest) ← scanWordBefore lastLine (cs.dropWhile isBlank)
  let (last, isLiteral) := wordText w
  return ({ last, isLiteral, stripsTabs }, rest)

/-- The text of a document that ends on a line as a word; an expansion that is not closed is a fault
of the line behind it. -/
def documentWord (mark : DocumentMark) (lastLine : Nat) (text : List Char) :
    Except (SyntaxFault × Nat) Word :=
  if mark.isLiteral then .ok [.text text true]
  else match scanParts .document lastLine (readingBound text) text with
    | .ok (w, _) => .ok w
    | .error .openQuote => .error (.openBrace, lastLine)
    | .error fault => .error (fault, lastLine)

/-- The documents in front, one for each mark, and what follows them; the text ends on a line of a
given number. -/
def readDocuments (lastLine : Nat) :
    List DocumentMark → List Char → Except (SyntaxFault × Nat) (List Word × List Char)
  | [], cs => .ok ([], cs)
  | mark :: marks, cs => do
    let (text, rest) := documentLines mark (cs.length + 1) cs
    let w ← documentWord mark (lastLine - cs.count '\n' + text.count '\n') text
    let (ws, rest) ← readDocuments lastLine marks rest
    return (w :: ws, rest)

end MutationTesting.Shell
