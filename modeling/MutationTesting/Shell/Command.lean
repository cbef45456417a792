import MutationTesting.Shell.Token

/-!
# Commands of the shell

A script is a list of commands: simple commands with assignments and redirections, pipelines, lists
joined by conditions, groups, loops and choices. Reserved words are recognised only where a command
may begin, and so are aliases, which stand for texts. A script is read line by line, so that the
commands of a line are carried out before the next line is looked at. The scripts inside its words are
read with it, so that their faults are faults of the line.

## Termination

Every reader of commands consumes tokens, so their number bounds the nesting of the readers.
-/

namespace MutationTesting.Shell

/-! ## Commands -/

/-- How a stream is redirected. -/
inductive Redirection where
  /-- From a file. -/
  | input
  /-- From a document. -/
  | document
  /-- To a file, which is emptied first. -/
  | output
  /-- To a file, which is emptied first even if files are to be kept. -/
  | overwrite
  /-- To the end of a file. -/
  | append
  /-- To where another stream leads. -/
  | duplicate
  /-- From and to a file. -/
  | both
  deriving DecidableEq, Repr

/-- A redirection of a command. -/
structure Redirect where
  /-- The stream. -/
  stream : Nat
  /-- How it is redirected. -/
  kind : Redirection
  /-- The file, the other stream or the document. -/
  target : Word
  deriving Repr

/-- A command. -/
inductive Command where
  /-- Assignments, a program with arguments, and redirections. -/
  | simple (line : Nat) (assignments : List (List Char × Word)) (words : List Word)
    (redirects : List Redirect)
  /-- Commands each of which reads what the one before writes. -/
  | pipeline (negated : Bool) (stages : List Command)
  /-- The second command if the first succeeds. -/
  | andThen (first second : Command)
  /-- The second command if the first fails. -/
  | orElse (first second : Command)
  /-- Commands in order. -/
  | sequence (commands : List Command)
  /-- A command that is not waited for. -/
  | background (command : Command)
  /-- A command with redirections of its own. -/
  | redirected (line : Nat) (body : Command) (redirects : List Redirect)
  /-- A command in a copy of the shell. -/
  | subshell (line : Nat) (body : Command)
  /-- The commands behind the first condition that holds. -/
  | choose (branches : List (Command × Command)) (otherwise : Option Command)
  /-- Commands as long as a condition holds, or does not. -/
  | repeat (negated : Bool) (condition body : Command)
  /-- Commands for each of some words, or for each argument. -/
  | forEach (line : Nat) (name : List Char) (words : Option (List Word)) (body : Command)
  /-- The commands behind the first pattern that matches a word. -/
  | select (line : Nat) (word : Word) (arms : List (List Word × Command))
  /-- The definition of a function. -/
  | define (line : Nat) (name : List Char) (body : Command)
  deriving Inhabited

/-! ## Reading tokens -/

/-- The names that stand for texts where a command begins. -/
abbrev Aliases := List (String × String)

/-- Reads from tokens with some aliases, or stops with a fault and its line. -/
abbrev Reader (α : Type) := ReaderT Aliases (StateT (List Placed) (Except (SyntaxFault × Nat))) α

/-- The reserved words. -/
def reservedWords : List String :=
  ["!", "case", "do", "done", "elif", "else", "esac", "fi", "for", "if", "in", "then", "until",
    "while", "\x7b", "\x7d"]

/-- The reserved words that close what another one opened. -/
def closers : List String :=
  ["then", "else", "elif", "fi", "do", "done", "esac", "\x7d"]

/-- The reserved word that a token is. -/
def Token.reserved? : Token → Option String
  | .word w => ((literal? w).map String.ofList).filter reservedWords.contains
  | _ => none

/-- The word in front if it is reserved. -/
def reserved? (ts : List Placed) : Option String :=
  ts.head?.bind (·.1.reserved?)

/-- A token as users read it. -/
def Token.text (keywords : Bool) (t : Token) : String :=
  match t with
  | .word _ =>
    match t.reserved?.filter fun _ => keywords with
    | some keyword => "\"" ++ keyword ++ "\""
    | none => "word"
  | .op text =>
    if text.startsWith "<" || text.startsWith ">" then "redirection" else "\"" ++ text ++ "\""
  | .descriptor _ => "redirection"
  | .document _ => "redirection"
  | .newline => "newline"
  | .finish => "end of file"
  | .broken _ => "word"

/-- The token in front stands where it may not. -/
def unexpected {α : Type} (keywords : Bool) (expected : Option String) : Reader α := do
  match ← get with
  | [] => throw (.unexpected "end of file" expected, 0)
  | (.broken fault, line) :: _ => throw (fault, line)
  | (t, line) :: _ => throw (.unexpected (t.text keywords) expected, line)

/-- Drops the ends of lines in front. -/
def skipNewlines : List Placed → List Placed
  | (.newline, _) :: rest => skipNewlines rest
  | ts => ts

/-- Drops a reserved word that has to be in front. -/
def expectWord (text : String) : Reader Unit := do
  if reserved? (← get) == some text then modify List.tail
  else unexpected true (some ("\"" ++ text ++ "\""))

/-- Drops an operator that has to be in front. -/
def expectOp (text : String) (keywords : Bool) : Reader Unit := do
  if (← get).head?.any (·.1.isOp text) then modify List.tail
  else unexpected keywords (some ("\"" ++ text ++ "\""))

/-- The script ends here. -/
def isFinished (ts : List Placed) : Bool :=
  ts.head?.all (·.1.isFinish)

/-- Nothing more belongs to the list of commands. -/
def endsList (ts : List Placed) : Bool :=
  match ts with
  | [] => true
  | (.finish, _) :: _ => true
  | (.op ")", _) :: _ => true
  | (.op ";;", _) :: _ => true
  | ts => (reserved? ts).any closers.contains

/-! ## Simple commands -/

/-- The redirection that an operator stands for, with the stream it is about by default. -/
def redirection? : String → Option (Redirection × Nat)
  | "<" => some (.input, 0)
  | ">" => some (.output, 1)
  | ">|" => some (.overwrite, 1)
  | ">>" => some (.append, 1)
  | ">&" => some (.duplicate, 1)
  | "<&" => some (.duplicate, 0)
  | "<>" => some (.both, 0)
  | _ => none

/-- The redirection in front, if there is one. -/
def readRedirect : Reader (Option Redirect) := do
  let ts ← get
  let (stream?, rest) := match ts with
    | (.descriptor stream, _) :: rest => (some stream, rest)
    | ts => (none, ts)
  match rest with
  | (.document target, _) :: rest =>
    set rest
    return some { stream := stream?.getD 0, kind := .document, target }
  | (.op text, _) :: rest =>
    match redirection? text with
    | none => return none
    | some (kind, stream) =>
      set rest
      match rest with
      | (.word target, _) :: rest =>
        set rest
        return some { stream := stream?.getD stream, kind, target }
      | _ => unexpected false none
  | _ => return none

/-- The redirections in front, with a bound on their number. -/
def readRedirects : Nat → Reader (List Redirect)
  | 0 => return []
  | bound + 1 => do
    match ← readRedirect with
    | some r => return r :: (← readRedirects bound)
    | none => return []

/-- All redirections in front. -/
def readAllRedirects : Reader (List Redirect) := do
  readRedirects (← get).length

/-- The assignment that a word makes: a name, an equals sign and a value. -/
def assignment? : Word → Option (List Char × Word)
  | .text cs false :: parts =>
    let name := cs.takeWhile (· != '=')
    match cs.drop name.length with
    | _ :: value =>
      if isName name then
        some (name, if value.isEmpty then parts else .text value false :: parts)
      else none
    | [] => none
  | _ => none

/-! ## Aliases -/

/-- A word of some names, quoted so that it is no alias any more. -/
def quoteNames (names : List String) (t : Placed) : Placed :=
  match t with
  | (.word w, line) =>
    match literal? w with
    | some cs => if names.contains (String.ofList cs) then (.word [.text cs true], line) else t
    | none => t
  | t => t

/-- The tokens in front, with the aliases among them replaced where a command begins: that of an alias
already replaced stays, and behind a text that ends with a blank the next word counts as well; with a
bound on their number. -/
def replaceAliases (aliases : Aliases) : Nat → List String → List Placed → List Placed
  | 0, _, ts => ts
  | bound + 1, used, ts =>
    match ts with
    | (.word w, line) :: rest =>
      match (literal? w).map String.ofList with
      | none => ts
      | some name =>
        match if used.contains name then none else aliases.lookup name with
        | none => ts
        | some text =>
          let used := name :: used
          let inner := ((tokens text.toList).filter (!·.1.isFinish)).map fun t =>
            quoteNames used (t.1, line)
          let rest := if text.endsWith " " || text.endsWith "\t" then
              replaceAliases aliases bound used rest
            else rest
          replaceAliases aliases bound used (inner ++ rest)
    | ts => ts

/-- Replaces the aliases in front. -/
def expandAliases : Reader Unit := do
  let aliases ← read
  if !aliases.isEmpty && (reserved? (← get)).isNone then
    modify (replaceAliases aliases (2 * aliases.length + 2) [])

/-! ## Parts of commands -/

/-- The rest of a simple command, with a bound on its number of parts. -/
def readSimple (line : Nat) : Nat → List (List Char × Word) → List Word → List Redirect →
    Reader Command
  | 0, _, _, _ => unexpected true none
  | bound + 1, assignments, words, redirects => do
    match ← readRedirect with
    | some r => readSimple line bound assignments words (r :: redirects)
    | none =>
      if words.isEmpty && !assignments.isEmpty then expandAliases
      match ← get with
      | (.word w, _) :: rest =>
        set rest
        match if words.isEmpty then assignment? w else none with
        | some a => readSimple line bound (a :: assignments) words redirects
        | none => readSimple line bound assignments (w :: words) redirects
      | _ => return .simple line assignments.reverse words.reverse redirects.reverse

/-- The commands of the shell itself whose names no function can have. -/
def specialCommands : List String :=
  [".", ":", "break", "continue", "eval", "exec", "exit", "export", "local", "readonly", "return",
    "set", "shift", "times", "trap", "unset"]

/-- The words in front. -/
def spanWords : List Placed → List Word × List Placed
  | (.word w, _) :: rest =>
    let (ws, rest) := spanWords rest
    (w :: ws, rest)
  | ts => ([], ts)

/-- The patterns in front of an arm of a choice, with a bound on their number. -/
def readPatterns : Nat → Reader (List Word)
  | 0 => return []
  | bound + 1 => do
    match ← get with
    | (.word w, _) :: (.op "|", _) :: rest =>
      set rest
      return w :: (← readPatterns bound)
    | (.word w, _) :: rest =>
      set rest
      expectOp ")" false
      return [w]
    | _ => unexpected false (some "\")\"")

/-- The words of a loop and the separator behind them. -/
def readLoopWords : Reader (Option (List Word)) := do
  let ts ← get
  if reserved? ts == some "in" then
    let (ws, ts) := spanWords ts.tail
    set ts
    match ts with
    | (.op ";", _) :: ts =>
      set ts
      return some ws
    | (.newline, _) :: ts =>
      set ts
      return some ws
    | _ => unexpected false none
  else
    if ts.head?.any (·.1.isOp ";") then set ts.tail
    return none

/-! ## Compound commands -/

mutual

/-- The commands in front, up to a token that ends their list; the list may be empty if it is
optional, or if the script ends there. -/
def readList (isOptional : Bool) : Nat → Reader (List Command)
  | 0 => unexpected true none
  | bound + 1 => do
    modify skipNewlines
    if isFinished (← get) || (isOptional && endsList (← get)) then return []
    else
      let c ← readAndOr bound
      match ← get with
      | (.op "&", _) :: ts =>
        set ts
        return .background c :: (← readList true bound)
      | (.op ";", _) :: ts =>
        set ts
        return c :: (← readList true bound)
      | (.newline, _) :: ts =>
        set ts
        return c :: (← readList true bound)
      | _ => return [c]

/-- The pipelines in front that are joined by conditions. -/
def readAndOr : Nat → Reader Command
  | 0 => unexpected true none
  | bound + 1 => do
    readConditions bound (← readPipeline bound)

/-- The conditions behind a command. -/
def readConditions : Nat → Command → Reader Command
  | 0, _ => unexpected true none
  | bound + 1, c => do
    match ← get with
    | (.op "&&", _) :: ts =>
      set (skipNewlines ts)
      readConditions bound (.andThen c (← readPipeline bound))
    | (.op "||", _) :: ts =>
      set (skipNewlines ts)
      readConditions bound (.orElse c (← readPipeline bound))
    | _ => return c

/-- The pipeline in front. -/
def readPipeline : Nat → Reader Command
  | 0 => unexpected true none
  | bound + 1 => do
    if reserved? (← get) == some "!" then
      modify List.tail
      return .pipeline true (← readStages bound)
    else
      match ← readStages bound with
      | [c] => return c
      | stages => return .pipeline false stages

/-- The stages of a pipeline. -/
def readStages : Nat → Reader (List Command)
  | 0 => unexpected true none
  | bound + 1 => do
    let c ← readCommand bound
    match ← get with
    | (.op "|", _) :: ts =>
      set (skipNewlines ts)
      return c :: (← readStages bound)
    | _ => return [c]

/-- The command in front. -/
def readCommand : Nat → Reader Command
  | 0 => unexpected true none
  | bound + 1 => do
    expandAliases
    let ts ← get
    let line := (ts.head?.map (·.2)).getD 0
    let withRedirects (c : Command) : Reader Command := do
      match ← readAllRedirects with
      | [] => return c
      | redirects => return .redirected line c redirects
    match reserved? ts, ts with
    | some "\x7b", _ =>
      modify List.tail
      let cs ← readList false bound
      expectWord "\x7d"
      withRedirects (.sequence cs)
    | some "if", _ =>
      modify List.tail
      let (branches, otherwise) ← readBranches bound
      withRedirects (.choose branches otherwise)
    | some "while", _ =>
      modify List.tail
      withRedirects (← readLoop bound false)
    | some "until", _ =>
      modify List.tail
      withRedirects (← readLoop bound true)
    | some "for", _ =>
      modify List.tail
      withRedirects (← readFor bound line)
    | some "case", _ =>
      modify List.tail
      withRedirects (← readSelect bound line)
    | some _, _ => unexpected true none
    | none, (.op "(", _) :: ts =>
      set ts
      let cs ← readList false bound
      expectOp ")" true
      return .subshell line (← withRedirects (.sequence cs))
    | none, (.word w, line) :: (.op "(", _) :: ts =>
      set ts
      expectOp ")" false
      match (literal? w).filter fun name =>
          isName name && !specialCommands.contains (String.ofList name) with
      | some name =>
        modify skipNewlines
        return .define line name (← readCommand bound)
      | none => throw (.badFunctionName, line)
    | none, _ =>
      match ← readSimple line bound [] [] [] with
      | .simple _ [] [] [] => unexpected true none
      | c => return c

/-- The conditions and commands of a choice, up to its end. -/
def readBranches : Nat → Reader (List (Command × Command) × Option Command)
  | 0 => unexpected true none
  | bound + 1 => do
    let condition ← readList false bound
    expectWord "then"
    let body ← readList false bound
    let branch := (Command.sequence condition, Command.sequence body)
    match reserved? (← get) with
    | some "elif" =>
      modify List.tail
      let (branches, otherwise) ← readBranches bound
      return (branch :: branches, otherwise)
    | some "else" =>
      modify List.tail
      let otherwise ← readList false bound
      expectWord "fi"
      return ([branch], some (.sequence otherwise))
    | _ =>
      expectWord "fi"
      return ([branch], none)

/-- The condition and the body of a loop. -/
def readLoop : Nat → Bool → Reader Command
  | 0, _ => unexpected true none
  | bound + 1, negated => do
    let condition ← readList false bound
    let body ← readBody bound
    return .repeat negated (.sequence condition) (.sequence body)

/-- The commands between the words that enclose the body of a loop. -/
def readBody : Nat → Reader (List Command)
  | 0 => unexpected true none
  | bound + 1 => do
    expectWord "do"
    let body ← readList false bound
    expectWord "done"
    return body

/-- The variable, the words and the body of a loop over words. -/
def readFor : Nat → Nat → Reader Command
  | 0, _ => unexpected true none
  | bound + 1, start => do
    match ← get with
    | (.word w, line) :: ts =>
      match (literal? w).filter isName with
      | none => throw (.badLoopVariable, line)
      | some name =>
        set (skipNewlines ts)
        let words ← readLoopWords
        modify skipNewlines
        let body ← readBody bound
        return .forEach start name words (.sequence body)
    | (.broken fault, line) :: _ => throw (fault, line)
    | ts => throw (.badLoopVariable, (ts.head?.map (·.2)).getD 0)

/-- The word and the arms of a choice by patterns. -/
def readSelect : Nat → Nat → Reader Command
  | 0, _ => unexpected true none
  | bound + 1, start => do
    match ← get with
    | (.word w, _) :: ts =>
      set (skipNewlines ts)
      expectWord "in"
      let arms ← readArms bound
      return .select start w arms
    | _ => unexpected false (some "word")

/-- The arms of a choice by patterns, up to its end. -/
def readArms : Nat → Reader (List (List Word × Command))
  | 0 => unexpected true none
  | bound + 1 => do
    modify skipNewlines
    if reserved? (← get) == some "esac" then
      modify List.tail
      return []
    else
      if (← get).head?.any (·.1.isOp "(") then modify List.tail
      let patterns ← readPatterns bound
      let body ← readList true bound
      let arm := (patterns, Command.sequence body)
      if reserved? (← get) == some "esac" then
        modify List.tail
        return [arm]
      else
        expectOp ";;" true
        return arm :: (← readArms bound)

end

/-! ## Scripts inside words -/

/-- The commands of a whole script, up to a token that ends their list. -/
def readWhole (ts : List Placed) : Except (SyntaxFault × Nat) (Command × List Placed) := do
  let (cs, rest) ← ((readList true (8 * ts.length + 8)).run []).run ts
  return (.sequence cs, rest)

/-- The tokens of a script inside a word, the last of which is the bracket that closes it if there is
one. -/
def scriptTokens (check : Check) (script : Script) : List Placed :=
  match script.line? with
  | none => tokensFrom check 1 script.text
  | some line => (tokensFrom check line script.text).map fun t =>
      if t.1.isFinish then (.op ")", t.2) else t

/-- The fault in a script inside a word, if there is one: the whole text between brackets has to be a
list of commands, and backquotes may enclose anything behind one. The bound is on the nesting. -/
def nestedFault? : Nat → Check
  | 0, _ => none
  | bound + 1, script =>
    match readWhole (scriptTokens (nestedFault? bound) script) with
    | .error fault => some fault
    | .ok (_, rest) =>
      if script.line?.isNone || rest.head?.any (·.1.isOp ")") then none
      else
        match ((expectOp ")" true).run []).run rest with
        | .error fault => some fault
        | .ok _ => none

/-- The commands of a script inside a word, as far as they can be read. -/
def Script.command (script : Script) : Command :=
  match readWhole (scriptTokens (fun _ => none) script) with
  | .ok (c, _) => c
  | .error _ => .sequence []

/-- The tokens of a script, with the faults of the scripts inside its words. -/
def checkedTokens (cs : List Char) : List Placed :=
  tokensFrom (nestedFault? cs.length) 1 cs

/-! ## Lines -/

/-- The commands in front, up to the end of a line outside compound commands, with a bound on their
number. -/
def readLine : Nat → Reader (List Command)
  | 0 => unexpected true none
  | bound + 1 => do
    let ts ← get
    match ts with
    | [] => return []
    | (.newline, _) :: ts =>
      set ts
      return []
    | (.finish, _) :: _ =>
      set ([] : List Placed)
      return []
    | _ =>
      let texts := (← read).map (·.2.length)
      let c ← readAndOr (8 * (ts.length + 1) * (texts.foldl (· + ·) 1))
      match ← get with
      | (.op "&", _) :: ts =>
        set ts
        return .background c :: (← readLine bound)
      | (.op ";", _) :: ts =>
        set ts
        return c :: (← readLine bound)
      | (.newline, _) :: ts =>
        set ts
        return [c]
      | (.finish, _) :: _ =>
        set ([] : List Placed)
        return [c]
      | _ => unexpected true none

end MutationTesting.Shell
