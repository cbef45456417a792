import MutationTesting.Shell.Glob
import MutationTesting.Shell.State

/-!
# Fields

What a word is expanded to: fields, which end where the result of an expansion outside quotes is cut
at separators. Every character of a field remembers whether it was quoted, because a field may be a
pattern, or be replaced by the names of the files that match it.
-/

namespace MutationTesting.Shell

/-- A field: its characters, and whether each of them was quoted. -/
abbrev Field := List (Char × Bool)

namespace Field

/-- The characters of a field. -/
def text (f : Field) : String :=
  String.ofList (f.map (·.1))

/-- A field as a pattern: its quoted characters stand for themselves. -/
def pattern (f : Field) : List Char :=
  f.flatMap fun (c, quoted) => if quoted then Glob.escape [c] else [c]

/-- What follows an opening bracket closes it before the next slash, behind at least one character. -/
def closesBracket (f : Field) : Bool :=
  let f := if f.head?.any (·.1 == '!') then f.tail else f
  ((f.drop 1).takeWhile (·.1 != '/')).any (·.1 == ']')

/-- A field may match names other than itself. -/
def isPattern : Field → Bool
  | [] => false
  | (c, quoted) :: rest =>
    (!quoted && (c == '*' || c == '?' || (c == '[' && closesBracket rest))) || isPattern rest

end Field

/-- The fields of a word under expansion: those that are complete, and the one that goes on. -/
structure Fields where
  /-- The characters that separate fields. -/
  separators : List Char := [' ', '\t', '\n']
  /-- The word is the result of an expansion: its characters outside quotes are cut as well. -/
  isResult : Bool := false
  /-- The complete fields, the last one first. -/
  complete : List Field := []
  /-- The field that goes on, its last character first. -/
  current : Option Field := none
  /-- A blank has just ended a field. -/
  isAfterBlank : Bool := false

namespace Fields

/-- Appends characters to the field that goes on. -/
def push (f : Fields) (quoted : Bool) (cs : List Char) : Fields :=
  { f with
    current := some (cs.foldl (fun field c => (c, quoted) :: field) (f.current.getD []))
    isAfterBlank := false }

/-- Ends the field that goes on. -/
def close (f : Fields) : Fields :=
  match f.current with
  | some cs => { f with complete := cs.reverse :: f.complete, current := none }
  | none => f

/-- Appends a character of an expansion outside quotes: blanks end a field, and any other separator
ends one that may be empty. -/
def cutAt (f : Fields) (c : Char) : Fields :=
  if !f.separators.contains c then f.push false [c]
  else if c.isWhitespace then
    if f.current.isSome then { f.close with isAfterBlank := true } else f
  else if f.current.isNone && f.isAfterBlank then { f with isAfterBlank := false }
  else (f.push false []).close

/-- Appends the result of an expansion. -/
def add (f : Fields) (quoted : Bool) (cs : List Char) : Fields :=
  if quoted then f.push true cs else cs.foldl cutAt f

/-- Appends characters of the word itself. -/
def pushText (f : Fields) (quoted : Bool) (cs : List Char) : Fields :=
  if f.isResult && !quoted then f.add false cs else f.push quoted cs

/-- Appends arguments, each of which ends where the next one begins. -/
def addAll (f : Fields) (quoted : Bool) : List String → Fields
  | [] => f
  | [arg] => f.add quoted arg.toList
  | arg :: args => ((f.add quoted arg.toList).close).addAll quoted args

/-- The fields in order. -/
def toList (f : Fields) : List Field :=
  f.close.complete.reverse

/-- The fields as one text. -/
def text (f : Fields) : String :=
  " ".intercalate (f.toList.map Field.text)

/-- The fields as one pattern. -/
def pattern (f : Fields) : List Char :=
  [' '].intercalate (f.toList.map Field.pattern)

end Fields

/-! ## Parameters -/

/-- The value of a parameter, if it is set. -/
def parameter? (st : State) (name : List Char) : Option String :=
  match name with
  | ['#'] => some st.args.length.repr
  | ['?'] => some st.status.repr
  | ['$'] => some st.process.repr
  | ['!'] => st.lastJob?.map Nat.repr
  | ['-'] => some st.options.letters
  | ['0'] => some st.name
  | ['@'] => if st.args.isEmpty then none else some (" ".intercalate st.args)
  | ['*'] => if st.args.isEmpty then none else some (" ".intercalate st.args)
  | name =>
    match digits? name with
    | some 0 => some st.name
    | some n => st.args[n - 1]?
    | none => st.get? (String.ofList name)

/-- An unset parameter is an error. -/
def mustBeSet (st : State) (name : List Char) : Bool :=
  st.options.stopsOnUnset && (parameter? st name).isNone && name != ['@'] && name != ['*']

/-- What stands between arguments that are expanded to one text. -/
def argumentSeparator (st : State) : String :=
  match st.get? "IFS" with
  | some text => (text.take 1).toString
  | none => " "

/-- Bytes as the text of an expansion: without zeros, and without the line ends behind them. -/
def outputText (bytes : ByteArray) : List Char :=
  (((Octets.chars bytes).reverse.dropWhile (· == '\n')).filter (· != '\x00')).reverse

/-! ## Home directories -/

/-- The directories of users who are always there. -/
def homes : List (String × String) :=
  [("root", "/root"), ("daemon", "/usr/sbin"), ("bin", "/bin"), ("sys", "/dev"),
    ("sync", "/bin"), ("games", "/usr/games"), ("man", "/var/cache/man"), ("lp", "/var/spool/lpd"),
    ("mail", "/var/mail"), ("news", "/var/spool/news"), ("www-data", "/var/www"),
    ("backup", "/var/backups"), ("nobody", "/nonexistent")]

/-- The home directory of the user of a name, or of the user of the shell. -/
def home? (st : State) (user : List Char) : Option String :=
  if user.isEmpty then st.get? "HOME" else homes.lookup (String.ofList user)

/-- The parts of literal characters in which a tilde in front, or behind a colon of an assignment,
stands for a home directory; only the last part of a word can end the name of a user. -/
def tildeParts (st : State) (inAssignment isLast : Bool) : Nat → Bool → List Char → Word
  | 0, _, cs => [.text cs false]
  | bound + 1, begins, cs =>
    match begins, cs with
    | true, '~' :: rest =>
      let user := rest.takeWhile fun c => c != '/' && !(inAssignment && c == ':')
      let after := rest.drop user.length
      let home := if after.isEmpty && !isLast then none else home? st user
      match home with
      | some path => .text path.toList true :: tildeParts st inAssignment isLast bound false after
      | none => .text ('~' :: user) false :: tildeParts st inAssignment isLast bound false after
    | _, cs =>
      if inAssignment then
        let front := cs.takeWhile (· != ':')
        match cs.drop front.length with
        | c :: rest =>
          .text (front ++ [c]) false :: tildeParts st inAssignment isLast bound true rest
        | [] => if front.isEmpty then [] else [.text front false]
      else if cs.isEmpty then [] else [.text cs false]

/-- A word with its tildes replaced. -/
def replaceTildes (st : State) (inAssignment begins : Bool) : Word → Word
  | [] => []
  | .text cs false :: parts =>
    (if cs.contains '~' then tildeParts st inAssignment parts.isEmpty (cs.length + 1) begins cs
      else [.text cs false])
      ++ replaceTildes st inAssignment (inAssignment && cs.getLast? == some ':') parts
  | part :: parts => part :: replaceTildes st inAssignment false parts

/-! ## Names of files -/

/-- A field cut at its slashes. -/
def splitField : Field → List Field
  | [] => [[]]
  | c :: cs =>
    match splitField cs with
    | [] => [[c]]
    | first :: rest => if c.1 == '/' then [] :: first :: rest else (c :: first) :: rest

/-- The names in a directory that a pattern matches; those that begin with a point only if the pattern
does. -/
def matchingNames (st : State) (directory : String) (component : Field) : List String :=
  let elements := component.pattern
  let hidden := component.head?.any (·.1 == '.')
  match st.find directory, st.place directory with
  | .ok .directory, .ok place =>
    ([".", ".."] ++ st.namesIn place).filter fun name =>
      (hidden || !name.startsWith ".") && matchesPattern elements name.toList
  | _, _ => []

/-- The paths behind a path in front that components match. -/
def matchingPaths (st : State) (front : String) : List Field → List String
  | [] => [front]
  | component :: rest =>
    let go (name : String) : List String :=
      matchingPaths st (front ++ name ++ if rest.isEmpty then "" else "/") rest
    if component.isPattern then
      (matchingNames st (if front == "" then "." else front) component).flatMap go
    else (go component.text).filter fun path =>
      !rest.isEmpty || (st.find path).toOption.isSome

/-- The names of the files that a field matches, or the field itself if there are none. -/
def fileNames (st : State) (f : Field) : List String :=
  if st.options.keepsPatterns || !f.isPattern then [f.text]
  else
    match matchingPaths st "" (splitField f) with
    | [] => [f.text]
    | paths => paths.mergeSort (· ≤ ·)

end MutationTesting.Shell
