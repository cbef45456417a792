import MutationTesting.Shell.Variable

/-!
# Reading input in the shell

The command that reads a line into variables. A backslash keeps the character behind it, which then
separates no fields, and joins lines.
-/

namespace MutationTesting.Shell

/-- A character of a line, and whether a backslash keeps it. -/
abbrev LineChar := Char × Bool

/-- The characters of a line, what follows it, and whether it has ended. -/
def lineChars (isRaw : Bool) : List Char → List LineChar → List LineChar × List Char × Bool
  | [], read => (read.reverse, [], false)
  | '\n' :: rest, read => (read.reverse, rest, true)
  | '\x00' :: rest, read => lineChars isRaw rest read
  | '\\' :: c :: rest, read =>
    if isRaw then lineChars isRaw (c :: rest) (('\\', false) :: read)
    else lineChars isRaw rest (if c = '\n' then read else (c, true) :: read)
  | ['\\'], read => ((if isRaw then ('\\', false) :: read else read).reverse, [], false)
  | c :: rest, read => lineChars isRaw rest ((c, false) :: read)
termination_by cs => cs.length

/-- The characters that separate fields. -/
def State.separators (st : State) : List Char :=
  ((st.get? "IFS").getD " \t\n").toList

namespace LineChar

/-- A character separates fields. -/
def separates (separators : List Char) (c : LineChar) : Bool :=
  !c.2 && separators.contains c.1

/-- A character is a blank that separates fields. -/
def isBlank (separators : List Char) (c : LineChar) : Bool :=
  c.separates separators && c.1.isWhitespace

end LineChar

/-- The size of a last field behind which something separates: that is dropped, with blanks and one
other separator behind a blank, unless more follows; then all counts but for blanks at the end. The
characters so far and those in front of what may be dropped are carried along. -/
def lastFieldSize (separators : List Char) : Nat → Option Nat → Bool → List LineChar → Nat
  | size, dropped?, _, [] => dropped?.getD size
  | size, dropped?, isAfterBlank, c :: cs =>
    if c.isBlank separators then
      lastFieldSize separators (size + 1) (some (dropped?.getD size)) isAfterBlank cs
    else
      lastFieldSize separators (size + 1)
        (if c.separates separators && isAfterBlank then dropped? else none) false cs

/-- The last field of a line: up to what separates it from nothing, or the rest of the line. -/
def lastField (separators : List Char) (cs : List LineChar) : List LineChar :=
  let first := cs.takeWhile fun c => !c.separates separators
  match cs.drop first.length with
  | [] => first
  | c :: rest =>
    cs.take (lastFieldSize separators (first.length + 1) (some first.length)
      (c.isBlank separators) rest)

/-- Cuts a line into at most some fields; the last one is the rest of the line. -/
def cutFields (separators : List Char) : Nat → List LineChar → List String
  | 0, _ => []
  | fields + 1, cs =>
    let cs := cs.dropWhile (·.isBlank separators)
    let text (cs : List LineChar) := String.ofList (cs.map (·.1))
    if fields = 0 then [text (lastField separators cs)]
    else
      let (field, rest) := cs.span fun c => !c.separates separators
      let rest := rest.dropWhile (·.isBlank separators)
      let rest := match rest with
        | c :: more => if c.separates separators then more else rest
        | [] => []
      text field :: cutFields separators fields rest

/-- Reads a line into variables; the last one gets the rest of the line. -/
def readLineInto (args : List String) (st : State) : State :=
  let isPrompt := args.head? == some "-p"
  withOptions "read" ['r', 'p'] (if isPrompt then args.drop 2 else args) st fun letters names =>
    if names.isEmpty then st.refuse "read" "arg count"
    else match names.find? fun name => !isName name.toList with
      | some name => st.refuse "read" (name ++ ": bad variable name")
      | none =>
        let (line, rest, ended) := lineChars (letters.contains 'r') st.input []
        let fields := cutFields st.separators names.length line
        let st := names.zipIdx.foldl (fun st (name, i) => assign name (fields.getD i "") st) st
        if st.isRunning then (st.withInput rest).withStatus (if ended then 0 else 1) else st

end MutationTesting.Shell
