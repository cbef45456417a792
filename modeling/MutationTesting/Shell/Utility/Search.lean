import MutationTesting.Regex.Reader
import MutationTesting.Shell.Utility.File

/-!
# Searching lines

The utility that prints the lines which patterns match, what they match in them, or how many lines
there are.
-/

namespace MutationTesting.Shell.Utility

namespace Grep

/-- What lines are searched for. -/
structure Query where
  /-- The expressions, one of which has to match. -/
  patterns : List Regex
  /-- Capital letters count as small ones. -/
  ignoresCase : Bool
  /-- A match is a whole word. -/
  isWord : Bool
  /-- A match is a whole line. -/
  isLine : Bool

/-- The longest match of an expression at a place. -/
def matchAt? (q : Query) (r : Regex) (p : Regex.Place) : Option Regex.Match :=
  let isEdge (c? : Option Char) : Bool := !c?.any Regex.isWordChar
  let fits (last : Regex.Place) : Bool :=
    if q.isLine then p.previous?.isNone && last.rest.isEmpty
    else !q.isWord || (isEdge p.previous? && isEdge last.rest.head?)
  (Regex.furthest? ((Regex.ends q.ignoresCase r p).filter fits)).map fun last => { first := p, last }

/-- The longest match of any expression at a place. -/
def longestAt? (q : Query) (p : Regex.Place) : Option Regex.Match :=
  q.patterns.foldl (fun best? r =>
    match best?, matchAt? q r p with
    | some best, some m => some (if best.last.position < m.last.position then m else best)
    | none, m? => m?
    | best?, none => best?) none

/-- The first match from a place on, with a bound on the number of places that are tried. -/
def searchFrom (q : Query) : Nat → Regex.Place → Option Regex.Match
  | 0, _ => none
  | bound + 1, p =>
    match longestAt? q p with
    | some m => some m
    | none => if p.rest.isEmpty || q.isLine then none else searchFrom q bound (p.skip 1)

/-- The first match in a line. -/
def search? (q : Query) (line : List Char) : Option Regex.Match :=
  searchFrom q (line.length + 1) (Regex.Place.ofText line)

/-- The matches in a line that are not empty, with a bound on their number. -/
def matchesFrom (q : Query) : Nat → Regex.Place → List Regex.Match
  | 0, _ => []
  | bound + 1, p =>
    match searchFrom q (p.rest.length + 1) p with
    | none => []
    | some m =>
      if m.first.position < m.last.position then
        m :: matchesFrom q bound { m.last with groups := [] }
      else if m.last.rest.isEmpty then []
      else matchesFrom q bound { m.last.skip 1 with groups := [] }

/-- The expressions of a text, one on each line. -/
def patternsOf (n : Regex.Notation) (isLiteral : Bool) (text : String) :
    Except Regex.Fault (List Regex) :=
  (text.splitOn "\n").mapM fun line =>
    if isLiteral then .ok (Regex.literal line.toList) else (Regex.read n line.toList).map (·.1)

/-- A line that is printed: its number, the place of its first byte, whether it is selected, and its
text. -/
structure Shown where
  /-- Its number. -/
  number : Nat
  /-- The place of its first byte. -/
  offset : Nat
  /-- It is selected. -/
  isSelected : Bool
  /-- Its text. -/
  line : List Char

/-- The lines of a text with their numbers and places, as far as they are selected. -/
def judge (selects : List Char → Bool) (cs : List Char) : List Shown :=
  ((Lines.split cs).foldl (fun (acc : List Shown × Nat × Nat) line =>
    let (out, number, offset) := acc
    ({ number, offset, isSelected := selects line, line } :: out,
      number + 1, offset + line.length + 1)) ([], 1, 0)).1.reverse

/-- The lines up to a number of selected ones, and the others behind the last of these. -/
def upTo (most : Nat) : List Shown → List Shown
  | [] => []
  | s :: rest =>
    if s.isSelected then
      match most with
      | 0 => []
      | most + 1 => s :: upTo most rest
    else s :: upTo most rest

/-- The selected lines with those around them; behind a gap a line without a number stands. -/
def withContext (before after : Nat) (lines : List Shown) : List Shown :=
  let numbers := (lines.filter (·.isSelected)).map (·.number)
  let near (n : Nat) : Bool := numbers.any fun m => n ≤ m + after && m ≤ n + before
  let kept := lines.filter fun s => s.isSelected || near s.number
  (kept.foldl (fun (acc : List Shown × Option Nat) s =>
    let gap : List Shown := match acc.2 with
      | some n => if n + 1 < s.number && 0 < before + after then
          [{ number := 0, offset := 0, isSelected := false, line := ['-', '-'] }] else []
      | none => []
    (s :: gap ++ acc.1, some s.number)) ([], none)).1.reverse

end Grep

/-- The files at and below a path, with a bound on their depth. -/
def filesBelow (st : State) : Nat → String → List String
  | 0, _ => []
  | bound + 1, path =>
    match st.find path, st.place path with
    | .ok .directory, .ok place =>
      (st.namesIn place).flatMap fun name => filesBelow st bound (inDirectory path name)
    | _, _ => [path]

/-- The arguments of a search, a number among them standing for lines around others. -/
def expandContext (args : List String) : List String :=
  args.map fun arg =>
    match arg.toList with
    | '-' :: c :: cs => if (c :: cs).all Char.isDigit then "-C" ++ String.ofList (c :: cs) else arg
    | _ => arg

/-- The letters of a search that have names. -/
def searchNames : List (String × Char) :=
  [("extended-regexp", 'E'), ("fixed-strings", 'F'), ("basic-regexp", 'G'), ("perl-regexp", 'P'),
    ("regexp", 'e'), ("file", 'f'), ("ignore-case", 'i'), ("invert-match", 'v'),
    ("word-regexp", 'w'), ("line-regexp", 'x'), ("count", 'c'), ("files-with-matches", 'l'),
    ("files-without-match", 'L'), ("quiet", 'q'), ("silent", 'q'), ("no-messages", 's'),
    ("only-matching", 'o'), ("line-number", 'n'), ("byte-offset", 'b'), ("with-filename", 'H'),
    ("no-filename", 'h'), ("after-context", 'A'), ("before-context", 'B'), ("context", 'C'),
    ("max-count", 'm'), ("recursive", 'r'), ("text", 'a')]

/-- What a search tells about one input: the output, whether a line was selected, and whether the
input is one that is not shown. -/
def searchOne (r : Request) (q : Grep.Query) (showsName : Bool) (name : String) (cs : List Char) :
    String × Bool × Bool :=
  let selects (line : List Char) : Bool := (Grep.search? q line).isSome != r.has 'v'
  let number (letter : Char) : Option Nat :=
    (r.value? letter).bind fun text => digits? text.toList
  let judged := Grep.judge selects cs
  let judged := match number 'm' with
    | some most => Grep.upTo most judged
    | none => judged
  let selected := judged.filter (·.isSelected)
  let found := !selected.isEmpty
  let label (mark : String) : String := if showsName then name ++ mark else ""
  if r.has 'q' then ("", found, false)
  else if r.has 'l' || r.has 'L' then
    (if found == r.has 'l' then name ++ "\n" else "", found == r.has 'l', false)
  else if r.has 'c' then (label ":" ++ selected.length.repr ++ "\n", found, false)
  else if cs.contains '\x00' && !r.has 'a' && found then ("", found, true)
  else
    let front (mark : String) (s : Grep.Shown) (offset : Nat) : String :=
      label mark ++ (if r.has 'n' then s.number.repr ++ mark else "")
        ++ (if r.has 'b' then offset.repr ++ mark else "")
    if r.has 'o' then
      let lines := selected.flatMap fun s =>
        if r.has 'v' then []
        else (Grep.matchesFrom q (s.line.length + 1) (Regex.Place.ofText s.line)).map fun m =>
          front ":" s (s.offset + m.first.position) ++ String.ofList m.text ++ "\n"
      (String.join lines, found, false)
    else
      let around := (number 'C').getD 0
      let shown := Grep.withContext ((number 'B').getD around) ((number 'A').getD around) judged
      let lines := shown.map fun s =>
        if s.number = 0 then "--\n"
        else front (if s.isSelected then ":" else "-") s s.offset ++ String.ofList s.line ++ "\n"
      (String.join lines, found, false)

/-- The patterns of a search: those of its options, or the first operand. -/
def searchPatterns (r : Request) (st : State) : Except String (List String × List String × State) :=
  let fromFiles : Except String (List String × State) := (r.values 'f').foldlM (fun (acc : List String × State) path =>
    match openInput path acc.2 with
    | (.ok cs, st) => .ok (acc.1 ++ (Lines.split cs).map String.ofList, st)
    | (.error reason, _) => .error (path ++ ": " ++ ioText reason)) ([], st)
  match fromFiles with
  | .error text => .error text
  | .ok (texts, st) =>
    if r.has 'e' || r.has 'f' then .ok (r.values 'e' ++ texts, r.operands, st)
    else match r.operands with
      | [] => .error ""
      | pattern :: operands => .ok ([pattern], operands, st)

/-- Prints the lines of inputs that patterns match. -/
def grep (usual : List (Char × String)) (args : List String) (st : State) : State :=
  let g : Grammar :=
    { flags := "EFGPivywxclLqsonbHhrRazUITZ", valued := "efABCmdD", names := searchNames }
  let usage := "Usage: grep [OPTION]... PATTERNS [FILE]...\nTry 'grep --help' for more information.\n"
  let args := (expandContext args).filter fun a =>
    !a.startsWith "--color" && !a.startsWith "--include" && !a.startsWith "--exclude"
  match g.read args with
  | .error text => (st.complain ("grep: " ++ text ++ "\n" ++ usage)).withStatus 2
  | .ok r =>
    let r := { r with options := usual ++ r.options }
    match searchPatterns r (st.withStatus 0) with
    | .error "" => (st.complain usage).withStatus 2
    | .error text => faultWith 2 "grep" text st
    | .ok (texts, operands, st) =>
      let kind := (r.last? "EFGP").getD 'G'
      let n : Regex.Notation := { isExtended := kind == 'E' || kind == 'P', keepsStray := true }
      match texts.mapM (Grep.patternsOf n (kind == 'F')) with
      | .error fault => faultWith 2 "grep" fault.message st
      | .ok patterns =>
        let patterns := patterns.flatten
        let q : Grep.Query :=
          { patterns, ignoresCase := r.has 'i' || r.has 'y', isWord := r.has 'w', isLine := r.has 'x' }
        let isDeep := r.has 'r' || r.has 'R'
        let paths := if isDeep then
            (if operands.isEmpty then
              (filesBelow st 100 ".").map fun path => (path.drop 2).toString
            else operands.flatMap fun path =>
              if isDirectory st path then filesBelow st 100 path else [path])
          else if operands.isEmpty then ["-"] else operands
        let showsName := match r.last? "Hh" with
          | some 'H' => true
          | some _ => false
          | none => 1 < paths.length || isDeep
        let step (acc : State × Bool × Bool) (path : String) : State × Bool × Bool :=
          let (st, anyFound, anyFault) := acc
          if r.has 'q' && anyFound then acc
          else match openInput path st with
            | (.error reason, st) =>
              let st := if r.has 's' then st
                else fault "grep" (path ++ ": " ++ ioText reason) st
              (st, anyFound, true)
            | (.ok cs, st) =>
              let name := if path == "-" then "(standard input)" else path
              let (text, found, isBinary) := searchOne r q showsName name cs
              let st := st.print text
              let st := if isBinary then
                  st.complain ("grep: " ++ name ++ ": binary file matches\n") else st
              (st, anyFound || found, anyFault)
        let (st, anyFound, anyFault) := paths.foldl step (st, false, false)
        st.withStatus (if anyFault && !(r.has 'q' && anyFound) then 2
          else if anyFound then 0 else 1)

end MutationTesting.Shell.Utility
