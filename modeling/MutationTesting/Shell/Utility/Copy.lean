import MutationTesting.Shell.Utility.Request

/-!
# Copying utilities

Utilities that print what they read, or a part of it, possibly with its lines numbered, marked or in
another order.
-/

namespace MutationTesting.Shell.Utility

/-! ## All of it -/

/-- A number in front of a line. -/
def lineNumber (n : Nat) : List Char :=
  (padLeft 6 n.repr).toList ++ ['\t']

/-- A character in a form that can be seen; line ends stay, and tabs do unless they are to be seen. -/
def visible (showsTabs : Bool) (c : Char) : List Char :=
  let plain (n : Nat) : List Char :=
    if n < 32 then ['^', Char.ofNat (n + 64)] else if n = 127 then ['^', '?'] else [Char.ofNat n]
  if c == '\n' then [c]
  else if c == '\t' then if showsTabs then ['^', 'I'] else [c]
  else if c.toNat < 128 then plain c.toNat
  else 'M' :: '-' :: plain (c.toNat - 128)

/-- How lines are printed by `cat`. -/
structure CatStyle where
  /-- Lines are numbered. -/
  numbers : Bool
  /-- Only lines that are not empty are numbered. -/
  skipsEmpty : Bool
  /-- Of empty lines in a row one is left. -/
  squeezes : Bool
  /-- The end of a line is marked. -/
  marksEnds : Bool
  /-- Tabs are made visible. -/
  showsTabs : Bool
  /-- Other characters are made visible. -/
  showsOthers : Bool

namespace CatStyle

/-- A line in a style without its number. -/
def lineText (s : CatStyle) (line : List Char) : List Char :=
  let shown := line.flatMap fun c =>
    if s.showsOthers then visible s.showsTabs c
    else if c == '\t' && s.showsTabs then ['^', 'I'] else [c]
  shown ++ if s.marksEnds then ['$'] else []

/-- Lines in a style, the first of which has a number. -/
def render (s : CatStyle) : Nat → Bool → List (List Char) → List (List Char)
  | _, _, [] => []
  | n, isAfterEmpty, line :: lines =>
    if s.squeezes && line.isEmpty && isAfterEmpty then render s n true lines
    else if s.skipsEmpty && line.isEmpty then s.lineText line :: render s n line.isEmpty lines
    else if s.numbers then
      (lineNumber n ++ s.lineText line) :: render s (n + 1) line.isEmpty lines
    else s.lineText line :: render s n line.isEmpty lines

end CatStyle

/-- Lines as a text whose last line lacks its end if it did before. -/
def joinLike (isOpen : Bool) (lines : List (List Char)) : List Char :=
  let text := Lines.join lines
  if isOpen then text.dropLast else text

/-- Prints input as it is, or with its lines in a style. -/
def cat (args : List String) (st : State) : State :=
  let g : Grammar :=
    { flags := "AbeEnstTuv"
      names := [("show-all", 'A'), ("number-nonblank", 'b'), ("show-ends", 'E'), ("number", 'n'),
        ("squeeze-blank", 's'), ("show-tabs", 'T'), ("show-nonprinting", 'v')] }
  withRequest "cat" 1 g args st fun r st =>
    let (cs, st) := inputOf "cat" plainMessage r.operands st
    if r.options.all (·.1 == 'u') then printChars st cs
    else
      let any (letters : String) := letters.toList.any r.has
      let style : CatStyle :=
        { numbers := any "nb", skipsEmpty := r.has 'b', squeezes := r.has 's'
          marksEnds := any "AeE", showsTabs := any "AtT", showsOthers := any "Aetv" }
      let isOpen := Lines.isOpen cs
      let style' := if isOpen then { style with marksEnds := false } else style
      let lines := Lines.split cs
      let rendered := style.render 1 false lines
      let rendered := if isOpen && style.marksEnds then
          rendered.dropLast ++ (style'.render 1 false lines).getLast?.toList
        else rendered
      printChars st (joinLike isOpen rendered)

/-- Prints input to the output and to files. -/
def tee (args : List String) (st : State) : State :=
  let g : Grammar := { flags := "aip", names := [("append", 'a'), ("ignore-interrupts", 'i')] }
  withRequest "tee" 1 g args st fun r st =>
    let (cs, st) := st.takeInput
    let text := String.ofList cs
    let st := r.operands.foldl (fun st path =>
      let before := if r.has 'a' then (st.readFile path).toOption.getD "" else ""
      if path == "-" then st.print text
      else if path == "/dev/null" then st
      else match st.writeFile path (before ++ text) with
        | .ok st => st
        | .error reason => fault "tee" (plainMessage path (ioText reason)) st) st
    st.print text

/-! ## A part of it -/

/-- The number that a count with a possible unit stands for. -/
def countOf? (text : String) : Option Nat :=
  let digits := text.toList.takeWhile Char.isDigit
  match digits? digits, text.toList.drop digits.length with
  | none, _ => none
  | some n, [] => some n
  | some n, ['b'] => some (n * 512)
  | some n, ['k'] => some (n * 1024)
  | some n, ['K'] => some (n * 1024)
  | some n, ['k', 'B'] => some (n * 1000)
  | some n, ['M'] => some (n * 1048576)
  | some n, ['M', 'B'] => some (n * 1000000)
  | _, _ => none

/-- Arguments in which a count behind a hyphen in front stands for an option. -/
def expandCount (args : List String) : List String :=
  match args with
  | arg :: rest =>
    match arg.toList with
    | '-' :: c :: cs =>
      if c.isDigit then
        let digits := (c :: cs).takeWhile Char.isDigit
        let letter := match (c :: cs).drop digits.length with
          | ['c'] => "-c"
          | _ => "-n"
        letter :: String.ofList digits :: rest
      else args
    | _ => args
  | [] => []

/-- What is taken of an input. -/
structure Take where
  /-- Bytes are counted, and lines otherwise. -/
  inBytes : Bool
  /-- The count. -/
  count : Nat
  /-- The count has a sign of its own, which turns its meaning round. -/
  isTurned : Bool

/-- Elements of an input with their ends. -/
def Take.units (t : Take) (cs : List Char) : List (List Char) :=
  if t.inBytes then cs.map fun c => [c]
  else
    let lines := (Lines.split cs).map (· ++ ['\n'])
    if Lines.isOpen cs then lines.dropLast ++ lines.getLast?.toList.map List.dropLast else lines

/-- The first elements, or all but the last ones. -/
def Take.front (t : Take) (cs : List Char) : List Char :=
  let units := t.units cs
  (if t.isTurned then units.take (units.length - t.count) else units.take t.count).flatten

/-- The last elements, or those from a number on. -/
def Take.back (t : Take) (cs : List Char) : List Char :=
  let units := t.units cs
  (if t.isTurned then units.drop (t.count - 1) else units.drop (units.length - t.count)).flatten

/-- What is to be taken, by the options; none if a count is no number. -/
def takeOf (sign : Char) (utility : String) (r : Request) : Except String Take :=
  let last? := r.options.reverse.find? fun o => o.1 == 'n' || o.1 == 'c'
  match last? with
  | none => .ok { inBytes := false, count := 10, isTurned := false }
  | some (letter, text) =>
    let isTurned := text.toList.head? == some sign
    let plain := if isTurned || text.startsWith "-" || text.startsWith "+" then
        (text.drop 1).toString else text
    match countOf? plain with
    | some count => .ok { inBytes := letter == 'c', count, isTurned }
    | none => .error (utility ++ ": invalid number of " ++ (if letter == 'c' then "bytes" else "lines")
        ++ ": " ++ inQuotes text ++ "\n")

/-- Prints a part of every input, with its name if there are several. -/
def printParts (utility : String) (sign : Char) (part : Take → List Char → List Char)
    (args : List String) (st : State) : State :=
  let g : Grammar :=
    { flags := "qvfFz", valued := "nc"
      names := [("lines", 'n'), ("bytes", 'c'), ("quiet", 'q'), ("silent", 'q'), ("verbose", 'v')] }
  withRequest utility 1 g (expandCount args) st fun r st =>
    match takeOf sign utility r with
    | .error text => (st.complain text).withStatus 1
    | .ok t =>
      let showsNames := match r.last? "qv" with
        | some 'q' => false
        | some _ => true
        | none => 1 < r.operands.length
      let step (acc : State × Bool) (path : String) : State × Bool :=
        let (st, isFirst) := acc
        match openInput path st with
        | (.ok cs, st) =>
          let name := if path == "-" then "standard input" else path
          let header := if !showsNames then "" else
            (if isFirst then "" else "\n") ++ "==> " ++ name ++ " <==\n"
          let taken := part t cs
          let st := if path == "-" && sign == '-' && st.source?.any (·.fileSize?.isSome) then
              st.withInput (cs.drop taken.length) else st
          (printChars (st.print header) taken, false)
        | (.error .isDirectory, st) =>
          let header := if !showsNames then "" else
            (if isFirst then "" else "\n") ++ "==> " ++ path ++ " <==\n"
          (fault utility ("error reading " ++ inQuotes path ++ ": Is a directory")
            (st.print header), false)
        | (.error reason, st) =>
          (fault utility (openMessage path (ioText reason)) st, isFirst)
      ((if r.operands.isEmpty then ["-"] else r.operands).foldl step (st, true)).1

/-- Prints the first lines or bytes of inputs. -/
def head (args : List String) (st : State) : State :=
  printParts "head" '-' Take.front args st

/-- Prints the last lines or bytes of inputs. -/
def tail (args : List String) (st : State) : State :=
  let args := match args with
    | arg :: rest =>
      match arg.toList with
      | '+' :: c :: cs => if c.isDigit then "-n" :: String.ofList ('+' :: c :: cs) :: rest else args
      | _ => args
    | [] => []
  printParts "tail" '+' Take.back args st

/-! ## In another order -/

/-- Prints the lines of inputs, the last one first. -/
def tac (args : List String) (st : State) : State :=
  withRequest "tac" 1 {} args st fun r st =>
    let (inputs, st) := inputsOf "tac" openMessage r.operands st
    inputs.foldl (fun st input =>
      let lines := (Take.units ⟨false, 0, false⟩ input.2).reverse
      printChars st lines.flatten) st

/-- Prints the lines of inputs, each with its characters in reverse order. -/
def reverseLines (args : List String) (st : State) : State :=
  let (cs, st) := inputOf "rev" openMessage args (st.withStatus 0)
  printChars st (joinLike (Lines.isOpen cs) ((Lines.split cs).map List.reverse))

/-- Prints the lines of inputs with numbers, those without characters only if they are asked for. -/
def numberLines (args : List String) (st : State) : State :=
  let g : Grammar := { flags := "p", valued := "bdfhilnsvw" }
  withRequest "nl" 1 g args st fun r st =>
    let (cs, st) := inputOf "nl" plainMessage r.operands st
    let width := ((r.value? 'w').bind fun w => digits? w.toList).getD 6
    let start := ((r.value? 'v').bind fun v => digits? v.toList).getD 1
    let stride := ((r.value? 'i').bind fun i => digits? i.toList).getD 1
    let separator := (r.value? 's').getD "\t"
    let counts (line : List Char) : Bool := match r.value? 'b' with
      | some "a" => true
      | some "n" => false
      | _ => !line.isEmpty
    let format (n : Nat) : String :=
      let digits := n.repr
      match r.value? 'n' with
      | some "ln" => digits ++ String.ofList (List.replicate (width - digits.length) ' ')
      | some "rz" => String.ofList (List.replicate (width - digits.length) '0') ++ digits
      | _ => padLeft width digits
    let blank := String.ofList (List.replicate (width + separator.length) ' ')
    let step (acc : List (List Char) × Nat) (line : List Char) : List (List Char) × Nat :=
      if counts line then
        (((format acc.2 ++ separator).toList ++ line) :: acc.1, acc.2 + stride)
      else ((blank.toList ++ line) :: acc.1, acc.2)
    let (lines, _) := (Lines.split cs).foldl step ([], start)
    printLines st lines.reverse

end MutationTesting.Shell.Utility
