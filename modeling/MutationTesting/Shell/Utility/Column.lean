import MutationTesting.Shell.Utility.Copy

/-!
# Counting and cutting utilities

Utilities that count the lines, words and characters of what they read, cut columns out of its lines,
and put lines side by side or below each other.
-/

namespace MutationTesting.Shell.Utility

/-! ## Counts -/

/-- What is counted of a text. -/
structure Counts where
  /-- The ends of lines. -/
  lines : Nat := 0
  /-- The pieces between blanks. -/
  words : Nat := 0
  /-- The bytes. -/
  bytes : Nat := 0
  /-- The width of the widest line. -/
  width : Nat := 0

namespace Counts

/-- The columns that a character takes behind others. -/
def widen (column : Nat) (c : Char) : Nat :=
  if c == '\t' then (column / 8 + 1) * 8
  else if 32 ≤ c.toNat && c.toNat < 127 then column + 1 else column

/-- What is counted of a text. -/
def ofChars (cs : List Char) : Counts :=
  let step (acc : Nat × Nat × Bool) (c : Char) : Nat × Nat × Bool :=
    let (lines, words, inWord) := acc
    if c.isWhitespace || c == '\x0b' || c == '\x0c' then
      (if c == '\n' then lines + 1 else lines, words, false)
    else (lines, if inWord then words else words + 1, true)
  let (lines, words, _) := cs.foldl step (0, 0, false)
  { lines, words, bytes := cs.length
    width := (Lines.split cs).foldl (fun w line => max w (line.foldl widen 0)) 0 }

/-- The counts of two texts together. -/
def add (a b : Counts) : Counts :=
  { lines := a.lines + b.lines, words := a.words + b.words, bytes := a.bytes + b.bytes
    width := max a.width b.width }

end Counts

/-- Prints the number of lines, words and bytes of inputs. -/
def count (args : List String) (st : State) : State :=
  let g : Grammar :=
    { flags := "lwcmL"
      names := [("lines", 'l'), ("words", 'w'), ("bytes", 'c'), ("chars", 'm'),
        ("max-line-length", 'L')] }
  withRequest "wc" 1 g args st fun r st =>
    let isDefault := r.options.isEmpty
    let shown (c : Counts) : List Nat :=
      (if isDefault || r.has 'l' then [c.lines] else [])
        ++ (if isDefault || r.has 'w' then [c.words] else [])
        ++ (if r.has 'm' then [c.bytes] else [])
        ++ (if isDefault || r.has 'c' then [c.bytes] else [])
        ++ (if r.has 'L' then [c.width] else [])
    let operands := if r.operands.isEmpty then ["-"] else r.operands
    let size? (path : String) : Option (Option Nat) :=
      if path == "-" then some (st.source?.bind (·.fileSize?))
      else match st.find path with
        | .ok (.file content _) => some (some content.utf8ByteSize)
        | .ok _ => some none
        | .error _ => if path.startsWith "/dev/" then some none else none
    let sizes := operands.filterMap size?
    let total := sizes.foldl (fun n size? => n + size?.getD 0) 0
    let width := if operands.length == 1 && (shown {}).length == 1 then 1
      else max (if sizes.contains none then 7 else 1) (Nat.toDigits 10 total).length
    let line (c : Counts) (name : String) : String :=
      " ".intercalate ((shown c).map fun n => padLeft width n.repr)
        ++ (if name == "" then "" else " " ++ name) ++ "\n"
    let step (acc : Counts × State) (path : String) : Counts × State :=
      let (sum, st) := acc
      let name := if r.operands.isEmpty then "" else path
      match openInput path st with
      | (.ok cs, st) =>
        let c := Counts.ofChars cs
        (sum.add c, st.print (line c name))
      | (.error .isDirectory, st) =>
        (sum, (fault "wc" (plainMessage path "Is a directory") st).print (line {} name))
      | (.error reason, st) => (sum, fault "wc" (plainMessage path (ioText reason)) st)
    let (sum, st) := operands.foldl step ({}, st)
    if 1 < operands.length then st.print (line sum "total") else st

/-! ## Columns -/

/-- The columns from one to another, or to the end. -/
abbrev Range := Nat × Option Nat

/-- A range of columns, or what is wrong with it. -/
def rangeOf (what text : String) : Except String Range :=
  let bad (text : String) : Except String Range :=
    .error ("invalid " ++ (if what == "fields" then "field value "
      else "byte/character position ") ++ inQuotes text)
  let zero : Except String Range := .error (if what == "fields" then "fields are numbered from 1"
    else "byte/character positions are numbered from 1")
  match (text.splitOn "-").map fun part => (part, digits? part.toList) with
  | [(_, some n)] => if n = 0 then zero else .ok (n, some n)
  | [("", _), ("", _)] => .error ("invalid range with no endpoint: " ++ text)
  | [(_, some n), ("", _)] => if n = 0 then zero else .ok (n, none)
  | [("", _), (_, some m)] => if m = 0 then .error "invalid decreasing range" else .ok (1, some m)
  | [(_, some n), (_, some m)] =>
    if n = 0 then zero else if m < n then .error "invalid decreasing range" else .ok (n, some m)
  | (part, none) :: _ =>
    if part == "" then bad ((text.dropWhile (· == '-')).toString) else bad part
  | _ :: (part, none) :: _ => bad part
  | _ => bad text

/-- The ranges of a list. -/
def rangesOf (what text : String) : Except String (List Range) :=
  ((text.toList.map fun c => if c == ' ' then ',' else c).splitBy fun a b => (a == ',') == (b == ','))
    |>.filter (·.head? != some ',') |>.mapM fun part => rangeOf what (String.ofList part)

/-- A column is in a range. -/
def Range.holds (range : Range) (n : Nat) : Bool :=
  range.1 ≤ n && range.2.all (n ≤ ·)

/-- Columns in the ranges, or outside of them. -/
def isSelected (ranges : List Range) (complement : Bool) (n : Nat) : Bool :=
  (ranges.any fun range => range.holds n) != complement

/-- The pieces of a line between separators. -/
def piecesOf (separator : Char) (line : List Char) : List (List Char) :=
  let (piece, pieces) := line.foldl (fun (piece, pieces) c =>
    if c == separator then ([], piece.reverse :: pieces) else (c :: piece, pieces)) ([], [])
  (piece.reverse :: pieces).reverse

/-- The selected bytes of a line; a text separates those of ranges that are apart. -/
def cutBytes (ranges : List Range) (complement : Bool) (separator : List Char)
    (line : List Char) : List Char :=
  let begins (n : Nat) : Bool := ranges.any fun range => range.1 == n &&
    !ranges.any fun other => other.1 < n && other.2.all (n - 1 ≤ ·)
  let step (acc : List Char × Nat) (c : Char) : List Char × Nat :=
    let (out, n) := acc
    if isSelected ranges complement n then
      (c :: (if !out.isEmpty && !separator.isEmpty && begins n then separator.reverse ++ out else out),
        n + 1)
    else (out, n + 1)
  (line.foldl step ([], 1)).1.reverse

/-- Prints columns of the lines of inputs. -/
def cut (args : List String) (st : State) : State :=
  let g : Grammar :=
    { flags := "nsz", valued := "bcfdO!"
      names := [("bytes", 'b'), ("characters", 'c'), ("fields", 'f'), ("delimiter", 'd'),
        ("only-delimited", 's'), ("output-delimiter", 'O'), ("zero-terminated", 'z')] }
  let complement := args.contains "--complement"
  let fail (text : String) (st : State) := fault "cut" (text ++ hint "cut") st
  withRequest "cut" 1 g (args.filter (· != "--complement")) st fun r st =>
    let lists := r.options.filter fun o => ['b', 'c', 'f'].contains o.1
    match lists with
    | [] => fail "you must specify a list of bytes, characters, or fields" st
    | _ :: _ :: _ => fail "only one list may be specified" st
    | [(letter, text)] =>
      let what := if letter == 'f' then "fields" else "bytes"
      if ((r.value? 'd').map String.length).any (1 < ·) then
        fail "the delimiter must be a single character" st
      else if r.has 'd' && letter != 'f' then
        fail "an input delimiter may be specified only when operating on fields" st
      else if r.has 's' && letter != 'f' then
        fail "suppressing non-delimited lines makes sense\n\tonly when operating on fields" st
      else match rangesOf what text with
        | .error text => fail text st
        | .ok ranges =>
          let separator := match r.value? 'd' with
            | some text => text.toList.headD '\x00'
            | none => '\t'
          let (cs, st) := inputOf "cut" plainMessage r.operands st
          let fieldsOf (line : List Char) : Option (List Char) :=
            if !line.contains separator then if r.has 's' then none else some line
            else
              let chosen := (piecesOf separator line).zipIdx.filter fun p =>
                isSelected ranges complement (p.2 + 1)
              some (((r.value? 'O').map String.toList).getD [separator] |>.intercalate
                (chosen.map (·.1)))
          let cutLine (line : List Char) : Option (List Char) :=
            if letter == 'f' then fieldsOf line
            else some (cutBytes ranges complement (((r.value? 'O').map String.toList).getD []) line)
          printLines st ((Lines.split cs).filterMap cutLine)

/-! ## Side by side -/

/-- The characters that separate lines put side by side: escapes stand for others or for none. -/
def separatorsOf : List Char → List (List Char)
  | '\\' :: 'n' :: rest => ['\n'] :: separatorsOf rest
  | '\\' :: 't' :: rest => ['\t'] :: separatorsOf rest
  | '\\' :: '0' :: rest => [] :: separatorsOf rest
  | '\\' :: c :: rest => [c] :: separatorsOf rest
  | c :: rest => [c] :: separatorsOf rest
  | [] => []

/-- Texts with separators between them, used in turn. -/
def weave (separators : List (List Char)) (texts : List (List Char)) : List Char :=
  match texts with
  | [] => []
  | text :: texts =>
    text ++ texts.zipIdx.flatMap fun (text, i) =>
      separators.getD (i % separators.length) [] ++ text

/-- Prints the lines of inputs side by side, or those of each input in one line. -/
def paste (args : List String) (st : State) : State :=
  let g : Grammar := { flags := "sz", valued := "d", names := [("serial", 's'), ("delimiters", 'd')] }
  withRequest "paste" 1 g args st fun r st =>
    let separators := match r.value? 'd' with
      | some text => if text == "" then [[]] else separatorsOf text.toList
      | none => [['\t']]
    let operands := if r.operands.isEmpty then ["-"] else r.operands
    let dashes := (operands.filter (· == "-")).length
    let opened := operands.filter (· != "-")
    let (inputs, st) := if opened.isEmpty then ([], st) else inputsOf "paste" plainMessage opened st
    if st.status != 0 then st
    else
      let (own, st) := if dashes = 0 then ([], st) else st.takeInput
      let ownLines := Lines.split own
      if r.has 's' then
        let all := operands.map fun path =>
          if path == "-" then ownLines else Lines.split ((inputs.lookup path).getD [])
        printLines st (all.map (weave separators))
      else
        let column (path : String) (i : Nat) : List (List Char) :=
          if path == "-" then
            (ownLines.zipIdx.filter fun l => l.2 % dashes == i).map (·.1)
          else Lines.split ((inputs.lookup path).getD [])
        let place (n : Nat) : Nat := ((operands.take n).filter (· == "-")).length
        let columns := operands.zipIdx.map fun (path, n) => (column path (place n)).toArray
        let height := columns.foldl (fun h column => max h column.size) 0
        printLines st ((List.range height).map fun i =>
          weave separators (columns.map fun column => column.getD i []))

/-- A line broken into pieces that are not wider than a width, behind blanks if asked. -/
def foldLine (width : Nat) (atBlanks : Bool) : Nat → List Char → List (List Char)
  | 0, cs => [cs]
  | bound + 1, cs =>
    let fits := cs.foldl (fun (acc : Nat × Nat × Bool) c =>
      let (size, column, isFull) := acc
      let next := if c == '\t' then (column / 8 + 1) * 8
        else if c == '\x08' then column - 1 else if c == '\r' then 0 else column + 1
      if isFull || width < next then (size, column, true) else (size + 1, next, false)) (0, 0, false)
    let size := max 1 fits.1
    if cs.length ≤ size then [cs]
    else
      let front := cs.take size
      let kept := (front.reverse.dropWhile fun c => c != ' ' && c != '\t').length
      let size := if atBlanks && 0 < kept then kept else size
      cs.take size :: foldLine width atBlanks bound (cs.drop size)

/-- Prints the lines of inputs, broken where they are too wide. -/
def foldLines (args : List String) (st : State) : State :=
  let g : Grammar := { flags := "bs", valued := "w", names := [("width", 'w'), ("spaces", 's')] }
  let args := args.map fun arg =>
    if arg.toList.tail.all Char.isDigit && arg.startsWith "-" && 1 < arg.length then
      "-w" ++ (arg.drop 1).toString else arg
  withRequest "fold" 1 g args st fun r st =>
    match digits? ((r.value? 'w').getD "80").toList with
    | none => fault "fold" ("invalid number of columns: " ++ inQuotes ((r.value? 'w').getD "")) st
    | some width =>
      let (cs, st) := inputOf "fold" plainMessage r.operands st
      let lines := (Lines.split cs).flatMap fun line => foldLine width (r.has 's') line.length line
      printChars st (joinLike (Lines.isOpen cs) lines)

end MutationTesting.Shell.Utility
