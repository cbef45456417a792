import MutationTesting.Shell.Utility.File
import MutationTesting.Shell.Utility.Path

/-!
# Comparing files

The utility that finds the first byte at which two files differ, and the one that tells which lines
have to be changed to make one file the other: a shortest list of changes, the first lines that are
the same being kept.
-/

namespace MutationTesting.Shell.Utility

/-! ## Bytes -/

/-- The number of characters in front that are the same. -/
def sameFront : List Char → List Char → Nat
  | a :: as, b :: bs => if a == b then sameFront as bs + 1 else 0
  | _, _ => 0

/-- The number of a byte in octal digits, filled up in front. -/
def octalByte (c : Char) : String :=
  padLeft 3 (String.ofList (Nat.toDigits 8 c.toNat))

/-- Tells where the shorter one of two inputs ends. -/
def endFault (name : String) (countsLines : Bool) (cs : List Char) (st : State) : State :=
  let lines := cs.count '\n'
  let place := if cs.isEmpty then " which is empty"
    else if !countsLines then " after byte " ++ cs.length.repr
    else if cs.getLast? == some '\n' then
      " after byte " ++ cs.length.repr ++ ", line " ++ lines.repr
    else " after byte " ++ cs.length.repr ++ ", in line " ++ (lines + 1).repr
  fault "cmp" ("EOF on " ++ name ++ place) st

/-- Compares two files byte by byte. -/
def compareBytes (args : List String) (st : State) : State :=
  let g : Grammar :=
    { flags := "blsz", valued := "in", names := [("silent", 's'), ("quiet", 's'), ("verbose", 'l'),
      ("bytes", 'n'), ("print-bytes", 'b')] }
  let more := "\ncmp: Try 'cmp --help' for more information."
  match g.read args with
  | .error text => faultWith 2 "cmp" (text ++ more) st
  | .ok r =>
    match r.operands with
    | [] => faultWith 2 "cmp" ("missing operand after 'cmp'" ++ more) st
    | first :: rest =>
      let second := rest.headD "-"
      let limit? := (r.value? 'n').bind fun text => digits? text.toList
      match openInput first st with
      | (.error reason, st) =>
        if r.has 's' then st.withStatus 2
        else faultWith 2 "cmp" (plainMessage first (ioText reason)) st
      | (.ok as, st) =>
        match openInput second st with
        | (.error reason, st) =>
          if r.has 's' then st.withStatus 2
          else faultWith 2 "cmp" (plainMessage second (ioText reason)) st
        | (.ok bs, st) =>
          let cut (cs : List Char) : List Char := (limit?.map cs.take).getD cs
          let (as, bs) := (cut as, cut bs)
          let same := sameFront as bs
          if as.length = same ∧ bs.length = same then st.withStatus 0
          else if r.has 's' then st.withStatus 1
          else
            let pairs := (as.zip bs).zipIdx.filter fun ((a, b), _) => a != b
            let width := (min as.length bs.length).repr.length
            let st := if r.has 'l' then
                st.print (String.join (pairs.map fun ((a, b), i) =>
                  padLeft width (i + 1).repr ++ " " ++ octalByte a ++ " " ++ octalByte b ++ "\n"))
              else st
            if as.length = same || (r.has 'l' && as.length < bs.length) then
              endFault first (!r.has 'l') as st
            else if bs.length = same || (r.has 'l' && bs.length < as.length) then
              endFault second (!r.has 'l') bs st
            else if r.has 'l' then st.withStatus 1
            else
              let line := (as.take same).count '\n' + 1
              (st.print (first ++ " " ++ second ++ " differ: char " ++ (same + 1).repr ++ ", line "
                ++ line.repr ++ "\n")).withStatus 1

/-! ## Lines -/

namespace Difference

/-- A line, and whether it has an end. -/
structure Row where
  /-- Its text. -/
  text : List Char
  /-- It has an end. -/
  isEnded : Bool
  deriving DecidableEq

/-- The lines of a text. -/
def rowsOf (cs : List Char) : List Row :=
  let rows := (Lines.split cs).map fun text => ({ text, isEnded := true } : Row)
  if Lines.isOpen cs then
    rows.dropLast ++ rows.getLast?.toList.map fun row => { row with isEnded := false }
  else rows

/-- Lines of the first text that lines of the second one replace: the numbers of the lines in front,
and of those that are replaced and that replace them. -/
structure Hunk where
  /-- The number of lines of the first text in front. -/
  start : Nat
  /-- The number of lines that are replaced. -/
  removed : Nat
  /-- The number of lines of the second text in front. -/
  start' : Nat
  /-- The number of lines that replace them. -/
  added : Nat

/-- For every suffix of the second list the length of the longest list that is a part of it and of a
first list, if that is known for the first list without its head. -/
def lengthsBehind (same : Row → Row → Bool) (a : Row) : List Row → List Nat → List Nat
  | b :: bs, next :: nexts =>
    let rest := lengthsBehind same a bs nexts
    (if same a b then nexts.headD 0 + 1 else max next (rest.headD 0)) :: rest
  | _, _ => [0]

/-- For every suffix of the first list the lengths for every suffix of the second one. -/
def lengths (same : Row → Row → Bool) (bs : List Row) : List Row → List (List Nat)
  | [] => [List.replicate (bs.length + 1) 0]
  | a :: as =>
    let table := lengths same bs as
    lengthsBehind same a bs (table.headD []) :: table

/-- Which lines are kept, removed or added, in order: the lengths of what the rests have in common
decide. -/
inductive Step where
  | keep
  | remove
  | add
  deriving DecidableEq

/-- The steps from one list to another, with a bound on their number. -/
def steps (same : Row → Row → Bool) : Nat → List Row → List Row → List (List Nat) → List Step
  | 0, _, _, _ => []
  | bound + 1, as, bs, table =>
    let narrow (table : List (List Nat)) : List (List Nat) := table.map List.tail
    match as, bs with
    | [], [] => []
    | _ :: as, [] => .remove :: steps same bound as [] table.tail
    | [], _ :: bs => .add :: steps same bound [] bs (narrow table)
    | a :: as, b :: bs =>
      if same a b then .keep :: steps same bound as bs (narrow table.tail)
      else
        let below := ((table.tail.headD []).headD 0)
        let beside := ((table.headD []).tail.headD 0)
        if beside ≤ below then .remove :: steps same bound as (b :: bs) table.tail
        else .add :: steps same bound (a :: as) bs (narrow table)

/-- The steps gathered into hunks. -/
def hunksOf : List Step → Nat → Nat → Option Hunk → List Hunk
  | [], _, _, open? => open?.toList
  | .keep :: rest, i, j, open? => open?.toList ++ hunksOf rest (i + 1) (j + 1) none
  | .remove :: rest, i, j, open? =>
    let h := open?.getD { start := i, removed := 0, start' := j, added := 0 }
    hunksOf rest (i + 1) j (some { h with removed := h.removed + 1 })
  | .add :: rest, i, j, open? =>
    let h := open?.getD { start := i, removed := 0, start' := j, added := 0 }
    hunksOf rest i (j + 1) (some { h with added := h.added + 1 })

/-- The hunks between two lists; what they begin and end with alike is left out first. -/
def hunks (same : Row → Row → Bool) (as bs : List Row) : List Hunk :=
  let front := ((as.zip bs).takeWhile fun (a, b) => same a b).length
  let (as, bs) := (as.drop front, bs.drop front)
  let back := ((as.reverse.zip bs.reverse).takeWhile fun (a, b) => same a b).length
  let (as, bs) := (as.take (as.length - back), bs.take (bs.length - back))
  hunksOf (steps same (as.length + bs.length) as bs (lengths same bs as)) front front none

/-! ## Output -/

/-- A line with a mark in front. -/
def rowText (mark : String) (row : Row) : String :=
  mark ++ String.ofList row.text ++ (if row.isEnded then "\n"
    else "\n\\ No newline at end of file\n")

/-- The numbers of lines behind some others. -/
def rangeText (start count : Nat) : String :=
  if count = 0 then start.repr
  else if count = 1 then (start + 1).repr
  else (start + 1).repr ++ "," ++ (start + count).repr

/-- A hunk in the usual form. -/
def hunkText (as bs : List Row) (h : Hunk) : String :=
  let letter := if h.removed = 0 then "a" else if h.added = 0 then "d" else "c"
  let old := ((as.drop h.start).take h.removed).map (rowText "< ")
  let new := ((bs.drop h.start').take h.added).map (rowText "> ")
  rangeText h.start h.removed ++ letter ++ rangeText h.start' h.added ++ "\n" ++ String.join old
    ++ (if letter == "c" then "---\n" else "") ++ String.join new

/-- Hunks in groups whose members have few lines between them. -/
def groups (context : Nat) : List Hunk → List (List Hunk)
  | [] => []
  | h :: hs =>
    match groups context hs with
    | (next :: group) :: rest =>
      if next.start ≤ h.start + h.removed + 2 * context then (h :: next :: group) :: rest
      else [h] :: (next :: group) :: rest
    | rest => [h] :: rest

/-- The lines of a group of hunks behind a line, with the lines between them. -/
def groupRows (as bs : List Row) (stop : Nat) : Nat → List Hunk → List String
  | i, [] => ((as.drop i).take (stop - i)).map (rowText " ")
  | i, h :: hs =>
    ((as.drop i).take (h.start - i)).map (rowText " ")
      ++ ((as.drop h.start).take h.removed).map (rowText "-")
      ++ ((bs.drop h.start').take h.added).map (rowText "+")
      ++ groupRows as bs stop (h.start + h.removed) hs

/-- The first line and the number of lines of a part. -/
def spanText (start count : Nat) : String :=
  if count = 1 then (start + 1).repr
  else (if count = 0 then start else start + 1).repr ++ "," ++ count.repr

/-- A group of hunks with some lines around them. -/
def groupText (context : Nat) (as bs : List Row) (group : List Hunk) : String :=
  match group.head?, group.getLast? with
  | some first, some last =>
    let before := min context first.start
    let start := first.start - before
    let stop := min as.length (last.start + last.removed + context)
    let start' := first.start' - before
    let stop' := min bs.length (last.start' + last.added + context)
    "@@ -" ++ spanText start (stop - start) ++ " +" ++ spanText start' (stop' - start') ++ " @@\n"
      ++ String.join (groupRows as bs stop start group)
  | _, _ => ""

end Difference

/-- A line as far as it counts: without regard to case, to all blanks or to the number of blanks. -/
def countedText (r : Request) (text : List Char) : List Char :=
  let text := if r.has 'i' then text.map Char.toLower else text
  if r.has 'w' then text.filter fun c => !c.isWhitespace
  else if r.has 'b' then
    let pieces := text.splitBy fun a b => a.isWhitespace == b.isWhitespace
    let joined := pieces.map fun p => if p.headD 'x' |>.isWhitespace then [' '] else p
    (if joined.getLast? == some [' '] then joined.dropLast else joined).flatten
  else text

/-- Tells how two texts differ; nothing if they do not. -/
def differenceText (r : Request) (first second : String) (as bs : List Char) : String :=
  let same (a b : Difference.Row) : Bool :=
    countedText r a.text == countedText r b.text && a.isEnded == b.isEnded
  let (rows, rows') := (Difference.rowsOf as, Difference.rowsOf bs)
  let hunks := Difference.hunks same rows rows'
  let context? := match r.value? 'U' with
    | some text => digits? text.toList
    | none => if r.has 'u' then some 3 else none
  if hunks.isEmpty then ""
  else if r.has 'q' then "Files " ++ first ++ " and " ++ second ++ " differ\n"
  else match context? with
    | some context =>
      let time := "\t1970-01-01 00:00:00.000000000 +0000\n"
      "--- " ++ first ++ time ++ "+++ " ++ second ++ time
        ++ String.join ((Difference.groups context hunks).map (Difference.groupText context rows rows'))
    | none => String.join (hunks.map (Difference.hunkText rows rows'))

/-- Compares two files line by line. -/
def compareFiles (r : Request) (first second : String) (st : State) : State :=
  match openInput first st, openInput second (openInput first st).2 with
  | (.ok as, _), (.ok bs, st) =>
    let text := differenceText r first second as bs
    if text == "" then
      if r.has 's' then st.print ("Files " ++ first ++ " and " ++ second ++ " are identical\n") else st
    else (st.print text).withStatus 1
  | (a, _), (b, st) =>
    let tell (path : String) (input : Except IoError (List Char)) (st : State) : State :=
      match input with
      | .error reason => faultWith 2 "diff" (plainMessage path (ioText reason)) st
      | .ok _ => st
    tell second b (tell first a st)

/-- Compares what two directories hold, with a bound on their depth. -/
def compareDirectories (r : Request) (options : List String) : Nat → String → String → State → State
  | 0, _, _, st => st
  | bound + 1, first, second, st =>
    let names (path : String) : List String := ((st.place path).toOption.map st.namesIn).getD []
    let all := (names first ++ names second).eraseDups.mergeSort (· ≤ ·)
    all.foldl (fun st name =>
      let (a, b) := (inDirectory first name, inDirectory second name)
      match nodeAt? st a, nodeAt? st b with
      | some .directory, some .directory =>
        if r.has 'r' then compareDirectories r options bound a b st
        else st.print ("Common subdirectories: " ++ a ++ " and " ++ b ++ "\n")
      | some _, some _ =>
        let after := compareFiles r a b { st with stdout := .empty, sinks := [(1, .output), (2, st.sink 2)] }
        let front := if r.has 'q' || after.stdout.isEmpty then ""
          else " ".intercalate ("diff" :: options ++ [a, b]) ++ "\n"
        let shown := { after with stdout := st.stdout, sinks := st.sinks }
        (shown.print front).write after.stdout
      | some _, none => (st.print ("Only in " ++ first ++ ": " ++ name ++ "\n")).withStatus 1
      | none, _ => (st.print ("Only in " ++ second ++ ": " ++ name ++ "\n")).withStatus 1) st

/-- Tells how two files or directories differ. -/
def differences (args : List String) (st : State) : State :=
  let g : Grammar :=
    { flags := "qsuiwbBrNa", valued := "U"
      names := [("brief", 'q'), ("report-identical-files", 's'), ("ignore-case", 'i'),
        ("ignore-all-space", 'w'), ("ignore-space-change", 'b'), ("recursive", 'r'),
        ("unified", 'u'), ("text", 'a')] }
  let more := "\ndiff: Try 'diff --help' for more information."
  match g.read args with
  | .error text => faultWith 2 "diff" (text ++ more) st
  | .ok r =>
    match r.operands with
    | [] => faultWith 2 "diff" ("missing operand after 'diff'" ++ more) st
    | [only] => faultWith 2 "diff" ("missing operand after " ++ inQuotes only ++ more) st
    | [first, second] =>
      let st := st.withStatus 0
      match isDirectory st first, isDirectory st second with
      | true, true =>
        let options := args.filter fun a => a.startsWith "-" && a != "-"
        compareDirectories r options 100 first second st
      | true, false => compareFiles r (inDirectory first (lastName second "")) second st
      | false, true => compareFiles r first (inDirectory second (lastName first "")) st
      | false, false => compareFiles r first second st
    | _ :: _ :: third :: _ => faultWith 2 "diff" ("extra operand " ++ inQuotes third ++ more) st

end MutationTesting.Shell.Utility
