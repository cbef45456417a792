import MutationTesting.Shell.Utility.Edit.Editor

/-!
# Editing lines

The utility that carries out a script of editing commands for every line of its inputs.
-/

namespace MutationTesting.Shell.Utility

namespace Edit

/-- How the utility is used. -/
def usage : String :=
  "Usage: sed [OPTION]... \x7bscript-only-if-no-other-script\x7d [input-file]...\n"

/-- A piece of a script. -/
structure ScriptPiece where
  /-- Where it comes from; none if it is an argument. -/
  file? : Option String
  /-- Its text. -/
  text : List Char

/-- Where in a script a number of characters have been read, as users read it; the pieces are counted
from a number. -/
def placeText (consumed number : Nat) : List ScriptPiece → String
  | [] => ""
  | piece :: pieces =>
    let isHere := consumed ≤ piece.text.length || pieces.isEmpty
    match piece.file? with
    | none =>
      if isHere then
        "-e expression #" ++ number.repr ++ ", char " ++ (min consumed piece.text.length).repr ++ ": "
      else placeText (consumed - piece.text.length - 1) (number + 1) pieces
    | some file =>
      if isHere then
        let line := (piece.text.take (consumed - 1)).count '\n' + 1
        "file " ++ file ++ " line " ++ line.repr ++ ": "
      else placeText (consumed - piece.text.length - 1) number pieces

/-- A fault of a script as users read it. -/
def faultText (pieces : List ScriptPiece) (size : Nat) (f : Fault) : String :=
  match f.left? with
  | some left => placeText (size - left) 1 pieces ++ f.text
  | none =>
    if f.text.startsWith "can't" then f.text
    else "-e expression #1, char 0: " ++ f.text

/-- The arguments with the option that replaces files written by its name, and its value with it. -/
def expandInPlace (args : List String) : List String :=
  args.flatMap fun arg =>
    match arg.toList with
    | '-' :: '-' :: _ => if arg == "--in-place" then ["--in-place="] else [arg]
    | '-' :: cs =>
      let front := cs.takeWhile fun c => "nEruszb".toList.contains c
      match cs.drop front.length with
      | 'i' :: ending =>
        (if front.isEmpty then [] else ["-" ++ String.ofList front])
          ++ ["--in-place=" ++ String.ofList ending]
      | _ => [arg]
    | _ => [arg]

/-- The pieces of the script that options give. -/
def scriptPieces (r : Request) (st : State) : Except String (List ScriptPiece × State) :=
  r.options.foldlM (fun (acc : List ScriptPiece × State) (letter, value) =>
    let (pieces, st) := acc
    match letter with
    | 'e' => .ok (pieces ++ [⟨none, value.toList⟩], st)
    | 'f' =>
      match openInput value st with
      | (.ok cs, st) =>
        let cs := if cs.getLast? == some '\n' then cs.dropLast else cs
        .ok (pieces ++ [⟨some value, cs⟩], st)
      | (.error reason, _) => .error ("couldn't open file " ++ value ++ ": " ++ ioText reason)
    | _ => .ok (pieces, st)) ([], st)

/-- The files that commands write to. -/
def targets (commands : List Command) : List String :=
  (commands.filterMap fun c => match c.action with
    | .writeFile path => some path
    | .substitute s => s.file?
    | _ => none).filter fun path => path != "/dev/stdout" && path != "/dev/stderr"

/-- The lines of a text. -/
def linesOf (mark : Char) (cs : List Char) : List Space :=
  if mark == '\n' then
    let lines := (Lines.split cs).map fun text => ({ text } : Space)
    if Lines.isOpen cs then
      lines.dropLast ++ lines.getLast?.toList.map fun line => { line with isEnded := false }
    else lines
  else
    let swap (c : Char) : Char := if c == '\n' then mark else if c == mark then '\n' else c
    let lines := (Lines.split (cs.map swap)).map fun text => ({ text := text.map swap } : Space)
    if cs.getLast?.any (· != mark) then
      lines.dropLast ++ lines.getLast?.toList.map fun line => { line with isEnded := false }
    else lines

/-- The inputs that operands name, up to one that is a directory; those that do not exist are passed
over with a message. -/
def openInputs (s : Style) : List String → State → List Input × State
  | [], st => ([], st)
  | path :: paths, st =>
    match openInput path st with
    | (.ok cs, st) =>
      let (inputs, st) := openInputs s paths st
      (⟨path, linesOf s.mark cs⟩ :: inputs, st)
    | (.error reason, st) =>
      if reason matches .isDirectory then
        if s.inPlace?.isSome then
          openInputs s paths (faultWith 4 "sed" ("couldn't edit " ++ path ++ ": not a regular file") st)
        else ([], faultWith 4 "sed" ("read error on " ++ path ++ ": Is a directory") st)
      else
        openInputs s paths (faultWith 2 "sed" ("can't read " ++ path ++ ": " ++ ioText reason) st)

/-- The greatest number of commands that are carried out. -/
def mostCommands : Nat :=
  2000000

/-- Carries out a script of editing commands for the lines of inputs. -/
def edit (s : Style) (commands : List Command) (operands : List String) (st : State) : State :=
  let made : Except String State := (targets commands).foldlM (fun st path =>
    match st.writeFile path "" with
    | .ok st => .ok st
    | .error reason => .error ("couldn't open file " ++ path ++ ": " ++ ioText reason)) st
  match made with
  | .error text => faultWith 4 "sed" text st
  | .ok st =>
    if s.inPlace?.isSome && operands.isEmpty then faultWith 4 "sed" "no input files" st
    else
      let (inputs, st) := openInputs s (if operands.isEmpty then ["-"] else operands) st
      let e : Editor := { st, style := s, inputs }
      match e.nextLine? with
      | none => e.atEnd.st
      | some (space, e) => (Editor.run commands.toArray mostCommands 0 { e with space }).st

end Edit

/-- Edits lines. -/
def sed (args : List String) (st : State) : State :=
  let g : Grammar :=
    { flags := "nErsuzhpbx", valued := "efli"
      names := [("quiet", 'n'), ("silent", 'n'), ("expression", 'e'), ("file", 'f'),
        ("regexp-extended", 'E'), ("separate", 's'), ("unbuffered", 'u'), ("null-data", 'z'),
        ("line-length", 'l'), ("in-place", 'i'), ("posix", 'p'), ("sandbox", 'x'), ("help", 'h')] }
  let wrong (text : String) : State := (st.complain (text ++ Edit.usage)).withStatus 1
  match g.read (Edit.expandInPlace args) with
  | .error text => wrong ("sed: " ++ text ++ "\n")
  | .ok r =>
    if r.has 'h' then (st.print Edit.usage).withStatus 0
    else match Edit.scriptPieces r (st.withStatus 0) with
      | .error text => faultWith 1 "sed" text st
      | .ok (pieces, st) =>
        let (pieces, operands) : List Edit.ScriptPiece × List String :=
          match pieces, r.operands with
          | [], script :: operands => ([⟨none, script.toList⟩], operands)
          | pieces, operands => (pieces, operands)
        if pieces.isEmpty then wrong ""
        else
          let script := List.intercalate ['\n'] (pieces.map (·.text))
          match Edit.read (r.has 'E' || r.has 'r') script with
          | .error f => fault "sed" (Edit.faultText pieces script.length f) st
          | .ok commands =>
            let style : Edit.Style :=
              { isQuiet := r.has 'n' || script.take 3 == ['#', 'n'] || script.take 3 == ['#', 'n', '\n']
                isSeparate := r.has 's' || r.has 'i'
                inPlace? := r.value? 'i'
                mark := if r.has 'z' then '\x00' else '\n'
                width := ((r.value? 'l').bind fun text => digits? text.toList).getD 70 }
            Edit.edit style commands operands st

end MutationTesting.Shell.Utility
