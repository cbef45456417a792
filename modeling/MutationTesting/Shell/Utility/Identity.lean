import MutationTesting.Shell.Utility.File

/-!
# Identity

Utilities that tell who runs a script, on what system, and what is known of files.
-/

namespace MutationTesting.Shell.Utility

/-- Prints a line whatever the arguments are. -/
def printLine (text : String) (_ : List String) (st : State) : State :=
  (st.print (text ++ "\n")).withStatus 0

/-- Prints the user and the groups. -/
def identity (args : List String) (st : State) : State :=
  let g : Grammar :=
    { flags := "ugGnrz"
      names := [("user", 'u'), ("group", 'g'), ("groups", 'G'), ("name", 'n'), ("real", 'r')] }
  withRequest "id" 1 g args st fun r st =>
    if r.has 'u' || r.has 'g' || r.has 'G' then st.print (if r.has 'n' then "root\n" else "0\n")
    else if r.has 'n' || r.has 'r' then
      fault "id" "cannot print only names or real IDs in default format" st
    else st.print "uid=0(root) gid=0(root) groups=0(root)\n"

/-- Prints what is known of the system. -/
def systemName (args : List String) (st : State) : State :=
  let g : Grammar :=
    { flags := "asnrvmpio"
      names := [("all", 'a'), ("kernel-name", 's'), ("machine", 'm'), ("operating-system", 'o')] }
  withRequest "uname" 1 g args st fun r st =>
    let parts := [('s', "Linux"), ('n', "localhost"), ('r', "6.1.0"), ('v', "#1 SMP"),
      ('m', "x86_64"), ('o', "GNU/Linux")]
    let shown := if r.options.isEmpty then ["Linux"]
      else (parts.filter fun p => r.has 'a' || r.has p.1).map (·.2)
    st.print (" ".intercalate shown ++ "\n")

/-- Tells that the input is no terminal. -/
def terminalName (args : List String) (st : State) : State :=
  let st := if args.contains "-s" then st else st.print "not a tty\n"
  st.withStatus 1

/-- A text in which marks stand for what is known of a file, with a bound on the number of its
pieces. -/
def factsText (st : State) (path : String) : Nat → List Char → List Char
  | 0, _ => []
  | bound + 1, cs =>
    let go (text : String) (rest : List Char) : List Char :=
      text.toList ++ factsText st path bound rest
    let isDir := isDirectory st path
    match cs with
    | [] => []
    | '%' :: 'n' :: rest => go path rest
    | '%' :: 's' :: rest => go (sizeOf st path).repr rest
    | '%' :: 'F' :: rest =>
      go (if isDir then "directory" else if sizeOf st path = 0 then "regular empty file"
        else "regular file") rest
    | '%' :: 'a' :: rest =>
      go (if (rightsText st path).toList.contains 'x' then "755" else "644") rest
    | '%' :: 'A' :: rest => go (rightsText st path) rest
    | '%' :: 'U' :: rest => go "root" rest
    | '%' :: 'G' :: rest => go "root" rest
    | '%' :: 'u' :: rest => go "0" rest
    | '%' :: 'g' :: rest => go "0" rest
    | '%' :: '%' :: rest => go "%" rest
    | '\\' :: 'n' :: rest => go "\\n" rest
    | c :: rest => c :: factsText st path bound rest

/-- Prints what is known of files. -/
def facts (args : List String) (st : State) : State :=
  let g : Grammar := { flags := "Lft", valued := "c", names := [("format", 'c')] }
  withRequest "stat" 1 g args st fun r st =>
    if r.operands.isEmpty then fault "stat" ("missing operand" ++ hint "stat") st
    else
      let format := (r.value? 'c').getD "%n %s"
      r.operands.foldl (fun st path =>
        match st.find path with
        | .ok _ =>
          printChars st (factsText st path (format.length + 1) format.toList ++ ['\n'])
        | .error reason =>
          fault "stat" ("cannot statx " ++ inQuotes path ++ ": " ++ ioText reason) st) st

/-- Cuts files to a size, or fills them up to it. -/
def resize (args : List String) (st : State) : State :=
  let g : Grammar := { flags := "co", valued := "sr", names := [("size", 's'), ("no-create", 'c')] }
  withRequest "truncate" 1 g args st fun r st =>
    match r.value? 's' with
    | none => fault "truncate" ("you must specify either '--size' or '--reference'" ++ hint "truncate")
        st
    | some text =>
      let sign? := (text.toList.head?).filter fun c => c == '+' || c == '-'
      match digits? (if sign?.isSome then text.toList.tail else text.toList) with
      | none => fault "truncate" ("Invalid number: " ++ inQuotes text) st
      | some n =>
        r.operands.foldl (fun st path =>
          let old := ((st.readFile path).toOption.getD "").toList
          let size := match sign? with
            | some '+' => old.length + n
            | some _ => old.length - n
            | none => n
          let new := old.take size ++ List.replicate (size - old.length) '\x00'
          match st.writeFile path (String.ofList new) with
          | .ok st => st
          | .error reason => fault "truncate" ("cannot open " ++ inQuotes path ++ " for writing: "
              ++ ioText reason) st) st

end MutationTesting.Shell.Utility
