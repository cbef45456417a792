import MutationTesting.Shell.Utility.Request

/-!
# Parts of paths

Utilities that print the last name of a path, the directory that it stands in, or the path from the
root that leads to the same place.
-/

namespace MutationTesting.Shell.Utility

/-- A path without slashes at its end. -/
def withoutSlashes (path : String) : List Char :=
  ((path.toList.reverse.dropWhile (· == '/'))).reverse

/-- The last name on a path, without an ending unless it is all of the name. -/
def lastName (path ending : String) : String :=
  let cs := withoutSlashes path
  if cs.isEmpty then if path == "" then "" else "/"
  else
    let name := String.ofList ((cs.reverse.takeWhile (· != '/')).reverse)
    if ending != "" && name != ending && name.endsWith ending then
      (name.dropEnd ending.length).toString
    else name

/-- Prints the last names on paths. -/
def baseName (args : List String) (st : State) : State :=
  let g : Grammar :=
    { flags := "az", valued := "s", isOrdered := true
      names := [("multiple", 'a'), ("suffix", 's'), ("zero", 'z')] }
  let fail (text : String) (st : State) := fault "basename" (text ++ hint "basename") st
  withRequest "basename" 1 g args st fun r st =>
    let print (paths : List String) (ending : String) : State :=
      st.print (String.join (paths.map fun path => lastName path ending ++ "\n"))
    match r.operands, r.has 'a' || r.has 's' with
    | [], _ => fail "missing operand" st
    | paths, true => print paths ((r.value? 's').getD "")
    | [path], false => print [path] ""
    | [path, ending], false => print [path] ending
    | _ :: _ :: extra :: _, false => fail ("extra operand " ++ inQuotes extra) st

/-- The directory that a path stands in. -/
def directoryOf (path : String) : String :=
  let above := ((withoutSlashes path).reverse.dropWhile (· != '/')).dropWhile (· == '/')
  if !above.isEmpty then String.ofList above.reverse
  else if path.startsWith "/" then "/" else "."

/-- Prints the directories that paths stand in. -/
def directoryName (args : List String) (st : State) : State :=
  withRequest "dirname" 1 { flags := "z", names := [("zero", 'z')] } args st fun r st =>
    if r.operands.isEmpty then fault "dirname" ("missing operand" ++ hint "dirname") st
    else st.print (String.join (r.operands.map fun path => directoryOf path ++ "\n"))

/-- Prints the paths from the root that lead to the places of paths, all of which have to be there if
it is asked for. -/
def realPaths (utility : String) (args : List String) (st : State) : State :=
  let g : Grammar :=
    { flags := "efmqnsz", names := [("canonicalize", 'f'), ("canonicalize-existing", 'e')] }
  withRequest utility 1 g args st fun r st =>
    if r.operands.isEmpty then fault utility ("missing operand" ++ hint utility) st
    else if utility == "readlink" && !r.has 'f' && !r.has 'e' && !r.has 'm' then st.withStatus 1
    else r.operands.foldl (fun st path =>
      match st.place path with
      | .ok place =>
        if r.has 'e' && (st.find path).toOption.isNone then
          fault utility (path ++ ": No such file or directory") st
        else st.print (Octets.ofText ("/" ++ "/".intercalate place) ++ "\n")
      | .error reason =>
        if utility == "readlink" then st.withStatus 1
        else fault utility (path ++ ": " ++ ioText reason) st) st

end MutationTesting.Shell.Utility
