/-!
# Paths

Paths as texts of names between slashes. A path from the root stands for itself; any other is read
from a base.
-/

namespace MutationTesting.Path

/-- A path from the root. -/
def isAbsolute (path : String) : Bool :=
  path.toList.head? == some '/'

/-- A path read from a base; a separator is put between them unless the base ends with one. -/
def join (base path : String) : String :=
  if isAbsolute path || base == "" then path
  else if base.toList.getLast? == some '/' then base ++ path
  else base ++ "/" ++ path

/-- What stands between the separators of a path. -/
def parts (path : String) : List String :=
  (path.toList.splitOn '/').map String.ofList

/-- The last name on a path: what stands behind the last separator, separators at the end and parts
`.` aside; none for the root, the parent and the empty path. -/
def fileName? (path : String) : Option String :=
  let named := (parts path).zipIdx.filter fun (part, i) => part != "" && !(part == "." && i != 0)
  match named.getLast? with
  | some (".", _) => none
  | some ("..", _) => none
  | some (part, _) => some part
  | none => none

end MutationTesting.Path
