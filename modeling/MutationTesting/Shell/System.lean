import MutationTesting.Shell.Utility

/-!
# The files of the system

The directories and programs that are always there: wherever a process runs, it finds them behind the
files of the disk that it gets.
-/

namespace MutationTesting

namespace Shell

/-- The mark of a program that is no script, in front of its name. -/
def programMark : String :=
  "\x7f"

/-- The names of the programs that are found by name. -/
def programNames : List String :=
  ["sh", "dash", "bash", "env", "printenv", "kill", "timeout", "nohup", "nice", "xargs", "find",
    "which"] ++ utilityNames

/-- The program that a text is, if it is one. -/
def programOf? (content : String) : Option String :=
  if content.startsWith programMark then some (content.drop 1).toString else none

/-- The directories of the system. -/
def systemDirectories : List (List String) :=
  [["bin"], ["dev"], ["etc"], ["home"], ["lib"], ["opt"], ["proc"], ["root"], ["run"], ["sbin"],
    ["sys"], ["tmp"], ["usr"], ["usr", "bin"], ["usr", "lib"], ["usr", "local"],
    ["usr", "local", "bin"], ["usr", "sbin"], ["usr", "share"], ["var"], ["var", "tmp"]]

/-- The files and directories of the system. -/
def systemNodes : List (List String × Node) :=
  systemDirectories.map (fun place => (place, .directory))
    ++ [(["dev", "null"], .file "" false), (["dev", "zero"], .file "" false),
      (["etc", "passwd"], .file "root:x:0:0:root:/root:/bin/bash\n" false)]
    ++ programNames.flatMap fun name =>
      [(["usr", "bin", name], .file (programMark ++ name) true),
        (["bin", name], .file (programMark ++ name) true)]

end Shell

/-- The disk with the files of the system behind its own. -/
def Disk.withSystem (d : Disk) : Disk :=
  { d with nodes := d.nodes ++ Shell.systemNodes.filter fun n => !d.nodes.any (·.1 == n.1) }

end MutationTesting
