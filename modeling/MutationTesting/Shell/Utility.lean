import MutationTesting.Shell.Utility.Column
import MutationTesting.Shell.Utility.Compare
import MutationTesting.Shell.Utility.Copy
import MutationTesting.Shell.Utility.Dump
import MutationTesting.Shell.Utility.Edit
import MutationTesting.Shell.Utility.Exchange
import MutationTesting.Shell.Utility.Find
import MutationTesting.Shell.Utility.Identity
import MutationTesting.Shell.Utility.Number
import MutationTesting.Shell.Utility.Order
import MutationTesting.Shell.Utility.Path
import MutationTesting.Shell.Utility.Search
import MutationTesting.Shell.Utility.Time
import MutationTesting.Shell.Condition
import MutationTesting.Shell.Format

/-!
# Utilities

Programs that scripts commonly call, by their names: they copy, cut, count and edit what they read,
and look after files.
-/

namespace MutationTesting.Shell

namespace Utility

/-- Tests a condition; in the form with a bracket the last argument is the bracket that closes it. -/
def condition (name : String) (args : List String) (st : State) : State :=
  if name != "[" then test name args st
  else if args.getLast? == some "]" then test "[" args.dropLast st
  else faultWith 2 "[" "missing ']'" st

/-- The utilities by their names. -/
def all : List (String × (List String → State → State)) :=
  [("true", fun _ st => st.withStatus 0), ("false", fun _ st => st.withStatus 1),
    ("echo", echoProgram), ("printf", printFormat), ("test", condition "test"),
    ("[", condition "["),
    ("pwd", fun _ st => (st.print (st.directory ++ "\n")).withStatus 0),
    ("cat", cat), ("tee", tee), ("head", head), ("tail", tail), ("tac", tac), ("rev", reverseLines),
    ("nl", numberLines), ("wc", count), ("cut", cut), ("paste", paste), ("fold", foldLines),
    ("tr", exchange), ("sort", sort), ("uniq", unique), ("comm", common), ("seq", sequence),
    ("expr", expression), ("basename", baseName), ("dirname", directoryName),
    ("realpath", realPaths "realpath"), ("readlink", realPaths "readlink"), ("touch", touch),
    ("mkdir", makeDirectories), ("mktemp", makeTemporary), ("rm", remove),
    ("rmdir", removeDirectories), ("cp", copy), ("mv", move), ("ln", link), ("chmod", changeMode),
    ("ls", list), ("stat", facts), ("truncate", resize), ("cmp", compareBytes),
    ("diff", differences), ("od", dump), ("base64", sixtyFour), ("id", identity),
    ("whoami", printLine "root"), ("uname", systemName), ("arch", printLine "x86_64"),
    ("nproc", printLine "4"), ("hostname", printLine "localhost"), ("groups", printLine "root"),
    ("tty", terminalName), ("sync", fun _ st => st.withStatus 0), ("grep", grep []), ("egrep", grep [('E', "")]),
    ("fgrep", grep [('F', "")]), ("sed", sed), ("sleep", sleepFor), ("yes", printForever)]

end Utility

/-- The names of the utilities. -/
def utilityNames : List String :=
  Utility.all.map (·.1)

/-- Carries out a utility; none if there is none of the name. -/
def utility? (name : String) (args : List String) (st : State) : Option State :=
  (Utility.all.lookup name).map fun run => run args st

end MutationTesting.Shell
