/-!
# Diagnostics

What a run says on its way. Messages are kept in order by a sink that captures them; debug messages
are dropped unless the sink asks for them.
-/

namespace MutationTesting

/-- How important a message is. -/
inductive Severity where
  | debug
  | info
  | warning
  deriving DecidableEq, Repr

namespace Severity

/-- The name of a severity. -/
def name : Severity → String
  | .debug => "debug"
  | .info => "info"
  | .warning => "warning"

/-- The severity of a name. -/
def named? (text : String) : Option Severity :=
  [.debug, .info, .warning].find? (name · == text)

end Severity

/-- A message. -/
structure Message where
  /-- How important it is. -/
  severity : Severity
  /-- What it says. -/
  text : String
  deriving DecidableEq, Repr

/-- A sink for messages. -/
structure Diagnostics where
  /-- Debug messages are wanted. -/
  debugEnabled : Bool
  /-- Messages are kept. -/
  capturing : Bool
  /-- The messages kept so far. -/
  messages : List Message := []
  deriving DecidableEq, Repr

namespace Diagnostics

/-- A sink that keeps nothing and wants no debug messages. -/
def silent : Diagnostics :=
  { debugEnabled := false, capturing := false }

/-- A sink that wants and keeps every message. -/
def capture : Diagnostics :=
  { debugEnabled := true, capturing := true }

/-- The sink with debug messages wanted or not. -/
def withDebug (d : Diagnostics) (enabled : Bool) : Diagnostics :=
  { d with debugEnabled := enabled }

/-- The sink keeps a message. -/
def keeps (d : Diagnostics) (m : Message) : Bool :=
  d.capturing && (m.severity != .debug || d.debugEnabled)

/-- The sink after a message. -/
def record (d : Diagnostics) (m : Message) : Diagnostics :=
  if d.keeps m then { d with messages := d.messages ++ [m] } else d

/-- The sink after messages. -/
def recordAll (d : Diagnostics) (ms : List Message) : Diagnostics :=
  ms.foldl record d

/-- The texts of the kept messages of one severity. -/
def texts (d : Diagnostics) (severity : Severity) : List String :=
  (d.messages.filter (·.severity == severity)).map (·.text)

end Diagnostics

end MutationTesting
