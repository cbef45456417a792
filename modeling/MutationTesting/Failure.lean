import MutationTesting.Configuration.Basic
import MutationTesting.Synthesis.Stages
import MutationTesting.Toolchain.Link

/-!
# Failures

The reasons for which a run is given up. How a single mutant ends is not among them.
-/

namespace MutationTesting

/-- Why a stage of a run is given up. -/
inductive TaskFault where
  /-- There are no workers. -/
  | noWorkers
  /-- A worker died. -/
  | panicked
  /-- The function to copy is missing. -/
  | nothingToClone (module name : String)
  /-- The function that should lose its body, or be redirected, is missing. -/
  | noFunction (name : String)
  /-- The mutant of a point should be run whose mutation was not carried out. -/
  | neverApplied (point : Point)
  deriving DecidableEq, Repr

namespace TaskFault

/-- A fault as users read it. -/
def message : TaskFault → String
  | .noWorkers => "no task instances"
  | .panicked => "worker thread panicked"
  | .nothingToClone module name => "module '" ++ module ++ "' has no function '" ++ name ++ "'"
  | .noFunction name => "no function '" ++ name ++ "'"
  | .neverApplied point => "mutation '" ++ point.userIdentifier ++ "' was never applied"

end TaskFault

/-- Why a run is given up. -/
inductive Failure where
  /-- A module cannot be loaded. -/
  | load (fault : LoadFault)
  /-- A module is not fit to be compiled. -/
  | invalidModule (module : String) (fault : VerifyFault)
  /-- Modules cannot be linked. -/
  | link (fault : LinkFault)
  /-- An image cannot be loaded. -/
  | image (fault : LoadFault)
  /-- A mutation cannot be carried out. -/
  | notApplied (point : Point) (reason : ApplyFault)
  /-- A requested mutator is not in the catalogue. -/
  | unknownMutator (fault : Catalogue.UnknownMutator)
  /-- A process cannot be started. -/
  | process (program : String) (reason : IoError)
  /-- A stage is given up. -/
  | task (stage : String) (fault : TaskFault)
  /-- A stage has no room for so many workers. -/
  | crowded (stage : String)
  /-- A configuration is of no use. -/
  | configuration (fault : ConfigFault)
  /-- The system refuses an operation. -/
  | io (reason : IoError)
  deriving DecidableEq, Repr

namespace Failure

/-- A failure as users read it. -/
def message : Failure → String
  | .load fault => fault.moduleMessage
  | .invalidModule module fault =>
    "Failed to compile module '" ++ module ++ "': " ++ fault.message
  | .link fault => "Link failed: " ++ fault.message
  | .image fault => fault.imageMessage
  | .notApplied point reason =>
    "Failed to apply mutation '" ++ point.userIdentifier ++ "': " ++ reason.message
  | .unknownMutator fault => fault.message
  | .process program reason => "Failed to execute '" ++ program ++ "': " ++ reason.message
  | .task stage fault => "Task '" ++ stage ++ "' failed: " ++ fault.message
  | .crowded stage => "Task '" ++ stage ++ "' failed: capacity overflow"
  | .configuration fault => fault.message
  | .io reason => reason.message

/-- The exit code of a run that is given up. -/
def exitCode : Failure → Nat
  | .crowded _ => 101
  | _ => 1

/-- The failure of a fault of the synthesis. -/
def ofSynthesis : SynthesisFault → Failure
  | .nothingToClone module name => .task "cloning functions" (.nothingToClone module name)
  | .nothingToDelete name => .task "deleting original functions" (.noFunction name)
  | .nothingToRedirect name => .task "inserting trampolines" (.noFunction name)
  | .notApplied point reason => .notApplied point reason

/-- The failure of a fault in compiling a module. -/
def ofCompile : CompileFault → Failure
  | .invalid module fault => .invalidModule module fault
  | .io reason => .io reason

/-- The failure of a stage by its name, given the failure of an item. -/
def ofStage {ε : Type} (ofItem : ε → Failure) (stage : String) : Workers.Fault ε → Failure
  | .noWorkers => .task stage .noWorkers
  | .panicked => .task stage .panicked
  | .item error => ofItem error

end Failure

end MutationTesting
