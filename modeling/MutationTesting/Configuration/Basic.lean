import MutationTesting.Discovery.Filter
import MutationTesting.Discovery.PathFilter
import MutationTesting.Mutation.Catalogue
import MutationTesting.Storage.Disk

/-!
# Configurations

The parameters of a run. Worker counts and the timeout have to be positive, and the requested
mutators have to be in the catalogue.
-/

namespace MutationTesting

/-- What keeps the processes of mutants apart from their surroundings. -/
inductive Sandbox where
  /-- Nothing: they get the surroundings of the run. -/
  | none
  /-- An empty directory of their own, and no variable but the search path. -/
  | isolated
  deriving DecidableEq, Repr

namespace Sandbox

/-- The name of a sandbox. -/
def name : Sandbox → String
  | .none => "none"
  | .isolated => "isolated"

end Sandbox

/-- The parameters of a run. -/
structure Configuration where
  /-- The path of the unmutated test program. -/
  executable : String
  /-- The paths of the modules to mutate. -/
  bitcode : List String := []
  /-- The paths of object files that are linked as they are. -/
  precompiledObjects : List String := []
  /-- The paths of libraries that are linked as they are. -/
  dynamicLibraries : List String := []
  /-- The path of coverage data. -/
  coverageInfo : Option String := none
  /-- The time limit of each process, in milliseconds. -/
  timeout : UInt64 := 3000
  /-- The number of workers of each stage. -/
  workers : UInt64
  /-- The number of workers that run mutants, if it differs. -/
  mutantWorkers : Option UInt64 := none
  /-- Mutants are listed, not run. -/
  dryRun : Bool := false
  /-- The unmutated program is not run first. -/
  skipSanityCheck : Bool := false
  /-- The output of the unmutated program is kept. -/
  captureTestOutput : Bool := false
  /-- The output of mutants is kept. -/
  captureMutantOutput : Bool := false
  /-- Patterns one of which source paths have to match. -/
  includePaths : List String := []
  /-- Patterns none of which source paths may match. -/
  excludePaths : List String := []
  /-- What has no location is skipped. -/
  skipNoDebugInfo : Bool := false
  /-- The requested mutators. -/
  mutators : List String := []
  /-- Debug messages are wanted. -/
  debug : Bool := false
  /-- What mutants run in. -/
  sandbox : Sandbox := .none
  /-- The directory that objects and programs are written to. -/
  workDir : Option String := none
  /-- The path of the program that runs images. -/
  runtime : Option String := none
  deriving DecidableEq, Repr

/-- Why a configuration, or a file that it names, is of no use. -/
inductive ConfigFault where
  /-- The file cannot be read. -/
  | unreadable (path : String) (reason : IoError)
  /-- The text is no configuration. -/
  | malformed (path : String)
  /-- A worker count is zero. -/
  | noWorkers
  /-- The timeout is zero. -/
  | noTimeout
  /-- A path pattern is none. -/
  | pattern (fault : InvalidPattern)
  /-- Coverage data cannot be read. -/
  | unreadableCoverage (path : String) (reason : IoError)
  /-- The text is no coverage data. -/
  | malformedCoverage (path : String)
  deriving DecidableEq, Repr

namespace ConfigFault

/-- A fault as users read it. -/
def message (fault : ConfigFault) : String :=
  "Configuration error: " ++ match fault with
    | .unreadable path reason => "Failed to read config file '" ++ path ++ "': " ++ reason.message
    | .malformed path => "Failed to parse config file '" ++ path ++ "': not a configuration"
    | .noWorkers => "worker counts must be at least 1"
    | .noTimeout => "timeout must be at least 1ms"
    | .pattern fault => fault.message
    | .unreadableCoverage path reason =>
      "Cannot read coverage info '" ++ path ++ "': " ++ reason.message
    | .malformedCoverage path => "Cannot read coverage info '" ++ path ++ "': not coverage data"

end ConfigFault

namespace Configuration

/-- The number of workers that run mutants. -/
def mutantExecutionWorkers (c : Configuration) : UInt64 :=
  c.mutantWorkers.getD c.workers

/-- The time limit in nanoseconds. -/
def timeoutNanos (c : Configuration) : Nat :=
  c.timeout.toNat * 1000000

/-- The number of workers of a stage. -/
def stageWorkers (c : Configuration) : Nat :=
  max 1 c.workers.toNat

/-- The filters of a configuration, and the faults of path patterns that are left out. -/
def filters {ρ : Type} (lang : PatternLanguage ρ) (c : Configuration) :
    Filters × List InvalidPattern :=
  let filters : Filters := {}
  let filters := if c.skipNoDebugInfo then filters.addNoDebugInfo else filters
  if c.includePaths.isEmpty && c.excludePaths.isEmpty then (filters, [])
  else
    let (f, includeFaults) := PathFilter.addAll (PathFilter.addInclude lang) {} c.includePaths
    let (f, excludeFaults) := PathFilter.addAll (PathFilter.addExclude lang) f c.excludePaths
    (filters.addLocationFilter "file path" (f.skipsLocation lang), includeFaults ++ excludeFaults)

end Configuration

end MutationTesting
