import MutationTesting.Campaign.Session
import MutationTesting.Discovery.Coverage

/-!
# Campaigns

A campaign finds the tests of a program and runs the unmutated program once, searches the covered
functions for mutation points, builds all mutants into one program and runs it once for each of them.
Each step begins when the one before has ended.
-/

namespace MutationTesting

/-- The parameters of a campaign. -/
structure Campaign where
  /-- The configuration. -/
  config : Configuration
  /-- The filters. -/
  filters : Filters
  /-- The mutators. -/
  mutators : List Mutator
  /-- The object files that are linked as they are. -/
  precompiledObjects : List String := []
  /-- The libraries that are linked as they are. -/
  dynamicLibraries : List String := []
  /-- The names of the tests of a program. -/
  findTests : Program → List String := Program.mainTests
  /-- The directory that objects and programs are written to. -/
  workDir : String
  /-- The path of the program that runs images. -/
  runner : String
  /-- The environment of the campaign itself. -/
  env : Environment := []
  /-- The empty directory of an isolated sandbox. -/
  sandboxDirectory : List String := []

namespace Campaign

open Session (say announced collect)

/-- The program as it is now. -/
def program (c : Campaign) : Session Program := do
  return {
    modules := (← get).modules
    precompiledObjects := c.precompiledObjects
    dynamicLibraries := c.dynamicLibraries }

/-- The files and the environment as they are now. -/
def surroundings (c : Campaign) : Session Surroundings := do
  return { disk := (← get).disk, env := c.env, sandboxDirectory := c.sandboxDirectory }

/-! ## Tests -/

/-- The warning about a test that the unmutated program does not pass. -/
def failedTestText (name : String) (e : Execution) : String :=
  "Original test failed\ntest: " ++ name ++ "\nstatus: " ++ e.status.text ++ "\nstdout: '"
    ++ e.stdout ++ "'\nstderr: '" ++ e.stderr ++ "'"

/-- Runs the unmutated program once for all tests, unless that is to be skipped. -/
def sanityCheck (c : Campaign) (names : List String) : Session (List TestOutcome) := do
  let outcomes (e : Execution) : List TestOutcome :=
    names.map fun name => { name, execution := some e }
  if c.config.skipSanityCheck then
    return outcomes (.assumedPass c.config.timeoutNanos)
  let execution ← announced "Sanity check run" do
    match execute (← c.surroundings) c.config.sandbox c.config.executable [] []
        c.config.timeout c.config.captureTestOutput with
    | .ok (execution, notes) =>
      notes.forM (say .debug)
      return execution
    | .error reason => throw (.process c.config.executable reason)
  if execution.status != .passed then
    names.forM fun name => say .warning (failedTestText name execution)
  return outcomes execution

/-! ## Discovery -/

/-- The executed functions, if there is usable coverage data. -/
def coverage (c : Campaign) : Session (Option Covered) := do
  match c.config.coverageInfo with
  | none => return none
  | some path =>
    let loaded : Except ConfigFault (List CoverageRecord) :=
      match (← get).disk.read path with
      | .error reason => .error (.unreadableCoverage path reason)
      | .ok text =>
        match CoverageRecord.decodeAll? text with
        | some records => .ok records
        | none => .error (.malformedCoverage path)
    match loaded with
    | .ok records => return some (.ofRecords records)
    | .error fault =>
      say .warning fault.message
      return none

/-- A function is covered, or there is no coverage data. -/
def isCovered (covered : Option Covered) (d : Definition) : Bool :=
  match covered with
  | some covered => covered.contains d.function.name d.owner.unitFile
  | none => true

/-- Every test with every covered function. -/
def candidates (covered : Option Covered) (program : Program) (tests : Nat) : List Candidate :=
  (List.range tests).flatMap fun test =>
    (program.defined.filter (isCovered covered)).map fun d => { function := d.ref, test }

/-- Applies the function filters in turn. -/
def filterCandidates (c : Campaign) (program : Program) :
    List (Filter Function) → List Candidate → Session (List Candidate)
  | [], cs => pure cs
  | f :: fs, cs => do
    let name := "Applying function filter: " ++ f.name
    let cs ← collect (f.candidateStage program name c.config.stageWorkers) cs
    c.filterCandidates program fs cs

/-- Applies the filters of mutation points in turn. -/
def filterPoints (c : Campaign) : List (Filter Point) → List Point → Session (List Point)
  | [], ps => pure ps
  | f :: fs, ps => do
    let ps ← collect (f.pointStage ("Applying filter: " ++ f.name) c.config.stageWorkers) ps
    c.filterPoints fs ps

/-- The mutation points of a program with so many tests. -/
def findPoints (c : Campaign) (tests : Nat) : Session (List Point) := do
  let program ← c.program
  let cs ← announced "Gathering functions under test" do
    return candidates (← c.coverage) program tests
  let cs ← c.filterCandidates program c.filters.function cs
  let select := selectionStage program c.filters.instruction "Instruction selection"
    c.config.stageWorkers
  let (outcome, cs, _) ← Session.stage id select cs ()
  let _ ← ofExcept outcome
  let points ← collect (searchStage program c.mutators c.config.stageWorkers) cs
  return mergeDuplicates points

/-! ## Mutants -/

/-- The name of the program that holds all mutants. -/
def executableName (c : Campaign) : String :=
  (Path.fileName? c.config.executable).getD "program" ++ "-mutated"

/-- Compiles the libraries that can be loaded; the others are reported and left out. -/
def compileLibraries (c : Campaign) : Session (List String) := do
  let loaded ← c.dynamicLibraries.filterMapM fun path => do
    say .debug ("Loading dynamic library " ++ path)
    match Module.load (← get).disk path with
    | .ok m => return some m
    | .error fault =>
      say .warning ("Cannot load dynamic library '" ++ path ++ "': " ++ fault.moduleMessage)
      return none
  loaded.mapM fun m => Session.compile m .library c.workDir

/-- Builds the mutants of points into the modules of the program: the points afterwards. -/
def synthesize (c : Campaign) (points : List Point) : Session (List Point) := do
  announced "Prepare mutations" do
    modify fun w => { w with modules := Synthesis.prepare w.modules points }
  let workers := c.config.stageWorkers
  Session.onModules (Synthesis.cloneStage "Cloning functions for mutation" workers)
  Session.onModules (Synthesis.deleteStage "Removing original functions" workers)
  Session.onModules (Synthesis.redirectStage "Redirect mutated functions" workers)
  let (points, outcome) ← Session.applyAll c.mutators "Applying mutations" points
  ofExcept outcome
  return points

/-- Builds the program that holds all mutants: its path. -/
def buildMutants (c : Campaign) : Session String := do
  let workers := c.config.stageWorkers
  let objects ← Session.compileAll (compileStage c.workDir "Compiling original code" workers)
    (← get).modules
  let libraries ← announced "Loading dynamic libraries" c.compileLibraries
  announced "Link mutated program" do
    Session.link (objects ++ libraries ++ c.precompiledObjects) c.runner c.workDir c.executableName

/-- Builds and runs the mutants of points, or only lists them: the results, and the points
afterwards. -/
def runPoints (c : Campaign) (points : List Point) :
    Session (List MutationResult × List Point) := do
  if points.isEmpty then return ([], points)
  if c.config.dryRun then
    let results ← collect (dryRunStage "Running mutants (dry run)" c.config.stageWorkers) points
    return (results, points)
  let points ← c.synthesize points
  let executable ← c.buildMutants
  let runs : MutantRuns := {
    around := ← c.surroundings
    sandbox := c.config.sandbox
    executable
    timeout := c.config.timeout
    capture := c.config.captureMutantOutput }
  let workers := max 1 c.config.mutantExecutionWorkers.toNat
  let results ← collect (executionStage runs "Running mutants" workers) points
  return (results, points)

/-! ## The whole campaign -/

/-- The warning about a program without tests. -/
def noTestsText : String :=
  "No tests found. Make sure the program defines an entry point for its test suite."

/-- Runs a campaign. -/
def run (c : Campaign) : Session RunResult := do
  let names ← announced "Searching tests" do
    return c.findTests (← c.program)
  if names.isEmpty then
    say .warning noTestsText
    return { tests := [], results := [], points := ← c.filterPoints c.filters.mutation [] }
  let tests ← c.sanityCheck names
  let points ← c.findPoints names.length
  let points ← c.filterPoints c.filters.mutation points
  let (results, points) ← c.runPoints points
  return { tests, results, points }

end Campaign

end MutationTesting
