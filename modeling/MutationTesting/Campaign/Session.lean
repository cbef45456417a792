import MutationTesting.Campaign.Stages
import MutationTesting.Discovery.Search

/-!
# Sessions

A campaign works on a program, a disk and a sink for messages, and may be given up. What it has
changed before it is given up stays changed.
-/

namespace MutationTesting

open Workers (Stage)

/-- What a campaign works on. -/
structure World where
  /-- The modules of the program. -/
  modules : List Module := []
  /-- The files. -/
  disk : Disk
  /-- The sink for messages. -/
  diagnostics : Diagnostics

/-- A step of a campaign. -/
abbrev Session := ExceptT Failure (StateM World)

namespace Session

/-- Says something. -/
def say (severity : Severity) (text : String) : Session Unit :=
  modify fun w => { w with diagnostics := w.diagnostics.record { severity, text } }

/-- Takes a step between two messages with its name; the second one comes also if the step is given
up. -/
def announced {α : Type} (name : String) (step : Session α) : Session α :=
  ExceptT.mk do
    let _ ← (say .info (name ++ " (threads: 1)")).run
    let result ← step.run
    let _ ← (say .info (name ++ ": finished")).run
    return result

/-- The filters of a configuration; patterns that are none are reported and left out. -/
def filters {ρ : Type} (lang : PatternLanguage ρ) (c : Configuration) : Session Filters := do
  let (filters, faults) := c.filters lang
  faults.forM fun fault => say .warning (ConfigFault.pattern fault).message
  return filters

/-- Loads modules from files. -/
def loadModules (paths : List String) : Session (List Module) := do
  let disk := (← get).disk
  paths.mapM fun path => ofExcept ((Module.load disk path).mapError .load)

/-- Changes the disk by an operation that may be refused. -/
def onDisk {α : Type} (operation : Disk → Disk × Except Failure α) : Session α := do
  let (disk, result) := operation (← get).disk
  modify fun w => { w with disk }
  ofExcept result

/-- Runs a stage and says what it says: its outputs or its failure, and what it left. Without room for
all its workers it is not begun. -/
def stage {ε σ ι ο : Type} (ofItem : ε → Failure) (s : Stage ε σ ι ο) (items : List ι)
    (state : σ) : Session (Except Failure (List ο) × List ι × σ) := do
  unless s.hasRoom do throw (.crowded s.name)
  let report := s.run items state
  modify fun w => { w with diagnostics := w.diagnostics.recordAll report.messages }
  return (report.outcome.mapError (Failure.ofStage ofItem s.name), report.items, report.state)

/-- Runs a stage that only gives outputs. -/
def collect {ι ο : Type} (s : Stage Failure Unit ι ο) (items : List ι) : Session (List ο) := do
  let (outcome, _, _) ← stage id s items ()
  ofExcept outcome

/-- Runs a stage that changes the modules of the program. -/
def onModules (s : Stage SynthesisFault Unit Module Unit) : Session Unit := do
  let (outcome, modules, _) ← stage .ofSynthesis s (← get).modules ()
  modify fun w => { w with modules }
  let _ ← ofExcept outcome

/-- Carries out mutations in the modules of the program: the points afterwards, and whether all went
well. -/
def applyAll (mutators : List Mutator) (name : String) (points : List Point) :
    Session (List Point × Except Failure Unit) := do
  let (outcome, points, modules) ←
    stage .ofSynthesis (Synthesis.applyStage mutators name) points (← get).modules
  modify fun w => { w with modules }
  return (points, outcome.map fun _ => ())

/-- Compiles modules by a stage. -/
def compileAll (s : Stage Failure Disk Module String) (modules : List Module) :
    Session (List String) := do
  let (outcome, _, disk) ← stage id s modules (← get).disk
  modify fun w => { w with disk }
  ofExcept outcome

/-- Compiles a module. -/
def compile (m : Module) (kind : ObjectKind) (directory : String) : Session String :=
  onDisk fun disk =>
    let (disk, result) := m.compile kind directory disk
    (disk, result.mapError .ofCompile)

/-- Links object files to a program with a name in a directory: its path. -/
def link (objects : List String) (runner directory name : String) : Session String := do
  let disk := (← get).disk
  let modules ← objects.mapM fun path =>
    ofExcept ((Module.load disk path).mapError fun fault => .link (.badObject fault))
  let image ← ofExcept ((Link.resolve modules).mapError .link)
  onDisk fun disk =>
    let (disk, result) := Link.install image runner directory name disk
    (disk, result.mapError .io)

/-- Compiles and links modules as they are: the path of the program. -/
def build (modules : List Module) (runner directory name : String) : Session String := do
  let objects ← modules.mapM fun m => compile m .program directory
  link objects runner directory name

end Session

end MutationTesting
