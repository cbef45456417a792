import MutationTesting.CommandLine.Text
import MutationTesting.Campaign.Run
import MutationTesting.Campaign.Report
import MutationTesting.Configuration.File
import MutationTesting.Pattern.Language

/-!
# Answering requests

A request is answered with texts on two streams and a code, and may change the files. A campaign that
mutants survive has the code 1, and so has one that is given up.
-/

namespace MutationTesting.CommandLine

/-- What the command line finds around it. -/
structure Platform where
  /-- The files. -/
  disk : Disk
  /-- The environment. -/
  env : Environment := []
  /-- The number of workers if none is asked for. -/
  workers : UInt64
  /-- The path of the program itself. -/
  program : String
  /-- The path of a directory for objects and programs if none is asked for. -/
  workDirectory : String
  /-- The empty directory of an isolated sandbox. -/
  sandboxDirectory : List String
  /-- Reports are coloured. -/
  colours : Bool := false

/-- An answer. -/
structure Answer where
  /-- How the program ends. -/
  exit : Exit
  /-- What it writes to its output. -/
  stdout : String := ""
  /-- What it writes to its error stream. -/
  stderr : String := ""
  /-- What it says on its way. -/
  messages : List Message := []
  /-- The files afterwards. -/
  disk : Disk

/-- The path of the configuration if none is given. -/
def usualConfig : String :=
  "mutation.yaml"

/-- Loads the modules of a configuration and runs its campaign. -/
def campaign (p : Platform) (c : Configuration) : Session RunResult := do
  let modules ← Session.loadModules c.bitcode
  let filters ← Session.filters Pattern.language c
  let mutators ← ofExcept c.resolveMutators
  modify fun w => { w with modules }
  Campaign.run {
    config := c, filters, mutators
    precompiledObjects := c.precompiledObjects
    dynamicLibraries := c.dynamicLibraries
    workDir := c.workDir.getD p.workDirectory
    runner := c.runtime.getD p.program
    env := p.env
    sandboxDirectory := p.sandboxDirectory }

/-- What is said about a failure. -/
def failureText (f : Failure) : String :=
  unlines ["Error: " ++ f.message]

/-- Runs the campaign of a configuration file. -/
def answerRun (p : Platform) (o : RunOptions) : Answer :=
  match Configuration.load p.workers p.disk (o.config.getD usualConfig) with
  | .error f => { exit := .code 1, stderr := failureText f, disk := p.disk }
  | .ok c =>
    let c := { c with dryRun := c.dryRun || o.dryRun }
    let diagnostics := Diagnostics.capture.withDebug (c.debug || o.verbose)
    match (campaign p c).run { disk := p.disk, diagnostics } with
    | (.error f, w) =>
      { exit := .code f.exitCode
        stderr := failureText f
        messages := w.diagnostics.messages
        disk := w.disk }
    | (.ok r, w) =>
      { exit := .code (if 0 < r.count .survived then 1 else 0)
        stdout := Report.render p.colours r
        messages := w.diagnostics.messages
        disk := w.disk }

/-- Runs an image. -/
def answerExec (p : Platform) (image : String) (args : List Int64) : Answer :=
  let ended := Runner.execImage p.disk p.env image args
  { exit := ended.exit
    stdout := Utf8.decodeText ended.stdout
    stderr := Utf8.decodeText ended.stderr
    disk := p.disk }

/-- Answers a request. -/
def answerRequest (p : Platform) : Request → Answer
  | .run options => answerRun p options
  | .execImage image args => answerExec p image args
  | .example => { exit := .code 0, stdout := exampleText, disk := p.disk }
  | .help topic => { exit := .code 0, stdout := helpText topic, disk := p.disk }
  | .version => { exit := .code 0, stdout := versionText, disk := p.disk }

/-- Answers a command line. -/
def answer (p : Platform) (args : List String) : Answer :=
  match Request.ofArgs? args with
  | some request => answerRequest p request
  | none => { exit := .code Runner.usageCode, stderr := refusalText, disk := p.disk }

end MutationTesting.CommandLine
