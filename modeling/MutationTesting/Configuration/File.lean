import MutationTesting.Failure
import MutationTesting.Yaml.Decode

/-!
# Configuration files

A configuration is stored as a mapping. Only the path of the unmutated program is required; names of
fields that do not exist are refused.
-/

namespace MutationTesting

namespace Sandbox

/-- The sandbox of a name. -/
def named? : String → Option Sandbox
  | "none" => some .none
  | "isolated" => some .isolated
  | _ => Option.none

end Sandbox

namespace Configuration

/-- The names of all fields. -/
def fieldNames : List String :=
  ["executable", "bitcode", "precompiled_objects", "dynamic_libraries", "coverage_info", "timeout",
    "workers", "mutant_execution_workers", "dry_run", "skip_sanity_check", "capture_test_output",
    "capture_mutant_output", "include_paths", "exclude_paths", "skip_no_debug_info", "mutators",
    "debug", "sandbox", "work_dir", "runtime"]

/-- The configuration of a node, with a number of workers if none is given. -/
def ofNode? (workers : UInt64) (n : Yaml.Node) : Option Configuration := do
  let fields ← n.fields? fieldNames
  let field {α : Type} (value? : Yaml.Node → Option α) (default : α) (name : String) : Option α :=
    match fields.lookup name with
    | some value => value? value
    | none => some default
  let flag := field Yaml.Node.bool? false
  let texts := field (Yaml.Node.list? Yaml.Node.text?) []
  let path := field (Yaml.Node.optional? Yaml.Node.text?) none
  return {
    executable := ← (← fields.lookup "executable").text?
    bitcode := ← texts "bitcode"
    precompiledObjects := ← texts "precompiled_objects"
    dynamicLibraries := ← texts "dynamic_libraries"
    coverageInfo := ← path "coverage_info"
    timeout := ← field Yaml.Node.word64? 3000 "timeout"
    workers := ← field Yaml.Node.word64? workers "workers"
    mutantWorkers := ←
      field (Yaml.Node.optional? Yaml.Node.word64?) none "mutant_execution_workers"
    dryRun := ← flag "dry_run"
    skipSanityCheck := ← flag "skip_sanity_check"
    captureTestOutput := ← flag "capture_test_output"
    captureMutantOutput := ← flag "capture_mutant_output"
    includePaths := ← texts "include_paths"
    excludePaths := ← texts "exclude_paths"
    skipNoDebugInfo := ← flag "skip_no_debug_info"
    mutators := ← texts "mutators"
    debug := ← flag "debug"
    sandbox := ← field (Yaml.Node.choice? Sandbox.named?) .none "sandbox"
    workDir := ← path "work_dir"
    runtime := ← path "runtime" }

/-- The configuration of a text. -/
def decode? (workers : UInt64) (text : String) : Option Configuration :=
  (Yaml.read? text).bind (ofNode? workers)

/-- The requested mutators, or the default ones if none is requested. -/
def resolveMutators (c : Configuration) : Except Failure (List Mutator) :=
  (Catalogue.resolve c.mutators).mapError .unknownMutator

/-- Checks the worker counts, the timeout and the names of mutators, in this order. -/
def validate (c : Configuration) : Except Failure Unit :=
  if c.workers = 0 ∨ c.mutantWorkers = some 0 then .error (.configuration .noWorkers)
  else if c.timeout = 0 then .error (.configuration .noTimeout)
  else c.resolveMutators.map fun _ => ()

/-- Loads a configuration from a file and checks it. -/
def load (workers : UInt64) (d : Disk) (path : String) : Except Failure Configuration :=
  match d.read path with
  | .error reason => .error (.configuration (.unreadable path reason))
  | .ok text =>
    match decode? workers text with
    | none => .error (.configuration (.malformed path))
    | some c => c.validate.map fun _ => c

end Configuration

end MutationTesting
