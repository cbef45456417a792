import MutationTesting.CommandLine.Request

/-!
# Texts of the command line

What the command line says by itself: an example of a configuration, the version, and help.
-/

namespace MutationTesting.CommandLine

/-- Lines, each with its end. -/
def unlines (lines : List String) : String :=
  String.join (lines.map (· ++ "\n"))

/-- An example of a configuration. -/
def exampleText : String :=
  unlines [
    "# Example mutation.yaml configuration file",
    "",
    "# Original test executable, run once as the sanity check",
    "executable: build/tests",
    "",
    "# IR modules to mutate",
    "bitcode:",
    "  - build/math.json",
    "  - build/main.json",
    "",
    "# Linked as-is, never mutated",
    "precompiled_objects: []",
    "dynamic_libraries: []",
    "",
    "# Optional coverage data; only executed functions are mutated",
    "# coverage_info: build/coverage.json",
    "",
    "timeout: 3000          # milliseconds per run",
    "# workers: 8           # defaults to the number of CPUs",
    "# mutant_execution_workers: 16",
    "",
    "dry_run: false",
    "skip_sanity_check: false",
    "capture_test_output: true",
    "capture_mutant_output: false",
    "",
    "# Regexes matched against source paths; exclusion wins",
    "include_paths: [\".*\\\\.c$\"]",
    "exclude_paths: [\"Output/.*\"]",
    "skip_no_debug_info: true",
    "",
    "# Mutator ids or groups (cxx_arithmetic, cxx_comparison, cxx_bitwise,",
    "# cxx_calls, cxx_default)",
    "mutators:",
    "  - cxx_arithmetic",
    "  - cxx_comparison",
    "",
    "sandbox: isolated      # none | isolated",
    "# work_dir: build/mutants",
    ""]

/-- The name and the version of the program. -/
def versionText : String :=
  unlines ["ir-mutation-testing 0.1.0"]

/-- Help about a topic. -/
def helpText : Topic → String
  | .program => unlines [
      "Mutation testing for compiled programs",
      "",
      "Usage: ir-mutation-testing <COMMAND>",
      "",
      "Commands:",
      "  run         Run mutation tests",
      "  exec-image  Execute a linked image (used by mutated executables)",
      "  example     Show example configuration",
      "  help        Print this message or the help of the given subcommand(s)",
      "",
      "Options:",
      "  -h, --help     Print help",
      "  -V, --version  Print version"]
  | .run => unlines [
      "Run mutation tests",
      "",
      "Usage: ir-mutation-testing run [OPTIONS]",
      "",
      "Options:",
      "  -c, --config <CONFIG>  Path to the configuration file [default: mutation.yaml]",
      "      --dry-run          Enumerate mutants without executing them",
      "  -v, --verbose          Enable verbose output",
      "  -h, --help             Print help"]
  | .execImage => unlines [
      "Execute a linked image (used by mutated executables)",
      "",
      "Usage: ir-mutation-testing exec-image <IMAGE> [ARGS]...",
      "",
      "Arguments:",
      "  <IMAGE>    ",
      "  [ARGS]...  Integer arguments passed to `main`",
      "",
      "Options:",
      "  -h, --help  Print help"]
  | .example => unlines [
      "Show example configuration",
      "",
      "Usage: ir-mutation-testing example",
      "",
      "Options:",
      "  -h, --help  Print help"]
  | .help => unlines [
      "Print this message or the help of the given subcommand(s)",
      "",
      "Usage: ir-mutation-testing help [COMMAND]...",
      "",
      "Arguments:",
      "  [COMMAND]...  Print help for the subcommand(s)"]

/-- What is said about arguments that are no request. -/
def refusalText : String :=
  unlines ["error: these arguments cannot be understood", "", "For more information, try '--help'."]

end MutationTesting.CommandLine
