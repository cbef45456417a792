import MutationTesting.CommandLine.Text
import MutationTesting.Machine.Run
import MutationTesting.Process.Basic
import MutationTesting.Toolchain.ObjectFile

/-!
# The runner of images

The program that launchers hand their images to. It loads the image, selects the mutants whose
variables are set, and runs the main function: a value becomes the exit code, a trap ends the
process by a signal.
-/

namespace MutationTesting.Runner

/-- The number of blocks that a frame may enter before its process counts as one that never ends. -/
def blockLimit : Nat :=
  12000000

/-- The exit code for an image that cannot be loaded. -/
def badImageCode : Nat :=
  125

/-- The exit code for arguments that cannot be understood. -/
def usageCode : Nat :=
  2

/-- How to call the runner, for users. -/
def usage : String :=
  "usage: exec-image <IMAGE> [ARGS]...\n"

/-- How a process ends whose run came to an outcome. -/
def ended (outcome : Outcome) : Ended :=
  let stdout := outcome.output.toUTF8
  match outcome.ending with
  | .ok value => { exit := .code (exitStatus value), stdout }
  | .error (.trap t) =>
    { exit := .signal, stdout, stderr := ("trap: " ++ t.message ++ "\n").toUTF8 }
  | .error .unfinished => { exit := .never, stdout }

/-- Runs the image of a file in an environment. -/
def execImage (d : Disk) (env : Environment) (path : String) (args : List Int64) : Ended :=
  match Image.load d path with
  | .error fault =>
    { exit := .code badImageCode, stderr := (fault.imageMessage ++ "\n").toUTF8 }
  | .ok image => ended ((Machine.load image env.has).runMain blockLimit args)

/-- Runs the program with arguments, which ask to run an image or for help about that. -/
def run (d : Disk) (env : Environment) (args : List String) : Ended :=
  match args with
  | "exec-image" :: args =>
    match CommandLine.execRequest? args with
    | some (.execImage path args) => execImage d env path args
    | some (.help topic) => { exit := .code 0, stdout := (CommandLine.helpText topic).toUTF8 }
    | _ => { exit := .code usageCode, stderr := usage.toUTF8 }
  | _ => { exit := .code usageCode, stderr := usage.toUTF8 }

end MutationTesting.Runner
