import MutationTesting.Text.Integer

/-!
# Requests

What a user asks for on the command line: to run a campaign, to run an image, an example of a
configuration, or help. Arguments are read from left to right, and the first one that asks for help
is answered without a look at the others.
-/

namespace MutationTesting.CommandLine

/-- What help is asked about. -/
inductive Topic where
  /-- The program. -/
  | program
  /-- Running a campaign. -/
  | run
  /-- Running an image. -/
  | execImage
  /-- The example. -/
  | example
  /-- Help itself. -/
  | help
  deriving DecidableEq, Repr

/-- The options of a campaign. -/
structure RunOptions where
  /-- The path of the configuration, if it is given. -/
  config : Option String := none
  /-- Mutants are listed, not run. -/
  dryRun : Bool := false
  /-- Debug messages are wanted. -/
  verbose : Bool := false
  deriving DecidableEq, Repr

/-- A request. -/
inductive Request where
  /-- To run a campaign. -/
  | run (options : RunOptions)
  /-- To run an image with arguments. -/
  | execImage (image : String) (args : List Int64)
  /-- To show an example. -/
  | example
  /-- To show help. -/
  | help (topic : Topic)
  /-- To show the version. -/
  | version
  deriving DecidableEq, Repr

/-- An argument that stands for options, not for a value. -/
def isOption (arg : String) : Bool :=
  arg.toList.head? == some '-' && arg != "-"

/-- Help is asked for by an argument, possibly in front of other letters. -/
def isHelp (arg : String) : Bool :=
  arg == "--help" || arg.startsWith "-h"

/-- Nothing but help is asked for by an argument. -/
def isOnlyHelp (arg : String) : Bool :=
  isHelp arg && (arg == "--help" || (arg.toList.drop 1).all (· == 'h'))

/-- A text that can be a path. -/
def path? (text : String) : Option String :=
  if text == "" then none else some text

/-! ## Running a campaign -/

namespace RunOptions

/-- The options with the path of the configuration, which is given once and is not empty. -/
def setConfig? (o : RunOptions) (path : String) : Option RunOptions :=
  if o.config.isSome then none else (path? path).map fun path => { o with config := some path }

/-- The options with mutants listed, which is said once. -/
def setDryRun? (o : RunOptions) : Option RunOptions :=
  if o.dryRun then none else some { o with dryRun := true }

/-- The options with debug messages, which is said once. -/
def setVerbose? (o : RunOptions) : Option RunOptions :=
  if o.verbose then none else some { o with verbose := true }

end RunOptions

/-- What a cluster of short options says: options, help, or that the path of the configuration comes
next. -/
inductive Cluster where
  /-- Options. -/
  | options (o : RunOptions)
  /-- Help. -/
  | help
  /-- Options, and the path comes next. -/
  | configNext (o : RunOptions)

/-- Reads a cluster of short options. -/
def Cluster.read? (o : RunOptions) : List Char → Option Cluster
  | [] => some (.options o)
  | 'h' :: _ => some .help
  | 'v' :: rest => do read? (← o.setVerbose?) rest
  | ['c'] => some (.configNext o)
  | 'c' :: '=' :: value => (o.setConfig? (String.ofList value)).map .options
  | 'c' :: value => (o.setConfig? (String.ofList value)).map .options
  | _ => none

/-- Reads the arguments of a campaign. -/
def runRequest? (o : RunOptions) : List String → Option Request
  | [] => some (.run o)
  | arg :: args =>
    match arg.toList with
    | ['-', '-'] => if args.isEmpty then some (.run o) else none
    | '-' :: '-' :: '=' :: _ => none
    | '-' :: '-' :: name =>
      match arg with
      | "--help" => some (.help .run)
      | "--dry-run" => do runRequest? (← o.setDryRun?) args
      | "--verbose" => do runRequest? (← o.setVerbose?) args
      | "--config" =>
        match args with
        | value :: args => if isOption value then none else do
          runRequest? (← o.setConfig? value) args
        | [] => none
      | _ =>
        match name.span (· != '=') with
        | (['c', 'o', 'n', 'f', 'i', 'g'], _ :: value) => do
          runRequest? (← o.setConfig? (String.ofList value)) args
        | _ => none
    | '-' :: c :: letters =>
      match Cluster.read? o (c :: letters) with
      | some (.options o) => runRequest? o args
      | some .help => some (.help .run)
      | some (.configNext o) =>
        match args with
        | value :: args => if isOption value then none else do
          runRequest? (← o.setConfig? value) args
        | [] => none
      | none => none
    | _ => none

/-! ## Running an image -/

/-- Reads the arguments of an image behind its path. -/
def imageRequest? (image : String) (args : List String) : Option Request :=
  match args with
  | "--" :: args => (args.mapM int64Text?).map (.execImage image)
  | args =>
    if args.head?.any isOnlyHelp then some (.help .execImage)
    else (args.mapM int64Text?).map (.execImage image)

/-- Reads the path of an image and its arguments. -/
def execRequest? : List String → Option Request
  | [] => none
  | "--" :: image :: args => do
    return .execImage (← path? image) (← args.mapM int64Text?)
  | arg :: args =>
    if isHelp arg then some (.help .execImage)
    else if isOption arg then none
    else do imageRequest? (← path? arg) args

/-! ## All requests -/

/-- Reads the arguments of a request for the example. -/
def exampleRequest? : List String → Option Request
  | [] => some .example
  | ["--"] => some .example
  | arg :: _ => if isHelp arg then some (.help .example) else none

/-- Reads what help is asked about. -/
def helpRequest? : List String → Option Request
  | [] => some (.help .program)
  | ["run"] => some (.help .run)
  | ["exec-image"] => some (.help .execImage)
  | ["example"] => some (.help .example)
  | ["help"] => some (.help .help)
  | _ => none

/-- The request of a command line. -/
def Request.ofArgs? : List String → Option Request
  | "run" :: args => runRequest? {} args
  | "exec-image" :: args => execRequest? args
  | "example" :: args => exampleRequest? args
  | "help" :: args => helpRequest? args
  | "--version" :: _ => some .version
  | arg :: _ =>
    if isHelp arg then some (.help .program)
    else
      match arg.toList with
      | '-' :: 'V' :: _ => some .version
      | _ => none
  | [] => none

end MutationTesting.CommandLine
