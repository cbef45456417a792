/-!
# Launchers

A linked program is started by a script that hands its image and its own arguments to the program
that runs images. Both paths are quoted for the shell.
-/

namespace MutationTesting.Launcher

/-- A character inside single quotes; a single quote itself is put outside them. -/
def quoteChar (c : Char) : List Char :=
  if c = '\'' then ['\'', '\\', '\'', '\''] else [c]

/-- A text as one word of a shell command. -/
def quote (text : List Char) : List Char :=
  '\'' :: text.flatMap quoteChar ++ ['\'']

/-- The command line that runs an image. -/
def commandLine (runner image : String) : List Char :=
  "exec ".toList ++ quote runner.toList ++ " exec-image ".toList ++ quote image.toList
    ++ " \"$@\"".toList

/-- The script that runs an image. -/
def script (runner image : String) : String :=
  String.ofList ("#!/bin/sh\n".toList ++ commandLine runner image ++ "\n".toList)

end MutationTesting.Launcher
