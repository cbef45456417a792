import MutationTesting.Ir.Codec
import MutationTesting.Machine.Image
import MutationTesting.Storage.Disk
import MutationTesting.Text.Fingerprint
import MutationTesting.Toolchain.Verify

/-!
# Object files

A compiled module is stored under a name made of its readable name and the fingerprint of its full
name and source file. Libraries have names of their own, so that they never replace a module of the
program.
-/

namespace MutationTesting

/-- Why a stored module or image cannot be loaded. -/
inductive LoadFault where
  /-- The file cannot be read. -/
  | unreadable (path : String) (reason : IoError)
  /-- The text is not what it should be. -/
  | malformed (path : String)
  deriving DecidableEq, Repr

namespace LoadFault

/-- A fault in loading a module, as users read it. -/
def moduleMessage : LoadFault → String
  | .unreadable path reason => "Failed to read bitcode '" ++ path ++ "': " ++ reason.message
  | .malformed path => "Failed to parse bitcode '" ++ path ++ "': not a stored module"

/-- A fault in loading an image, as users read it. -/
def imageMessage : LoadFault → String
  | .unreadable path reason => "Failed to load image '" ++ path ++ "': " ++ reason.message
  | .malformed path => "Failed to load image '" ++ path ++ "': not a stored image"

end LoadFault

/-- Loads what a decoder finds in a file. -/
def Disk.load {α : Type} (d : Disk) (decode? : String → Option α) (path : String) :
    Except LoadFault α :=
  match d.read path with
  | .error reason => .error (.unreadable path reason)
  | .ok text =>
    match decode? text with
    | some a => .ok a
    | none => .error (.malformed path)

/-- Loads a module from a file. -/
def Module.load (d : Disk) (path : String) : Except LoadFault Module :=
  d.load Module.decode? path

/-- Loads an image from a file. -/
def Image.load (d : Disk) (path : String) : Except LoadFault Image :=
  d.load Image.decode? path

/-- What a module is compiled as. -/
inductive ObjectKind where
  /-- As a part of the program. -/
  | program
  /-- As a library beside the program. -/
  | library
  deriving DecidableEq, Repr

namespace ObjectKind

/-- What stands in front of the names of object files of a kind. -/
def mark : ObjectKind → String
  | .program => ""
  | .library => "lib-"

end ObjectKind

/-- The name of the object file of a module. -/
def Module.objectName (m : Module) (kind : ObjectKind) : String :=
  kind.mark ++ String.ofList (m.name.toList.map Point.identifierChar) ++ "-"
    ++ fingerprintText (m.name ++ "\x00" ++ m.sourceFile) ++ ".o.json"

/-- Why a module is not compiled. -/
inductive CompileFault where
  /-- The module is not fit. -/
  | invalid (module : String) (fault : VerifyFault)
  /-- The object file cannot be written. -/
  | io (reason : IoError)
  deriving DecidableEq, Repr

/-- Checks a module and writes its object file to a directory: its path, and the disk afterwards. -/
def Module.compile (m : Module) (kind : ObjectKind) (directory : String) (d : Disk) :
    Disk × Except CompileFault String :=
  match m.verify with
  | .error fault => (d, .error (.invalid m.name fault))
  | .ok () =>
    match d.createDirectories directory with
    | .error reason => (d, .error (.io reason))
    | .ok d =>
      let path := Path.join directory (m.objectName kind)
      match d.write path m.encode with
      | .error reason => (d, .error (.io reason))
      | .ok d => (d, .ok path)

end MutationTesting
