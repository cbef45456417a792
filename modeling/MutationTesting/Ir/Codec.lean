import MutationTesting.Ir.Module
import MutationTesting.Json.Decode
import MutationTesting.Json.Printer
import MutationTesting.Json.Reader

/-!
# Stored modules

The stored form of locations, operands, instructions, functions and modules as JSON values, and the
readers of those forms. Every record may also be written as the list of its fields, except an
instruction: its fields stand in one object with those of its action, which `kind` chooses.
-/

namespace MutationTesting

open Json (ofMembers ofOption)

/-- A 32-bit word as a number. -/
def Json.word32 (n : UInt32) : Json :=
  .nat n.toNat

/-- A 64-bit word without sign as a number. -/
def Json.word64 (n : UInt64) : Json :=
  .nat n.toNat

/-- A 64-bit word with sign as a number. -/
def Json.int64 (n : Int64) : Json :=
  .int n.toInt

/-! ## Locations -/

namespace Location

/-- The stored form of a location. -/
def toJson (l : Location) : Json :=
  ofMembers [("file", .str l.file), ("line", .word32 l.line), ("column", .word32 l.column)]

/-- The location of a stored form. -/
def ofJson? (value : Json) : Option Location := do
  match ← value.fields? ["file", "line", "column"] with
  | [file, line, column] =>
    return {
      file := ← Json.required? Json.text? file
      line := ← Json.required? Json.word32? line
      column := ← Json.required? Json.word32? column }
  | _ => none

/-- The member of a location that is left out when it is absent. -/
def member : Option Location → List (String × Json)
  | some l => [("location", l.toJson)]
  | none => []

end Location

/-! ## Operands and operators -/

namespace Operand

/-- The stored form of an operand: an object with its kind as the only key. -/
def toJson : Operand → Json
  | .register index => ofMembers [("reg", .word32 index)]
  | .parameter index => ofMembers [("param", .word32 index)]
  | .constant value => ofMembers [("const", .int64 value)]

/-- The operand of a stored form. -/
def ofJson? : Json → Option Operand
  | .obj [(some "reg", index)] => index.word32?.map .register
  | .obj [(some "param", index)] => index.word32?.map .parameter
  | .obj [(some "const", value)] => value.int64?.map .constant
  | _ => none

end Operand

namespace Operator

/-- The operator of a stored form: its name, or an object with its name as the only key and no
content. -/
def ofJson? : Json → Option Operator
  | .str name => ofName? name
  | .obj [(some name, .null)] => ofName? name
  | .obj [(some name, .obj [])] => ofName? name
  | _ => none

end Operator

/-! ## Instructions -/

namespace Action

/-- The members of an action in the stored form of its instruction. -/
def members : Action → List (String × Json)
  | .binary dst op lhs rhs =>
    [("kind", .str "binary"), ("dst", .word32 dst), ("op", .str op.name),
      ("lhs", lhs.toJson), ("rhs", rhs.toJson)]
  | .call dst callee args =>
    [("kind", .str "call"), ("dst", ofOption .word32 dst), ("callee", .str callee),
      ("args", .ofList Operand.toJson args)]
  | .dispatch dst trampoline args =>
    [("kind", .str "dispatch"), ("dst", .word32 dst), ("trampoline", .str trampoline),
      ("args", .ofList Operand.toJson args)]
  | .print value => [("kind", .str "print"), ("value", value.toJson)]
  | .jump target => [("kind", .str "jump"), ("target", .word64 target)]
  | .branch cond thenBlock elseBlock =>
    [("kind", .str "branch"), ("cond", cond.toJson), ("then_block", .word64 thenBlock),
      ("else_block", .word64 elseBlock)]
  | .ret value => [("kind", .str "return"), ("value", value.toJson)]

/-- The kinds of actions; a stored form may also give the position in this list. -/
def kinds : List String :=
  ["binary", "call", "dispatch", "print", "jump", "branch", "return"]

/-- The kind that a stored form gives by name or position. -/
def kind? : Json → Option String
  | .str kind => some kind
  | .int n => if 0 ≤ n then kinds[n.toNat]? else none
  | _ => none

/-- A required field among the members of an instruction. -/
def field? {α : Type} (members : List (Option String × Json)) (name : String)
    (decode : Json → Option α) : Option α :=
  (Json.single? name members).bind (Json.required? decode)

/-- The action of the members of a stored instruction. -/
def ofMembers? (members : List (Option String × Json)) : Option Action := do
  match ← field? members "kind" kind? with
  | "binary" =>
    .binary <$> field? members "dst" Json.word32? <*> field? members "op" Operator.ofJson?
      <*> field? members "lhs" Operand.ofJson? <*> field? members "rhs" Operand.ofJson?
  | "call" =>
    .call <$> (Json.single? "dst" members).bind (Json.optional? none (Json.nullable? Json.word32?))
      <*> field? members "callee" Json.text? <*> field? members "args" (Json.list? Operand.ofJson?)
  | "dispatch" =>
    .dispatch <$> field? members "dst" Json.word32? <*> field? members "trampoline" Json.text?
      <*> field? members "args" (Json.list? Operand.ofJson?)
  | "print" => .print <$> field? members "value" Operand.ofJson?
  | "jump" => .jump <$> field? members "target" Json.word64?
  | "branch" =>
    .branch <$> field? members "cond" Operand.ofJson? <*> field? members "then_block" Json.word64?
      <*> field? members "else_block" Json.word64?
  | "return" => .ret <$> field? members "value" Operand.ofJson?
  | _ => none

end Action

namespace Instruction

/-- The stored form of an instruction. -/
def toJson (i : Instruction) : Json :=
  ofMembers (i.action.members ++ Location.member i.location)

/-- The levels that may still nest inside a member of an instruction: 127 in all, of which the
instruction is the seventh. -/
def memberLevels : Nat :=
  120

/-- The instruction of a stored form. All members but the location are kept until the kind is
known. -/
def ofJson? : Json → Option Instruction
  | .obj members => do
    let kept := members.filter (·.1 != some "location")
    if Json.membersKeepable memberLevels kept then
      return {
        action := ← Action.ofMembers? kept
        location := ← (Json.single? "location" members).bind
          (Json.optional? none (Json.nullable? Location.ofJson?)) }
    else none
  | _ => none

end Instruction

/-! ## Functions -/

namespace Block

/-- The stored form of a block. -/
def toJson (b : Block) : Json :=
  ofMembers [("instructions", .ofList Instruction.toJson b.instructions)]

/-- The block of a stored form. -/
def ofJson? (value : Json) : Option Block := do
  match ← value.fields? ["instructions"] with
  | [instructions] =>
    return { instructions := ← Json.required? (Json.list? Instruction.ofJson?) instructions }
  | _ => none

end Block

namespace Function

/-- The stored form of a function. -/
def toJson (f : Function) : Json :=
  ofMembers ([("name", .str f.name), ("params", .word32 f.params),
    ("blocks", .ofList Block.toJson f.blocks)] ++ Location.member f.location)

/-- The function of a stored form. -/
def ofJson? (value : Json) : Option Function := do
  match ← value.fields? ["name", "params", "blocks", "location"] with
  | [name, params, blocks, location] =>
    return {
      name := ← Json.required? Json.text? name
      params := ← Json.required? Json.word32? params
      blocks := ← Json.optional? [] (Json.list? Block.ofJson?) blocks
      location := ← Json.optional? none (Json.nullable? Location.ofJson?) location }
  | _ => none

end Function

/-! ## Modules -/

namespace Mutant

/-- The stored form of a mutant. -/
def toJson (m : Mutant) : Json :=
  ofMembers [("selector", .str m.selector), ("function", .str m.function)]

/-- The mutant of a stored form. -/
def ofJson? (value : Json) : Option Mutant := do
  match ← value.fields? ["selector", "function"] with
  | [selector, function] =>
    return {
      selector := ← Json.required? Json.text? selector
      function := ← Json.required? Json.text? function }
  | _ => none

end Mutant

namespace Trampoline

/-- The stored form of a trampoline. -/
def toJson (t : Trampoline) : Json :=
  ofMembers [("function", .str t.function), ("original", .str t.unmutated),
    ("mutants", .ofList Mutant.toJson t.mutants)]

/-- The trampoline of a stored form. -/
def ofJson? (value : Json) : Option Trampoline := do
  match ← value.fields? ["function", "original", "mutants"] with
  | [function, unmutated, mutants] =>
    return {
      function := ← Json.required? Json.text? function
      unmutated := ← Json.required? Json.text? unmutated
      mutants := ← Json.required? (Json.list? Mutant.ofJson?) mutants }
  | _ => none

end Trampoline

namespace Module

/-- The stored form of a module; trampolines are left out when there are none. -/
def toJson (m : Module) : Json :=
  ofMembers ([("name", .str m.name), ("source_file", .str m.sourceFile),
    ("functions", .ofList Function.toJson m.functions)]
    ++ if m.trampolines.isEmpty then []
      else [("trampolines", .ofList Trampoline.toJson m.trampolines)])

/-- The module of a stored form, without mutation points. -/
def ofJson? (value : Json) : Option Module := do
  match ← value.fields? ["name", "source_file", "functions", "trampolines"] with
  | [name, sourceFile, functions, trampolines] =>
    return {
      name := ← Json.required? Json.text? name
      sourceFile := ← Json.required? Json.text? sourceFile
      functions := ← Json.required? (Json.list? Function.ofJson?) functions
      trampolines := ← Json.optional? [] (Json.list? Trampoline.ofJson?) trampolines }
  | _ => none

/-- The text of a stored module. -/
def encode (m : Module) : String :=
  Json.print .pretty m.toJson

/-- The module of a text. -/
def decode? (text : String) : Option Module :=
  (Json.read? text).bind ofJson?

end Module

end MutationTesting
