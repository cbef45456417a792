import MutationTesting.Proofs.Ir.Codec
import MutationTesting.Proofs.Storage.Path
import MutationTesting.Toolchain.ObjectFile

/-!
# Programs on disk

A module or an image that is saved to a file is loaded from it again as it was, but for the mutation
points of a module, which are not stored.

* `Module.load_of_write`, `Image.load_of_write` — loading what has been saved
* `Disk.keeps_programs` — **saving and loading lose nothing**
-/

namespace MutationTesting

variable {d d' : Disk} {path : String}

/-- What is found in a text is loaded from a file with that text. -/
theorem Disk.load_of_read {α : Type} {decode? : String → Option α} {text : String} {a : α}
    (hread : d.read path = .ok text) (hdecode : decode? text = some a) :
    d.load decode? path = .ok a := by
  rw [load, hread]
  simp only [hdecode]

theorem Module.load_of_write {m : Module} (h : d.write path m.encode = .ok d') :
    Module.load d' path = .ok { m with mutations := [] } :=
  Disk.load_of_read (Disk.read_of_write h) m.decode?_encode

theorem Image.load_of_write {image : Image} (h : d.write path image.encode = .ok d') :
    Image.load d' path = .ok image :=
  Disk.load_of_read (Disk.read_of_write h) image.decode?_encode

/-- **Saving and loading lose nothing.** The text of a module denotes the module without its points,
and the text of an image the image; so they are loaded from the files that they are saved to. A
module that a text denotes, however that text is written, is denoted by its own text, which is saved
again as it is. -/
theorem Disk.keeps_programs :
    (∀ m : Module, Module.decode? m.encode = some { m with mutations := [] }) ∧
    (∀ image : Image, Image.decode? image.encode = some image) ∧
    (∀ (d d' : Disk) (path : String) (m : Module), d.write path m.encode = .ok d' →
      Module.load d' path = .ok { m with mutations := [] }) ∧
    (∀ (d d' : Disk) (path : String) (image : Image), d.write path image.encode = .ok d' →
      Image.load d' path = .ok image) ∧
    ∀ (text : String) (m : Module), Module.decode? text = some m →
      Module.decode? m.encode = some m ∧
        ∀ again, Module.decode? m.encode = some again → again.encode = m.encode := by
  refine ⟨Module.decode?_encode, Image.decode?_encode, fun d d' path m => Module.load_of_write,
    fun d d' path image => Image.load_of_write, fun text m h => ?_⟩
  have hplain : { m with mutations := [] } = m := by
    rw [← Module.mutations_of_decode? h]
  have hdecode : Module.decode? m.encode = some m := m.decode?_encode.trans (congrArg some hplain)
  refine ⟨hdecode, fun again hagain => ?_⟩
  rw [hdecode, Option.some.injEq] at hagain
  rw [hagain]

/-! ### A module with all kinds of texts -/

/-- A module whose name needs escapes, with the least constant and a trampoline. -/
def greeting : Module where
  name := "gr\"ü\\ß\t\x01\n"
  sourceFile := "größe/π.c"
  functions := [
    { name := "main"
      params := 4294967295
      blocks := [⟨[⟨.call none "puts" [.constant Int64.minValue], some ⟨"größe/π.c", 1, 2⟩⟩,
        ⟨.jump 18446744073709551615, none⟩]⟩]
      location := some ⟨"", 0, 0⟩ },
    { name := "puts", params := 1, blocks := [] }]
  trampolines := [⟨"main", "", [⟨"", "\x00"⟩, ⟨"", "\x00"⟩]⟩]

theorem Disk.takes_file : Disk.Takes {} "unit.json" ["unit.json"] := by
  have hparts : Path.parts "unit.json" = ["unit.json"] := Path.parts_of_plain (by decide)
  refine ⟨?_, by simp [node?], by simp [namesDirectory, hparts]⟩
  have hsize : "unit.json".utf8ByteSize = 9 := by decide
  simp [Disk.place, namesOf, hparts, follow, step, base, Path.isAbsolute, maxNameBytes, maxPathBytes,
    hsize]

theorem Disk.keeps_greeting : ∃ d', Disk.write {} "unit.json" greeting.encode = .ok d' ∧
    Module.load d' "unit.json" = .ok greeting := by
  obtain ⟨executable, hwrite⟩ := takes_file.write greeting.encode
  exact ⟨_, hwrite, keeps_programs.2.2.1 _ _ _ greeting hwrite⟩

end MutationTesting
