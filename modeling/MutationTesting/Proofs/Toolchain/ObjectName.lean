import Mathlib.Data.String.Basic
import MutationTesting.Proofs.Mutation.Names
import MutationTesting.Proofs.Text.Fingerprint
import MutationTesting.Toolchain.ObjectFile

/-!
# Names of object files

The name of an object file is a plain name that can be taken apart: it stands for one kind, one name
and one source file of a module, as far as fingerprints tell texts apart.

* `Module.objectName_parts` — the parts of the name: the kind, the readable name, the fingerprint
* `Module.sameUnit_of_stamp_eq` — where the stamp is to be cut
* `Module.objectName_inj` — **one name of an object file is the name of one unit**
* `Module.objectName_eq_iff` — which modules share the name of an object file
* `Module.le_utf8ByteSize_objectName` — the name is longer than that of the module
-/

namespace MutationTesting

namespace Module

/-- The text that the fingerprint in the name of an object file is taken of. -/
def stamp (m : Module) : String :=
  m.name ++ "\x00" ++ m.sourceFile

/-- Two modules are one unit for the compiler: they share their name and their source file. -/
def SameUnit (m m' : Module) : Prop :=
  m.name = m'.name ∧ m.sourceFile = m'.sourceFile

instance (m m' : Module) : Decidable (m.SameUnit m') :=
  inferInstanceAs (Decidable (_ ∧ _))

variable {m m' : Module} {kind kind' : ObjectKind}

theorem SameUnit.refl (m : Module) : m.SameUnit m :=
  ⟨rfl, rfl⟩

/-- What of the name of a module can be read in the name of its object file. -/
def readableName (m : Module) : List Char :=
  m.name.toList.map Point.identifierChar

theorem length_readableName (m : Module) : m.readableName.length = m.name.toList.length :=
  List.length_map _

/-- Only letters, digits and underscores can be read. -/
theorem not_mem_readableName {d : Char} (hplain : d.isAlphanum = false) (hd : '_' ≠ d)
    (m : Module) : d ∉ m.readableName := by
  intro h
  obtain ⟨c, -, hc⟩ := List.mem_map.mp h
  exact Point.identifierChar_ne hplain hd c hc

theorem toList_objectName (m : Module) (kind : ObjectKind) :
    (m.objectName kind).toList
      = (kind.mark.toList ++ m.readableName) ++ '-' ::
        ((fingerprintText m.stamp).toList ++ ".o.json".toList) := by
  simp [objectName, stamp, readableName]

theorem SameUnit.objectName_eq (h : m.SameUnit m') : m.objectName kind = m'.objectName kind := by
  rw [objectName, objectName, h.1, h.2]

/-- The mark of a library ends in a dash, which is in no readable name; so it can be told from the
mark of a part of the program, which is empty. -/
theorem mark_append_inj
    (h : kind.mark.toList ++ m.readableName = kind'.mark.toList ++ m'.readableName) :
    kind = kind' ∧ m.readableName = m'.readableName := by
  have hmark : ∀ {n n' : Module},
      n.readableName ≠ ObjectKind.library.mark.toList ++ n'.readableName := by
    intro n n' he
    have hdash : '-' ∈ ObjectKind.library.mark.toList := by decide
    exact n.not_mem_readableName rfl (by decide) (he ▸ List.mem_append_left _ hdash)
  cases kind with
  | program =>
    cases kind' with
    | program => exact ⟨rfl, h⟩
    | library => exact absurd h hmark
  | library =>
    cases kind' with
    | program => exact absurd h.symm hmark
    | library => exact ⟨rfl, List.append_cancel_left h⟩

/-- The name of an object file can be taken apart: behind its last dash stands the fingerprint. -/
theorem objectName_parts (h : m.objectName kind = m'.objectName kind') :
    kind = kind' ∧ m.readableName = m'.readableName ∧
      fingerprint m.stamp = fingerprint m'.stamp := by
  have hdash : ∀ text : String, '-' ∉ (fingerprintText text).toList ++ ".o.json".toList := by
    intro text hmem
    rcases List.mem_append.mp hmem with hmem | hmem
    · exact not_mem_fingerprintText (by decide) text hmem
    · exact absurd hmem (by decide)
  have hl := congrArg String.toList h
  rw [toList_objectName, toList_objectName] at hl
  obtain ⟨hname, hrest⟩ := append_cons_inj hl (hdash _) (hdash _)
  obtain ⟨hkind, hreadable⟩ := mark_append_inj hname
  exact ⟨hkind, hreadable,
    fingerprintText_inj (String.toList_inj.mp (List.append_cancel_right hrest))⟩

/-- The name and the source file may hold the character between them, so the stamp alone does not
tell where the name ends; the length of the readable name does. -/
theorem sameUnit_of_stamp_eq (hreadable : m.readableName = m'.readableName)
    (hstamp : m.stamp = m'.stamp) : m.SameUnit m' := by
  have hlength : m.name.toList.length = m'.name.toList.length := by
    rw [← length_readableName, ← length_readableName, hreadable]
  have hl := congrArg String.toList hstamp
  simp only [stamp, String.toList_append, List.append_assoc] at hl
  obtain ⟨hn, hs⟩ := List.append_inj hl hlength
  exact ⟨String.toList_inj.mp hn, String.toList_inj.mp (List.append_cancel_left hs)⟩

/-- **One name of an object file is the name of one unit,** as far as fingerprints tell texts
apart. -/
theorem objectName_inj
    (happart : fingerprint m.stamp = fingerprint m'.stamp → m.stamp = m'.stamp)
    (h : m.objectName kind = m'.objectName kind) : m.SameUnit m' := by
  obtain ⟨-, hreadable, hfingerprint⟩ := objectName_parts h
  exact sameUnit_of_stamp_eq hreadable (happart hfingerprint)

/-- **Object files share a name only by a collision of fingerprints.** Two modules, each compiled as
a part of the program or as a library, get one name exactly if they are compiled alike and either
are one unit, or are read alike and have different stamps with one fingerprint. In particular no
library is named like a part of the program. -/
theorem objectName_eq_iff :
    m.objectName kind = m'.objectName kind' ↔ kind = kind' ∧
      (m.SameUnit m' ∨ m.readableName = m'.readableName ∧ m.stamp ≠ m'.stamp ∧
        fingerprint m.stamp = fingerprint m'.stamp) := by
  constructor
  · intro h
    obtain ⟨hkind, hreadable, hfingerprint⟩ := objectName_parts h
    refine ⟨hkind, ?_⟩
    by_cases hstamp : m.stamp = m'.stamp
    · exact Or.inl (sameUnit_of_stamp_eq hreadable hstamp)
    · exact Or.inr ⟨hreadable, hstamp, hfingerprint⟩
  · rintro ⟨rfl, hunit | ⟨hreadable, -, hfingerprint⟩⟩
    · exact hunit.objectName_eq
    · apply String.toList_inj.mp
      rw [toList_objectName, toList_objectName, hreadable, fingerprintText, fingerprintText,
        hfingerprint]

/-- Units whose stamps are one text, because the character between the parts is in both of them. -/
example : stamp { name := "a", sourceFile := "b\x00c" }
    = stamp { name := "a\x00b", sourceFile := "c" } := by
  decide

/-- The name of an object file has no separator in it. -/
theorem slash_not_mem_objectName (m : Module) (kind : ObjectKind) :
    '/' ∉ (m.objectName kind).toList := by
  have hmark : '/' ∉ kind.mark.toList := by cases kind <;> decide
  rw [toList_objectName]
  simp only [List.mem_append, List.mem_cons, not_or]
  exact ⟨⟨hmark, m.not_mem_readableName rfl (by decide)⟩, by decide,
    not_mem_fingerprintText (by decide) _, by decide⟩

theorem length_objectName (m : Module) (kind : ObjectKind) :
    (m.objectName kind).length = kind.mark.length + m.name.length + 24 := by
  rw [← String.length_toList, toList_objectName]
  simp only [List.length_append, List.length_cons, length_readableName, String.length_toList,
    length_fingerprintText]
  change kind.mark.length + m.name.length + (16 + 7 + 1) = _
  rfl

/-- The name of an object file has more bytes than the name of its module has characters. -/
theorem le_utf8ByteSize_objectName (m : Module) (kind : ObjectKind) :
    m.name.length + 24 ≤ (m.objectName kind).utf8ByteSize := by
  have hbytes : ∀ cs : List Char, cs.length ≤ String.utf8Len cs := by
    intro cs
    induction cs with
    | nil => exact Nat.zero_le _
    | cons c cs ih =>
      have hpos := c.utf8Size_pos
      rw [List.length_cons, String.utf8Len_cons]
      omega
  have hname := hbytes (m.objectName kind).toList
  rw [← String.utf8ByteSize_ofList, String.ofList_toList, String.length_toList,
    length_objectName] at hname
  omega

end Module

end MutationTesting
