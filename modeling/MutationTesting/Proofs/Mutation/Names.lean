import Mathlib.Data.List.Nodup
import MutationTesting.Mutation.Catalogue
import MutationTesting.Proofs.Text.Marks

/-!
# Names of copies

The names of the copies of a function are put together from texts, and can be taken apart again from
the end: an address has no point in it, and neither has the identifier of a mutator. So two points
of one module share a name of a copy only if they are the same point, and no copy of a mutation is
named like an unmutated one.

* `Point.mutantName_inj` — the name of a mutated copy determines its point
* `Point.identifier_inj` — so does the identifier, in the whole program
* `Point.unmutatedName_inj`, `Point.mutantName_ne_unmutatedName`
* `Catalogue.point_not_mem_id`, `Catalogue.nodup_id` — the identifiers of the catalogue
-/

namespace MutationTesting

theorem repr_inj {m n : Nat} (h : m.repr.toList = n.repr.toList) : m = n := by
  rw [Nat.toList_repr, Nat.toList_repr] at h
  rw [← Nat.ofDigitChars_ten_toDigits (n := m), h, Nat.ofDigitChars_ten_toDigits]

theorem isDigit_of_mem_repr {n : Nat} {c : Char} (h : c ∈ n.repr.toList) : c.isDigit = true := by
  rw [Nat.toList_repr] at h
  exact Nat.isDigit_of_mem_toDigits (by decide) (by decide) h

namespace Address

theorem toList_text (a : Address) :
    a.text.toList = a.block.repr.toList ++ '_' :: a.index.repr.toList := by
  simp [text]

theorem text_inj {a b : Address} (h : a.text.toList = b.text.toList) : a = b := by
  rw [toList_text, toList_text] at h
  obtain ⟨hblock, hindex⟩ := append_cons_inj h
    (fun hm => absurd (isDigit_of_mem_repr hm) (by decide))
    (fun hm => absurd (isDigit_of_mem_repr hm) (by decide))
  obtain ⟨block, index⟩ := a
  obtain ⟨block', index'⟩ := b
  have hb : block = block' := repr_inj hblock
  have hi : index = index' := repr_inj hindex
  rw [hb, hi]

/-- An address is written with digits and an underscore. -/
theorem not_mem_text (a : Address) {c : Char} (hdigit : c.isDigit = false) (hc : c ≠ '_') :
    c ∉ a.text.toList := by
  rw [toList_text, List.mem_append, List.mem_cons]
  rintro (h | h | h)
  · simp [isDigit_of_mem_repr h] at hdigit
  · exact hc h
  · simp [isDigit_of_mem_repr h] at hdigit

theorem point_not_mem_text (a : Address) : '.' ∉ a.text.toList :=
  a.not_mem_text (by decide) (by decide)

end Address

namespace Point

/-- In a name that was made plain only letters, digits and underscores stand. -/
theorem identifierChar_ne {d : Char} (hplain : d.isAlphanum = false) (hd : '_' ≠ d) (c : Char) :
    identifierChar c ≠ d := by
  unfold identifierChar
  split
  · next hc =>
    rintro rfl
    rw [hc] at hplain
    cases hplain
  · exact hd

theorem toList_mutantName (p : Point) :
    p.mutantName.toList = (p.function.name.toList ++ '.' :: "mutant".toList) ++ '.' ::
      (p.mutator.toList ++ '.' :: p.address.text.toList) := by
  simp [mutantName]

/-- **The name of a mutated copy determines the function, the mutator and the address.** -/
theorem mutantName_inj {p q : Point} (hp : '.' ∉ p.mutator.toList) (hq : '.' ∉ q.mutator.toList)
    (h : p.mutantName = q.mutantName) :
    p.function.name = q.function.name ∧ p.mutator = q.mutator ∧ p.address = q.address := by
  have hl := congrArg String.toList h
  rw [toList_mutantName, toList_mutantName, ← List.cons_append, ← List.append_assoc,
    ← List.cons_append, ← List.append_assoc] at hl
  obtain ⟨hl, haddress⟩ :=
    append_cons_inj hl p.address.point_not_mem_text q.address.point_not_mem_text
  obtain ⟨hl, hmutator⟩ := append_cons_inj hl hp hq
  obtain ⟨hname, -⟩ := append_cons_inj hl (by decide) (by decide)
  exact ⟨String.toList_inj.mp hname, String.toList_inj.mp hmutator, Address.text_inj haddress⟩

theorem unmutatedName_inj {f g : String} (h : unmutatedName f = unmutatedName g) : f = g := by
  have hl := congrArg String.toList h
  simp only [unmutatedName, String.toList_append, List.append_cancel_right_eq] at hl
  exact String.toList_inj.mp hl

/-- A mutated copy is not named like an unmutated one: its last part is an address. -/
theorem mutantName_ne_unmutatedName (p : Point) (f : String) : p.mutantName ≠ unmutatedName f := by
  intro h
  have hl := congrArg String.toList h
  have hfull : (unmutatedName f).toList = f.toList ++ '.' :: "original".toList := by
    simp [unmutatedName]
  rw [toList_mutantName, hfull, ← List.cons_append, ← List.append_assoc] at hl
  obtain ⟨-, hlast⟩ := append_cons_inj hl p.address.point_not_mem_text (by decide)
  -- an address has an underscore in it
  have hmem : '_' ∈ p.address.text.toList := by
    rw [Address.toList_text]
    simp
  rw [hlast] at hmem
  exact absurd hmem (by decide)

theorem toList_identifier (p : Point) :
    p.identifier.toList = p.mutator.toList ++ ':' :: (p.function.module.repr.toList ++ ':' ::
      (p.function.name.toList ++ ':' :: p.address.text.toList)) := by
  simp [identifier]

/-- **The identifier of a point determines the mutator, the function and the address.** -/
theorem identifier_inj {p q : Point} (hp : ':' ∉ p.mutator.toList) (hq : ':' ∉ q.mutator.toList)
    (h : p.identifier = q.identifier) :
    p.mutator = q.mutator ∧ p.function = q.function ∧ p.address = q.address := by
  have hl := congrArg String.toList h
  rw [toList_identifier, toList_identifier] at hl
  obtain ⟨hmutator, hl⟩ := append_cons_inj_left hl hp hq
  obtain ⟨hmodule, hl⟩ := append_cons_inj_left hl
    (fun hm => absurd (isDigit_of_mem_repr hm) (by decide))
    (fun hm => absurd (isDigit_of_mem_repr hm) (by decide))
  obtain ⟨hname, haddress⟩ := append_cons_inj hl
    (p.address.not_mem_text (by decide) (by decide))
    (q.address.not_mem_text (by decide) (by decide))
  refine ⟨String.toList_inj.mp hmutator, ?_, Address.text_inj haddress⟩
  rw [FunctionRef.mk.injEq]
  exact ⟨repr_inj hmodule, String.toList_inj.mp hname⟩

end Point

/-- The identifiers of the catalogue have no point in them. -/
theorem Catalogue.point_not_mem_id : ∀ m ∈ Catalogue.mutators, '.' ∉ m.id.toList := by
  decide

theorem Catalogue.colon_not_mem_id : ∀ m ∈ Catalogue.mutators, ':' ∉ m.id.toList := by
  decide

/-- No two mutators of the catalogue share an identifier. -/
theorem Catalogue.nodup_id : (Catalogue.mutators.map (·.id)).Nodup := by
  decide

/-- A mutator of the catalogue is found by its identifier wherever it is enabled. -/
theorem Catalogue.find?_id {mutators : List Mutator} (hsub : ∀ m ∈ mutators, m ∈ Catalogue.mutators)
    {m : Mutator} (hm : m ∈ mutators) : mutators.find? (·.id == m.id) = some m := by
  cases hfound : mutators.find? (·.id == m.id) with
  | none =>
    exact absurd (List.find?_eq_none.mp hfound m hm) (by simp)
  | some m' =>
    have hid : m'.id = m.id := by simpa using List.find?_some hfound
    rw [List.inj_on_of_nodup_map nodup_id (hsub m' (List.mem_of_find?_eq_some hfound)) (hsub m hm)
      hid]

end MutationTesting
