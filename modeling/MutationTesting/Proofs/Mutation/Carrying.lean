import MutationTesting.Mutation.Mutator
import MutationTesting.Proofs.Ir.Function

/-!
# Carrying out mutations

A mutation that is carried out puts one computation in the place of another or takes one call out,
and it does the same to every copy of a function.

* `Mutator.mutate_eq_ok_iff` — everything that a mutation can do
* `Point.mutate` — the mutation of a point, by one of some mutators
* `Point.mutate_rename_eq_ok_iff` — a copy is mutated as the function itself is
-/

namespace MutationTesting

namespace Mutator

/-- **Everything that a mutation can do.** -/
theorem mutate_eq_ok_iff {m : Mutator} {address : Address} {f g : Function} :
    m.mutate address f = .ok g ↔
      (∃ id source target dst lhs rhs location, m = .replaceOperator id source target ∧
        f.instruction? address = some ⟨.binary dst source lhs rhs, location⟩ ∧
        g = f.setInstruction address ⟨.binary dst target lhs rhs, location⟩) ∨
      (∃ callee args location, m = .removeVoidCall ∧
        f.instruction? address = some ⟨.call none callee args, location⟩ ∧
        g = f.eraseInstruction address) := by
  constructor
  · intro h
    unfold mutate at h
    split at h
    · next id source target dst op lhs rhs location hi =>
      split at h
      · next hop =>
        subst hop
        cases h
        exact Or.inl ⟨_, _, _, _, _, _, _, rfl, hi, rfl⟩
      · cases h
    · cases h
    · next callee args location hi =>
      cases h
      exact Or.inr ⟨_, _, _, rfl, hi, rfl⟩
    · cases h
  · rintro (⟨id, source, target, dst, lhs, rhs, location, rfl, hi, rfl⟩ |
    ⟨callee, args, location, rfl, hi, rfl⟩)
    · simp [mutate, hi]
    · simp [mutate, hi]

theorem mutate_editOf {m : Mutator} {address : Address} {f g : Function}
    (h : m.mutate address f = .ok g) : g.EditOf f := by
  rcases mutate_eq_ok_iff.mp h with
    ⟨id, source, target, dst, lhs, rhs, location, -, -, rfl⟩ | ⟨callee, args, location, -, -, rfl⟩
  · refine ⟨rfl, rfl, rfl, f.isDeclaration_modifyBlock _ _, fun a ha => ?_⟩
    exact (Function.mem_actions_setInstruction ha).imp_right fun he => ⟨dst, target, lhs, rhs, he⟩
  · exact ⟨rfl, rfl, rfl, f.isDeclaration_modifyBlock _ _, fun a ha =>
      Or.inl (Function.mem_actions_eraseInstruction ha)⟩

/-- Only functions with a body can be mutated. -/
theorem isDeclaration_of_mutate {m : Mutator} {address : Address} {f g : Function}
    (h : m.mutate address f = .ok g) : f.isDeclaration = false := by
  -- the instruction that is changed stands in some block
  have hblock : ∀ i, f.instruction? address = some i → f.isDeclaration = false := by
    intro i hi
    obtain ⟨b, hb, -⟩ := Option.bind_eq_some_iff.mp hi
    have hne := List.ne_nil_of_mem (List.mem_of_getElem? hb)
    simpa [Function.isDeclaration] using hne
  rcases mutate_eq_ok_iff.mp h with ⟨_, _, _, _, _, _, _, -, hi, -⟩ | ⟨_, _, _, -, hi, -⟩
  · exact hblock _ hi
  · exact hblock _ hi

/-- A copy is mutated as the function itself is. -/
theorem mutate_rename_eq_ok_iff {m : Mutator} {address : Address} {f copy : Function}
    {name : String} :
    m.mutate address (f.rename name) = .ok copy ↔
      ∃ g, m.mutate address f = .ok g ∧ copy = g.rename name := by
  constructor
  · intro h
    rcases mutate_eq_ok_iff.mp h with
      ⟨id, source, target, dst, lhs, rhs, location, hm, hi, rfl⟩ |
        ⟨callee, args, location, hm, hi, rfl⟩
    · exact ⟨_, mutate_eq_ok_iff.mpr (Or.inl ⟨_, _, _, _, _, _, _, hm, hi, rfl⟩), rfl⟩
    · exact ⟨_, mutate_eq_ok_iff.mpr (Or.inr ⟨_, _, _, hm, hi, rfl⟩), rfl⟩
  · rintro ⟨g, h, rfl⟩
    rcases mutate_eq_ok_iff.mp h with
      ⟨id, source, target, dst, lhs, rhs, location, hm, hi, rfl⟩ |
        ⟨callee, args, location, hm, hi, rfl⟩
    · exact mutate_eq_ok_iff.mpr (Or.inl ⟨_, _, _, _, _, _, _, hm, hi, rfl⟩)
    · exact mutate_eq_ok_iff.mpr (Or.inr ⟨_, _, _, hm, hi, rfl⟩)

end Mutator

/-! ## Points -/

namespace Point

/-- Carries out the mutation of a point in a function, by the mutator that the point names. -/
def mutate (mutators : List Mutator) (p : Point) (f : Function) : Except ApplyFault Function :=
  match mutators.find? (·.id == p.mutator) with
  | some mutator => mutator.mutate p.address f
  | none => .error (.notEnabled p.mutator)

variable {mutators : List Mutator} {p : Point} {f g : Function}

theorem mutate_eq_ok_iff : p.mutate mutators f = .ok g ↔
    ∃ m, mutators.find? (·.id == p.mutator) = some m ∧ m.mutate p.address f = .ok g := by
  unfold mutate
  cases mutators.find? (·.id == p.mutator) with
  | none => simp
  | some m => simp

theorem mutate_editOf (h : p.mutate mutators f = .ok g) : g.EditOf f := by
  obtain ⟨m, -, h⟩ := mutate_eq_ok_iff.mp h
  exact m.mutate_editOf h

theorem isDeclaration_of_mutate (h : p.mutate mutators f = .ok g) : f.isDeclaration = false := by
  obtain ⟨m, -, h⟩ := mutate_eq_ok_iff.mp h
  exact m.isDeclaration_of_mutate h

/-- **A copy is mutated as the function itself is.** -/
theorem mutate_rename_eq_ok_iff {copy : Function} {name : String} :
    p.mutate mutators (f.rename name) = .ok copy ↔
      ∃ g, p.mutate mutators f = .ok g ∧ copy = g.rename name := by
  simp only [mutate_eq_ok_iff, Mutator.mutate_rename_eq_ok_iff]
  constructor
  · rintro ⟨m, hm, g, hg, rfl⟩
    exact ⟨g, ⟨m, hm, hg⟩, rfl⟩
  · rintro ⟨g, ⟨m, hm, hg⟩, rfl⟩
    exact ⟨m, hm, g, hg, rfl⟩

/-- The mutator of a point that can be carried out is one of the mutators. -/
theorem exists_mutator (h : p.mutate mutators f = .ok g) : ∃ m ∈ mutators, m.id = p.mutator := by
  obtain ⟨m, hm, -⟩ := mutate_eq_ok_iff.mp h
  exact ⟨m, List.mem_of_find?_eq_some hm, by simpa using List.find?_some hm⟩

end Point

end MutationTesting
