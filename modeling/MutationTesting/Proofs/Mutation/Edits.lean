import MutationTesting.Proofs.Mutation.Carrying
import MutationTesting.Proofs.Toolchain.Verified

/-!
# Single edits

A mutation that is carried out rewrites one instruction of a function and leaves everything else as
it is. It can be carried out exactly where its mutator finds something to change, and a function
that is fit to be compiled stays so: no mutator touches the end of a block.

* `Mutator.Rewrites` — what a mutator puts in the place of an instruction
* `Function.EditedBy` — a function with one instruction rewritten
* `Mutator.mutate_eq_ok_iff_editedBy` — **mutations are single edits**
* `Mutator.exists_mutate_iff` — where a mutation can be carried out
* `Function.EditedBy.sound` — **a sound function stays sound**
* `Point.exists_mutate_iff` — the same for the mutation of a point
-/

namespace MutationTesting

/-! ## Instructions and blocks -/

namespace Function

theorem instruction?_eq_some_iff {f : Function} {a : Address} {i : Instruction} :
    f.instruction? a = some i ↔ ∃ before after, before.length = a.index ∧
      f.blocks[a.block]? = some ⟨before ++ i :: after⟩ := by
  unfold instruction?
  rw [Option.bind_eq_some_iff]
  constructor
  · rintro ⟨⟨is⟩, hblock, hi⟩
    obtain ⟨hlt, hi⟩ := List.getElem?_eq_some_iff.mp hi
    refine ⟨is.take a.index, is.drop (a.index + 1), List.length_take_of_le (Nat.le_of_lt hlt), ?_⟩
    rw [← hi, List.getElem_cons_drop, List.take_append_drop]
    exact hblock
  · rintro ⟨before, after, hlength, hblock⟩
    exact ⟨_, hblock, by simp [← hlength]⟩

end Function

/-! ## Edits -/

/-- What a mutator puts in the place of an instruction: a computation by another operator, or
nothing at all for a call whose result is dropped. -/
inductive Mutator.Rewrites : Mutator → Instruction → List Instruction → Prop where
  | operator (id : String) (source target : Operator) (dst : UInt32) (lhs rhs : Operand)
      (location : Option Location) :
    Rewrites (.replaceOperator id source target) ⟨.binary dst source lhs rhs, location⟩
      [⟨.binary dst target lhs rhs, location⟩]
  | voidCall (callee : String) (args : List Operand) (location : Option Location) :
    Rewrites .removeVoidCall ⟨.call none callee args, location⟩ []

/-- A function with the instruction at an address rewritten by a mutator; all other instructions and
all other blocks are the same. -/
def Function.EditedBy (m : Mutator) (a : Address) (f g : Function) : Prop :=
  ∃ before i after instead, m.Rewrites i instead ∧ before.length = a.index ∧
    f.blocks[a.block]? = some ⟨before ++ i :: after⟩ ∧
    g = { f with blocks := f.blocks.set a.block ⟨before ++ instead ++ after⟩ }

namespace Mutator

variable {m : Mutator} {a : Address} {f g : Function}

theorem Rewrites.not_isTerminator {i : Instruction} {instead : List Instruction}
    (h : m.Rewrites i instead) : i.action.isTerminator = false := by
  cases h <;> rfl

/-- **Mutations are single edits.** -/
theorem mutate_eq_ok_iff_editedBy : m.mutate a f = .ok g ↔ f.EditedBy m a g := by
  rw [mutate_eq_ok_iff]
  constructor
  · rintro (⟨id, source, target, dst, lhs, rhs, location, rfl, hi, rfl⟩ |
      ⟨callee, args, location, rfl, hi, rfl⟩)
    · obtain ⟨before, after, hlength, hblock⟩ := Function.instruction?_eq_some_iff.mp hi
      refine ⟨before, _, after, _, .operator id source target dst lhs rhs location, hlength, hblock,
        ?_⟩
      rw [Function.setInstruction, Function.modifyBlock_eq_set hblock, ← hlength]
      simp
    · obtain ⟨before, after, hlength, hblock⟩ := Function.instruction?_eq_some_iff.mp hi
      refine ⟨before, _, after, _, .voidCall callee args location, hlength, hblock, ?_⟩
      rw [Function.eraseInstruction, Function.modifyBlock_eq_set hblock, ← hlength]
      simp [List.eraseIdx_append_of_length_le]
  · rintro ⟨before, i, after, instead, hrewrites, hlength, hblock, rfl⟩
    have hi := Function.instruction?_eq_some_iff.mpr ⟨before, after, hlength, hblock⟩
    cases hrewrites with
    | operator id source target dst lhs rhs location =>
      refine Or.inl ⟨id, source, target, dst, lhs, rhs, location, rfl, hi, ?_⟩
      rw [Function.setInstruction, Function.modifyBlock_eq_set hblock, ← hlength]
      simp
    | voidCall callee args location =>
      refine Or.inr ⟨callee, args, location, rfl, hi, ?_⟩
      rw [Function.eraseInstruction, Function.modifyBlock_eq_set hblock, ← hlength]
      simp [List.eraseIdx_append_of_length_le]

theorem exists_rewrites_iff {i : Instruction} :
    (∃ instead, m.Rewrites i instead) ↔ (m.replacement? i.action).isSome := by
  constructor
  · rintro ⟨instead, h⟩
    cases h <;> simp [replacement?]
  · intro h
    obtain ⟨action, location⟩ := i
    unfold replacement? at h
    split at h
    · next id source target dst op lhs rhs hop =>
      split at h
      · next hsource =>
        dsimp only at hop
        subst hop hsource
        exact ⟨_, .operator id op target dst lhs rhs location⟩
      · simp at h
    · next callee args hcall =>
      dsimp only at hcall
      subst hcall
      exact ⟨_, .voidCall callee args location⟩
    · simp at h

/-- **A mutation can be carried out exactly where its mutator finds something to change.** -/
theorem exists_mutate_iff : (∃ g, m.mutate a f = .ok g) ↔
    ∃ i, f.instruction? a = some i ∧ (m.replacement? i.action).isSome := by
  simp only [mutate_eq_ok_iff_editedBy, ← exists_rewrites_iff, Function.instruction?_eq_some_iff]
  constructor
  · rintro ⟨g, before, i, after, instead, hrewrites, hlength, hblock, -⟩
    exact ⟨i, ⟨before, after, hlength, hblock⟩, instead, hrewrites⟩
  · rintro ⟨i, ⟨before, after, hlength, hblock⟩, instead, hrewrites⟩
    exact ⟨_, before, i, after, instead, hrewrites, hlength, hblock, rfl⟩

end Mutator

/-! ## Soundness -/

/-- **A sound function stays sound**: the end of a block is not rewritten, so it stays in its place. -/
theorem Function.EditedBy.sound {m : Mutator} {a : Address} {f g : Function}
    {trampolines : List Trampoline} (h : f.EditedBy m a g) (hf : f.Sound trampolines) :
    g.Sound trampolines := by
  have hedit := Mutator.mutate_editOf (Mutator.mutate_eq_ok_iff_editedBy.mpr h)
  obtain ⟨before, i, after, instead, hrewrites, -, hblock, rfl⟩ := h
  have hterminated := hf.terminated _ (List.mem_of_getElem? hblock)
  refine ⟨fun b hb => ?_, fun action haction => ?_⟩
  · rcases List.mem_or_eq_of_mem_set hb with hb | rfl
    · exact hf.terminated b hb
    · unfold Block.Terminated at hterminated ⊢
      -- the last instruction ends the block, so it is not the one that is rewritten
      cases after with
      | nil => simp [hrewrites.not_isTerminator] at hterminated
      | cons j after => simpa [List.getLast?_cons] using hterminated
  · rw [List.length_set]
    rcases hedit.actions action haction with hmem | ⟨_, _, _, _, rfl⟩
    · exact hf.actions action hmem
    · trivial

/-! ## Points -/

namespace Point

/-- The mutator of a point is one of some mutators, and finds something to change in a function
where the point is. -/
def Matches (mutators : List Mutator) (p : Point) (f : Function) : Prop :=
  ∃ m i, mutators.find? (·.id == p.mutator) = some m ∧ f.instruction? p.address = some i ∧
    (m.replacement? i.action).isSome

variable {mutators : List Mutator} {p : Point} {f : Function}

/-- The mutation of a point can be carried out exactly where the point matches. -/
theorem exists_mutate_iff : (∃ g, p.mutate mutators f = .ok g) ↔ p.Matches mutators f := by
  simp only [mutate_eq_ok_iff, Matches]
  constructor
  · rintro ⟨g, m, hm, hg⟩
    obtain ⟨i, hi, hreplacement⟩ := Mutator.exists_mutate_iff.mp ⟨g, hg⟩
    exact ⟨m, i, hm, hi, hreplacement⟩
  · rintro ⟨m, i, hm, hi, hreplacement⟩
    obtain ⟨g, hg⟩ := Mutator.exists_mutate_iff.mpr ⟨i, hi, hreplacement⟩
    exact ⟨g, m, hm, hg⟩

end Point

end MutationTesting
