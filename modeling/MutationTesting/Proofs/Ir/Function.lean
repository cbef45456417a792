import MutationTesting.Ir.Function

/-!
# Functions and their edits

What a copy under another name keeps of a function, and which actions are in a function after a
change to one of its blocks.

* `Function.actions` — the actions of a function
* `Function.mem_addressed_iff`, `Function.pairwise_addressed` — its addresses
* `Function.EditOf` — a function differs from another one in its blocks only, and refers to nothing
  new
-/

namespace MutationTesting.Function

/-- The actions of a function. -/
def actions (f : Function) : List Action :=
  f.blocks.flatMap fun b => b.instructions.map (·.action)

theorem mem_actions {f : Function} {b : Block} {i : Instruction} (hb : b ∈ f.blocks)
    (hi : i ∈ b.instructions) : i.action ∈ f.actions :=
  List.mem_flatMap.mpr ⟨b, hb, List.mem_map.mpr ⟨i, hi, rfl⟩⟩

theorem mem_actions_iff {f : Function} {a : Action} :
    a ∈ f.actions ↔ ∃ i, i ∈ f.addressed ∧ i.2.action = a := by
  constructor
  · intro h
    obtain ⟨b, hb, ha⟩ := List.mem_flatMap.mp h
    obtain ⟨i, hi, rfl⟩ := List.mem_map.mp ha
    rw [← List.zipIdx_map_fst 0 f.blocks] at hb
    obtain ⟨x, hx, rfl⟩ := List.mem_map.mp hb
    rw [← List.zipIdx_map_fst 0 x.1.instructions] at hi
    obtain ⟨y, hy, rfl⟩ := List.mem_map.mp hi
    exact ⟨_, List.mem_flatMap.mpr ⟨x, hx, List.mem_map.mpr ⟨y, hy, rfl⟩⟩, rfl⟩
  · rintro ⟨i, hi, rfl⟩
    obtain ⟨x, hx, hi⟩ := List.mem_flatMap.mp hi
    obtain ⟨y, hy, rfl⟩ := List.mem_map.mp hi
    exact mem_actions (List.fst_mem_of_mem_zipIdx hx) (List.fst_mem_of_mem_zipIdx hy)

/-! ## Addresses -/

/-- The addresses of a function are those that hold an instruction. -/
theorem mem_addressed_iff {f : Function} {a : Address} {i : Instruction} :
    (a, i) ∈ f.addressed ↔ f.instruction? a = some i := by
  unfold addressed instruction?
  rw [List.mem_flatMap, Option.bind_eq_some_iff]
  constructor
  · rintro ⟨⟨block, b⟩, hblock, hi⟩
    obtain ⟨⟨j, index⟩, hj, he⟩ := List.mem_map.mp hi
    cases he
    exact ⟨block, List.mem_zipIdx_iff_getElem?.mp hblock, List.mem_zipIdx_iff_getElem?.mp hj⟩
  · rintro ⟨block, hblock, hi⟩
    exact ⟨(block, a.block), List.mem_zipIdx_iff_getElem?.mpr hblock,
      List.mem_map.mpr ⟨(i, a.index), List.mem_zipIdx_iff_getElem?.mpr hi, rfl⟩⟩

theorem pairwise_zipIdx {α : Type} (items : List α) : items.zipIdx.Pairwise (·.2 ≠ ·.2) := by
  rw [← List.pairwise_map (f := Prod.snd) (R := (· ≠ ·)), List.zipIdx_map_snd]
  exact List.nodup_range'

/-- No address comes twice. -/
theorem pairwise_addressed (f : Function) : f.addressed.Pairwise (·.1 ≠ ·.1) := by
  unfold addressed
  rw [List.pairwise_flatMap]
  refine ⟨fun ⟨block, b⟩ _ => ?_, (pairwise_zipIdx f.blocks).imp fun hne x hx y hy he => hne ?_⟩
  · rw [List.pairwise_map]
    exact (pairwise_zipIdx block.instructions).imp fun hne he => hne (Address.mk.inj he).2
  · obtain ⟨_, -, rfl⟩ := List.mem_map.mp hx
    obtain ⟨_, -, rfl⟩ := List.mem_map.mp hy
    exact (Address.mk.inj he).1

/-! ## Copies -/

@[simp] theorem rename_name (f : Function) (name : String) : (f.rename name).name = name := rfl

/-! ## Changes to a block -/

theorem modifyBlock_eq_set {f : Function} {block : Nat} {is : List Instruction}
    (h : f.blocks[block]? = some ⟨is⟩) (change : List Instruction → List Instruction) :
    f.modifyBlock block change = { f with blocks := f.blocks.set block ⟨change is⟩ } := by
  unfold modifyBlock
  congr 1
  apply List.ext_getElem?
  intro n
  rw [List.getElem?_modify, List.getElem?_set]
  split
  · next hn =>
    subst hn
    obtain ⟨hlt, -⟩ := List.getElem?_eq_some_iff.mp h
    rw [h, if_pos hlt]
    rfl
  · simp

/-- After a change to a block, every action is an old one or one that the change put there. -/
theorem mem_actions_modifyBlock {f : Function} {block : Nat}
    {change : List Instruction → List Instruction} {a : Action}
    (h : a ∈ (f.modifyBlock block change).actions) :
    a ∈ f.actions ∨ ∃ b ∈ f.blocks, ∃ i ∈ change b.instructions, i.action = a := by
  obtain ⟨b, hb, ha⟩ := List.mem_flatMap.mp h
  obtain ⟨i, hi, rfl⟩ := List.mem_map.mp ha
  obtain ⟨n, hn⟩ := List.mem_iff_getElem?.mp hb
  rw [modifyBlock, List.getElem?_modify] at hn
  obtain ⟨old, hold, rfl⟩ := Option.map_eq_some_iff.mp hn
  have hmem : old ∈ f.blocks := List.mem_of_getElem? hold
  split at hi
  · exact Or.inr ⟨old, hmem, i, hi, rfl⟩
  · exact Or.inl (mem_actions hmem hi)

theorem mem_actions_setInstruction {f : Function} {address : Address} {i : Instruction} {a : Action}
    (h : a ∈ (f.setInstruction address i).actions) : a ∈ f.actions ∨ a = i.action := by
  rcases mem_actions_modifyBlock h with h | ⟨b, hb, j, hj, rfl⟩
  · exact Or.inl h
  · rcases List.mem_or_eq_of_mem_set hj with hj | rfl
    · exact Or.inl (mem_actions hb hj)
    · exact Or.inr rfl

theorem mem_actions_eraseInstruction {f : Function} {address : Address} {a : Action}
    (h : a ∈ (f.eraseInstruction address).actions) : a ∈ f.actions := by
  rcases mem_actions_modifyBlock h with h | ⟨b, hb, j, hj, rfl⟩
  · exact h
  · exact mem_actions hb (List.mem_of_mem_eraseIdx hj)

@[simp] theorem isDeclaration_modifyBlock (f : Function) (block : Nat)
    (change : List Instruction → List Instruction) :
    (f.modifyBlock block change).isDeclaration = f.isDeclaration := by
  rw [Bool.eq_iff_iff]
  simp [isDeclaration, modifyBlock, List.isEmpty_iff, ← List.length_eq_zero_iff]

/-! ## Edits -/

/-- A function differs from another one in its blocks only; of its actions all but computations are
those of the other one. -/
structure EditOf (g f : Function) : Prop where
  name : g.name = f.name
  params : g.params = f.params
  location : g.location = f.location
  isDeclaration : g.isDeclaration = f.isDeclaration
  actions : ∀ a ∈ g.actions, a ∈ f.actions ∨ ∃ dst op lhs rhs, a = .binary dst op lhs rhs

theorem EditOf.refl (f : Function) : f.EditOf f :=
  ⟨rfl, rfl, rfl, rfl, fun _ h => Or.inl h⟩

theorem EditOf.call_mem {g f : Function} (h : g.EditOf f) {dst : Option UInt32} {callee : String}
    {operands : List Operand} (hmem : .call dst callee operands ∈ g.actions) :
    .call dst callee operands ∈ f.actions := by
  rcases h.actions _ hmem with hf | ⟨_, _, _, _, he⟩
  · exact hf
  · cases he

theorem EditOf.dispatch_mem {g f : Function} (h : g.EditOf f) {dst : UInt32} {trampoline : String}
    {operands : List Operand} (hmem : .dispatch dst trampoline operands ∈ g.actions) :
    .dispatch dst trampoline operands ∈ f.actions := by
  rcases h.actions _ hmem with hf | ⟨_, _, _, _, he⟩
  · exact hf
  · cases he

end MutationTesting.Function
