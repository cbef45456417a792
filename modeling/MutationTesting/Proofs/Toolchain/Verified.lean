import MutationTesting.Proofs.Checks
import MutationTesting.Proofs.Ir.Function
import MutationTesting.Toolchain.Verify

/-!
# Verified modules

What the verification of a module promises, as a property of the module: it succeeds exactly for the
modules that have the property (`Module.verify_eq_ok_iff`).
-/

namespace MutationTesting

open Checks

/-- An action of a function with so many blocks leaves control inside the function, and dispatches
only through the trampolines of the module. -/
def Action.Sound (trampolines : List Trampoline) (blocks : Nat) : Action → Prop
  | .jump target => target.toNat < blocks
  | .branch _ thenBlock elseBlock => thenBlock.toNat < blocks ∧ elseBlock.toNat < blocks
  | .dispatch _ trampoline _ => ∃ t ∈ trampolines, t.function = trampoline
  | _ => True

/-- A block ends in an action that leaves it. -/
def Block.Terminated (b : Block) : Prop :=
  b.instructions.getLast?.any (·.action.isTerminator)

/-- Every block of a function ends, and every action is sound. -/
structure Function.Sound (trampolines : List Trampoline) (f : Function) : Prop where
  terminated : ∀ b ∈ f.blocks, b.Terminated
  actions : ∀ a ∈ f.actions, a.Sound trampolines f.blocks.length

/-- What verification promises about a module. -/
structure Module.Verified (m : Module) : Prop where
  /-- Every name is defined or declared once. -/
  nodup : (m.functions.map (·.name)).Nodup
  /-- Every function is sound. -/
  sound : ∀ f ∈ m.functions, f.Sound m.trampolines
  /-- Every trampoline leads to functions with a body. -/
  targets : ∀ t ∈ m.trampolines, ∀ target ∈ t.unmutated :: t.mutants.map (·.function),
    ∃ f, m.function? target = some f ∧ f.isDeclaration = false

namespace Module

variable {m : Module}

theorem verifyAction_eq_ok_iff {function : String} {blocks : Nat} {a : Action} :
    m.verifyAction function blocks a = .ok () ↔ a.Sound m.trampolines blocks := by
  cases a <;> simp [verifyAction, Action.Sound, List.any_eq_true]

theorem verifyBlock_eq_ok_iff {function : String} {blocks : Nat} {b : Block × Nat} :
    m.verifyBlock function blocks b = .ok () ↔
      b.1.Terminated ∧ ∀ i ∈ b.1.instructions, i.action.Sound m.trampolines blocks := by
  unfold verifyBlock Block.Terminated
  split
  · rw [forM_eq_ok_iff]
    simp only [verifyAction_eq_ok_iff, true_and, *]
  · simp only [reduceCtorEq, false_and, *]

theorem verifyFunction_eq_ok_iff {f : Function} :
    m.verifyFunction f = .ok () ↔ f.Sound m.trampolines := by
  have hmem : ∀ p : Block → Prop, (∀ x ∈ f.blocks.zipIdx, p x.1) ↔ ∀ b ∈ f.blocks, p b := by
    intro p
    constructor
    · intro h b hb
      rw [← List.zipIdx_map_fst 0 f.blocks] at hb
      obtain ⟨x, hx, rfl⟩ := List.mem_map.mp hb
      exact h x hx
    · intro h x hx
      exact h x.1 (List.fst_mem_of_mem_zipIdx hx)
  simp only [verifyFunction, forM_eq_ok_iff, verifyBlock_eq_ok_iff]
  rw [hmem fun b => b.Terminated ∧ ∀ i ∈ b.instructions,
    i.action.Sound m.trampolines f.blocks.length]
  constructor
  · intro h
    refine ⟨fun b hb => (h b hb).1, fun a ha => ?_⟩
    obtain ⟨b, hb, ha⟩ := List.mem_flatMap.mp ha
    obtain ⟨i, hi, rfl⟩ := List.mem_map.mp ha
    exact (h b hb).2 i hi
  · exact fun h b hb => ⟨h.terminated b hb, fun i hi => h.actions _ (Function.mem_actions hb hi)⟩

theorem verifyFunctions_eq_ok_iff :
    ∀ {seen : List String} {fs : List Function}, m.verifyFunctions seen fs = .ok () ↔
      (fs.map (·.name)).Nodup ∧ (∀ f ∈ fs, f.name ∉ seen) ∧ ∀ f ∈ fs, f.Sound m.trampolines
  | seen, [] => by simp [verifyFunctions]
  | seen, f :: fs => by
    unfold verifyFunctions
    by_cases hseen : f.name ∈ seen
    · simp [hseen]
    · simp only [List.contains_eq_mem, decide_eq_true_eq, hseen, if_false, seq_eq_ok_iff,
        verifyFunction_eq_ok_iff, verifyFunctions_eq_ok_iff, List.map_cons, List.nodup_cons,
        List.mem_map, List.mem_cons, not_or, forall_eq_or_imp, not_false_eq_true, true_and]
      constructor
      · rintro ⟨hf, hnodup, hnew, hsound⟩
        exact ⟨⟨fun ⟨g, hg, he⟩ => (hnew g hg).1 he, hnodup⟩, fun g hg => (hnew g hg).2, hf, hsound⟩
      · rintro ⟨⟨hne, hnodup⟩, hnew, hf, hsound⟩
        exact ⟨hf, hnodup, fun g hg => ⟨fun he => hne ⟨g, hg, he⟩, hnew g hg⟩, hsound⟩

theorem verifyTrampoline_eq_ok_iff {t : Trampoline} :
    m.verifyTrampoline t = .ok () ↔ ∀ target ∈ t.unmutated :: t.mutants.map (·.function),
      ∃ f, m.function? target = some f ∧ f.isDeclaration = false := by
  unfold verifyTrampoline
  rw [forM_eq_ok_iff]
  refine forall_congr' fun target => forall_congr' fun _ => ?_
  cases h : m.function? target with
  | none => simp
  | some f => simp

/-- **Verification succeeds exactly for the modules that have the property.** -/
theorem verify_eq_ok_iff : m.verify = .ok () ↔ m.Verified := by
  unfold verify
  rw [seq_eq_ok_iff, forM_eq_ok_iff]
  simp only [verifyFunctions_eq_ok_iff, verifyTrampoline_eq_ok_iff]
  constructor
  · rintro ⟨⟨hnodup, -, hsound⟩, htargets⟩
    exact ⟨hnodup, hsound, htargets⟩
  · rintro ⟨hnodup, hsound, htargets⟩
    exact ⟨⟨hnodup, by simp, hsound⟩, htargets⟩

end Module

end MutationTesting
