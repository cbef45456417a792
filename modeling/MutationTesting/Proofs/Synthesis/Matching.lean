import MutationTesting.Proofs.Mutation.Names
import MutationTesting.Proofs.Synthesis.Progress

/-!
# Finding and carrying out

A mutator looks at an instruction twice: when it searches a function for mutation points, and when a
mutation is carried out in the copy that the synthesis has made of the function. It asks the same of
the instruction both times, so whatever it has found it can change, at the same address, and nothing
else.

* `Mutator.exists_mem_find_iff` — where a mutator finds a point
* `Function.EditedBy.ne` — a registered mutator does not leave a function as it is
* `Synthesis.copyFor?` — the copy in which the mutation of a point is carried out
* `Synthesis.apply_of_mutate`, `Synthesis.apply_of_not_mutate` — the copy is changed, or nothing is
* `Synthesis.finds_iff_changes` — **a mutator changes a copy exactly where it finds a point**
-/

namespace MutationTesting

open Checks

/-! ## Finding -/

namespace Mutator

/-- A mutator finds a point at an address exactly if the instruction there is one that it can
change. -/
theorem exists_mem_find_iff {m : Mutator} {c : Candidate} {f : Function} {a : Address} :
    (∃ p, p ∈ m.find { c with selected := [a] } f) ↔
      ∃ i, f.instruction? a = some i ∧ (m.replacement? i.action).isSome := by
  have hfind : m.find { c with selected := [a] } f = (m.pointAt? c.function f a).toList := by
    rw [find, List.filterMap_cons, List.filterMap_nil]
    cases m.pointAt? c.function f a <;> rfl
  have hpoint : (m.pointAt? c.function f a).isSome ↔
      ∃ i, f.instruction? a = some i ∧ (m.replacement? i.action).isSome := by
    cases hi : f.instruction? a with
    | none => simp [pointAt?, hi]
    | some i => cases hr : m.replacement? i.action <;> simp [pointAt?, hi, hr]
  rw [hfind, ← hpoint, Option.isSome_iff_exists]
  simp only [Option.mem_toList]

end Mutator

/-! ## Changing -/

/-- If a mutator replaces an operator, then by another one. -/
def Mutator.changesOperator : Mutator → Bool
  | .replaceOperator _ source target => source != target
  | .removeVoidCall => true

theorem Catalogue.changesOperator : ∀ m ∈ mutators, m.changesOperator = true := by
  decide

/-- What a registered mutator puts in the place of an instruction is not that instruction. -/
theorem Mutator.Rewrites.ne {m : Mutator} (hm : m ∈ Catalogue.mutators) {i : Instruction}
    {instead : List Instruction} (h : m.Rewrites i instead) : instead ≠ [i] := by
  cases h with
  | operator id source target dst lhs rhs location =>
    intro he
    injection he with he
    injection he with he
    injection he with _ he
    exact bne_iff_ne.mp (Catalogue.changesOperator _ hm) he.symm
  | voidCall callee args location => exact (List.cons_ne_nil _ _).symm

/-- **A registered mutator does not leave a function as it is.** -/
theorem Function.EditedBy.ne {m : Mutator} (hm : m ∈ Catalogue.mutators) {a : Address}
    {f g : Function} (h : f.EditedBy m a g) : g ≠ f := by
  obtain ⟨before, i, after, instead, hrewrites, -, hblock, rfl⟩ := h
  intro he
  have hlt : a.block < f.blocks.length := (List.getElem?_eq_some_iff.mp hblock).1
  have hsame : (f.blocks.set a.block ⟨before ++ instead ++ after⟩)[a.block]? = f.blocks[a.block]? :=
    congrArg (fun f => f.blocks[a.block]?) he
  rw [List.getElem?_set_self hlt, hblock, Option.some.injEq, Block.mk.injEq, List.append_assoc,
    List.append_cancel_left_eq, ← List.singleton_append, List.append_cancel_right_eq] at hsame
  exact hrewrites.ne hm hsame

namespace Synthesis

/-! ## Copies in modules -/

/-- The copy in which the mutation of a point is carried out, if there is one. -/
def copyFor? (modules : List Module) (p : Point) : Option Function :=
  modules[p.function.module]?.bind (·.function? p.mutantName)

variable {mutators : List Mutator} {modules : List Module} {p : Point} {copy : Function}

/-- A mutation that can be carried out in the copy of its point is, and the mutant is put in the
place of the copy. -/
theorem apply_of_mutate (hcopy : copyFor? modules p = some copy) {mutant : Function}
    (h : p.mutate mutators copy = .ok mutant) :
    (apply mutators p modules).ending = .done [] ∧
      copyFor? (apply mutators p modules).state p = some mutant := by
  obtain ⟨m, hm, hfound⟩ := Option.bind_eq_some_iff.mp hcopy
  obtain ⟨modules', hmodules'⟩ := Ready.exists_mutateCopy
    ⟨m, copy, hm, hfound, Point.exists_mutate_iff.mp ⟨mutant, h⟩⟩
  obtain ⟨m₀, -, hm₀, ⟨found, mutant', functions, hfound', hmutant', hfunctions, rfl⟩, hset⟩ :=
    mutateCopy_ok hmodules'
  obtain rfl : m = m₀ := Option.some.inj (hm.symm.trans hm₀)
  obtain rfl : copy = found := Option.some.inj (hfound.symm.trans hfound')
  obtain rfl : mutant = mutant' := Except.ok.inj (h.symm.trans hmutant')
  have hlt : p.function.module < modules.length := (List.getElem?_eq_some_iff.mp hm).1
  have hname : mutant.name = p.mutantName :=
    (Point.mutate_editOf h).name.trans (Module.name_of_function? hfound)
  rw [apply, hmodules', hset]
  refine ⟨rfl, ?_⟩
  rw [copyFor?, List.getElem?_set_self hlt, Option.bind_some]
  exact Module.find?_modifyFirst?_self hname hfunctions

/-- Where no mutation can be carried out in the copy of a point, all modules stay as they are. -/
theorem apply_of_not_mutate (hcopy : copyFor? modules p = some copy) {reason : ApplyFault}
    (h : p.mutate mutators copy = .error reason) :
    (apply mutators p modules).ending = .failed (.notApplied p reason) ∧
      (apply mutators p modules).state = modules := by
  obtain ⟨m, hm, hfound⟩ := Option.bind_eq_some_iff.mp hcopy
  have hmodules : mutateCopy mutators modules p = .error reason := by
    unfold mutateCopy
    unfold Point.mutate at h
    cases hmutator : mutators.find? (·.id == p.mutator) with
    | none =>
      rw [hmutator] at h
      cases h
      rfl
    | some mutator =>
      rw [hmutator] at h
      simp only [hm, hfound, h]
      rfl
  rw [apply, hmodules]
  exact ⟨rfl, rfl⟩

/-! ## Finding and changing agree -/

/-- **A mutator changes a copy exactly where it finds a point.** The mutant is the copy with one
instruction rewritten, and it is put in the place of the copy; where nothing is found, the mutation
fails and all modules stay as they are. -/
theorem finds_iff_changes {m : Mutator} (hm : m ∈ Catalogue.mutators) (g : Function) (a : Address)
    (c : Candidate) (name : String) :
    ((∃ q, q ∈ m.find { c with selected := [a] } g) ↔
      ∃ mutant, m.mutate a (g.rename name) = .ok mutant) ∧
    (∀ mutant, m.mutate a (g.rename name) = .ok mutant →
      (g.rename name).EditedBy m a mutant ∧ mutant ≠ g.rename name) ∧
    ∀ mutators p modules, m ∈ mutators → (∀ m ∈ mutators, m ∈ Catalogue.mutators) →
      p.mutator = m.id → p.address = a → copyFor? modules p = some (g.rename name) →
      (∀ mutant, m.mutate a (g.rename name) = .ok mutant →
        (apply mutators p modules).ending = .done [] ∧
        copyFor? (apply mutators p modules).state p = some mutant) ∧
      ∀ reason, m.mutate a (g.rename name) = .error reason →
        (apply mutators p modules).ending = .failed (.notApplied p reason) ∧
        (apply mutators p modules).state = modules := by
  refine ⟨?_, fun mutant hmutant => ?_, ?_⟩
  · rw [Mutator.exists_mem_find_iff, ← Mutator.exists_mutate_iff]
    simp only [Mutator.mutate_rename_eq_ok_iff]
    exact ⟨fun ⟨f, hf⟩ => ⟨f.rename name, f, hf, rfl⟩, fun ⟨_, f, hf, _⟩ => ⟨f, hf⟩⟩
  · have hedited := Mutator.mutate_eq_ok_iff_editedBy.mp hmutant
    exact ⟨hedited, hedited.ne hm⟩
  · rintro mutators p modules hmem hcatalogue hid rfl hcopy
    have hmutate : p.mutate mutators (g.rename name) = m.mutate p.address (g.rename name) := by
      rw [Point.mutate, hid, Catalogue.find?_id hcatalogue hmem]
    rw [← hmutate]
    exact ⟨fun _ h => apply_of_mutate hcopy h, fun _ h => apply_of_not_mutate hcopy h⟩

/-- A function that has something logged. -/
def logging : Function where
  name := "area"
  params := 1
  blocks := [⟨[⟨.call none "log" [.parameter 0], none⟩, ⟨.ret (.parameter 0), none⟩]⟩]

/-- The point of its call. -/
def logCall : Point where
  mutator := "cxx_remove_void_call"
  function := ⟨0, "area"⟩
  address := ⟨0, 0⟩
  replacement := "Removed the call to 'log'"

/-- A module with the function and the copy for its point. -/
def loggingModule : Module where
  name := "area"
  sourceFile := "area.c"
  functions := [logging, logging.rename logCall.mutantName]

theorem removes_log_call :
    ∃ mutant, mutant.blocks = [⟨[⟨.ret (.parameter 0), none⟩]⟩] ∧
      (∃ q, q ∈ Mutator.removeVoidCall.find ⟨⟨0, "area"⟩, 0, 1, [⟨0, 0⟩]⟩ logging) ∧
      (logging.rename logCall.mutantName).EditedBy .removeVoidCall ⟨0, 0⟩ mutant ∧
      (apply [.removeVoidCall] logCall [loggingModule]).ending = .done [] ∧
      copyFor? (apply [.removeVoidCall] logCall [loggingModule]).state logCall = some mutant := by
  have hmutant : Mutator.removeVoidCall.mutate ⟨0, 0⟩ (logging.rename logCall.mutantName)
      = .ok { logging.rename logCall.mutantName with
          blocks := [⟨[⟨.ret (.parameter 0), none⟩]⟩] } := rfl
  obtain ⟨hfinds, hedits, hmodules⟩ := finds_iff_changes (m := .removeVoidCall) (by decide) logging
    ⟨0, 0⟩ ⟨⟨0, "area"⟩, 0, 1, []⟩ logCall.mutantName
  obtain ⟨hchanges, -⟩ := hmodules [.removeVoidCall] logCall [loggingModule] (by decide) (by decide)
    rfl rfl (by decide)
  exact ⟨_, rfl, hfinds.mpr ⟨_, hmutant⟩, (hedits _ hmutant).1, hchanges _ hmutant⟩

end Synthesis

end MutationTesting
