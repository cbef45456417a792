import MutationTesting.Proofs.Mutation.Names
import MutationTesting.Proofs.Synthesis.Modules

/-!
# Modules with their mutants

The four stages of the synthesis put together.

* `Module.Synthesized` — a module holds its mutants: its own functions, the mutated ones as stubs,
  then the unmutated copies, then the mutated copies
* `Synthesis.Builds` — all four stages succeed
* `Synthesis.Builds.synthesized` — **then every module holds the mutants of its points**
-/

namespace MutationTesting

open Checks Workers

/-- A module `m'` holds the mutants of the mutation points of `m`. -/
structure Module.Synthesized (mutators : List Mutator) (m m' : Module) : Prop where
  name : m'.name = m.name
  sourceFile : m'.sourceFile = m.sourceFile
  mutations : m'.mutations = m.mutations
  /-- Every point has a copy of its own. -/
  mutantPoints : m.mutantPoints = m.mutations
  /-- Every mutated function has got a trampoline. -/
  trampolines : m'.trampolines = m.trampolines ++ m.mutatedNames.map m.trampolineFor
  /-- Mutated functions are stubs, followed by the copies. -/
  functions : ∃ unmutated mutants,
    m'.functions = (m.functions.map fun f => if f.name ∈ m.mutatedNames then f.stub else f)
        ++ (unmutated ++ mutants) ∧
      List.Forall₂ (fun name copy => ∃ f, m.function? name = some f ∧
        copy = f.rename (Point.unmutatedName name)) m.mutatedNames unmutated ∧
      List.Forall₂ (fun p mutant => ∃ f g, m.function? p.function.name = some f ∧
        p.mutate mutators f = .ok g ∧ mutant = g.rename p.mutantName) m.mutations mutants

namespace Module.Synthesized

variable {mutators : List Mutator} {m m' : Module} (h : m.Synthesized mutators m')

include h

theorem kept_mem {f : Function} (hf : f ∈ m.functions) (hname : f.name ∉ m.mutatedNames) :
    f ∈ m'.functions := by
  obtain ⟨unmutated, mutants, hfunctions, -, -⟩ := h.functions
  rw [hfunctions]
  exact List.mem_append_left _ (List.mem_map.mpr ⟨f, hf, if_neg hname⟩)

theorem stub_mem {f : Function} (hf : f ∈ m.functions) (hname : f.name ∈ m.mutatedNames) :
    f.stub ∈ m'.functions := by
  obtain ⟨unmutated, mutants, hfunctions, -, -⟩ := h.functions
  rw [hfunctions]
  exact List.mem_append_left _ (List.mem_map.mpr ⟨f, hf, if_pos hname⟩)

theorem unmutated_mem {name : String} (hname : name ∈ m.mutatedNames) :
    ∃ f, m.function? name = some f ∧ f.rename (Point.unmutatedName name) ∈ m'.functions := by
  obtain ⟨unmutated, mutants, hfunctions, hunmutated, -⟩ := h.functions
  obtain ⟨copy, hcopy, f, hf, rfl⟩ := exists_mem_of_forall₂ hunmutated hname
  refine ⟨f, hf, ?_⟩
  rw [hfunctions]
  exact List.mem_append_right _ (List.mem_append_left _ hcopy)

theorem mutant_mem {p : Point} (hp : p ∈ m.mutations) :
    ∃ f g, m.function? p.function.name = some f ∧ p.mutate mutators f = .ok g ∧
      g.rename p.mutantName ∈ m'.functions := by
  obtain ⟨unmutated, mutants, hfunctions, -, hmutants⟩ := h.functions
  obtain ⟨mutant, hmutant, f, g, hf, hg, rfl⟩ := exists_mem_of_forall₂ hmutants hp
  refine ⟨f, g, hf, hg, ?_⟩
  rw [hfunctions]
  exact List.mem_append_right _ (List.mem_append_right _ hmutant)

theorem trampoline_mem {name : String} (hname : name ∈ m.mutatedNames) :
    m.trampolineFor name ∈ m'.trampolines := by
  rw [h.trampolines]
  exact List.mem_append_right _ (List.mem_map_of_mem hname)

/-- Copies have names of their own. -/
theorem name_ne (hnodup : (m'.functions.map (·.name)).Nodup) {f : Function} (hf : f ∈ m.functions)
    {p : Point} (hp : p ∈ m.mutations) :
    f.name ≠ Point.unmutatedName p.function.name ∧ f.name ≠ p.mutantName := by
  obtain ⟨unmutated, mutants, hfunctions, hunmutated, hmutants⟩ := h.functions
  rw [hfunctions, List.map_append, List.nodup_append] at hnodup
  have hown : f.name ∈ ((m.functions.map fun f => if f.name ∈ m.mutatedNames then f.stub else f).map
      (·.name)) := by
    rw [List.map_map]
    refine List.mem_map.mpr ⟨f, hf, ?_⟩
    simp only [Function.comp_apply]
    split <;> rfl
  constructor
  · obtain ⟨copy, hcopy, g, -, rfl⟩ :=
      exists_mem_of_forall₂ hunmutated (Module.mem_mutatedNames.mpr ⟨p, hp, rfl⟩)
    exact hnodup.2.2 _ hown _ (List.mem_map_of_mem (List.mem_append_left _ hcopy))
  · obtain ⟨mutant, hmutant, g, g', -, -, rfl⟩ := exists_mem_of_forall₂ hmutants hp
    exact hnodup.2.2 _ hown _ (List.mem_map_of_mem (List.mem_append_right _ hmutant))

end Module.Synthesized

namespace Synthesis

/-! ## One module -/

/-- Points of one module that are distinct by identifier have copies with distinct names. -/
theorem nodup_mutantName {points : List Point} (hdistinct : (points.map Point.identifier).Nodup)
    (hplain : ∀ p ∈ points, '.' ∉ p.mutator.toList) (i : Nat) :
    ((points.filter (·.function.module == i)).map Point.mutantName).Nodup := by
  refine List.Nodup.map_on ?_ (hdistinct.of_map.filter _)
  intro p hp q hq hname
  obtain ⟨hp, hpi⟩ := List.mem_filter.mp hp
  obtain ⟨hq, hqi⟩ := List.mem_filter.mp hq
  obtain ⟨hfunction, hmutator, haddress⟩ := Point.mutantName_inj (hplain p hp) (hplain q hq) hname
  have hmodule : p.function.module = q.function.module := by
    rw [beq_iff_eq] at hpi hqi
    rw [hpi, hqi]
  refine List.inj_on_of_nodup_map hdistinct hp hq ?_
  simp only [Point.identifier, hfunction, hmutator, haddress, hmodule]

section

variable {m cloned deleted redirected : Module}
  (hclone : (∃ outputs, (clone m).ending = .done outputs) ∧ (clone m).item = cloned)
  (hdelete : (∃ outputs, (forEachName deleteBody cloned.mutatedNames cloned).ending
      = .done outputs) ∧
    (forEachName deleteBody cloned.mutatedNames cloned).item = deleted)
  (hredirect : (∃ outputs, (forEachName redirect deleted.mutatedNames deleted).ending
      = .done outputs) ∧ (forEachName redirect deleted.mutatedNames deleted).item = redirected)

include hclone hdelete hredirect

/-- A module after the first three stages: its mutated functions are stubs, and no copy is mutated
yet. -/
theorem redirected_of_stages (hnodup : (redirected.functions.map (·.name)).Nodup) :
    ∃ unmutated copies,
      List.Forall₂ (fun name => CopyOf m name (Point.unmutatedName name)) m.mutatedNames unmutated ∧
      List.Forall₂ (fun p => CopyOf m p.function.name p.mutantName) m.mutantPoints copies ∧
      redirected = { m with
        functions := (m.functions.map fun f => if f.name ∈ m.mutatedNames then f.stub else f)
          ++ unmutated ++ copies
        trampolines := m.trampolines ++ m.mutatedNames.map m.trampolineFor } := by
  obtain ⟨⟨_, hclone⟩, hcloned⟩ := hclone
  obtain ⟨⟨_, hdelete⟩, hdeleted⟩ := hdelete
  obtain ⟨⟨_, hredirect⟩, hredirected⟩ := hredirect
  -- names are the same from the first stage on
  have hnodupDeleted : (deleted.functions.map (·.name)).Nodup := by
    rwa [← map_name_redirects, hredirected]
  have hnodupCloned : (cloned.functions.map (·.name)).Nodup := by
    rwa [← map_name_deleteBodies, hdeleted]
  obtain ⟨copies, hcopies, hitem⟩ := clone_done hclone
  obtain ⟨unmutated, mutants, rfl, hunmutated, hmutants⟩ := clones_eq_ok_iff.mp hcopies
  obtain rfl := hcloned.symm.trans hitem
  obtain rfl := hdeleted.symm.trans (deleteBodies_done hnodupCloned hdelete)
  refine ⟨unmutated, mutants, hunmutated, hmutants, ?_⟩
  -- the copies are new, so what is left of the two rounds is one change of the mutated functions
  have hnew : ∀ copy ∈ unmutated ++ mutants, copy.name ∉ m.mutatedNames := by
    intro copy hcopy hname
    obtain ⟨_, -, f, hf, -⟩ := exists_mem_of_forall₂ hunmutated hname
    rw [List.map_append, List.nodup_append] at hnodupCloned
    exact hnodupCloned.2.2 _ (List.mem_map_of_mem (Module.mem_of_function? hf)) _
      (List.mem_map_of_mem hcopy) (Module.name_of_function? hf)
  have hsame : ((unmutated ++ mutants).map fun f => if f.name ∈ m.mutatedNames then f.stub else f)
      = unmutated ++ mutants := by
    rw [List.map_congr_left (g := id), List.map_id]
    exact fun copy hcopy => if_neg (hnew copy hcopy)
  rw [List.append_assoc, ← hsame, ← List.map_append]
  exact (hredirected.symm.trans (redirects_done hnodupDeleted hredirect)).trans
    (Module.rework_rework Function.declaration Function.stub (fun _ => rfl) _ _ _ _)

/-- The stages put together, for one module. -/
theorem synthesized_of_stages {mutators : List Mutator} {built : Module}
    (happly : MutatesAll mutators m.mutations redirected built)
    (hnodup : (built.functions.map (·.name)).Nodup)
    (hmutants : (m.mutations.map Point.mutantName).Nodup) : m.Synthesized mutators built := by
  have hnodupRedirected : (redirected.functions.map (·.name)).Nodup := by
    rwa [← happly.map_name]
  obtain ⟨unmutated, mutants, hunmutated, hmutantCopies, rfl⟩ :=
    redirected_of_stages hclone hdelete hredirect hnodupRedirected
  have hpoints : m.mutantPoints = m.mutations := distinctBy_eq_self hmutants
  rw [hpoints] at hmutantCopies
  obtain ⟨built', rfl, hbuilt⟩ := happly.functions_eq (fun p copy hcopy => by
    obtain ⟨f, -, rfl⟩ := hcopy
    rfl) _ _ rfl hnodupRedirected hmutantCopies
  refine ⟨rfl, rfl, rfl, hpoints, rfl, unmutated, built', by simp, hunmutated, hbuilt.imp ?_⟩
  rintro p mutant ⟨_, ⟨f, hf, rfl⟩, hmutate⟩
  obtain ⟨g, hg, rfl⟩ := Point.mutate_rename_eq_ok_iff.mp hmutate
  exact ⟨f, g, hf, hg, rfl⟩

end

/-! ## All modules -/

/-- The four stages, whatever they are called and however many workers they have, succeed on modules
with these points, and leave these modules. -/
def Builds (mutators : List Mutator) (modules : List Module) (points : List Point)
    (built : List Module) : Prop :=
  ∃ (cloning deleting redirecting applying : String) (workers workers' workers'' : Nat)
    (cloned deleted redirected : List Module) (applied : List Point),
    (cloneStage cloning workers).Leaves (prepare modules points) () cloned () ∧
    (deleteStage deleting workers').Leaves cloned () deleted () ∧
    (redirectStage redirecting workers'').Leaves deleted () redirected () ∧
    (applyStage mutators applying).Leaves points redirected applied built

/-- A module with the points that are in it. -/
def prepared (m : Module) (points : List Point) (i : Nat) : Module :=
  { m with mutations := m.mutations ++ points.filter (·.function.module == i) }

theorem getElem?_prepare (modules : List Module) (points : List Point) (i : Nat) :
    (prepare modules points)[i]? = modules[i]?.map fun m => prepared m points i := by
  induction points generalizing modules with
  | nil => simp [prepare, prepared]
  | cons p points ih =>
    show (prepare (modules.modify p.function.module _) points)[i]? = _
    rw [ih, List.getElem?_modify, Option.map_eq_map, Option.map_map]
    congr 1
    funext m
    by_cases hi : p.function.module = i
    · simp [prepared, hi]
    · simp [prepared, hi]

@[simp] theorem length_prepare (modules : List Module) (points : List Point) :
    (prepare modules points).length = modules.length := by
  induction points generalizing modules with
  | nil => rfl
  | cons p points ih => exact (ih _).trans (List.length_modify _ _ _)

/-- **If the stages succeed, every module holds the mutants of its points.** -/
theorem Builds.synthesized {mutators : List Mutator} {modules built : List Module}
    {points : List Point} (h : Builds mutators modules points built)
    (hplain : ∀ m ∈ mutators, '.' ∉ m.id.toList) (hdistinct : (points.map Point.identifier).Nodup)
    (hfresh : ∀ m ∈ modules, m.mutations = [])
    (hnodup : ∀ m ∈ built, (m.functions.map (·.name)).Nodup) :
    built.length = modules.length ∧ (∀ p ∈ points, p.function.module < modules.length) ∧
      ∀ (i : Nat) (m : Module), modules[i]? = some m →
        ∃ m', built[i]? = some m' ∧ (prepared m points i).Synthesized mutators m' := by
  obtain ⟨_, _, _, _, _, _, _, cloned, deleted, redirected, applied, hclone, hdelete, hredirect,
    happly⟩ := h
  obtain ⟨_, hclone⟩ := hclone.handlesAll (fun m _ => clone m) fun _ => rfl
  obtain ⟨_, hdelete⟩ := hdelete.handlesAll
    (fun m _ => forEachName deleteBody m.mutatedNames m) fun _ => rfl
  obtain ⟨_, hredirect⟩ := hredirect.handlesAll
    (fun m _ => forEachName redirect m.mutatedNames m) fun _ => rfl
  obtain ⟨_, happly⟩ := happly.handlesAll (apply mutators) fun _ => rfl
  obtain ⟨hlength, hmodules, hall⟩ := mutatesAll_of_handlesAll happly
  have hsame : redirected.length = modules.length := by
    rw [← hredirect.forall₂.length_eq, ← hdelete.forall₂.length_eq, ← hclone.forall₂.length_eq,
      length_prepare]
  -- a mutation that has been carried out names one of the mutators
  have hmutators : ∀ p ∈ points, '.' ∉ p.mutator.toList := by
    intro p hp
    obtain ⟨m', -, hmutates⟩ := hall _ _ (List.getElem?_eq_getElem (hmodules p hp))
    obtain ⟨mutator, hmem, hid⟩ := hmutates.exists_mutator p (by simp [hp])
    exact hid ▸ hplain mutator hmem
  rw [hlength, hsame]
  refine ⟨rfl, hsame ▸ hmodules, fun i m hm => ?_⟩
  have hprepared : (prepare modules points)[i]? = some (prepared m points i) := by
    rw [getElem?_prepare, hm, Option.map_some]
  have hmutations : (prepared m points i).mutations = points.filter (·.function.module == i) := by
    simp [prepared, hfresh m (List.mem_of_getElem? hm)]
  -- every stage leaves the modules in their order, so one can be followed through all of them
  obtain ⟨m₁, hm₁, hclone⟩ := getElem?_of_forall₂ hclone.forall₂ hprepared
  obtain ⟨m₂, hm₂, hdelete⟩ := getElem?_of_forall₂ hdelete.forall₂ hm₁
  obtain ⟨m₃, hm₃, hredirect⟩ := getElem?_of_forall₂ hredirect.forall₂ hm₂
  obtain ⟨m₄, hm₄, hmutates⟩ := hall i m₃ hm₃
  refine ⟨m₄, hm₄, synthesized_of_stages hclone hdelete hredirect ?_
    (hnodup m₄ (List.mem_of_getElem? hm₄)) ?_⟩
  · rwa [hmutations]
  · rw [hmutations]
    exact nodup_mutantName hdistinct hmutators i

end Synthesis

end MutationTesting
