import MutationTesting.Proofs.Mutation.Edits
import MutationTesting.Proofs.Synthesis.Built
import MutationTesting.Proofs.Toolchain.Resolved

/-!
# The stages succeed

Points fit modules if each of them matches a function of its module and the names of the copies are
new there. What a point needs is kept by the stages until its turn comes, so none of them fails.

* `Module.Mutable` — the points of a module can be built into it
* `Synthesis.Ready` — the copy of a point is there and waits for its mutation
* `Synthesis.Fits` — points fit modules
* `Synthesis.Fits.leaves` — **the stages succeed on points that fit, and leave modules that hold
  their mutants**
-/

namespace MutationTesting

open Checks Workers

namespace Module

variable {name name' : String}

theorem exists_modifyFirst? (change : Function → Function) : ∀ {functions : List Function},
    name ∈ functions.map (·.name) →
      ∃ functions', modifyFirst? (·.name == name) change functions = some functions'
  | [], h => by simp at h
  | f :: functions, h => by
    rw [modifyFirst?]
    by_cases hf : f.name = name
    · exact ⟨_, if_pos (by simpa using hf)⟩
    · have hrest : name ∈ functions.map (·.name) := by
        simpa [Ne.symm hf] using h
      obtain ⟨functions', hfunctions'⟩ := exists_modifyFirst? change hrest
      exact ⟨f :: functions', by simp [hf, hfunctions']⟩

/-- A change to the first function of one name does not hide those of other names. -/
theorem find?_modifyFirst?_of_ne {change : Function → Function} (hne : name ≠ name')
    (hname : ∀ f, f.name = name → (change f).name = name) :
    ∀ {functions functions' : List Function},
      modifyFirst? (·.name == name) change functions = some functions' →
      functions'.find? (·.name == name') = functions.find? (·.name == name')
  | [], _, h => by simp [modifyFirst?] at h
  | f :: functions, functions', h => by
    rw [modifyFirst?] at h
    split at h
    · next hf =>
      rw [beq_iff_eq] at hf
      cases h
      rw [List.find?_cons_of_neg (by simpa [hname f hf] using hne),
        List.find?_cons_of_neg (by simpa [hf] using hne)]
    · obtain ⟨rest, hrest, rfl⟩ := Option.map_eq_some_iff.mp h
      rw [List.find?_cons, List.find?_cons, find?_modifyFirst?_of_ne hne hname hrest]

/-- The function that is put in the place of the first one of its name is then the first one. -/
theorem find?_modifyFirst?_self {g : Function} (hname : g.name = name) :
    ∀ {functions functions' : List Function},
      modifyFirst? (·.name == name) (fun _ => g) functions = some functions' →
      functions'.find? (·.name == name) = some g
  | [], _, h => by simp [modifyFirst?] at h
  | f :: functions, functions', h => by
    rw [modifyFirst?] at h
    split at h
    · cases h
      rw [List.find?_cons_of_pos (by simpa using hname)]
    · next hf =>
      obtain ⟨rest, hrest, rfl⟩ := Option.map_eq_some_iff.mp h
      simpa [List.find?_cons, hf] using find?_modifyFirst?_self hname hrest

/-- The points of a module can be built into it. -/
structure Mutable (mutators : List Mutator) (m : Module) : Prop where
  /-- Names are unique. -/
  nodup : (m.functions.map (·.name)).Nodup
  /-- Every point matches a function of the module. -/
  matched : ∀ p ∈ m.mutations, ∃ f, m.function? p.function.name = some f ∧ p.Matches mutators f
  /-- No function is named like a copy. -/
  unused : ∀ p ∈ m.mutations, ∀ f ∈ m.functions,
    f.name ≠ Point.unmutatedName p.function.name ∧ f.name ≠ p.mutantName
  /-- Every point has a copy of its own. -/
  mutants : (m.mutations.map Point.mutantName).Nodup

end Module

namespace Synthesis

/-! ## Modules one by one -/

theorem map_name_of_copies {α : Type} {m : Module} {original copyName : α → String}
    {items : List α} {copies : List Function}
    (h : List.Forall₂ (fun a => CopyOf m (original a) (copyName a)) items copies) :
    copies.map (·.name) = items.map copyName := by
  induction h with
  | nil => rfl
  | cons hcopy _ ih =>
    obtain ⟨f, -, rfl⟩ := hcopy
    rw [List.map_cons, List.map_cons, ih, Function.rename_name]

section

variable {step : Module → String → List String × Except SynthesisFault Module}
  (change : Function → Function) (added : Module → String → List Trampoline)
  (hname : ∀ f, (change f).name = f.name)
  (hstep : ∀ {m m' name}, (step m name).2 = .ok m' → Changes change (added m name) name m m')
  (hprogress : ∀ m name, name ∈ m.functions.map (·.name) → ∃ m', (step m name).2 = .ok m')

include hname hstep hprogress

/-- A step that can be taken for every function can be taken for all of some names. -/
theorem forEachName_ending : ∀ {names : List String} {m : Module},
    (∀ name ∈ names, name ∈ m.functions.map (·.name)) →
      (forEachName step names m).ending = .done []
  | [], _, _ => rfl
  | name :: names, m, h => by
    rw [List.forall_mem_cons] at h
    obtain ⟨m', hm'⟩ := hprogress m name h.1
    unfold forEachName
    cases hs : step m name with
    | mk notes result =>
      rw [hs] at hm'
      subst hm'
      have hchanges : Changes change (added m name) name m m' := hstep (by rw [hs])
      have hnames := map_name_of_changes change hname hchanges
      exact forEachName_ending (by rw [hnames]; exact h.2)

end

theorem deleteBodies_ending {m : Module}
    (h : ∀ name ∈ m.mutatedNames, name ∈ m.functions.map (·.name)) :
    (forEachName deleteBody m.mutatedNames m).ending = .done [] := by
  refine forEachName_ending Function.declaration (fun _ _ => []) (fun _ => rfl) deleteBody_ok
    (fun m name hname => ?_) h
  obtain ⟨functions, hfunctions⟩ := Module.exists_modifyFirst? Function.declaration hname
  exact ⟨{ m with functions }, by simp [deleteBody, Module.modifyFunction?, hfunctions]⟩

theorem redirects_ending {m : Module}
    (h : ∀ name ∈ m.mutatedNames, name ∈ m.functions.map (·.name)) :
    (forEachName redirect m.mutatedNames m).ending = .done [] := by
  refine forEachName_ending Function.stub (fun m name => [m.trampolineFor name]) (fun _ => rfl)
    redirect_ok (fun m name hname => ?_) h
  obtain ⟨functions, hfunctions⟩ := Module.exists_modifyFirst? Function.stub hname
  exact ⟨{ m with functions, trampolines := m.trampolines ++ [m.trampolineFor name] },
    by simp [redirect, Module.modifyFunction?, hfunctions]⟩

/-- A module with its copies. -/
def cloned (m : Module) : Module :=
  (clone m).item

/-- A module with its copies and without the bodies of its mutated functions. -/
def deleted (m : Module) : Module :=
  (forEachName deleteBody (cloned m).mutatedNames (cloned m)).item

/-- A module with its copies and stubs. -/
def redirected (m : Module) : Module :=
  (forEachName redirect (deleted m).mutatedNames (deleted m)).item

end Synthesis

namespace Module.Mutable

open Synthesis

variable {mutators : List Mutator} {m : Module} (h : m.Mutable mutators)

include h

theorem mem_names {name : String} (hname : name ∈ m.mutatedNames) :
    name ∈ m.functions.map (·.name) := by
  obtain ⟨p, hp, rfl⟩ := mem_mutatedNames.mp hname
  obtain ⟨f, hf, -⟩ := h.matched p hp
  exact name_of_function? hf ▸ List.mem_map_of_mem (mem_of_function? hf)

theorem mutantPoints_eq : m.mutantPoints = m.mutations :=
  distinctBy_eq_self h.mutants

theorem exists_clones : ∃ copies, clones m = .ok copies := by
  have hcopy : ∀ name ∈ m.mutatedNames, ∀ copyName, ∃ copy, CopyOf m name copyName copy := by
    intro name hname copyName
    obtain ⟨p, hp, rfl⟩ := mem_mutatedNames.mp hname
    obtain ⟨f, hf, -⟩ := h.matched p hp
    exact ⟨_, f, hf, rfl⟩
  obtain ⟨unmutated, hunmutated⟩ :=
    exists_forall₂ fun name hname => hcopy name hname (Point.unmutatedName name)
  have hmutantPoints : ∀ p ∈ m.mutantPoints, ∃ copy, CopyOf m p.function.name p.mutantName copy :=
    fun p hp => hcopy _ (mem_mutatedNames.mpr ⟨p, mem_distinctBy hp, rfl⟩) _
  obtain ⟨mutants, hmutants⟩ := exists_forall₂ hmutantPoints
  exact ⟨_, clones_eq_ok_iff.mpr ⟨unmutated, mutants, rfl, hunmutated, hmutants⟩⟩

theorem clone_ending : (clone m).ending = .done [] := by
  obtain ⟨copies, hcopies⟩ := h.exists_clones
  rw [clone, hcopies]

/-- Names are unique with the copies too. -/
theorem cloned_spec : (cloned m).mutations = m.mutations ∧
    ((cloned m).functions.map (·.name)).Nodup ∧
    ∀ name ∈ m.functions.map (·.name), name ∈ (cloned m).functions.map (·.name) := by
  obtain ⟨copies, hcopies, hitem⟩ := clone_done h.clone_ending
  obtain ⟨unmutated, mutants, rfl, hunmutated, hmutants⟩ := clones_eq_ok_iff.mp hcopies
  rw [cloned, hitem]
  refine ⟨rfl, ?_, fun name hname => ?_⟩
  · rw [List.map_append, List.map_append, map_name_of_copies hunmutated,
      map_name_of_copies hmutants, h.mutantPoints_eq, List.nodup_append, List.nodup_append]
    -- unmutated copies, copies for points and functions are apart from each other
    refine ⟨h.nodup, ⟨?_, h.mutants, ?_⟩, ?_⟩
    · exact m.nodup_mutatedNames.map fun _ _ => Point.unmutatedName_inj
    · intro a ha b hb
      obtain ⟨name, -, rfl⟩ := List.mem_map.mp ha
      obtain ⟨p, -, rfl⟩ := List.mem_map.mp hb
      exact (p.mutantName_ne_unmutatedName name).symm
    · intro a ha b hb
      obtain ⟨f, hf, rfl⟩ := List.mem_map.mp ha
      rcases List.mem_append.mp hb with hb | hb
      · obtain ⟨name, hname, rfl⟩ := List.mem_map.mp hb
        obtain ⟨p, hp, rfl⟩ := mem_mutatedNames.mp hname
        exact (h.unused p hp f hf).1
      · obtain ⟨p, hp, rfl⟩ := List.mem_map.mp hb
        exact (h.unused p hp f hf).2
  · rw [List.map_append]
    exact List.mem_append_left _ hname

theorem mem_names_cloned : ∀ name ∈ (cloned m).mutatedNames,
    name ∈ (cloned m).functions.map (·.name) := by
  obtain ⟨hmutations, -, hmem⟩ := h.cloned_spec
  intro name hname
  rw [mutatedNames, hmutations] at hname
  exact hmem name (h.mem_names hname)

theorem delete_ending :
    (forEachName deleteBody (cloned m).mutatedNames (cloned m)).ending = .done [] :=
  deleteBodies_ending h.mem_names_cloned

theorem deleted_mutations : (deleted m).mutations = (cloned m).mutations := by
  rw [deleted, deleteBodies_done h.cloned_spec.2.1 h.delete_ending]
  rfl

theorem redirect_ending :
    (forEachName redirect (deleted m).mutatedNames (deleted m)).ending = .done [] := by
  refine redirects_ending fun name hname => ?_
  rw [mutatedNames, h.deleted_mutations] at hname
  rw [deleted, map_name_deleteBodies]
  exact h.mem_names_cloned name hname

theorem nodup_redirected : ((redirected m).functions.map (·.name)).Nodup := by
  rw [redirected, map_name_redirects, deleted, map_name_deleteBodies]
  exact h.cloned_spec.2.1

/-- The copies wait for their mutations. -/
theorem exists_copy {p : Point} (hp : p ∈ m.mutations) :
    ∃ copy, (redirected m).function? p.mutantName = some copy ∧ p.Matches mutators copy := by
  obtain ⟨unmutated, copies, -, hcopies, heq⟩ := redirected_of_stages
    ⟨⟨_, h.clone_ending⟩, rfl⟩ ⟨⟨_, h.delete_ending⟩, rfl⟩ ⟨⟨_, h.redirect_ending⟩, rfl⟩
    h.nodup_redirected
  rw [h.mutantPoints_eq] at hcopies
  obtain ⟨copy, hcopy, f, hf, rfl⟩ := exists_mem_of_forall₂ hcopies hp
  obtain ⟨f', hf', mutator, i, hmutator, hi, hreplacement⟩ := h.matched p hp
  obtain rfl : f = f' := Option.some.inj (hf.symm.trans hf')
  refine ⟨f.rename p.mutantName, (Machine.find?_eq_some_iff h.nodup_redirected).mpr ⟨?_, rfl⟩,
    mutator, i, hmutator, hi, hreplacement⟩
  rw [redirected, deleted, cloned, heq]
  exact List.mem_append_right _ hcopy

end Module.Mutable

namespace Synthesis

/-! ## Carrying out mutations -/

/-- The copy of a point is in its module and waits for its mutation. -/
def Ready (mutators : List Mutator) (modules : List Module) (p : Point) : Prop :=
  ∃ m copy, modules[p.function.module]? = some m ∧ m.function? p.mutantName = some copy ∧
    p.Matches mutators copy

theorem Ready.exists_mutateCopy {mutators : List Mutator} {modules : List Module} {p : Point}
    (h : Ready mutators modules p) : ∃ modules', mutateCopy mutators modules p = .ok modules' := by
  obtain ⟨m, copy, hm, hcopy, hmatches⟩ := h
  obtain ⟨mutant, hmutant⟩ := Point.exists_mutate_iff.mpr hmatches
  obtain ⟨mutator, hmutator, hmutant⟩ := Point.mutate_eq_ok_iff.mp hmutant
  have hname : p.mutantName ∈ m.functions.map (·.name) :=
    Module.name_of_function? hcopy ▸ List.mem_map_of_mem (Module.mem_of_function? hcopy)
  obtain ⟨functions, hfunctions⟩ := Module.exists_modifyFirst? (fun _ => mutant) hname
  refine ⟨modules.set p.function.module { m with functions }, ?_⟩
  unfold mutateCopy
  simp only [hmutator, hm, hcopy]
  refine bind_eq_ok_iff.mpr ⟨mutant, hmutant, ?_⟩
  simp only [Module.modifyFunction?, hfunctions]
  rfl

/-- What one point needs is kept while the mutation of another one is carried out. -/
theorem Ready.of_mutateCopy {mutators : List Mutator} {modules modules' : List Module}
    {p q : Point} (h : Ready mutators modules q) (hp : mutateCopy mutators modules p = .ok modules')
    (hne : p.function.module = q.function.module → p.mutantName ≠ q.mutantName) :
    Ready mutators modules' q := by
  obtain ⟨m, copy, hm, hcopy, hmatches⟩ := h
  obtain ⟨m₀, m₁, hm₀, ⟨found, mutant, functions, hfound, hmutant, hfunctions, rfl⟩, rfl⟩ :=
    mutateCopy_ok hp
  by_cases hmodule : p.function.module = q.function.module
  · rw [hmodule] at hm₀
    obtain rfl : m₀ = m := Option.some.inj (hm₀.symm.trans hm)
    have hmutantName : mutant.name = p.mutantName :=
      (Point.mutate_editOf hmutant).name.trans (Module.name_of_function? hfound)
    refine ⟨{ m₀ with functions }, copy, ?_, ?_, hmatches⟩
    · rw [hmodule, List.getElem?_set_self (List.getElem?_eq_some_iff.mp hm).1]
    · rw [← hcopy]
      exact Module.find?_modifyFirst?_of_ne (hne hmodule) (fun _ _ => hmutantName) hfunctions
  · exact ⟨m, copy, by rwa [List.getElem?_set_ne hmodule], hcopy, hmatches⟩

/-- **Mutations that wait are carried out one after the other**, each in a copy of its own. -/
theorem handlesAll_apply {mutators : List Mutator} :
    ∀ {points : List Point} {modules : List Module},
    (∀ p ∈ points, Ready mutators modules p) →
    points.Pairwise (fun p q =>
      p.function.module = q.function.module → p.mutantName ≠ q.mutantName) →
    ∃ modules',
      HandlesAll (apply mutators) points modules [] (points.map Point.markApplied) modules'
  | [], modules, _, _ => ⟨modules, .nil modules⟩
  | p :: points, modules, hready, hpairwise => by
    rw [List.forall_mem_cons] at hready
    rw [List.pairwise_cons] at hpairwise
    obtain ⟨modules₁, hmodules₁⟩ := hready.1.exists_mutateCopy
    -- the points that follow still wait after this one
    obtain ⟨modules₂, hrest⟩ := handlesAll_apply
      (fun q hq => (hready.2 q hq).of_mutateCopy hmodules₁ (hpairwise.1 q hq)) hpairwise.2
    have happly : apply mutators p modules
        = { ending := .done [], item := p.markApplied, state := modules₁ } := by
      rw [apply, hmodules₁]
    refine ⟨modules₂, ?_⟩
    have hcons : HandlesAll (apply mutators) (p :: points) modules ([] ++ [])
        ((apply mutators p modules).item :: points.map Point.markApplied) modules₂ :=
      .cons (by rw [happly]) (by rw [happly]; exact hrest)
    rwa [happly] at hcons

/-! ## All modules -/

/-- A stage that handles every module by itself to the end. -/
theorem leaves_of_ending {s : Stage SynthesisFault Unit Module Unit}
    {handle : Module → Handled SynthesisFault Unit Module Unit}
    (hsame : ∀ worker, s.handle worker = fun m _ => handle m) (hworkers : 0 < s.workers)
    {modules : List Module} (h : ∀ m ∈ modules, (handle m).ending = .done []) :
    s.Leaves modules () (modules.map fun m => (handle m).item) () :=
  Stage.leaves_of_handlesAll hsame hworkers (handlesAll_of_forall h)

/-- Points fit modules, so that they can be built into them. -/
structure Fits (mutators : List Mutator) (modules : List Module) (points : List Point) : Prop where
  /-- The identifiers of mutators have no point in them. -/
  plain : ∀ mutator ∈ mutators, '.' ∉ mutator.id.toList
  /-- In every module names are unique. -/
  nodup : ∀ m ∈ modules, (m.functions.map (·.name)).Nodup
  /-- No module holds points yet. -/
  fresh : ∀ m ∈ modules, m.mutations = []
  /-- No point comes twice. -/
  distinct : (points.map Point.identifier).Nodup
  /-- Every point matches a function of its module. -/
  matched : ∀ p ∈ points, ∃ m f, modules[p.function.module]? = some m ∧
    m.function? p.function.name = some f ∧ p.Matches mutators f
  /-- No function of its module is named like a copy. -/
  unused : ∀ p ∈ points, ∀ m, modules[p.function.module]? = some m → ∀ f ∈ m.functions,
    f.name ≠ Point.unmutatedName p.function.name ∧ f.name ≠ p.mutantName

namespace Fits

variable {mutators : List Mutator} {modules : List Module} {points : List Point}
  (h : Fits mutators modules points)

include h

theorem plain_mutator {p : Point} (hp : p ∈ points) : '.' ∉ p.mutator.toList := by
  obtain ⟨-, -, -, -, mutator, -, hmutator, -⟩ := h.matched p hp
  have hid : mutator.id = p.mutator := by simpa using List.find?_some hmutator
  exact hid ▸ h.plain mutator (List.mem_of_find?_eq_some hmutator)

theorem mutations_prepared {m : Module} {i : Nat} (hm : modules[i]? = some m) :
    (prepared m points i).mutations = points.filter (·.function.module == i) := by
  simp [prepared, h.fresh m (List.mem_of_getElem? hm)]

theorem mutable_prepared {m : Module} {i : Nat} (hm : modules[i]? = some m) :
    (prepared m points i).Mutable mutators where
  nodup := h.nodup m (List.mem_of_getElem? hm)
  matched := by
    rw [h.mutations_prepared hm]
    intro p hp
    obtain ⟨hpoint, hi⟩ := List.mem_filter.mp hp
    obtain rfl := beq_iff_eq.mp hi
    obtain ⟨m', f, hm', hf⟩ := h.matched p hpoint
    obtain rfl := Option.some.inj (hm.symm.trans hm')
    exact ⟨f, hf⟩
  unused := by
    rw [h.mutations_prepared hm]
    intro p hp
    obtain ⟨hpoint, hi⟩ := List.mem_filter.mp hp
    obtain rfl := beq_iff_eq.mp hi
    exact h.unused p hpoint m hm
  mutants := by
    rw [h.mutations_prepared hm]
    exact nodup_mutantName h.distinct (fun p hp => h.plain_mutator hp) i

theorem mutable_of_mem {m : Module} (hm : m ∈ prepare modules points) : m.Mutable mutators := by
  obtain ⟨i, hi⟩ := List.mem_iff_getElem?.mp hm
  rw [getElem?_prepare] at hi
  obtain ⟨m₀, hm₀, rfl⟩ := Option.map_eq_some_iff.mp hi
  exact h.mutable_prepared hm₀

theorem ready {p : Point} (hp : p ∈ points) :
    Ready mutators ((prepare modules points).map redirected) p := by
  obtain ⟨m, f, hm, -⟩ := h.matched p hp
  have hmem : p ∈ (prepared m points p.function.module).mutations := by
    rw [h.mutations_prepared hm]
    exact List.mem_filter.mpr ⟨hp, by simp⟩
  obtain ⟨copy, hcopy⟩ := (h.mutable_prepared hm).exists_copy hmem
  exact ⟨_, copy, by rw [List.getElem?_map, getElem?_prepare, hm]; rfl, hcopy⟩

/-- Points of one module have copies with names of their own. -/
theorem pairwise_mutantName : points.Pairwise fun p q =>
    p.function.module = q.function.module → p.mutantName ≠ q.mutantName := by
  have hpairwise := List.pairwise_map.mp h.distinct
  refine hpairwise.imp_of_mem fun {p q} hp hq hne hmodule hname => hne ?_
  obtain ⟨hfunction, hmutator, haddress⟩ :=
    Point.mutantName_inj (h.plain_mutator hp) (h.plain_mutator hq) hname
  simp only [Point.identifier, hfunction, hmutator, haddress, hmodule]

/-- **The stages succeed on points that fit, and leave modules with their mutants**, whatever they
are called and however many workers they have. -/
theorem leaves : ∃ built,
    (∀ (cloning deleting redirecting applying : String) (workers workers' workers'' : Nat),
      0 < workers → 0 < workers' → 0 < workers'' →
      (cloneStage cloning workers).Leaves (prepare modules points) ()
        ((prepare modules points).map cloned) () ∧
      (deleteStage deleting workers').Leaves ((prepare modules points).map cloned) ()
        ((prepare modules points).map deleted) () ∧
      (redirectStage redirecting workers'').Leaves ((prepare modules points).map deleted) ()
        ((prepare modules points).map redirected) () ∧
      (applyStage mutators applying).Leaves points ((prepare modules points).map redirected)
        (points.map Point.markApplied) built) ∧
    built.length = modules.length ∧
    ∀ (i : Nat) (m : Module), modules[i]? = some m → ∃ m', built[i]? = some m' ∧
      (m'.functions.map (·.name)).Nodup ∧ (prepared m points i).Synthesized mutators m' := by
  obtain ⟨built, happly⟩ := handlesAll_apply (fun p hp => h.ready hp) h.pairwise_mutantName
  obtain ⟨hlength, -, hall⟩ := mutatesAll_of_handlesAll happly
  refine ⟨built, fun cloning deleting redirecting applying workers workers' workers'' hworkers
    hworkers' hworkers'' => ⟨?_, ?_, ?_, ?_⟩, hlength.trans (by simp), fun i m hm => ?_⟩
  · have hclone : ∀ m ∈ prepare modules points, (clone m).ending = .done [] :=
      fun m hm => (h.mutable_of_mem hm).clone_ending
    exact leaves_of_ending (fun _ => rfl) hworkers hclone
  · have hdelete : ∀ m ∈ (prepare modules points).map cloned,
        (forEachName deleteBody m.mutatedNames m).ending = .done [] :=
      List.forall_mem_map.mpr fun m hm => (h.mutable_of_mem hm).delete_ending
    have hleaves := leaves_of_ending (s := deleteStage deleting workers') (fun _ => rfl) hworkers'
      hdelete
    rwa [List.map_map] at hleaves
  · have hredirect : ∀ m ∈ (prepare modules points).map deleted,
        (forEachName redirect m.mutatedNames m).ending = .done [] :=
      List.forall_mem_map.mpr fun m hm => (h.mutable_of_mem hm).redirect_ending
    have hleaves := leaves_of_ending (s := redirectStage redirecting workers'') (fun _ => rfl)
      hworkers'' hredirect
    rwa [List.map_map] at hleaves
  · exact Stage.leaves_of_handlesAll (fun _ => rfl) Nat.one_pos happly
  · have hmutable := h.mutable_prepared hm
    obtain ⟨m', hm', hmutates⟩ := hall i (redirected (prepared m points i))
      (by rw [List.getElem?_map, getElem?_prepare, hm]; rfl)
    have hnodup : (m'.functions.map (·.name)).Nodup := by
      rw [hmutates.map_name]
      exact hmutable.nodup_redirected
    rw [← h.mutations_prepared hm] at hmutates
    exact ⟨m', hm', hnodup, synthesized_of_stages ⟨⟨_, hmutable.clone_ending⟩, rfl⟩
      ⟨⟨_, hmutable.delete_ending⟩, rfl⟩ ⟨⟨_, hmutable.redirect_ending⟩, rfl⟩ hmutates hnodup
      hmutable.mutants⟩

end Fits

end Synthesis

end MutationTesting
