import MutationTesting.Proofs.Checks
import MutationTesting.Proofs.Distinct
import MutationTesting.Proofs.Mutation.Carrying
import MutationTesting.Proofs.Workers.Sequence
import MutationTesting.Synthesis.Stages

/-!
# What the stages do to modules

Each stage of the synthesis is described by what it does to one module: which functions it adds or
changes, and that it keeps the names of all the others. A stage changes the first function of a
name, and that is the function it should change as long as names are distinct.

* `Synthesis.clones_eq_ok_iff` — the copies that are added
* `Synthesis.forEachName_done` — bodies are deleted, and functions redirected, name by name
* `Synthesis.mutatesAll_of_handlesAll`, `Synthesis.MutatesAll.functions_eq` — mutations are carried
  out in the copies
-/

namespace MutationTesting

open Checks Workers

namespace Module

/-! ## Functions by their names -/

section

variable {m : Module} {name : String} {f : Function} (h : m.function? name = some f)

include h

theorem mem_of_function? : f ∈ m.functions :=
  List.mem_of_find?_eq_some h

theorem name_of_function? : f.name = name := by
  simpa using List.find?_some h

end

/-! ## Changes to functions -/

/-- In a list of functions the first one of a name is changed, wherever it stands. -/
theorem modifyFirst?_append {name : String} {change : Function → Function}
    {pre post : List Function} {f : Function} (hpre : ∀ g ∈ pre, g.name ≠ name)
    (hf : f.name = name) :
    modifyFirst? (·.name == name) change (pre ++ f :: post) = some (pre ++ change f :: post) := by
  induction pre with
  | nil => simp [modifyFirst?, hf]
  | cons g pre ih =>
    rw [List.forall_mem_cons] at hpre
    simp [modifyFirst?, hpre.1, ih hpre.2]

/-- A change that keeps the name of the function keeps all names. -/
theorem map_name_modifyFirst? {p : Function → Bool} (change : Function → Function)
    (hname : ∀ f, p f → (change f).name = f.name) :
    ∀ {functions functions' : List Function}, modifyFirst? p change functions = some functions' →
      functions'.map (·.name) = functions.map (·.name)
  | [], _, h => by simp [modifyFirst?] at h
  | f :: functions, functions', h => by
    rw [modifyFirst?] at h
    split at h
    · next hf =>
      cases h
      simp [hname f hf]
    · obtain ⟨rest, hrest, rfl⟩ := Option.map_eq_some_iff.mp h
      simp [map_name_modifyFirst? change hname hrest]

/-- Where names are distinct, the functions of the name are changed and no others. -/
theorem modifyFirst?_eq_map {name : String} {change : Function → Function} :
    ∀ {functions functions' : List Function}, (functions.map (·.name)).Nodup →
      modifyFirst? (·.name == name) change functions = some functions' →
      functions' = functions.map fun f => if f.name = name then change f else f
  | [], _, _, h => by simp [modifyFirst?] at h
  | f :: functions, functions', hnodup, h => by
    rw [List.map_cons, List.nodup_cons] at hnodup
    rw [modifyFirst?] at h
    split at h
    · next hf =>
      obtain rfl : f.name = name := by simpa using hf
      cases h
      have hothers :
          (functions.map fun g => if g.name = f.name then change g else g) = functions := by
        rw [List.map_congr_left (g := id), List.map_id]
        intro g hg
        have hne : g.name ≠ f.name := fun he => hnodup.1 (he ▸ List.mem_map_of_mem hg)
        simp [hne]
      rw [List.map_cons, if_pos rfl, hothers]
    · next hf =>
      have hne : f.name ≠ name := by simpa using hf
      obtain ⟨rest, hrest, rfl⟩ := Option.map_eq_some_iff.mp h
      rw [List.map_cons, if_neg hne, modifyFirst?_eq_map hnodup.2 hrest]

/-- The module with its functions of some names changed and some trampolines added. -/
def rework (m : Module) (names : List String) (change : Function → Function)
    (added : List Trampoline) : Module :=
  { m with
    functions := m.functions.map fun f => if f.name ∈ names then change f else f
    trampolines := m.trampolines ++ added }

variable {change change' : Function → Function}

theorem rework_nil (m : Module) (change : Function → Function) : m.rework [] change [] = m := by
  simp [rework]

theorem rework_cons (hname : ∀ f, (change f).name = f.name) {name : String} {names : List String}
    (hnew : name ∉ names) (m : Module) (added added' : List Trampoline) :
    (m.rework [name] change added).rework names change added'
      = m.rework (name :: names) change (added ++ added') := by
  simp only [rework, List.map_map, List.append_assoc]
  congr 1
  refine List.map_congr_left fun f _ => ?_
  simp only [Function.comp_apply, List.mem_cons]
  by_cases h : f.name = name
  · simp [h, hname, hnew]
  · simp [h]

theorem rework_rework (change change' : Function → Function) (hname : ∀ f, (change f).name = f.name)
    (m : Module) (names : List String) (added added' : List Trampoline) :
    (m.rework names change added).rework names change' added'
      = m.rework names (fun f => change' (change f)) (added ++ added') := by
  simp only [rework, List.map_map, List.append_assoc]
  congr 1
  refine List.map_congr_left fun f _ => ?_
  simp only [Function.comp_apply]
  by_cases h : f.name ∈ names
  · simp [h, hname]
  · simp [h]

theorem nodup_mutatedNames (m : Module) : m.mutatedNames.Nodup := by
  have h := nodup_distinctBy id (m.mutations.map (·.function.name))
  rwa [List.map_id] at h

theorem mem_mutatedNames {m : Module} {name : String} :
    name ∈ m.mutatedNames ↔ ∃ p ∈ m.mutations, p.function.name = name := by
  rw [mutatedNames, mem_distinctBy_id, List.mem_map]

end Module

namespace Synthesis

/-! ## Copies -/

/-- A function of the module that is copied under another name. -/
def CopyOf (m : Module) (name copyName : String) (copy : Function) : Prop :=
  ∃ f, m.function? name = some f ∧ copy = f.rename copyName

theorem copy_eq_ok_iff {m : Module} {name copyName : String} {f : Function} :
    copy m name copyName = .ok f ↔ CopyOf m name copyName f := by
  unfold copy CopyOf
  cases m.function? name with
  | none => simp
  | some g => simp [eq_comm]

theorem clones_eq_ok_iff {m : Module} {copies : List Function} :
    clones m = .ok copies ↔ ∃ unmutated mutants, copies = unmutated ++ mutants ∧
      List.Forall₂ (fun name => CopyOf m name (Point.unmutatedName name)) m.mutatedNames unmutated ∧
      List.Forall₂ (fun p => CopyOf m p.function.name p.mutantName) m.mutantPoints mutants := by
  unfold clones
  simp only [bind_eq_ok_iff, mapM_eq_ok_iff, copy_eq_ok_iff]
  constructor
  · rintro ⟨unmutated, hunmutated, mutants, hmutants, h⟩
    cases h
    exact ⟨unmutated, mutants, rfl, hunmutated, hmutants⟩
  · rintro ⟨unmutated, mutants, rfl, hunmutated, hmutants⟩
    exact ⟨unmutated, hunmutated, mutants, hmutants, rfl⟩

/-- A module after its copies have been added. -/
theorem clone_done {m : Module} {outputs : List Unit} (h : (clone m).ending = .done outputs) :
    ∃ copies, clones m = .ok copies ∧
      (clone m).item = { m with functions := m.functions ++ copies } := by
  unfold clone at h ⊢
  cases hc : clones m with
  | ok copies => exact ⟨copies, rfl, rfl⟩
  | error fault => simp [hc] at h

/-! ## Stubs -/

/-- One step of a stage: the first function of a name has been changed, and trampolines added. -/
def Changes (change : Function → Function) (added : List Trampoline) (name : String)
    (m m' : Module) : Prop :=
  ∃ functions, Module.modifyFirst? (·.name == name) change m.functions = some functions ∧
    m' = { m with functions, trampolines := m.trampolines ++ added }

theorem deleteBody_ok {m m' : Module} {name : String} (h : (deleteBody m name).2 = .ok m') :
    Changes Function.declaration [] name m m' := by
  unfold deleteBody at h
  split at h
  · next m'' hm =>
    cases h
    obtain ⟨functions, hf, rfl⟩ := Option.map_eq_some_iff.mp hm
    exact ⟨functions, hf, by rw [List.append_nil]⟩
  · cases h

theorem redirect_ok {m m' : Module} {name : String} (h : (redirect m name).2 = .ok m') :
    Changes Function.stub [m.trampolineFor name] name m m' := by
  unfold redirect at h
  split at h
  · next m'' hm =>
    cases h
    obtain ⟨functions, hf, rfl⟩ := Option.map_eq_some_iff.mp hm
    exact ⟨functions, hf, rfl⟩
  · cases h

section

variable (change : Function → Function) (hname : ∀ f, (change f).name = f.name)

include hname

theorem map_name_of_changes {added : List Trampoline} {name : String} {m m' : Module}
    (h : Changes change added name m m') :
    m'.functions.map (·.name) = m.functions.map (·.name) := by
  obtain ⟨functions, hf, rfl⟩ := h
  exact Module.map_name_modifyFirst? change (fun f _ => hname f) hf

variable {step : Module → String → List String × Except SynthesisFault Module}
  (added : Module → String → List Trampoline)
  (hstep : ∀ {m m' name}, (step m name).2 = .ok m' → Changes change (added m name) name m m')

include hstep

theorem map_name_forEachName : ∀ (names : List String) (m : Module),
    (forEachName step names m).item.functions.map (·.name) = m.functions.map (·.name)
  | [], _ => rfl
  | name :: names, m => by
    unfold forEachName
    cases hs : step m name with
    | mk notes result =>
      cases result with
      | error fault => rfl
      | ok m' =>
        have hchanges : Changes change (added m name) name m m' := hstep (by rw [hs])
        exact (map_name_forEachName names m').trans (map_name_of_changes change hname hchanges)

/-- A step that changes the function of one name, taken for each of some names, reworks the
functions of all of them. -/
theorem forEachName_done
    (hadded : ∀ m names change' trampolines, added (m.rework names change' trampolines) = added m) :
    ∀ {names : List String} {m : Module} {outputs : List Unit}, names.Nodup →
      (m.functions.map (·.name)).Nodup → (forEachName step names m).ending = .done outputs →
      (forEachName step names m).item = m.rework names change (names.flatMap (added m))
  | [], m, _, _, _, _ => (m.rework_nil change).symm
  | name :: names, m, outputs, hnames, hnodup, h => by
    rw [List.nodup_cons] at hnames
    unfold forEachName at h ⊢
    cases hs : step m name with
    | mk notes result =>
      cases result with
      | error fault => simp [hs] at h
      | ok m' =>
        simp only [hs] at h ⊢
        have hchanges : Changes change (added m name) name m m' := hstep (by rw [hs])
        have hnodup' : (m'.functions.map (·.name)).Nodup := by
          rw [map_name_of_changes change hname hchanges]
          exact hnodup
        have hm' : m' = m.rework [name] change (added m name) := by
          obtain ⟨functions, hf, rfl⟩ := hchanges
          simp [Module.rework, Module.modifyFirst?_eq_map hnodup hf]
        rw [forEachName_done hadded hnames.2 hnodup' h, hm', hadded,
          Module.rework_cons hname hnames.1, List.flatMap_cons]

end

theorem map_name_deleteBodies (m : Module) :
    (forEachName deleteBody m.mutatedNames m).item.functions.map (·.name)
      = m.functions.map (·.name) :=
  map_name_forEachName Function.declaration (fun _ => rfl) (fun _ _ => []) deleteBody_ok _ m

theorem map_name_redirects (m : Module) :
    (forEachName redirect m.mutatedNames m).item.functions.map (·.name)
      = m.functions.map (·.name) :=
  map_name_forEachName Function.stub (fun _ => rfl)
    (fun m name => [m.trampolineFor name]) redirect_ok _ m

/-- A module after its mutated functions have lost their bodies. -/
theorem deleteBodies_done {m : Module} {outputs : List Unit}
    (hnodup : (m.functions.map (·.name)).Nodup)
    (h : (forEachName deleteBody m.mutatedNames m).ending = .done outputs) :
    (forEachName deleteBody m.mutatedNames m).item
      = m.rework m.mutatedNames Function.declaration [] := by
  rw [forEachName_done Function.declaration (fun _ => rfl) (fun _ _ => []) deleteBody_ok
      (fun _ _ _ _ => rfl) m.nodup_mutatedNames hnodup h,
    List.flatMap_eq_nil_iff.mpr fun _ _ => rfl]

/-- A module after its mutated functions have become stubs. -/
theorem redirects_done {m : Module} {outputs : List Unit}
    (hnodup : (m.functions.map (·.name)).Nodup)
    (h : (forEachName redirect m.mutatedNames m).ending = .done outputs) :
    (forEachName redirect m.mutatedNames m).item
      = m.rework m.mutatedNames Function.stub (m.mutatedNames.map m.trampolineFor) := by
  rw [forEachName_done Function.stub (fun _ => rfl)
      (fun m name => [m.trampolineFor name]) redirect_ok (fun _ _ _ _ => rfl)
      m.nodup_mutatedNames hnodup h,
    List.map_eq_flatMap]

/-! ## Mutations -/

/-- The mutation of a point has been carried out in the copy that the module holds for it. -/
def Mutates (mutators : List Mutator) (p : Point) (m m' : Module) : Prop :=
  ∃ copy mutant functions, m.function? p.mutantName = some copy ∧
    p.mutate mutators copy = .ok mutant ∧
    Module.modifyFirst? (·.name == p.mutantName) (fun _ => mutant) m.functions = some functions ∧
    m' = { m with functions }

/-- The mutations of points have been carried out one after the other in one module. -/
inductive MutatesAll (mutators : List Mutator) : List Point → Module → Module → Prop where
  | nil (m : Module) : MutatesAll mutators [] m m
  | cons {p : Point} {points : List Point} {m m' m'' : Module} :
      Mutates mutators p m m' → MutatesAll mutators points m' m'' →
      MutatesAll mutators (p :: points) m m''

theorem mutateCopy_ok {mutators : List Mutator} {modules modules' : List Module} {p : Point}
    (h : mutateCopy mutators modules p = .ok modules') :
    ∃ m m', modules[p.function.module]? = some m ∧ Mutates mutators p m m' ∧
      modules' = modules.set p.function.module m' := by
  unfold mutateCopy at h
  split at h
  · next mutator hmutator =>
    split at h
    · next m hm =>
      split at h
      · next copy hcopy =>
        obtain ⟨mutant, hmutant, h⟩ := bind_eq_ok_iff.mp h
        split at h
        · next m' hm' =>
          cases h
          obtain ⟨functions, hfunctions, rfl⟩ := Option.map_eq_some_iff.mp hm'
          exact ⟨m, _, hm, ⟨copy, mutant, functions, hcopy,
            Point.mutate_eq_ok_iff.mpr ⟨mutator, hmutator, hmutant⟩, hfunctions, rfl⟩, rfl⟩
        · cases h
      · cases h
    · cases h
  · cases h

theorem apply_done {mutators : List Mutator} {p : Point} {modules : List Module}
    {outputs : List Unit} (h : (apply mutators p modules).ending = .done outputs) :
    ∃ m m', modules[p.function.module]? = some m ∧ Mutates mutators p m m' ∧
      (apply mutators p modules).state = modules.set p.function.module m' := by
  unfold apply at h ⊢
  cases hm : mutateCopy mutators modules p with
  | ok modules' => exact mutateCopy_ok hm
  | error reason => simp [hm] at h

/-- What happens to one module while the mutations of all points are carried out. -/
theorem mutatesAll_of_handlesAll {mutators : List Mutator} {points points' : List Point}
    {modules modules' : List Module} {outputs : List Unit}
    (h : HandlesAll (apply mutators) points modules outputs points' modules') :
    modules'.length = modules.length ∧ (∀ p ∈ points, p.function.module < modules.length) ∧
      ∀ (i : Nat) (m : Module), modules[i]? = some m → ∃ m', modules'[i]? = some m' ∧
        MutatesAll mutators (points.filter (·.function.module == i)) m m' := by
  induction h with
  | nil modules => exact ⟨rfl, by simp, fun i m hm => ⟨m, hm, .nil m⟩⟩
  | @cons p points _ modules modules' _ _ hdone _ ih =>
    obtain ⟨m₀, m₁, hm₀, hmutates, hstate⟩ := apply_done hdone
    have hlt : p.function.module < modules.length := (List.getElem?_eq_some_iff.mp hm₀).1
    rw [hstate, List.length_set] at ih
    obtain ⟨hlength, hmodules, hall⟩ := ih
    -- only the module of the point is touched, and the rest of its points come later
    refine ⟨hlength, List.forall_mem_cons.mpr ⟨hlt, hmodules⟩, fun i m hm => ?_⟩
    by_cases hi : p.function.module = i
    · subst hi
      obtain rfl : m₀ = m := by simpa [hm₀] using hm
      obtain ⟨m', hm', hrest⟩ := hall p.function.module m₁ (by simp [hlt])
      refine ⟨m', hm', ?_⟩
      rw [List.filter_cons_of_pos (by simp)]
      exact .cons hmutates hrest
    · obtain ⟨m', hm', hrest⟩ := hall i m (by rwa [List.getElem?_set_ne hi])
      refine ⟨m', hm', ?_⟩
      rw [List.filter_cons_of_neg (by simpa using hi)]
      exact hrest

theorem Mutates.map_name {mutators : List Mutator} {p : Point} {m m' : Module}
    (h : Mutates mutators p m m') : m'.functions.map (·.name) = m.functions.map (·.name) := by
  obtain ⟨copy, mutant, functions, hcopy, hmutant, hmodify, rfl⟩ := h
  refine Module.map_name_modifyFirst? (fun _ => mutant) (fun f hf => ?_) hmodify
  rw [(Point.mutate_editOf hmutant).name, Module.name_of_function? hcopy]
  exact (beq_iff_eq.mp hf).symm

theorem MutatesAll.map_name {mutators : List Mutator} {points : List Point} {m m' : Module}
    (h : MutatesAll mutators points m m') :
    m'.functions.map (·.name) = m.functions.map (·.name) := by
  induction h with
  | nil => rfl
  | cons hmutates _ ih => exact ih.trans hmutates.map_name

theorem MutatesAll.exists_mutator {mutators : List Mutator} {points : List Point} {m m' : Module}
    (h : MutatesAll mutators points m m') :
    ∀ p ∈ points, ∃ mutator ∈ mutators, mutator.id = p.mutator := by
  induction h with
  | nil => simp
  | cons hmutates _ ih =>
    obtain ⟨_, _, _, -, hmutant, -, -⟩ := hmutates
    exact List.forall_mem_cons.mpr ⟨Point.exists_mutator hmutant, ih⟩

/-- The copies at the end of a module are mutated one by one, and nothing else is. -/
theorem MutatesAll.functions_eq {mutators : List Mutator} {R : Point → Function → Prop}
    (hR : ∀ p copy, R p copy → copy.name = p.mutantName) {points : List Point} {m m' : Module}
    (h : MutatesAll mutators points m m') :
    ∀ pre copies : List Function, m.functions = pre ++ copies →
      (m.functions.map (·.name)).Nodup → List.Forall₂ R points copies →
      ∃ mutants, m' = { m with functions := pre ++ mutants } ∧
        List.Forall₂ (fun p mutant => ∃ copy, R p copy ∧ p.mutate mutators copy = .ok mutant)
          points mutants := by
  induction h with
  | nil m =>
    intro pre copies hm _ hcopies
    cases hcopies
    exact ⟨[], by rw [← hm], .nil⟩
  | @cons p points m m₁ m' hmutates _ ih =>
    intro pre copies hm hnodup hcopies
    obtain ⟨copy, rest, hcopy, hrest, rfl⟩ := List.forall₂_cons_left_iff.mp hcopies
    obtain ⟨found, mutant, functions, hfound, hmutant, hmodify, rfl⟩ := hmutates
    have hname := hR p copy hcopy
    have hpre : ∀ g ∈ pre, g.name ≠ p.mutantName := by
      intro g hg he
      rw [hm, List.map_append, List.nodup_append] at hnodup
      exact hnodup.2.2 _ (List.mem_map_of_mem hg) _ (List.mem_map_of_mem List.mem_cons_self)
        (he.trans hname.symm)
    -- the copy is the only function of its name
    have hsame : found = copy := by
      rw [Module.function?, hm, List.find?_append,
        List.find?_eq_none.mpr (by simpa using hpre)] at hfound
      simpa [hname, eq_comm] using hfound
    subst hsame
    rw [hm, Module.modifyFirst?_append hpre hname, Option.some.injEq] at hmodify
    subst hmodify
    have hmutantName : mutant.name = found.name := (Point.mutate_editOf hmutant).name
    obtain ⟨mutants, rfl, hmutants⟩ := ih (pre ++ [mutant]) rest (by simp)
      (by simpa [hm, hmutantName] using hnodup) hrest
    exact ⟨mutant :: mutants, by simp, .cons ⟨found, hcopy, hmutant⟩ hmutants⟩

end Synthesis

end MutationTesting
