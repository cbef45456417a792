import MutationTesting.Proofs.Synthesis.Contents
import MutationTesting.Proofs.Synthesis.Matching

/-!
# Where carrying out mutations stops

The mutations of points are carried out one after the other, each in the copy that its module holds
for it, and the stage stops at the first one that meets an obstacle. What has been done until then
stays done, and nothing else has been touched: the copies of different points of a module are
different functions, so no mutation gets into the way of another one.

Functions are told by their places, since the names of a module need not be unique: a mutation is
carried out in the first function that is named like the copy.

* `Synthesis.Obstacle` — why a mutation cannot be carried out
* `Synthesis.placeOf?`, `Synthesis.functionAt?` — the place of a copy, and what stands there
* `Synthesis.CarriesOut` — the mutations of some points are carried out, and nothing else happens
* `Synthesis.CarriesOut.of_mutateCopy`, `Synthesis.CarriesOut.append` — one point, and many
* `Synthesis.apply_stops` — **the stage carries out the mutations before the first obstacle, and
  exactly these points are marked**
-/

namespace MutationTesting

open Workers

/-! ## Obstacles -/

namespace Mutator

/-- How a mutator complains about an address where it has nothing to change. -/
def mismatch : Mutator → Address → String → ApplyFault
  | .replaceOperator _ source _, address, function => .noOperator source address function
  | .removeVoidCall, address, function => .noVoidCall address function

theorem eq_mismatch_of_mutate {m : Mutator} {a : Address} {f : Function} {reason : ApplyFault}
    (h : m.mutate a f = .error reason) : reason = m.mismatch a f.name := by
  unfold mutate at h
  split at h
  · split at h
    · cases h
    · cases h
      rfl
  · cases h
    rfl
  · cases h
  · cases h
    rfl

/-- A mutator that finds nothing to change at an address complains. -/
theorem mutate_eq_mismatch {m : Mutator} {a : Address} {f : Function}
    (h : ∀ i, f.instruction? a = some i → m.replacement? i.action = none) :
    m.mutate a f = .error (m.mismatch a f.name) := by
  cases hmutate : m.mutate a f with
  | ok g =>
    obtain ⟨i, hi, hreplacement⟩ := exists_mutate_iff.mp ⟨g, hmutate⟩
    rw [h i hi] at hreplacement
    cases hreplacement
  | error reason => rw [eq_mismatch_of_mutate hmutate]

end Mutator

/-- The first function that satisfies a condition is replaced where it stands. -/
theorem Module.exists_set_of_modifyFirst? {α : Type} {condition : α → Bool} {a : α}
    {items items' : List α} (h : modifyFirst? condition (fun _ => a) items = some items') :
    ∃ j, items.findIdx? condition = some j ∧ items' = items.set j a := by
  induction items generalizing items' with
  | nil => cases h
  | cons b items ih =>
    rw [modifyFirst?] at h
    rw [List.findIdx?_cons]
    split at h
    · next hb =>
      cases h
      exact ⟨0, if_pos hb, rfl⟩
    · next hb =>
      obtain ⟨rest, hrest, rfl⟩ := Option.map_eq_some_iff.mp h
      obtain ⟨j, hj, rfl⟩ := ih hrest
      exact ⟨j + 1, by rw [if_neg hb, hj]; rfl, rfl⟩

namespace Synthesis

variable {mutators : List Mutator} {modules modules' : List Module} {p q : Point}
  {points : List Point}

/-- Why the mutation of a point cannot be carried out: its mutator is not enabled, its module holds
no copy for it, or the copy has nothing at its address that the mutator could change. -/
inductive Obstacle (mutators : List Mutator) (modules : List Module) (p : Point) :
    ApplyFault → Prop where
  | notEnabled : (∀ m ∈ mutators, m.id ≠ p.mutator) →
      Obstacle mutators modules p (.notEnabled p.mutator)
  | noCopy : (∃ m ∈ mutators, m.id = p.mutator) → copyFor? modules p = none →
      Obstacle mutators modules p (.noCopy p.mutantName)
  | noMatch {m : Mutator} {copy : Function} : mutators.find? (·.id == p.mutator) = some m →
      copyFor? modules p = some copy →
      (∀ i, copy.instruction? p.address = some i → m.replacement? i.action = none) →
      Obstacle mutators modules p (m.mismatch p.address p.mutantName)

theorem name_of_copyFor? {copy : Function} (h : copyFor? modules p = some copy) :
    copy.name = p.mutantName := by
  obtain ⟨m, -, hcopy⟩ := Option.bind_eq_some_iff.mp h
  exact Module.name_of_function? hcopy

/-- A point that meets an obstacle makes the stage fail, and changes nothing. -/
theorem apply_of_obstacle {reason : ApplyFault} (h : Obstacle mutators modules p reason) :
    apply mutators p modules
      = { ending := .failed (.notApplied p reason), item := p, state := modules } := by
  have hmutate : mutateCopy mutators modules p = .error reason := by
    cases h with
    | notEnabled hmutators =>
      have hfind : mutators.find? (·.id == p.mutator) = none := by simpa using hmutators
      simp only [mutateCopy, hfind]
    | noCopy hmutator hcopy =>
      have hfind : (mutators.find? (·.id == p.mutator)).isSome := by simpa using hmutator
      obtain ⟨mutator, hfind⟩ := Option.isSome_iff_exists.mp hfind
      cases hm : modules[p.function.module]? with
      | none => simp only [mutateCopy, hfind, hm]
      | some m =>
        rw [copyFor?, hm, Option.bind_some] at hcopy
        simp only [mutateCopy, hfind, hm, hcopy]
    | @noMatch mutator copy hfind hcopy hnothing =>
      have hname := name_of_copyFor? hcopy
      obtain ⟨m, hm, hcopy⟩ := Option.bind_eq_some_iff.mp hcopy
      simp only [mutateCopy, hfind, hm, hcopy, Mutator.mutate_eq_mismatch hnothing, hname]
      rfl
  rw [apply, hmutate]

/-- The mutation of a point can be carried out, or there is an obstacle. -/
theorem ready_or_obstacle (mutators : List Mutator) (modules : List Module) (p : Point) :
    Ready mutators modules p ∨ ∃ reason, Obstacle mutators modules p reason := by
  cases hfind : mutators.find? (·.id == p.mutator) with
  | none => exact .inr ⟨_, .notEnabled (by simpa using hfind)⟩
  | some mutator =>
    cases hcopy : copyFor? modules p with
    | none =>
      have hid : mutator.id = p.mutator := by simpa using List.find?_some hfind
      exact .inr ⟨_, .noCopy ⟨mutator, List.mem_of_find?_eq_some hfind, hid⟩ hcopy⟩
    | some copy =>
      by_cases hmatch : ∃ i, copy.instruction? p.address = some i ∧
          (mutator.replacement? i.action).isSome
      · obtain ⟨m, hm, hfound⟩ := Option.bind_eq_some_iff.mp hcopy
        obtain ⟨i, hi, hreplacement⟩ := hmatch
        exact .inl ⟨m, copy, hm, hfound, mutator, i, hfind, hi, hreplacement⟩
      · refine .inr ⟨_, .noMatch hfind hcopy fun i hi => ?_⟩
        rw [← Option.not_isSome_iff_eq_none]
        exact fun hsome => hmatch ⟨i, hi, hsome⟩

/-! ## Places -/

/-- The place of the copy of a point: its module, and the first function there of its name. -/
def placeOf? (modules : List Module) (p : Point) : Option (Nat × Nat) :=
  modules[p.function.module]?.bind fun m =>
    (m.functions.findIdx? (·.name == p.mutantName)).map (p.function.module, ·)

/-- The function at a place. -/
def functionAt? (modules : List Module) (place : Nat × Nat) : Option Function :=
  modules[place.1]?.bind (·.functions[place.2]?)

/-- The copy of a point is what stands at its place. -/
theorem copyFor?_eq_bind (modules : List Module) (p : Point) :
    copyFor? modules p = (placeOf? modules p).bind (functionAt? modules) := by
  unfold copyFor? placeOf? functionAt?
  cases hm : modules[p.function.module]? with
  | none => rfl
  | some m =>
    simp only [Option.bind_some, Module.function?, List.find?_eq_bind_findIdx?_getElem?,
      Option.bind_map]
    cases m.functions.findIdx? (·.name == p.mutantName) with
    | none => rfl
    | some j => simp only [Option.bind_some, Function.comp_apply, hm]

theorem copyFor?_of_placeOf? {place : Nat × Nat} (h : placeOf? modules p = some place) :
    copyFor? modules p = functionAt? modules place := by
  rw [copyFor?_eq_bind, h, Option.bind_some]

/-- The place of a copy is in the module of its point, and a function of the right name is there. -/
theorem placeOf?_eq_some {place : Nat × Nat} (h : placeOf? modules p = some place) :
    place.1 = p.function.module ∧ ∃ f, functionAt? modules place = some f ∧
      f.name = p.mutantName := by
  obtain ⟨m, hm, h⟩ := Option.bind_eq_some_iff.mp h
  obtain ⟨j, hj, rfl⟩ := Option.map_eq_some_iff.mp h
  obtain ⟨hlt, hname, -⟩ := List.findIdx?_eq_some_iff_getElem.mp hj
  refine ⟨rfl, m.functions[j], ?_, beq_iff_eq.mp hname⟩
  rw [functionAt?, hm, Option.bind_some, List.getElem?_eq_getElem hlt]

/-- The copies of points that are told apart stand at different places. -/
theorem placeOf?_ne {place : Nat × Nat}
    (hne : p.function.module = q.function.module → p.mutantName ≠ q.mutantName)
    (hp : placeOf? modules p = some place) : placeOf? modules q ≠ some place := by
  intro hq
  obtain ⟨hmodule, f, hf, hname⟩ := placeOf?_eq_some hp
  obtain ⟨hmodule', f', hf', hname'⟩ := placeOf?_eq_some hq
  obtain rfl : f = f' := Option.some.inj (hf.symm.trans hf')
  exact hne (hmodule.symm.trans hmodule') (hname.symm.trans hname')

/-- Places depend on nothing but the names of functions. -/
theorem placeOf?_congr
    (h : modules'.map (·.functions.map (·.name)) = modules.map (·.functions.map (·.name)))
    (p : Point) : placeOf? modules' p = placeOf? modules p := by
  have hplace : ∀ modules, placeOf? modules p =
      (modules.map (·.functions.map (·.name)))[p.function.module]?.bind fun names =>
        (names.findIdx? (· == p.mutantName)).map (p.function.module, ·) := by
    intro modules
    simp only [placeOf?, List.getElem?_map, Option.bind_map, Function.comp_def, List.findIdx?_map]
  rw [hplace, hplace, h]

/-! ## Carrying out -/

/-- The mutation of a point is carried out between two states of the modules: its copy has one
instruction rewritten by its mutator. -/
def Performed (mutators : List Mutator) (modules modules' : List Module) (p : Point) : Prop :=
  ∃ m f g, mutators.find? (·.id == p.mutator) = some m ∧ copyFor? modules p = some f ∧
    copyFor? modules' p = some g ∧ f.EditedBy m p.address g

/-- The mutations of some points are carried out between two states of the modules, and nothing else
happens. -/
structure CarriesOut (mutators : List Mutator) (points : List Point)
    (modules modules' : List Module) : Prop where
  /-- Modules keep all their data but their functions. -/
  frame : modules'.map (fun m => { m with functions := [] })
    = modules.map fun m => { m with functions := [] }
  /-- Copies stay where they are. -/
  placed : ∀ q, placeOf? modules' q = placeOf? modules q
  /-- The mutations are carried out. -/
  performed : ∀ p ∈ points, Performed mutators modules modules' p
  /-- All other functions are the same as before. -/
  untouched : ∀ place, (∀ p ∈ points, placeOf? modules p ≠ some place) →
    functionAt? modules' place = functionAt? modules place

namespace CarriesOut

theorem nil (mutators : List Mutator) (modules : List Module) :
    CarriesOut mutators [] modules modules where
  frame := rfl
  placed _ := rfl
  performed := by simp
  untouched _ _ := rfl

/-- A copy that is not at the place of any of the points is the same as before. -/
theorem copyFor?_eq (h : CarriesOut mutators points modules modules')
    (hother : ∀ p ∈ points, p.function.module = q.function.module → p.mutantName ≠ q.mutantName) :
    copyFor? modules' q = copyFor? modules q := by
  cases hplace : placeOf? modules q with
  | none => rw [copyFor?_eq_bind, copyFor?_eq_bind, h.placed, hplace, Option.bind_none,
      Option.bind_none]
  | some place =>
    rw [copyFor?_of_placeOf? hplace, copyFor?_of_placeOf? ((h.placed q).trans hplace)]
    exact h.untouched place fun p hp hplace' => placeOf?_ne (hother p hp) hplace' hplace

/-- The mutations of some points are carried out, and then those of others in other copies. -/
theorem append {before after : List Point} {middle : List Module}
    (h : CarriesOut mutators before modules middle) (h' : CarriesOut mutators after middle modules')
    (hne : ∀ p ∈ before, ∀ q ∈ after,
      p.function.module = q.function.module → p.mutantName ≠ q.mutantName) :
    CarriesOut mutators (before ++ after) modules modules' where
  frame := h'.frame.trans h.frame
  placed q := (h'.placed q).trans (h.placed q)
  performed := by
    intro p hp
    rcases List.mem_append.mp hp with hp | hp
    · obtain ⟨m, f, g, hm, hf, hg, hedited⟩ := h.performed p hp
      refine ⟨m, f, g, hm, hf, ?_, hedited⟩
      rw [h'.copyFor?_eq fun q hq hmodule hname => hne p hp q hq hmodule.symm hname.symm, hg]
    · obtain ⟨m, f, g, hm, hf, hg, hedited⟩ := h'.performed p hp
      refine ⟨m, f, g, hm, ?_, hg, hedited⟩
      rw [← h.copyFor?_eq fun q hq => hne q hq p hp, hf]
  untouched := by
    intro place hplace
    rw [h'.untouched place fun p hp => ?_, h.untouched place fun p hp => ?_]
    · exact hplace p (List.mem_append_left _ hp)
    · rw [h.placed]
      exact hplace p (List.mem_append_right _ hp)

/-- **The mutation of one point is carried out in its copy, and nowhere else.** -/
theorem of_mutateCopy (h : mutateCopy mutators modules p = .ok modules') :
    CarriesOut mutators [p] modules modules' := by
  obtain ⟨m, m', hm, hmutates, rfl⟩ := mutateCopy_ok h
  have hnames := hmutates.map_name
  obtain ⟨copy, mutant, functions, hcopy, hmutant, hfunctions, rfl⟩ := hmutates
  obtain ⟨mutator, hmutator, hmutate⟩ := Point.mutate_eq_ok_iff.mp hmutant
  obtain ⟨j, hj, rfl⟩ := Module.exists_set_of_modifyFirst? hfunctions
  obtain ⟨hlt, hget⟩ := List.getElem?_eq_some_iff.mp hm
  have hplace : placeOf? modules p = some (p.function.module, j) := by
    rw [placeOf?, hm, Option.bind_some, hj, Option.map_some]
  have hsame : modules.set p.function.module m = modules := by
    rw [← hget, List.set_getElem_self]
  -- the mutant is named like the copy, so no place is another one afterwards
  have hplaced : ∀ q, placeOf? (modules.set p.function.module
      { m with functions := m.functions.set j mutant }) q = placeOf? modules q := by
    refine placeOf?_congr ?_
    rw [List.map_set, hnames]
    conv_rhs => rw [← hsame, List.map_set]
  refine ⟨?_, hplaced, ?_, ?_⟩
  · rw [List.map_set]
    conv_rhs => rw [← hsame, List.map_set]
  · intro q hq
    rw [List.mem_singleton] at hq
    subst hq
    refine ⟨mutator, copy, mutant, hmutator, ?_, ?_, Mutator.mutate_eq_ok_iff_editedBy.mp hmutate⟩
    · rw [copyFor?, hm, Option.bind_some, hcopy]
    · have hj' : j < m.functions.length := (List.findIdx?_eq_some_iff_getElem.mp hj).1
      rw [copyFor?_of_placeOf? ((hplaced q).trans hplace), functionAt?, List.getElem?_set_self hlt,
        Option.bind_some, List.getElem?_set_self hj']
  · rintro ⟨i, k⟩ hother
    have hne : ¬(p.function.module = i ∧ j = k) := by
      rintro ⟨rfl, rfl⟩
      exact hother p (List.mem_singleton_self p) hplace
    unfold functionAt?
    by_cases hi : p.function.module = i
    · subst hi
      have hk : j ≠ k := fun hk => hne ⟨rfl, hk⟩
      rw [List.getElem?_set_self hlt, hm, Option.bind_some, Option.bind_some,
        List.getElem?_set_ne hk]
    · rw [List.getElem?_set_ne hi]

/-- **Mutations that are carried out one after the other**, each in a copy of its own: the points
are marked, and nothing but their copies is touched. -/
theorem of_handlesAll {points' : List Point} {outputs : List Unit}
    (h : HandlesAll (apply mutators) points modules outputs points' modules')
    (hdistinct : points.Pairwise fun p q =>
      p.function.module = q.function.module → p.mutantName ≠ q.mutantName) :
    CarriesOut mutators points modules modules' ∧ points' = points.map Point.markApplied ∧
      outputs = [] := by
  induction h with
  | nil modules => exact ⟨nil mutators modules, rfl, rfl⟩
  | @cons p points _ modules _ outputs _ hdone _ ih =>
    rw [List.pairwise_cons] at hdistinct
    obtain ⟨hrest, rfl, rfl⟩ := ih hdistinct.2
    cases hmutate : mutateCopy mutators modules p with
    | error reason =>
      rw [apply, hmutate] at hdone
      cases hdone
    | ok modules₁ =>
      rw [apply, hmutate] at hdone hrest ⊢
      cases hdone
      refine ⟨(of_mutateCopy hmutate).append hrest ?_, rfl, rfl⟩
      intro p' hp'
      rw [List.mem_singleton] at hp'
      subst hp'
      exact hdistinct.1

end CarriesOut

/-- A point whose mutation has been carried out had no obstacle. -/
theorem Performed.not_obstacle (h : Performed mutators modules modules' p) (reason : ApplyFault) :
    ¬Obstacle mutators modules p reason := by
  obtain ⟨m, f, g, hm, hf, -, hedited⟩ := h
  intro hobstacle
  cases hobstacle with
  | notEnabled hnone =>
    have hid : m.id = p.mutator := by simpa using List.find?_some hm
    exact hnone m (List.mem_of_find?_eq_some hm) hid
  | noCopy _ hnone =>
    rw [hf] at hnone
    cases hnone
  | noMatch hm' hf' hnothing =>
    obtain rfl := Option.some.inj (hm.symm.trans hm')
    obtain rfl := Option.some.inj (hf.symm.trans hf')
    obtain ⟨i, hi, hreplacement⟩ :=
      Mutator.exists_mutate_iff.mp ⟨g, Mutator.mutate_eq_ok_iff_editedBy.mpr hedited⟩
    rw [hnothing i hi] at hreplacement
    cases hreplacement

/-- A mutation has not been carried out where the copy is the same as before. -/
theorem not_performed (hmutators : ∀ m ∈ mutators, m ∈ Catalogue.mutators)
    (h : copyFor? modules' p = copyFor? modules p) : ¬Performed mutators modules modules' p := by
  rintro ⟨m, f, g, hm, hf, hg, hedited⟩
  rw [h, hf] at hg
  exact hedited.ne (hmutators m (List.mem_of_find?_eq_some hm)) (Option.some.inj hg).symm

/-- An obstacle does not depend on anything but the copy of the point. -/
theorem Obstacle.congr {reason : ApplyFault} (h : Obstacle mutators modules p reason)
    (hcopy : copyFor? modules' p = copyFor? modules p) : Obstacle mutators modules' p reason := by
  cases h with
  | notEnabled hnone => exact .notEnabled hnone
  | noCopy hmutator hnone => exact .noCopy hmutator (hcopy.trans hnone)
  | noMatch hm hf hnothing => exact .noMatch hm (hcopy.trans hf) hnothing

/-! ## The stage -/

/-- How the stage ends if these points are left over: it succeeds if there are none, and
fails with the obstacle of the first one otherwise. -/
def EndsBefore (mutators : List Mutator) (modules : List Module) (left : List Point)
    (outcome : Except (Fault SynthesisFault) (List Unit)) : Prop :=
  match left with
  | [] => outcome = .ok []
  | p :: _ => ∃ reason, Obstacle mutators modules p reason ∧
    outcome = .error (.item (.notApplied p reason))

/-- What the stage does, in the order of the points. -/
theorem exists_stop (mutators : List Mutator) (modules : List Module) (name : String)
    (hdistinct : points.Pairwise fun p q =>
      p.function.module = q.function.module → p.mutantName ≠ q.mutantName) :
    let report := (applyStage mutators name).run points modules
    ∃ done left, points = done ++ left ∧ EndsBefore mutators modules left report.outcome ∧
      report.items = done.map Point.markApplied ++ left ∧
      CarriesOut mutators done modules report.state := by
  dsimp only
  obtain ⟨_, _, _, hall⟩ | ⟨done, p, rest, _, _, middle, rfl, hall, hstop⟩ :=
    handlesAll_or_stops (apply mutators) points modules
  · obtain ⟨hcarries, rfl, rfl⟩ := CarriesOut.of_handlesAll hall hdistinct
    obtain ⟨houtcome, hitems, hstate⟩ :
        ((applyStage mutators name).run points modules).outcome = .ok [] ∧ _ ∧ _ :=
      Stage.run_of_handlesAll (fun _ => rfl) Nat.one_pos hall
    refine ⟨points, [], (List.append_nil _).symm, houtcome, ?_, ?_⟩
    · rw [hitems, List.append_nil]
    · rw [hstate]
      exact hcarries
  · obtain ⟨hdone, -, hbetween⟩ := List.pairwise_append.mp hdistinct
    obtain ⟨hcarries, rfl, rfl⟩ := CarriesOut.of_handlesAll hall hdone
    -- nobody has touched the copy of this point, so its obstacle was there from the beginning
    have hcopy : copyFor? modules p = copyFor? middle p :=
      (hcarries.copyFor?_eq fun q hq => hbetween q hq p (List.mem_cons_self ..)).symm
    obtain hready | ⟨reason, hobstacle⟩ := ready_or_obstacle mutators middle p
    · obtain ⟨modules', hmutate⟩ := hready.exists_mutateCopy
      exact absurd (by rw [apply, hmutate]) (hstop [])
    · have happly := apply_of_obstacle hobstacle
      obtain ⟨houtcome, hitems, hstate⟩ :=
        (applyStage mutators name).run_of_failed rfl rest hall
          (show (apply mutators p middle).ending = .failed (.notApplied p reason) by rw [happly])
      refine ⟨done, p :: rest, rfl, ⟨reason, hobstacle.congr hcopy, houtcome⟩, ?_, ?_⟩
      · rw [hitems]
        show _ ++ (apply mutators p middle).item :: rest = _
        rw [happly]
      · rw [hstate]
        show CarriesOut mutators done modules (apply mutators p middle).state
        rw [happly]
        exact hcarries

/-- **A stage that stops leaves a consistent prefix.** The stage gets some way through the points,
and fails only at the first one that meets an obstacle. The points before it are marked and their
mutations are carried out, and nothing else happens to any module: the other points and their copies
stay as they are. So a point is marked exactly if its mutation has been carried out. -/
theorem apply_stops (mutators : List Mutator) (modules : List Module) (name : String)
    (hunapplied : ∀ p ∈ points, p.applied = false)
    (hdistinct : points.Pairwise fun p q =>
      p.function.module = q.function.module → p.mutantName ≠ q.mutantName) :
    let report := (applyStage mutators name).run points modules
    ∃ done left, points = done ++ left ∧
      (∀ p ∈ done, ∀ reason, ¬Obstacle mutators modules p reason) ∧
      EndsBefore mutators modules left report.outcome ∧
      report.items = done.map Point.markApplied ++ left ∧
      CarriesOut mutators done modules report.state ∧
      (∀ p ∈ left, copyFor? report.state p = copyFor? modules p) ∧
      ((∀ m ∈ mutators, m ∈ Catalogue.mutators) →
        List.Forall₂ (fun p p' => p'.applied = true ↔ Performed mutators modules report.state p)
          points report.items) := by
  obtain ⟨done, left, rfl, hends, hitems, hcarries⟩ :=
    exists_stop mutators modules name hdistinct
  have hcopies : ∀ p ∈ left,
      copyFor? ((applyStage mutators name).run (done ++ left) modules).state p
        = copyFor? modules p := by
    intro p hp
    obtain ⟨-, -, hbetween⟩ := List.pairwise_append.mp hdistinct
    exact hcarries.copyFor?_eq fun q hq => hbetween q hq p hp
  refine ⟨done, left, rfl, fun p hp => (hcarries.performed p hp).not_obstacle, hends, hitems,
    hcarries, hcopies, fun hmutators => ?_⟩
  rw [hitems]
  refine List.rel_append ?_ ?_
  · rw [List.forall₂_map_right_iff, List.forall₂_same]
    exact fun p hp => iff_of_true rfl (hcarries.performed p hp)
  · rw [List.forall₂_same]
    intro p hp
    have hunmarked : ¬p.applied = true := by
      rw [hunapplied p (List.mem_append_right _ hp)]
      exact Bool.false_ne_true
    exact iff_of_false hunmarked (not_performed hmutators (hcopies p hp))

/-- The mutations of the figures, without the mutator that takes out calls: the third of the four
points has nobody to carry its mutation out. -/
theorem figures_stop :
    let modules := (prepare Figures.modules Figures.points).map redirected
    let report := (applyStage Catalogue.arithmetic "applying").run Figures.points modules
    report.items.map (·.applied) = [true, true, false, false] ∧
    (∃ p, Figures.points[2]? = some p ∧
      report.outcome = .error (.item (.notApplied p (.notEnabled "cxx_remove_void_call")))) ∧
    CarriesOut Catalogue.arithmetic (Figures.points.take 2) modules report.state ∧
    ∀ p ∈ Figures.points.drop 2, copyFor? report.state p = copyFor? modules p := by
  dsimp only
  have hunapplied : ∀ p ∈ Figures.points, p.applied = false := by decide
  obtain ⟨done, left, hpoints, -, hends, hitems, hcarries, hcopies, -⟩ :=
    apply_stops Catalogue.arithmetic ((prepare Figures.modules Figures.points).map redirected)
      "applying" hunapplied Figures.fits.pairwise_mutantName
  have hmarks : ((applyStage Catalogue.arithmetic "applying").run Figures.points
      ((prepare Figures.modules Figures.points).map redirected)).items.map (·.applied)
        = [true, true, false, false] := by decide +kernel
  have hunmarked : ∀ p ∈ left, p.applied = false := by
    intro p hp
    exact hunapplied p (hpoints ▸ List.mem_append_right _ hp)
  have htwo : done.length = 2 := by
    have hcount := congrArg (List.count true) hmarks
    rw [hitems, List.map_append, List.map_map, List.count_append,
      List.map_congr_left (g := fun _ => false) hunmarked] at hcount
    simpa [Function.comp_def, Point.markApplied, List.map_const', List.count_replicate] using hcount
  obtain rfl : done = Figures.points.take 2 := by rw [hpoints, ← htwo, List.take_left]
  obtain rfl : left = Figures.points.drop 2 :=
    (List.append_cancel_left (hpoints.symm.trans (List.take_append_drop 2 _).symm))
  refine ⟨hmarks, ⟨_, rfl, ?_⟩, hcarries, hcopies⟩
  obtain ⟨reason, hobstacle, houtcome⟩ := hends
  rw [houtcome]
  have hnone : Catalogue.arithmetic.find? (·.id == "cxx_remove_void_call") = none := by decide
  cases hobstacle with
  | notEnabled => rfl
  | noCopy hmutator =>
    obtain ⟨m, hm, hid⟩ := hmutator
    exact absurd (beq_iff_eq.mpr hid) (List.find?_eq_none.mp hnone m hm)
  | noMatch hm => exact absurd (hnone.symm.trans hm) nofun

end Synthesis

end MutationTesting
