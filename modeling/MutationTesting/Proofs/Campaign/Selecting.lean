import MutationTesting.Mutation.Catalogue
import MutationTesting.Proofs.Process.Received
import MutationTesting.Proofs.Synthesis.Produced

/-!
# Which mutants are active in the process of a mutant

The process of a mutant is to run with its own mutant and no other. Trampolines look at the variables
that are set when the process begins, and a process that is not isolated finds the variables of the
campaign itself. So its mutant is the only active one exactly if none of these selects a mutant of
another function, or one that its trampoline would prefer.

* `Synthesis.target_trampolineOf` — where the trampoline of a mutated function leads to
* `Synthesis.Produces.activates_iff` — **when a mutant is the only active one in its process**
-/

namespace MutationTesting

/-! ## Where trampolines lead to -/

namespace Synthesis

/-- The trampoline of a mutated function leads to the first of its points that is selected. -/
theorem target_trampolineOf (points : List Point) (name : String) (isSet : String → Bool) :
    (trampolineOf points name).target isSet =
      match points.find? fun q => q.function.name == name && isSet q.selector with
      | some q => q.mutantName
      | none => Point.unmutatedName name := by
  simp only [Trampoline.target, trampolineOf, List.find?_map, List.find?_filter,
    Function.comp_def, Bool.decide_and, Bool.decide_eq_true]
  cases points.find? fun q => q.function.name == name && isSet q.selector <;> rfl

theorem target_trampolineOf_eq_unmutated_iff {points : List Point} {name : String}
    {isSet : String → Bool} :
    (trampolineOf points name).target isSet = Point.unmutatedName name ↔
      ∀ q ∈ points, q.function.name = name → isSet q.selector = false := by
  rw [target_trampolineOf]
  cases hfind : points.find? fun q => q.function.name == name && isSet q.selector with
  | none => simpa using hfind
  | some q =>
    have hmem := List.mem_of_find?_eq_some hfind
    have hselected := List.find?_some hfind
    simp only [Bool.and_eq_true, beq_iff_eq] at hselected
    constructor
    · exact fun he => absurd he (q.mutantName_ne_unmutatedName name)
    · intro hnone
      rw [hnone q hmem hselected.1] at hselected
      cases hselected.2

namespace Produces

variable {mutators : List Mutator} {modules others built : List Module} {points : List Point}
  {image : Image}

/-- A point is not among those before it. -/
theorem ne_of_mem_before (h : Produces mutators modules others built points image)
    {before after : List Point} {p : Point} (hpoints : points = before ++ p :: after) {q : Point}
    (hq : q ∈ before) : q ≠ p := by
  have hnodup := h.distinct.of_map
  rw [hpoints, List.nodup_append] at hnodup
  exact hnodup.2.2 q hq p List.mem_cons_self

/-- The trampoline leads to the mutant of a point that is selected, if none is before it. -/
theorem target_eq_mutant_iff (h : Produces mutators modules others built points image)
    {before after : List Point} {p : Point} (hpoints : points = before ++ p :: after)
    {isSet : String → Bool} :
    (trampolineOf points p.function.name).target isSet = p.mutantName ↔
      isSet p.selector = true ∧
        ∀ q ∈ before, q.function.name = p.function.name → isSet q.selector = false := by
  have hp : p ∈ points := by simp [hpoints]
  have hbefore : (before.find? fun q => q.function.name == p.function.name && isSet q.selector)
      = none ↔ ∀ q ∈ before, q.function.name = p.function.name → isSet q.selector = false := by
    simp
  rw [target_trampolineOf, ← hbefore]
  constructor
  · intro htarget
    cases hfind : points.find? fun q => q.function.name == p.function.name && isSet q.selector with
    | none =>
      rw [hfind] at htarget
      exact absurd htarget.symm (p.mutantName_ne_unmutatedName _)
    | some q =>
      rw [hfind] at htarget
      obtain rfl := h.eq_of_mutantName (List.mem_of_find?_eq_some hfind) hp htarget
      have hselected := List.find?_some hfind
      rw [hpoints, List.find?_append] at hfind
      refine ⟨by simpa using hselected, ?_⟩
      -- a point is not before itself
      cases hfirst : before.find? fun x => x.function.name == q.function.name && isSet x.selector with
      | none => rfl
      | some x =>
        rw [hfirst, Option.some_or] at hfind
        obtain rfl := Option.some.inj hfind
        exact absurd rfl (h.ne_of_mem_before hpoints (List.mem_of_find?_eq_some hfirst))
  · rintro ⟨hset, hnone⟩
    rw [hpoints, List.find?_append, hnone, Option.none_or,
      List.find?_cons_of_pos (by simp [hset])]

/-- In the image a trampoline is found by its function. -/
theorem target?_eq_some_iff (h : Produces mutators modules others built points image)
    {isSet : String → Bool} {t : Trampoline} (ht : t ∈ image.trampolines) {target : String} :
    (Machine.load image isSet).target? t.function = some target ↔ t.target isSet = target := by
  rw [Machine.target?_load_iff h.resolved.trampolines]
  constructor
  · rintro ⟨t', ht', hfunction, rfl⟩
    rw [List.inj_on_of_nodup_map h.resolved.trampolines ht ht' hfunction.symm]
  · rintro rfl
    exact ⟨t, ht, rfl, rfl⟩

/-- Of the points only `p` has the variable that is set for the process of `p`. -/
theorem environment_has_selector (hselectors : (points.map Point.selector).Nodup) (r : MutantRuns)
    {p q : Point} (hp : p ∈ points) (hq : q ∈ points) (hne : q ≠ p) :
    (r.environment p).has q.selector = r.inherited.has q.selector := by
  have hselector : q.selector ≠ p.selector :=
    fun he => hne (List.inj_on_of_nodup_map hselectors hq hp he)
  rw [r.environment_has, beq_eq_false_iff_ne.mpr hselector, Bool.false_or]

/-- All trampolines but one lead to unmutated functions exactly if no point elsewhere is selected, and
no trampoline of the program itself leaves its unmutated function. -/
theorem unmutated_elsewhere_iff (h : Produces mutators modules others built points image)
    {isSet : String → Bool} {name : String} :
    (∀ t ∈ image.trampolines, t.function ≠ name →
        (Machine.load image isSet).target? t.function = some t.unmutated) ↔
      (∀ q ∈ points, q.function.name ≠ name → isSet q.selector = false) ∧
        ∀ m ∈ modules ++ others, ∀ t ∈ m.trampolines, t.function ≠ name →
          t.target isSet = t.unmutated := by
  constructor
  · intro hunmutated
    have htarget : ∀ t ∈ image.trampolines, t.function ≠ name → t.target isSet = t.unmutated :=
      fun t ht hne => (h.target?_eq_some_iff ht).mp (hunmutated t ht hne)
    refine ⟨fun q hq hne => ?_,
      fun m hm t ht => htarget t (h.mem_trampolines_iff.mpr (Or.inl ⟨m, hm, ht⟩))⟩
    have hown := htarget _ (h.mem_trampolines_iff.mpr (Or.inr ⟨q, hq, rfl⟩)) hne
    exact target_trampolineOf_eq_unmutated_iff.mp hown q hq rfl
  · rintro ⟨hpoints, hprogram⟩ t ht hne
    refine (h.target?_eq_some_iff ht).mpr ?_
    rcases h.mem_trampolines_iff.mp ht with ⟨m, hm, htm⟩ | ⟨q, hq, rfl⟩
    · exact hprogram m hm t htm hne
    · exact target_trampolineOf_eq_unmutated_iff.mpr fun x hx hname =>
        hpoints x hx (hname.trans_ne hne)

/-- **A mutant is the only active one in its process exactly if the process finds no variable, beside
the one that is set for it, of a point that comes before or that is in another function, and none
that makes a trampoline of the program itself leave its unmutated function.** In an isolated process
no variable of a point is found beside the one that is set. -/
theorem activates_iff (h : Produces mutators modules others built points image)
    (hselectors : (points.map Point.selector).Nodup) (r : MutantRuns) {before after : List Point}
    {p : Point} (hpoints : points = before ++ p :: after) :
    (((Machine.load image (r.environment p).has).target? p.function.name = some p.mutantName ∧
        ∀ t ∈ image.trampolines, t.function ≠ p.function.name →
          (Machine.load image (r.environment p).has).target? t.function = some t.unmutated) ↔
      (∀ q ∈ before, r.inherited.has q.selector = false) ∧
        (∀ q ∈ after, q.function.name ≠ p.function.name → r.inherited.has q.selector = false) ∧
        ∀ m ∈ modules ++ others, ∀ t ∈ m.trampolines, t.function ≠ p.function.name →
          t.target (r.environment p).has = t.unmutated) ∧
    (r.sandbox = .isolated → ∀ q ∈ points, r.inherited.has q.selector = false) := by
  have hp : p ∈ points := by simp [hpoints]
  have hown : trampolineOf points p.function.name ∈ image.trampolines :=
    h.mem_trampolines_iff.mpr (Or.inr ⟨p, hp, rfl⟩)
  have hset : (r.environment p).has p.selector = true := by
    rw [r.environment_has, beq_self_eq_true, Bool.true_or]
  have hothers : ∀ q ∈ points, q ≠ p →
      (r.environment p).has q.selector = r.inherited.has q.selector :=
    fun q hq hne => environment_has_selector hselectors r hp hq hne
  have hbefore : ∀ q ∈ before, q ∈ points ∧ q ≠ p :=
    fun q hq => ⟨by simp [hpoints, hq], h.ne_of_mem_before hpoints hq⟩
  refine ⟨(and_congr ((h.target?_eq_some_iff hown).trans (h.target_eq_mutant_iff hpoints))
    h.unmutated_elsewhere_iff).trans ⟨?_, ?_⟩, ?_⟩
  · rintro ⟨⟨-, hfirst⟩, helsewhere, hprogram⟩
    have hunset : ∀ q ∈ points, q.function.name ≠ p.function.name →
        r.inherited.has q.selector = false := by
      intro q hq hne
      rw [← hothers q hq fun he => hne (he ▸ rfl)]
      exact helsewhere q hq hne
    refine ⟨fun q hq => ?_, fun q hq => hunset q (by simp [hpoints, hq]), hprogram⟩
    by_cases hname : q.function.name = p.function.name
    · rw [← hothers q (hbefore q hq).1 (hbefore q hq).2]
      exact hfirst q hq hname
    · exact hunset q (hbefore q hq).1 hname
  · rintro ⟨hfirst, hlater, hprogram⟩
    refine ⟨⟨hset, fun q hq _ => ?_⟩, fun q hq hne => ?_, hprogram⟩
    · rw [hothers q (hbefore q hq).1 (hbefore q hq).2]
      exact hfirst q hq
    · rw [hothers q hq fun he => hne (he ▸ rfl)]
      rw [hpoints, List.mem_append, List.mem_cons] at hq
      rcases hq with hq | rfl | hq
      · exact hfirst q hq
      · exact absurd rfl hne
      · exact hlater q hq hne
  · intro hisolated q hq
    by_contra hfound
    exact q.selector_ne_path (MutantRuns.inherited_isolated hisolated (by simpa using hfound))

end Produces

end Synthesis

/-! ### A variable left over from another mutant -/

namespace Stray

def next : Function where
  name := "next"
  params := 1
  blocks := [⟨[⟨.binary 0 .add (.parameter 0) (.constant 1), none⟩, ⟨.ret (.register 0), none⟩]⟩]

def main : Function where
  name := "main"
  params := 0
  blocks := [⟨[⟨.binary 0 .sub (.constant 3) (.constant 2), none⟩,
    ⟨.call (some 1) "next" [.register 0], none⟩, ⟨.ret (.register 1), none⟩]⟩]

def unit : Module where
  name := "unit"
  sourceFile := "unit.c"
  functions := [main, next]

/-- The point at which the main function adds. -/
def inMain : Point where
  mutator := "cxx_sub_to_add"
  function := ⟨0, "main"⟩
  address := ⟨0, 0⟩
  replacement := "Replaced - with +"

/-- The point at which the other function subtracts. -/
def inNext : Point where
  mutator := "cxx_add_to_sub"
  function := ⟨0, "next"⟩
  address := ⟨0, 0⟩
  replacement := "Replaced + with -"

def unitWithMutants : Module where
  name := "unit"
  sourceFile := "unit.c"
  functions := [main.stub, next.stub, main.rename (Point.unmutatedName "main"),
    next.rename (Point.unmutatedName "next"),
    (main.setInstruction ⟨0, 0⟩ ⟨.binary 0 .add (.constant 3) (.constant 2), none⟩).rename
      inMain.mutantName,
    (next.setInstruction ⟨0, 0⟩ ⟨.binary 0 .sub (.parameter 0) (.constant 1), none⟩).rename
      inNext.mutantName]
  trampolines := [Synthesis.trampolineOf [inMain] "main", Synthesis.trampolineOf [inNext] "next"]
  mutations := [inMain, inNext]

def image : Image where
  functions := unitWithMutants.functions
  trampolines := unitWithMutants.trampolines

theorem produces : Synthesis.Produces Catalogue.mutators [unit] [] [unitWithMutants] [inMain, inNext]
    image where
  plain := Catalogue.point_not_mem_id
  distinct := by decide
  fresh := by simp [unit]
  builds := ⟨"", "", "", "", 1, 1, 1, _, _, _, _, ⟨_, rfl, rfl, rfl⟩, ⟨_, rfl, rfl, rfl⟩,
    ⟨_, rfl, rfl, rfl⟩, ⟨_, rfl, rfl, rfl⟩⟩
  verified := by
    rw [List.forall_mem_singleton]
    rfl
  linked := rfl

/-- Runs that find in their surroundings what selects the mutant of the other function. -/
def runs (sandbox : Sandbox) : MutantRuns where
  around := { disk := {}, env := [("PATH", "/bin"), (inNext.selector, "1")], sandboxDirectory := [] }
  sandbox
  executable := "/work/program"
  timeout := 1000
  capture := false

theorem nodup_selector : ([inMain, inNext].map Point.selector).Nodup := by
  decide

/-- With both variables set it does not matter what else is. -/
theorem load_eq {isSet : String → Bool} (hmain : isSet inMain.selector = true)
    (hnext : isSet inNext.selector = true) :
    Machine.load image isSet = Machine.load image fun _ => true := by
  have htarget : ∀ p : Point, isSet p.selector = true →
      (Synthesis.trampolineOf [p] p.function.name).target isSet = p.mutantName := by
    intro p hp
    rw [Synthesis.target_trampolineOf, List.find?_cons_of_pos (by simp [hp])]
  show Machine.mk _ [("next", _), ("main", _)] = Machine.mk _ [("next", _), ("main", _)]
  rw [show (Synthesis.trampolineOf [inNext] "next").target isSet = _ from htarget inNext hnext,
    show (Synthesis.trampolineOf [inMain] "main").target isSet = _ from htarget inMain hmain]
  rfl

theorem inherited_has_next : (runs .none).inherited.has inNext.selector = true := by
  have hnext := Launch.received?_of_plain inNext.plain_selector "1"
  simp [MutantRuns.inherited, Sandbox.prepare, runs, Launch.receivedAll, hnext, Environment.has]

end Stray

namespace Synthesis.Produces

/-- Isolated, the mutant is the only active one. -/
theorem stray_isolated_activates :
    Produces Catalogue.mutators [Stray.unit] [] [Stray.unitWithMutants]
      [Stray.inMain, Stray.inNext] Stray.image ∧
    ([Stray.inMain, Stray.inNext].map Point.selector).Nodup ∧
    let m := Machine.load Stray.image ((Stray.runs .isolated).environment Stray.inMain).has
    m.target? "main" = some Stray.inMain.mutantName ∧
      m.target? "next" = some (Point.unmutatedName "next") := by
  have hpoints : [Stray.inMain, Stray.inNext] = [] ++ Stray.inMain :: [Stray.inNext] := rfl
  obtain ⟨hiff, hisolated⟩ :=
    Stray.produces.activates_iff Stray.nodup_selector (Stray.runs .isolated) hpoints
  have hactive := hiff.mpr ⟨by simp, fun q hq _ => hisolated rfl q (by simp_all), by
    simp [Stray.unit]⟩
  exact ⟨Stray.produces, Stray.nodup_selector, hactive.1,
    hactive.2 (trampolineOf [Stray.inNext] "next") (by simp [Stray.image, Stray.unitWithMutants])
      (by decide)⟩

/-- With its surroundings, the process finds the left-over variable, and two mutants are active. -/
theorem stray_activates_two :
    Produces Catalogue.mutators [Stray.unit] [] [Stray.unitWithMutants]
      [Stray.inMain, Stray.inNext] Stray.image ∧
    ([Stray.inMain, Stray.inNext].map Point.selector).Nodup ∧
    let m := Machine.load Stray.image ((Stray.runs .none).environment Stray.inMain).has
    m.target? "main" = some Stray.inMain.mutantName ∧
      m.target? "next" = some Stray.inNext.mutantName ∧
      (m.runMain 1 []).ending = .ok 4 := by
  have hmain : ((Stray.runs .none).environment Stray.inMain).has Stray.inMain.selector = true := by
    simp [MutantRuns.environment_has]
  have hnext : ((Stray.runs .none).environment Stray.inMain).has Stray.inNext.selector = true := by
    simp [MutantRuns.environment_has, Stray.inherited_has_next]
  rw [Stray.load_eq hmain hnext]
  exact ⟨Stray.produces, Stray.nodup_selector, rfl, rfl, rfl⟩

end Synthesis.Produces

end MutationTesting
