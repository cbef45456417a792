import MutationTesting.Proofs.Campaign.Finishing
import MutationTesting.Proofs.Campaign.Looking
import MutationTesting.Proofs.Campaign.Steps
import MutationTesting.Proofs.Process.Received

/-!
# Results of a campaign

The points that a campaign reports are those that it has found and no filter has skipped, and its
results are the executions of their mutants, one for each point in their order. Between the two lie
all stages of the synthesis and of the execution, each with its own workers; what holds the results
to the points is that every stage has handled its items in sequence.

* `Campaign.listedPoints` — the points that are found and not skipped
* `Campaign.Admits` — no filter skips a point, its function or its instruction
* `Campaign.runPoints_of_run` — a campaign that is not given up has run the mutants of these points
* `Campaign.reports_of_runPoints` — what mutants are run to
* `Campaign.Reports`, `Campaign.reports_of_run` — what a campaign reports that is not given up
* `Campaign.results_line_up` — **results and points line up**
-/

namespace MutationTesting

open Checks Session Workers

/-! ## Executions -/

/-- No process leaves the placeholder of a mutant that is only listed. -/
theorem Execution.status_ofEnded_ne_dryRun (e : Ended) (capture : Bool) (limit : Nat) :
    (ofEnded e capture limit).status ≠ .dryRun := by
  obtain ⟨exit, stdout, stderr⟩ := e
  cases exit with
  | code n => cases n <;> simp [ofEnded, classify]
  | signal => simp [ofEnded, classify]
  | never => simp [ofEnded, classify]

/-- A result of a point: its mutant has been run. -/
def MutationResult.IsRunOf (p : Point) (result : MutationResult) : Prop :=
  result.point = p ∧ result.execution.status ≠ .dryRun

/-- A mutant that has been run was applied, and has one result. -/
theorem MutantRuns.run_done {r : MutantRuns} {p : Point} {outputs : List MutationResult}
    (h : (r.run p).ending = .done outputs) :
    p.applied = true ∧ ∃ result, outputs = [result] ∧ result.IsRunOf p := by
  by_cases hp : p.applied = true
  · rw [r.run_eq hp] at h
    cases hlaunch : Launch.run (r.sandbox.prepare r.around).1 (r.launch p) with
    | ok ended =>
      rw [hlaunch] at h
      cases h
      exact ⟨hp, _, rfl, rfl, Execution.status_ofEnded_ne_dryRun _ _ _⟩
    | error reason =>
      rw [hlaunch] at h
      cases h
  · rw [run, if_neg hp] at h
    cases h

/-! ## Marks -/

/-- Points whose mutations have been carried out are marked. -/
theorem Synthesis.marked_of_handlesAll {mutators : List Mutator} {points points' : List Point}
    {modules modules' : List Module} {outputs : List Unit}
    (h : HandlesAll (apply mutators) points modules outputs points' modules') :
    points' = points.map Point.markApplied := by
  induction h with
  | nil => rfl
  | @cons p points _ modules _ _ _ hdone _ ih =>
    rw [List.map_cons, ← ih]
    congr 1
    unfold apply at hdone ⊢
    cases hmutate : mutateCopy mutators modules p with
    | ok modules' => rfl
    | error reason => simp [hmutate] at hdone

namespace Campaign

variable {c : Campaign}

theorem marked_of_synthesize {points points' : List Point} {w w' : World}
    (h : (c.synthesize points).run w = (.ok points', w')) :
    points' = points.map Point.markApplied := by
  obtain ⟨_, _, -, h⟩ := run_bind_ok h
  obtain ⟨_, _, -, h⟩ := run_bind_ok h
  obtain ⟨_, _, -, h⟩ := run_bind_ok h
  obtain ⟨_, _, -, h⟩ := run_bind_ok h
  obtain ⟨⟨applied, outcome⟩, _, happly, h⟩ := run_bind_ok h
  obtain ⟨_, _, hcheck, h⟩ := run_bind_ok h
  cases h
  obtain ⟨hok, -⟩ := run_ofExcept_ok hcheck
  obtain ⟨_, hdone⟩ := (leaves_of_applyAll hok happly).handlesAll (Synthesis.apply c.mutators)
    fun _ => rfl
  exact Synthesis.marked_of_handlesAll hdone

/-! ## Listed points -/

/-- No filter of a campaign skips a point, its function or its instruction. -/
structure Admits (c : Campaign) (program : Program) (p : Point) : Prop where
  /-- The function and the instruction of the point are there and are not skipped. -/
  place : ∃ f i, program.function? p.function = some f ∧ f.instruction? p.address = some i ∧
    c.filters.function.any (·.skips f) = false ∧ c.filters.instruction.any (·.skips i) = false
  /-- The point is not skipped. -/
  point : c.filters.mutation.any (·.skips p) = false

/-- What is found in a selected candidate is at an instruction that no filter skips, and is not
marked. -/
theorem place_of_mem_points {program : Program} {candidate : Candidate}
    {filters : List (Filter Instruction)} {mutators : List Mutator} {p : Point}
    (h : p ∈ (candidate.select program filters).points program mutators) :
    p.applied = false ∧ p.function = candidate.function ∧ ∃ f i,
      program.function? candidate.function = some f ∧ f.instruction? p.address = some i ∧
        filters.any (·.skips i) = false := by
  unfold Candidate.points at h
  split at h
  · next f hf =>
    obtain ⟨m, -, h⟩ := List.mem_flatMap.mp h
    obtain ⟨q, hq, rfl⟩ := List.mem_map.mp h
    obtain ⟨a, ha, hpoint⟩ := List.mem_filterMap.mp hq
    obtain ⟨i, hi, hpoint⟩ := Option.bind_eq_some_iff.mp hpoint
    obtain ⟨replacement, -, hpoint⟩ := Option.bind_eq_some_iff.mp hpoint
    cases hpoint
    -- the address has been selected for the instruction that stands there
    have hfunction : program.function? candidate.function = some f := hf
    rw [Candidate.select, hfunction] at ha
    obtain ⟨⟨a', i'⟩, hselected, rfl⟩ := List.mem_map.mp ha
    obtain ⟨haddressed, hskips⟩ := List.mem_filter.mp hselected
    obtain rfl : i = i' :=
      Option.some.inj (hi.symm.trans (Function.mem_addressed_iff.mp haddressed))
    exact ⟨rfl, rfl, f, i, hf, hi, by simpa using hskips⟩
  · cases h

/-- **No filter skips a listed point**, and none of them is marked. -/
theorem admits_of_mem_listedPoints {modules : List Module} {disk : Disk} {p : Point}
    (hp : p ∈ c.listedPoints modules disk) :
    c.Admits (c.programWith modules) { p with applied := false } ∧ p.applied = false := by
  obtain ⟨hp, hpoint⟩ := List.mem_filter.mp hp
  obtain ⟨q, hq, tests, rfl⟩ := mem_mergeDuplicates hp
  obtain ⟨candidate, hcandidate, hq⟩ := List.mem_flatMap.mp hq
  obtain ⟨candidate, hkept, rfl⟩ := List.mem_map.mp hcandidate
  obtain ⟨happlied, hfunction, f, i, hf, hi, hskips⟩ := place_of_mem_points hq
  obtain ⟨-, hkeeps⟩ := List.mem_filter.mp hkept
  have hunmarked : { q.reachedBy tests with applied := false } = q.reachedBy tests := by
    rw [← happlied]
    rfl
  rw [hunmarked]
  refine ⟨⟨⟨f, i, ?_, hi, ?_, hskips⟩, by simpa using hpoint⟩, happlied⟩
  · rw [← hf, ← hfunction]
    rfl
  · rw [List.any_eq_false]
    intro filter hfilter
    have hkeep := List.all_eq_true.mp hkeeps filter hfilter
    rw [Filter.keeps, hf] at hkeep
    simpa using hkeep

/-! ## Runs of a campaign -/

/-- Every test has an outcome. -/
theorem names_of_sanityCheck {names : List String} {tests : List TestOutcome} {w w' : World}
    (h : (c.sanityCheck names).run w = (.ok tests, w')) : tests.map (·.name) = names := by
  have houtcomes : ∀ e : Execution, (names.map fun name =>
      ({ name, execution := some e } : TestOutcome)).map (·.name) = names := by
    intro e
    rw [List.map_map]
    exact List.map_id names
  unfold sanityCheck at h
  dsimp only at h
  split at h
  · cases h
    exact houtcomes _
  · obtain ⟨execution, _, -, h⟩ := run_bind_ok h
    split at h
    · obtain ⟨_, _, -, h⟩ := run_bind_ok h
      cases h
      exact houtcomes _
    · cases h
      exact houtcomes _

theorem eq_nil_of_filterPoints : ∀ {fs : List (Filter Point)} {points : List Point}
    {w w' : World}, (c.filterPoints fs []).run w = (.ok points, w') → points = []
  | [], _, _, _, h => by
    cases h
    rfl
  | _ :: _, _, _, _, h => by
    obtain ⟨kept, _, hcollect, h⟩ := run_bind_ok h
    obtain ⟨⟨_, hdone⟩, -⟩ := handlesAll_of_collect hcollect _ fun _ => rfl
    cases hdone
    exact eq_nil_of_filterPoints h

/-- What is found and kept by the filters of points. -/
theorem filtered_of_run {tests : Nat} {found points : List Point} {w w₁ w₂ : World}
    (hfound : (c.findPoints tests).run w = (.ok found, w₁))
    (hpoints : (c.filterPoints c.filters.mutation found).run w₁ = (.ok points, w₂)) :
    points = (c.mergedPoints w.modules w.disk tests).filter fun p =>
      !c.filters.mutation.any (·.skips p) := by
  by_cases hroom : c.HasRoom
  · obtain ⟨he, -, -⟩ := (gives_findPoints hroom tests).of_run hfound
    cases he
    obtain ⟨he, -, -⟩ := (gives_filterPoints hroom c.filters.mutation _).of_run hpoints
    cases he
    rfl
  · obtain ⟨he, -, -⟩ := (gives_findPoints_crowded hroom tests).of_run hfound
    cases he

/-- **A campaign that is not given up** has an outcome for each of its tests, and has run the
mutants of the listed points. -/
theorem runPoints_of_run {r : RunResult} {w w' : World} (h : c.run.run w = (.ok r, w')) :
    r.tests.map (·.name) = c.findTests (c.programWith w.modules) ∧
      ∃ w₁, (c.runPoints (c.listedPoints w.modules w.disk)).run w₁
        = (.ok (r.results, r.points), w') := by
  obtain ⟨names, w₁, hnames, h⟩ := run_bind_ok h
  obtain ⟨hnames, hmodules₁, hdisk₁⟩ := gives_names.of_run hnames
  obtain rfl : names = c.findTests (c.programWith w.modules) := Except.ok.inj hnames
  by_cases hempty : (c.findTests (c.programWith w.modules)).isEmpty = true
  · -- without tests nothing is found
    have hnil : c.findTests (c.programWith w.modules) = [] := List.isEmpty_iff.mp hempty
    have hlisted : c.listedPoints w.modules w.disk = [] := by
      rw [listedPoints, mergedPoints, hnil]
      rfl
    rw [if_pos hempty] at h
    obtain ⟨_, w₄, -, h⟩ := run_bind_ok h
    obtain ⟨points, w₅, hpoints, h⟩ := run_bind_ok h
    obtain rfl := eq_nil_of_filterPoints hpoints
    cases h
    rw [hnil, hlisted]
    exact ⟨rfl, w', rfl⟩
  · rw [if_neg hempty] at h
    obtain ⟨tests, w₄, htests, h⟩ := run_bind_ok h
    obtain ⟨hmodules₄, hdisk₄⟩ := (c.looks_sanityCheck _).of_run htests
    obtain ⟨found, w₅, hfound, h⟩ := run_bind_ok h
    obtain ⟨points, w₆, hpoints, h⟩ := run_bind_ok h
    obtain ⟨⟨results, points'⟩, w₇, hrun, h⟩ := run_bind_ok h
    cases h
    have hlisted : points = c.listedPoints w.modules w.disk := by
      rw [filtered_of_run hfound hpoints, hmodules₄, hdisk₄, hmodules₁, hdisk₁]
      rfl
    subst hlisted
    exact ⟨names_of_sanityCheck htests, w₆, hrun⟩

/-- **What the mutants of points are run to**: in a dry run to placeholders, and else, once the points
are marked, to executions, in the order of the points. -/
theorem reports_of_runPoints {points points' : List Point} {results : List MutationResult}
    {w w' : World} (h : (c.runPoints points).run w = (.ok (results, points'), w')) :
    if c.config.dryRun then points' = points ∧ results = points.map fun p => ⟨p, .dry⟩
    else points' = points.map Point.markApplied ∧
      List.Forall₂ MutationResult.IsRunOf points' results := by
  unfold runPoints at h
  by_cases hempty : points.isEmpty = true
  · obtain rfl : points = [] := List.isEmpty_iff.mp hempty
    rw [if_pos hempty] at h
    cases h
    split
    · exact ⟨rfl, rfl⟩
    · exact ⟨rfl, .nil⟩
  · rw [if_neg hempty] at h
    split at h
    · next hdry =>
      obtain ⟨results, _, hcollect, h⟩ := run_bind_ok h
      cases h
      obtain ⟨⟨_, hdone⟩, -⟩ := handlesAll_of_collect hcollect _ fun _ => rfl
      rw [if_pos hdry]
      exact ⟨rfl, (hdone.outputs_eq fun _ => rfl).trans List.map_eq_flatMap.symm⟩
    · next hdry =>
      obtain ⟨marked, _, hsynthesize, h⟩ := run_bind_ok h
      obtain ⟨executable, _, -, h⟩ := run_bind_ok h
      obtain ⟨around, _, -, h⟩ := run_bind_ok h
      obtain ⟨results, _, hcollect, h⟩ := run_bind_ok h
      cases h
      obtain ⟨⟨_, hdone⟩, -⟩ := handlesAll_of_collect hcollect _ fun _ => rfl
      rw [if_neg hdry]
      exact ⟨marked_of_synthesize hsynthesize,
        hdone.forall₂_outputs fun _ _ hended => (MutantRuns.run_done hended).2⟩

/-- What a campaign that is not given up reports: its tests, and what the mutants of the listed points
have been run to. -/
structure Reports (c : Campaign) (w : World) (r : RunResult) : Prop where
  /-- Every test has an outcome. -/
  tests : r.tests.map (·.name) = c.findTests (c.programWith w.modules)
  /-- A dry run lists the points. -/
  dry : c.config.dryRun = true → r.points = c.listedPoints w.modules w.disk ∧
    r.results = r.points.map fun p => ⟨p, .dry⟩
  /-- Another run has carried out their mutations and run the mutants. -/
  normal : c.config.dryRun = false →
    r.points = (c.listedPoints w.modules w.disk).map Point.markApplied ∧
      List.Forall₂ MutationResult.IsRunOf r.points r.results

theorem reports_of_run {r : RunResult} {w w' : World} (h : c.run.run w = (.ok r, w')) :
    c.Reports w r := by
  obtain ⟨htests, w₁, hrun⟩ := runPoints_of_run h
  have hreports := reports_of_runPoints hrun
  refine ⟨htests, fun hdry => ?_, fun hnormal => ?_⟩
  · rw [if_pos hdry] at hreports
    obtain ⟨hpoints, hresults⟩ := hreports
    exact ⟨hpoints, by rw [hresults, hpoints]⟩
  · rwa [if_neg (by rw [hnormal]; decide)] at hreports

namespace Reports

variable {r : RunResult} {w : World} (h : c.Reports w r)

include h

/-- The results carry the points. -/
theorem map_point : r.results.map (·.point) = r.points := by
  cases hmode : c.config.dryRun with
  | true =>
    rw [(h.dry hmode).2, List.map_map]
    exact List.map_id _
  | false =>
    have hsame := map_eq_map_of_forall₂ (f := id)
      ((h.normal hmode).2.imp fun _ _ hrun => hrun.1.symm)
    rw [← hsame, List.map_id]

/-- A point that is reported has been listed, and may have been marked since then. -/
theorem exists_listed {p : Point} (hp : p ∈ r.points) :
    ∃ q ∈ c.listedPoints w.modules w.disk,
      { p with applied := false } = { q with applied := false } := by
  cases hmode : c.config.dryRun with
  | true =>
    rw [(h.dry hmode).1] at hp
    exact ⟨p, hp, rfl⟩
  | false =>
    rw [(h.normal hmode).1] at hp
    obtain ⟨q, hq, rfl⟩ := List.mem_map.mp hp
    exact ⟨q, hq, rfl⟩

end Reports

/-- **Results and points line up.** The results of a campaign that is not given up carry its points,
one by one in their order. The points are those that have been found without those that a filter
skips, so a point that is skipped, marked or not, occurs nowhere. In a dry run no point is marked and
every result is a placeholder, else all points are marked and no result is one. Every test that has
been found has its outcome. -/
theorem results_line_up {r : RunResult} {w w' : World} (h : c.run.run w = (.ok r, w')) :
    r.results.map (·.point) = r.points ∧
    (∀ p, ¬ c.Admits (c.programWith w.modules) { p with applied := false } →
      p ∉ r.points ∧ p ∉ r.results.map (·.point)) ∧
    (c.config.dryRun = true → r.points = c.listedPoints w.modules w.disk ∧
      (∀ p ∈ r.points, p.applied = false) ∧ ∀ result ∈ r.results, result.execution = .dry) ∧
    (c.config.dryRun = false →
      r.points = (c.listedPoints w.modules w.disk).map Point.markApplied ∧
      (∀ p ∈ r.points, p.applied = true) ∧
      ∀ result ∈ r.results, result.execution.status ≠ .dryRun) ∧
    r.tests.map (·.name) = c.findTests (c.programWith w.modules) := by
  have hreports := reports_of_run h
  refine ⟨hreports.map_point, fun p hskipped => ?_, fun hdry => ?_, fun hnormal => ?_,
    hreports.tests⟩
  · rw [hreports.map_point, and_self]
    intro hp
    obtain ⟨q, hq, hsame⟩ := hreports.exists_listed hp
    exact hskipped (hsame ▸ (admits_of_mem_listedPoints hq).1)
  · obtain ⟨hpoints, hresults⟩ := hreports.dry hdry
    refine ⟨hpoints, fun p hp => ?_, fun result hresult => ?_⟩
    · rw [hpoints] at hp
      exact (admits_of_mem_listedPoints hp).2
    · rw [hresults] at hresult
      obtain ⟨p, -, rfl⟩ := List.mem_map.mp hresult
      rfl
  · obtain ⟨hpoints, hresults⟩ := hreports.normal hnormal
    refine ⟨hpoints, fun p hp => ?_, fun result hresult => ?_⟩
    · rw [hpoints] at hp
      obtain ⟨q, -, rfl⟩ := List.mem_map.mp hp
      rfl
    · obtain ⟨p, -, -, hstatus⟩ := exists_mem_of_forall₂ hresults.flip hresult
      exact hstatus

/-- A point that is left out. -/
def figuresSkipped : Point where
  mutator := "cxx_remove_void_call"
  function := ⟨0, "report"⟩
  address := ⟨0, 0⟩
  replacement := "Removed the call to 'area'"
  tests := [0]

theorem figures_line_up : ∃ r w', figuresRun.run.run figuresWorld = (.ok r, w') ∧
    r.points = figuresListed.map Point.markApplied ∧ r.results.map (·.point) = r.points ∧
    figuresSkipped.markApplied ∉ r.points ∧
    (∀ result ∈ r.results, result.execution.status ≠ .dryRun) ∧
    r.tests.map (·.name) = ["main"] := by
  obtain ⟨r, w', hrun⟩ := figures_finish
  obtain ⟨hlined, hskipped, -, hnormal, htests⟩ := results_line_up hrun
  obtain ⟨hpoints, -, hstatus⟩ := hnormal rfl
  have hfilter : ¬ figuresRun.Admits (figuresRun.programWith figuresWorld.modules)
      { figuresSkipped.markApplied with applied := false } :=
    fun h => absurd h.point (by decide)
  have hlisted : figuresRun.listedPoints figuresWorld.modules figuresWorld.disk = figuresListed :=
    listed_figures
  rw [hlisted] at hpoints
  exact ⟨r, w', hrun, hpoints, hlined, (hskipped _ hfilter).1, hstatus, htests.trans (by decide)⟩

end Campaign

end MutationTesting
