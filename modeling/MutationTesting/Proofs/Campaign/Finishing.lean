import MutationTesting.Proofs.Campaign.Building
import MutationTesting.Proofs.Campaign.Linking
import MutationTesting.Proofs.Workers.AnyOrder

/-!
# Campaigns that are not given up

A campaign comes to its end if its stages have room for their workers, the mutants of its points can
be built and linked, and the program that holds them can be started.

* `Campaign.run_buildMutants` — the program that holds all mutants
* `Campaign.exists_runPoints` — building and running mutants
* `Campaign.exists_run` — **a campaign whose mutants can be run is not given up**
-/

namespace MutationTesting

open Link Session Workers

/-- A stage that compiles modules, in a campaign. -/
theorem Session.run_compileStage {s : Stage Failure Disk Module String} {modules : List Module}
    {objects : List String} {w : World} (hroom : s.hasRoom = true)
    (houtcome : (s.run modules w.disk).outcome = .ok objects) :
    ∃ said, (compileAll s modules).run w
      = (.ok objects, { w with disk := (s.run modules w.disk).state, diagnostics := said }) := by
  refine ⟨w.diagnostics.recordAll (s.run modules w.disk).messages, ?_⟩
  have hresult : (s.run modules w.disk).outcome.mapError (Failure.ofStage id s.name)
      = .ok objects := by
    rw [houtcome, Except.mapError]
  have hstage : (stage id s modules w.disk).run w
      = (.ok (.ok objects, (s.run modules w.disk).items, (s.run modules w.disk).state),
        { w with diagnostics := w.diagnostics.recordAll (s.run modules w.disk).messages }) := by
    unfold stage
    rw [if_pos hroom, ← hresult]
    rfl
  unfold compileAll
  rw [run_get_bind, run_bind_of_ok hstage]
  rfl

namespace Campaign

variable {c : Campaign} {modules : List Module} {disk : Disk} {image : Image}

/-! ## Building mutants -/

/-- A campaign that adds nothing to its modules can build a program with an image from them. -/
structure CanBuild (c : Campaign) (disk : Disk) (modules : List Module) (image : Image) : Prop where
  libraries : c.dynamicLibraries = []
  objects : c.precompiledObjects = []
  room : ∃ made, Room disk made c.workDir c.executableName modules
  apart : Apart modules
  verified : ∀ m ∈ modules, m.verify = .ok ()
  resolved : resolve (kept modules) = .ok image

/-- The files once the modules of a campaign have been compiled. -/
def compiledDisk (c : Campaign) (disk : Disk) (modules : List Module) : Disk :=
  ((compileStage c.workDir "Compiling original code" c.config.stageWorkers).run modules disk).state

/-- The files once the program that holds all mutants has been linked. -/
def linkedDisk (c : Campaign) (disk : Disk) (modules : List Module) (image : Image) : Disk :=
  (install image c.runner c.workDir c.executableName (c.compiledDisk disk modules)).1

theorem run_compileLibraries (h : c.dynamicLibraries = []) (w : World) :
    c.compileLibraries.run w = (.ok [], w) := by
  unfold compileLibraries
  rw [h]
  rfl

/-- The modules of a campaign are compiled, and files are taken and stored as they should be. -/
theorem CanBuild.compiled (h : c.CanBuild disk modules image) (hroom : c.HasRoom) {made : Disk}
    (hmade : Room disk made c.workDir c.executableName modules) (said : Diagnostics) :
    Stores made c.workDir modules (c.compiledDisk disk modules) ∧
      ∃ said', (compileAll (compileStage c.workDir "Compiling original code" c.config.stageWorkers)
        modules).run ⟨modules, disk, said⟩
      = (.ok (modules.map (·.objectPath c.workDir)),
        ⟨modules, c.compiledDisk disk modules, said'⟩) := by
  have hworkers : c.config.stageWorkers * 8 ≤ recordSpace := hroom.of_le (by decide)
  let original := compileStage c.workDir "Compiling original code" c.config.stageWorkers
  have hsame : ∀ worker, original.handle worker = original.handle 0 := fun _ => rfl
  obtain ⟨d, hdone, hstores⟩ := handlesAll_compile "Compiling original code" c.config.stageWorkers
    hmade.objects h.apart h.verified (List.nil_append _) (stores_nil hmade.created)
  obtain ⟨houtcome, -, hstate⟩ := Stage.run_of_handlesAll hsame stageWorkers_pos hdone
  obtain rfl : c.compiledDisk disk modules = d := hstate
  exact ⟨hstores, run_compileStage (w := ⟨modules, disk, said⟩)
    (by exact decide_eq_true hworkers) houtcome⟩

/-- **The program that holds all mutants** is built from the modules of the campaign. -/
theorem run_buildMutants (hroom : c.HasRoom) (h : c.CanBuild disk modules image)
    (said : Diagnostics) :
    ∃ said', c.buildMutants.run ⟨modules, disk, said⟩ = (.ok (Path.join c.workDir c.executableName),
      ⟨modules, c.linkedDisk disk modules image, said'⟩) := by
  obtain ⟨made, hmade⟩ := h.room
  obtain ⟨hstores, said₁, hcompile⟩ := h.compiled hroom hmade said
  obtain ⟨made', hmade', hkeeps⟩ := hstores.ready
  obtain ⟨place, hplace⟩ := hmade.image
  obtain ⟨place', hplace'⟩ := hmade.script
  obtain ⟨d, hinstall, -⟩ := install_eq_ok image c.runner hmade' (hkeeps hplace) (hkeeps hplace')
  have hlinked : c.linkedDisk disk modules image = d := by rw [linkedDisk, hinstall]
  rw [hlinked]
  generalize c.compiledDisk disk modules = compiled at hstores hcompile hinstall
  obtain ⟨said₂, hlibraries⟩ : ∃ said₂,
      (announced "Loading dynamic libraries" c.compileLibraries).run ⟨modules, compiled, said₁⟩
        = (.ok [], ⟨modules, compiled, said₂⟩) :=
    run_announced ⟨modules, compiled, said₁⟩ fun said =>
      ⟨said, run_compileLibraries h.libraries _⟩
  obtain ⟨said₃, hlink⟩ : ∃ said₃, (announced "Link mutated program" (link
        (modules.map (·.objectPath c.workDir)) c.runner c.workDir c.executableName)).run
        ⟨modules, compiled, said₂⟩
      = (.ok (Path.join c.workDir c.executableName), ⟨modules, d, said₃⟩) := by
    refine run_announced ⟨modules, d, said₂⟩ fun said => ⟨said, ?_⟩
    rw [run_link hstores, h.resolved]
    dsimp only
    rw [hinstall]
    rfl
  refine ⟨said₃, ?_⟩
  unfold buildMutants
  rw [run_get_bind]
  dsimp only
  rw [run_bind_of_ok hcompile, run_bind_of_ok hlibraries, h.objects, List.append_nil,
    List.append_nil, hlink]

/-- How the mutants of a campaign are run. -/
def mutantRuns (c : Campaign) (disk : Disk) : MutantRuns where
  around := { disk, env := c.env, sandboxDirectory := c.sandboxDirectory }
  sandbox := c.config.sandbox
  executable := Path.join c.workDir c.executableName
  timeout := c.config.timeout
  capture := c.config.captureMutantOutput

/-! ## Running mutants -/

variable {points marked : List Point} {built : List Module}

/-- A dry run lists any points. -/
theorem exists_runPoints_dry (hdry : c.config.dryRun = true) (hroom : c.HasRoom)
    (points : List Point) (said : Diagnostics) :
    ∃ results points' w', (c.runPoints points).run ⟨modules, disk, said⟩
      = (.ok (results, points'), w') := by
  have hworkers : c.config.stageWorkers * 8 ≤ recordSpace := hroom.of_le (by decide)
  unfold runPoints
  rw [if_pos hdry]
  split
  · exact ⟨_, _, _, rfl⟩
  · have hcollect : (collect (dryRunStage "Running mutants (dry run)" c.config.stageWorkers)
        points).Gives modules disk (.ok (points.flatMap fun p => [⟨p, .dry⟩])) modules :=
      gives_collect (fun _ => rfl) stageWorkers_pos (by exact decide_eq_true hworkers)
        fun _ _ => rfl
    obtain ⟨said', hcollected⟩ := hcollect said
    rw [run_bind_of_ok hcollected]
    exact ⟨_, _, _, rfl⟩

/-- Mutants that can be built and started are run. -/
theorem exists_runPoints (hnormal : c.config.dryRun = false) (hroom : c.HasRoom)
    (hworkers : max 1 c.config.mutantExecutionWorkers.toNat * 72 ≤ recordSpace)
    (hsynthesize : (c.synthesize points).Gives modules disk (.ok marked) built)
    (hbuild : c.CanBuild disk built image)
    (hruns : ∀ p ∈ marked, ∃ results,
      ((c.mutantRuns (c.linkedDisk disk built image)).run p).ending = .done results)
    (said : Diagnostics) :
    ∃ results points' w', (c.runPoints points).run ⟨modules, disk, said⟩
      = (.ok (results, points'), w') := by
  unfold runPoints
  by_cases hempty : points.isEmpty = true
  · rw [if_pos hempty]
    exact ⟨[], points, _, rfl⟩
  · rw [if_neg hempty, hnormal, if_neg Bool.false_ne_true]
    obtain ⟨said₁, hsynthesized⟩ := hsynthesize said
    obtain ⟨said₂, hbuilt⟩ := run_buildMutants hroom hbuild said₁
    generalize c.linkedDisk disk built image = linked at hruns hbuilt
    have hcollect : (collect (executionStage (c.mutantRuns linked) "Running mutants"
        (max 1 c.config.mutantExecutionWorkers.toNat)) marked).Gives built linked
        (.ok (marked.flatMap fun p => ((c.mutantRuns linked).run p).ending.outputs)) built := by
      refine gives_collect (fun _ => rfl) (Nat.le_max_left _ _)
        (by exact decide_eq_true hworkers) fun p hp => ?_
      obtain ⟨results, hresults⟩ := hruns p hp
      rw [hresults, Ending.outputs]
    obtain ⟨said₃, hcollected⟩ := hcollect said₂
    have hsurroundings : c.surroundings.run ⟨built, linked, said₂⟩
        = (.ok (c.mutantRuns linked).around, ⟨built, linked, said₂⟩) := run_get_bind
    refine ⟨marked.flatMap fun p => ((c.mutantRuns linked).run p).ending.outputs, marked,
      ⟨built, linked, said₃⟩, ?_⟩
    rw [run_bind_of_ok hsynthesized, run_bind_of_ok hbuilt, run_bind_of_ok hsurroundings]
    exact run_bind_of_ok hcollected

theorem gives_sanityCheck_skipped (h : c.config.skipSanityCheck = true) (names : List String) :
    ∃ tests, (c.sanityCheck names).Gives modules disk (.ok tests) modules := by
  unfold sanityCheck
  rw [if_pos h]
  exact ⟨_, gives_pure _⟩

/-- **A campaign whose mutants can be run is not given up.** -/
theorem exists_run (hskip : c.config.skipSanityCheck = true) (hroom : c.HasRoom) {w : World}
    (hruns : ∀ said, ∃ results points' w', (c.runPoints (c.listedPoints w.modules w.disk)).run
      ⟨w.modules, w.disk, said⟩ = (.ok (results, points'), w')) :
    ∃ r w', c.run.run w = (.ok r, w') := by
  have hfilter : ∀ points, (c.filterPoints c.filters.mutation points).Gives w.modules w.disk
      (.ok (points.filter fun p => !c.filters.mutation.any (·.skips p))) w.modules :=
    gives_filterPoints hroom _
  have hnames : (announced "Searching tests" do return c.findTests (← c.program)).Gives w.modules
      w.disk (.ok (c.findTests (c.programWith w.modules))) w.modules := gives_names
  obtain ⟨said₁, hnames⟩ := hnames w.diagnostics
  unfold run
  rw [run_bind_of_ok hnames]
  by_cases hempty : (c.findTests (c.programWith w.modules)).isEmpty = true
  · have hsay : (say .warning noTestsText).Gives w.modules w.disk (.ok ()) w.modules := gives_say _ _
    obtain ⟨said₂, hsaid⟩ := hsay said₁
    obtain ⟨said₃, hpoints⟩ := hfilter [] said₂
    rw [if_pos hempty, run_bind_of_ok hsaid, run_bind_of_ok hpoints]
    exact ⟨_, _, rfl⟩
  · have hsanity : ∃ tests, (c.sanityCheck (c.findTests (c.programWith w.modules))).Gives w.modules
        w.disk (.ok tests) w.modules := gives_sanityCheck_skipped hskip _
    have hfind : ∀ tests, (c.findPoints tests).Gives w.modules w.disk
        (.ok (c.mergedPoints w.modules w.disk tests)) w.modules := gives_findPoints hroom
    obtain ⟨tests, htests⟩ := hsanity
    obtain ⟨said₂, htests⟩ := htests said₁
    obtain ⟨said₃, hfound⟩ := hfind (c.findTests (c.programWith w.modules)).length said₂
    obtain ⟨said₄, hpoints⟩ := hfilter (c.mergedPoints w.modules w.disk
      (c.findTests (c.programWith w.modules)).length) said₃
    obtain ⟨results, points', w', hrun⟩ := hruns said₄
    rw [if_neg hempty, run_bind_of_ok htests, run_bind_of_ok hfound, run_bind_of_ok hpoints,
      ← listedPoints, run_bind_of_ok hrun]
    exact ⟨_, _, rfl⟩

/-! ### A program of two modules -/

def figuresWorld : World where
  modules := Figures.modules
  disk := {}
  diagnostics := .silent

/-- A campaign that leaves out the points of one function. -/
def figuresRun : Campaign where
  config := {
    executable := "tests", workers := 2, mutantWorkers := some 3, skipSanityCheck := true }
  filters := {
    mutation := [{ name := "no reports", skips := fun p => p.function.name == "report" }] }
  mutators := Catalogue.mutators
  workDir := "mutants"
  runner := "runner"

/-- The points of the other functions. -/
def figuresListed : List Point :=
  [{ mutator := "cxx_add_to_sub", function := ⟨0, "area"⟩, address := ⟨0, 1⟩,
     replacement := "Replaced + with -", tests := [0] },
    { mutator := "cxx_mul_to_div", function := ⟨0, "area"⟩, address := ⟨0, 0⟩,
      replacement := "Replaced * with /", tests := [0] },
    { mutator := "cxx_sub_to_add", function := ⟨1, "main"⟩, address := ⟨0, 0⟩,
      replacement := "Replaced - with +", tests := [0] }]

theorem listed_figures : figuresRun.listedPoints Figures.modules {} = figuresListed := by
  decide +kernel

theorem fits_listed : Synthesis.Fits Catalogue.mutators Figures.modules figuresListed where
  plain := Catalogue.point_not_mem_id
  nodup := by decide
  fresh := by decide
  distinct := by decide
  matched := by
    simp only [figuresListed, List.forall_mem_cons]
    exact ⟨⟨_, _, rfl, rfl, _, _, rfl, rfl, rfl⟩, ⟨_, _, rfl, rfl, _, _, rfl, rfl, rfl⟩,
      ⟨_, _, rfl, rfl, _, _, rfl, rfl, rfl⟩, by simp⟩
  unused := by
    show ∀ p ∈ figuresListed, ∀ m ∈ Figures.modules[p.function.module]?, ∀ f ∈ m.functions,
      f.name ≠ Point.unmutatedName p.function.name ∧ f.name ≠ p.mutantName
    decide

/-- The modules with their mutants. -/
def figuresBuilt : List Module :=
  ((figuresRun.synthesize figuresListed).run figuresWorld).2.modules

theorem room_figures : figuresRun.HasRoom := by
  unfold HasRoom
  decide

theorem gives_figures : (figuresRun.synthesize figuresListed).Gives Figures.modules {}
    (.ok (figuresListed.map Point.markApplied)) figuresBuilt := by
  obtain ⟨built, hgives, -⟩ := gives_synthesize room_figures fits_listed
  have hbuilt : figuresBuilt = built := hgives.modules_eq .silent
  rwa [hbuilt]

theorem canBuild_figures :
    figuresRun.CanBuild {} figuresBuilt (imageOf (kept figuresBuilt)) where
  libraries := rfl
  objects := rfl
  room := by
    have hobjects : ∀ m ∈ figuresBuilt, (({} : Disk).put ["mutants"] .directory).Takes
        (m.objectPath "mutants") ["mutants", m.objectName .program] := by
      decide +kernel
    exact ⟨({} : Disk).put ["mutants"] .directory, rfl, fun m hm => ⟨_, hobjects m hm⟩,
      ⟨["mutants", "tests-mutated.image.json"], by decide +kernel⟩,
      ⟨["mutants", "tests-mutated"], by decide +kernel⟩⟩
  apart := by decide +kernel
  verified := by decide +kernel
  resolved := by decide +kernel

theorem runs_figures : ∀ p ∈ figuresListed.map Point.markApplied, ∃ results,
    ((figuresRun.mutantRuns (figuresRun.linkedDisk {} figuresBuilt
      (imageOf (kept figuresBuilt)))).run p).ending = .done results := by
  have hdone : ∀ p ∈ figuresListed.map Point.markApplied,
      (match ((figuresRun.mutantRuns (figuresRun.linkedDisk {} figuresBuilt
        (imageOf (kept figuresBuilt)))).run p).ending with
      | .done _ => true
      | _ => false) = true := by
    decide +kernel
  intro p hp
  have hp := hdone p hp
  split at hp
  · next results hresults => exact ⟨results, hresults⟩
  · cases hp

/-- The mutants of the program are run. -/
theorem figures_finish : ∃ r w', figuresRun.run.run figuresWorld = (.ok r, w') := by
  refine exists_run rfl room_figures fun said => ?_
  show ∃ results points' w', (figuresRun.runPoints (figuresRun.listedPoints Figures.modules {})).run
    ⟨Figures.modules, {}, said⟩ = (.ok (results, points'), w')
  rw [listed_figures]
  exact exists_runPoints rfl room_figures (by decide) gives_figures canBuild_figures runs_figures said

end Campaign

end MutationTesting
