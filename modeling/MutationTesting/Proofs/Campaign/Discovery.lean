import MutationTesting.Proofs.Campaign.Giving
import MutationTesting.Proofs.Discovery.Found
import MutationTesting.Proofs.Json.RoundTrip
import MutationTesting.Proofs.Mutation.Edits

/-!
# Discovery

The stages of the discovery put together. However many workers they have, they find one list of
points, as long as there is room for the records of the workers; without room the first stage is not
begun, and the campaign is given up.

* `Campaign.mergedPoints`, `Campaign.listedPoints` — the points that are found and kept
* `Campaign.expectedPoints` — the points that are to be found
* `Campaign.gives_findPoints`, `Campaign.gives_filterPoints` — the stages
* `Campaign.matches_of_discover` — every point that is found matches an instruction
* `Campaign.discovers` — **discovery finds exactly these points**
-/

namespace MutationTesting

open Session Workers

namespace Campaign

variable (c : Campaign)

/-! ## What is to be found -/

/-- The program of a campaign with these modules. -/
def programWith (modules : List Module) : Program where
  modules
  precompiledObjects := c.precompiledObjects
  dynamicLibraries := c.dynamicLibraries

/-- The executed functions, if there is a coverage file and it can be used. -/
def coveredIn (disk : Disk) : Option Covered :=
  c.config.coverageInfo.bind fun path =>
    match disk.read path with
    | .ok text => (CoverageRecord.decodeAll? text).map .ofRecords
    | .error _ => none

/-- What is found in the candidates that no filter of functions skips, among the instructions that no
filter skips; the points of one identifier are merged. -/
def mergedPoints (modules : List Module) (disk : Disk) (tests : Nat) : List Point :=
  mergeDuplicates ((((candidates (c.coveredIn disk) (c.programWith modules) tests).filter
    fun candidate => c.filters.function.all (·.keeps (c.programWith modules) candidate)).map
      (·.select (c.programWith modules) c.filters.instruction)).flatMap
        (·.points (c.programWith modules) c.mutators))

/-- The points that a campaign with these modules and files finds for its tests, without those that a
filter skips. -/
def listedPoints (modules : List Module) (disk : Disk) : List Point :=
  (c.mergedPoints modules disk (c.findTests (c.programWith modules)).length).filter fun p =>
    !c.filters.mutation.any (·.skips p)

/-- The points of the covered functions that no filter of functions skips, without those at
instructions that a filter skips, each reached by all tests. -/
def foundPoints (modules : List Module) (disk : Disk) (tests : Nat) : List Point :=
  (((c.programWith modules).searched (c.coveredIn disk) c.filters.function).flatMap
    (·.points c.mutators fun i => c.filters.instruction.any (·.skips i))).map
      (·.reachedBy (List.range tests))

/-- Those of them that no filter of points skips. -/
def expectedPoints (modules : List Module) (disk : Disk) (tests : Nat) : List Point :=
  (c.foundPoints modules disk tests).filter fun p => !c.filters.mutation.any (·.skips p)

/-- The points of a campaign with so many tests: what is found and kept by the filters of points. -/
def discover (tests : Nat) : Session (List Point) := do
  let found ← c.findPoints tests
  c.filterPoints c.filters.mutation found

/-- There is room for the records of the workers of every stage of the discovery. -/
def HasRoom : Prop :=
  c.config.stageWorkers * 24 ≤ recordSpace

/-- The stage of the discovery that comes first. -/
def firstStage : String :=
  match c.filters.function with
  | [] => "Instruction selection"
  | f :: _ => "Applying function filter: " ++ f.name

/-! ## The stages -/

variable {c} {modules : List Module} {disk : Disk}

theorem coveredIn_of_read {path text : String} (hpath : c.config.coverageInfo = some path)
    (hread : disk.read path = .ok text) :
    c.coveredIn disk = (CoverageRecord.decodeAll? text).map .ofRecords := by
  simp only [coveredIn, hpath, Option.bind_some, hread]

/-- Giving each kept item alone is filtering. -/
theorem flatMap_ite {α : Type} (keeps : α → Bool) (items : List α) :
    (items.flatMap fun a => if keeps a then [a] else []) = items.filter keeps := by
  rw [← List.filterMap_eq_filter, List.filterMap_eq_flatMap_toList]
  refine List.flatMap_congr fun a _ => ?_
  cases h : keeps a <;> simp [h]

theorem stageWorkers_pos : 0 < c.config.stageWorkers := by
  unfold Configuration.stageWorkers
  omega

theorem HasRoom.of_le {size : Nat} (h : c.HasRoom) (hsize : size ≤ 24) :
    c.config.stageWorkers * size ≤ recordSpace :=
  Nat.le_trans (Nat.mul_le_mul_left _ hsize) h

/-- The tests are found in the program. -/
theorem gives_names : (announced "Searching tests" do return c.findTests (← c.program)).Gives
    modules disk (.ok (c.findTests (c.programWith modules))) modules :=
  gives_announced fun said => ⟨said, rfl⟩

theorem gives_coverage : c.coverage.Gives modules disk (.ok (c.coveredIn disk)) modules := by
  unfold coverage coveredIn
  cases c.config.coverageInfo with
  | none => exact gives_pure _
  | some path =>
    refine gives_get_bind fun said => ?_
    dsimp only [Option.bind_some]
    cases disk.read path with
    | error reason => exact gives_bind (gives_say _ _) (gives_pure _)
    | ok text =>
      dsimp only
      cases CoverageRecord.decodeAll? text with
      | none => exact gives_bind (gives_say _ _) (gives_pure _)
      | some records => exact gives_pure _

section

variable (hroom : c.HasRoom)

include hroom

theorem gives_filterCandidates (program : Program) : ∀ (fs : List (Filter Function))
    (cs : List Candidate), (c.filterCandidates program fs cs).Gives modules disk
      (.ok (cs.filter fun candidate => fs.all (·.keeps program candidate))) modules
  | [], cs => by
    have hall : (cs.filter fun candidate =>
        ([] : List (Filter Function)).all (·.keeps program candidate)) = cs := by
      simp
    rw [hall]
    exact gives_pure cs
  | f :: fs, cs => by
    have hcollect : (collect (f.candidateStage program ("Applying function filter: " ++ f.name)
        c.config.stageWorkers) cs).Gives modules disk
        (.ok (cs.flatMap fun candidate => if f.keeps program candidate then [candidate] else []))
        modules :=
      gives_collect (fun _ => rfl) stageWorkers_pos (by exact decide_eq_true hroom) fun _ _ => rfl
    have hfilter : (cs.filter fun candidate => (f :: fs).all (·.keeps program candidate))
        = (cs.flatMap fun candidate => if f.keeps program candidate then [candidate] else []).filter
          fun candidate => fs.all (·.keeps program candidate) := by
      rw [flatMap_ite, List.filter_filter]
      refine List.filter_congr fun candidate _ => ?_
      rw [List.all_cons, Bool.and_comm]
    rw [hfilter]
    exact gives_bind hcollect (gives_filterCandidates program fs _)

theorem gives_filterPoints : ∀ (fs : List (Filter Point)) (ps : List Point),
    (c.filterPoints fs ps).Gives modules disk (.ok (ps.filter fun p => !fs.any (·.skips p))) modules
  | [], ps => by
    have hall : (ps.filter fun p => !([] : List (Filter Point)).any (·.skips p)) = ps := by
      simp
    rw [hall]
    exact gives_pure ps
  | f :: fs, ps => by
    have hroomPoints : c.config.stageWorkers * 16 ≤ recordSpace := hroom.of_le (by decide)
    have hcollect : (collect (f.pointStage ("Applying filter: " ++ f.name) c.config.stageWorkers)
        ps).Gives modules disk (.ok (ps.flatMap fun p => if f.skips p then [] else [p])) modules :=
      gives_collect (fun _ => rfl) stageWorkers_pos (by exact decide_eq_true hroomPoints)
        fun _ _ => rfl
    have hfilter : (ps.filter fun p => !(f :: fs).any (·.skips p))
        = (ps.flatMap fun p => if f.skips p then [] else [p]).filter
          fun p => !fs.any (·.skips p) := by
      have hstage : (fun p => if f.skips p then [] else [p])
          = fun p => if !f.skips p then [p] else [] := by
        funext p
        cases f.skips p <;> rfl
      rw [hstage, flatMap_ite, List.filter_filter]
      refine List.filter_congr fun p _ => ?_
      rw [List.any_cons, Bool.not_or, Bool.and_comm]
    rw [hfilter]
    exact gives_bind hcollect (gives_filterPoints fs _)

theorem gives_findPoints (tests : Nat) :
    (c.findPoints tests).Gives modules disk (.ok (c.mergedPoints modules disk tests)) modules := by
  unfold findPoints
  refine gives_bind (a := c.programWith modules) (fun said => ⟨said, rfl⟩) ?_
  refine gives_bind (gives_announced (gives_bind gives_coverage (gives_pure _))) ?_
  -- candidates are filtered, their instructions selected, and the selection searched
  refine gives_bind (gives_filterCandidates hroom _ _ _) ?_
  refine gives_bind (gives_stage_of_handlesAll (fun _ => rfl) stageWorkers_pos
    (by exact decide_eq_true hroom) (handlesAll_of_forall fun _ _ => rfl)) ?_
  refine gives_bind (gives_ofExcept _) ?_
  refine gives_bind (gives_collect (fun _ => rfl) stageWorkers_pos (by exact decide_eq_true hroom)
    fun _ _ => rfl) ?_
  exact gives_pure _

/-- What the discovery finds, merged and filtered. -/
theorem gives_discover (hnames : ∀ m ∈ modules, (m.functions.map (·.name)).Nodup)
    (hnodup : c.mutators.Nodup) (hcatalogue : ∀ m ∈ c.mutators, m ∈ Catalogue.mutators)
    {tests : Nat} (htests : 0 < tests) :
    (c.discover tests).Gives modules disk (.ok (c.expectedPoints modules disk tests)) modules := by
  have hnames' : ∀ m ∈ (c.programWith modules).modules, (m.functions.map (·.name)).Nodup := hnames
  refine gives_bind (gives_findPoints hroom tests) ?_
  rw [mergedPoints, mergeDuplicates_candidates hnames' hnodup hcatalogue _ _ _ htests]
  exact gives_filterPoints hroom _ _

end

/-- Without room the first stage is not begun. -/
theorem gives_findPoints_crowded (hroom : ¬ c.HasRoom) (tests : Nat) :
    (c.findPoints tests).Gives modules disk (.error (.crowded c.firstStage)) modules := by
  have hcrowded : decide (c.config.stageWorkers * 24 ≤ recordSpace) = false :=
    decide_eq_false hroom
  unfold findPoints
  refine gives_bind (a := c.programWith modules) (fun said => ⟨said, rfl⟩) ?_
  refine gives_bind (gives_announced (gives_bind gives_coverage (gives_pure _))) ?_
  unfold firstStage
  cases hfilters : c.filters.function with
  | nil =>
    refine gives_bind (gives_pure _) ?_
    exact gives_bind_error (gives_stage_crowded hcrowded)
  | cons f fs =>
    exact gives_bind_error (gives_bind_error (gives_collect_crowded hcrowded))

theorem gives_discover_crowded (hroom : ¬ c.HasRoom) (tests : Nat) :
    (c.discover tests).Gives modules disk (.error (.crowded c.firstStage)) modules :=
  gives_bind_error (gives_findPoints_crowded hroom tests)

/-! ## All stages -/

/-- **Every point that is found matches an instruction** of a function of its module, and no point
comes twice. -/
theorem matches_of_discover {tests : Nat} {points : List Point} {w w' : World}
    (hcatalogue : ∀ m ∈ c.mutators, m ∈ Catalogue.mutators)
    (h : (c.discover tests).run w = (.ok points, w')) :
    c.HasRoom ∧ w'.modules = w.modules ∧ w'.disk = w.disk ∧
      (points.map Point.identifier).Nodup ∧
      ∀ p ∈ points, ∃ m f, w.modules[p.function.module]? = some m ∧
        m.function? p.function.name = some f ∧ p.Matches c.mutators f := by
  by_cases hroom : c.HasRoom
  · obtain ⟨hpoints, hmodules, hdisk⟩ := (gives_bind (gives_findPoints hroom tests)
      (gives_filterPoints hroom c.filters.mutation _)).of_run h
    rw [Except.ok.injEq] at hpoints
    subst hpoints
    refine ⟨hroom, hmodules, hdisk, ?_, fun p hp => ?_⟩
    · exact (nodup_mergeDuplicates _).sublist (List.filter_sublist.map _)
    · obtain ⟨q, hq, tests, rfl⟩ := mem_mergeDuplicates (List.mem_filter.mp hp).1
      obtain ⟨candidate, -, hq⟩ := List.mem_flatMap.mp hq
      obtain ⟨f, hf, m, hm, i, hid, hi, hreplacement⟩ := Candidate.exists_of_mem_points hq
      obtain ⟨owner, howner, hf⟩ := Option.bind_eq_some_iff.mp hf
      refine ⟨owner, f, howner, hf, m, i, ?_, hi, hreplacement⟩
      rw [show (q.reachedBy tests).mutator = m.id from hid]
      exact Catalogue.find?_id hcatalogue hm
  · obtain ⟨hpoints, -⟩ := (gives_discover_crowded hroom tests).of_run h
    cases hpoints

/-- **Discovery finds exactly the expected points**, in their order and each of them once, with the
location of its instruction and reached by all tests. -/
theorem discovers (c : Campaign) (w : World) {tests : Nat} (htests : 0 < tests)
    (hnames : ∀ m ∈ w.modules, (m.functions.map (·.name)).Nodup) (hnodup : c.mutators.Nodup)
    (hcatalogue : ∀ m ∈ c.mutators, m ∈ Catalogue.mutators) (hroom : c.HasRoom) :
    (∃ said, (c.discover tests).run w
      = (.ok (c.expectedPoints w.modules w.disk tests), { w with diagnostics := said })) ∧
    ((c.expectedPoints w.modules w.disk tests).map Point.identifier).Nodup ∧
    ∀ p ∈ c.expectedPoints w.modules w.disk tests, p.tests = List.range tests ∧
      ∃ d ∈ (c.programWith w.modules).defined, ∃ i, d.ref = p.function ∧
        d.function.instruction? p.address = some i ∧ p.location = i.location := by
  refine ⟨?_, ?_, ?_⟩
  · exact gives_discover hroom hnames hnodup hcatalogue htests w.diagnostics
  · have hnames' : ∀ m ∈ (c.programWith w.modules).modules, (m.functions.map (·.name)).Nodup :=
      hnames
    refine List.Nodup.sublist (List.filter_sublist.map _) ?_
    rw [foundPoints, List.map_map, Point.identifier_comp_reachedBy]
    exact Program.pairwise_points hnodup hcatalogue _ hnames' List.filter_sublist
  · intro p hp
    obtain ⟨q, hq, rfl⟩ := List.mem_map.mp (List.mem_filter.mp hp).1
    obtain ⟨d, hd, hq⟩ := List.mem_flatMap.mp hq
    obtain ⟨m, -, a, i, hi, -, hpoint⟩ := Definition.mem_points.mp hq
    obtain ⟨replacement, -, rfl⟩ := Option.map_eq_some_iff.mp hpoint
    exact ⟨rfl, d, Program.mem_defined_of_mem_searched hd, i, rfl, hi, rfl⟩

end Campaign

/-! ### A program with coverage data and filters -/

namespace Shapes

/-- An instruction from a line of a source file. -/
def onLine (file : String) (line : UInt32) (action : Action) : Instruction where
  action
  location := some ⟨file, line, 3⟩

def area : Function where
  name := "area"
  params := 2
  blocks := [⟨[onLine "src/shapes.c" 2 (.binary 0 .mul (.parameter 0) (.parameter 1)),
    onLine "src/shapes.c" 3 (.binary 1 .add (.register 0) (.constant 1)),
    ⟨.ret (.register 1), none⟩]⟩]

def edge : Function where
  name := "edge"
  params := 1
  blocks := [⟨[onLine "src/shapes.c" 7 (.binary 0 .add (.parameter 0) (.constant 1)),
    onLine "src/shapes.c" 8 (.binary 1 .mul (.register 0) (.constant 2)),
    ⟨.ret (.register 1), none⟩]⟩]

def banner : Function where
  name := "banner"
  params := 0
  blocks := [⟨[onLine "src/shapes.c" 11 (.binary 0 .add (.constant 1) (.constant 1)),
    ⟨.ret (.register 0), none⟩]⟩]

def main : Function where
  name := "main"
  params := 0
  blocks := [⟨[onLine "src/front.c" 3 (.binary 0 .sub (.constant 3) (.constant 1)),
    onLine "src/front.c" 4 (.binary 1 .add (.register 0) (.constant 4)),
    ⟨.ret (.register 1), none⟩]⟩]

def spare : Function where
  name := "spare"
  params := 0
  blocks := [⟨[onLine "src/front.c" 9 (.binary 0 .sub (.constant 2) (.constant 1)),
    ⟨.ret (.register 0), none⟩]⟩]

def record (name : String) (count : Int) : Json :=
  .ofMembers [("name", .str name), ("count", .int count)]

/-- Everything was executed but for one function. -/
def coverage : Json :=
  .ofMembers [("functions", .arr [record "main" 1, record "shapes.c:area" 2,
    record "shapes.c:edge" 1, record "banner" 1, record "spare" 0])]

def world : World where
  modules := [
    { name := "shapes", sourceFile := "src/shapes.c", functions := [area, edge, banner] },
    { name := "front", sourceFile := "src/front.c", functions := [main, spare] }]
  disk := { nodes := [(["coverage.json"], .file (Json.print .compact coverage) false)] }
  diagnostics := .silent

/-- Three workers, and a filter of each kind. -/
def campaign : Campaign where
  config := { executable := "tests", workers := 3, coverageInfo := some "coverage.json" }
  filters := {
    function := [{ name := "no banners", skips := (·.name == "banner") }]
    instruction := [{ name := "not line 8", skips := (·.location.any (·.line == 8)) }]
    mutation := [{
      name := "no sums in main"
      skips := fun p => p.function.name == "main" && p.mutator == "cxx_sub_to_add" }] }
  mutators := Catalogue.mutators
  workDir := "mutants"
  runner := "runner"

/-- The points of the functions that were executed and are no banner, without the one on line 8 and
the one at which the main function would add. -/
def points : List Point :=
  [{ mutator := "cxx_add_to_sub", function := ⟨0, "area"⟩, address := ⟨0, 1⟩,
     location := some ⟨"src/shapes.c", 3, 3⟩, replacement := "Replaced + with -", tests := [0, 1] },
    { mutator := "cxx_mul_to_div", function := ⟨0, "area"⟩, address := ⟨0, 0⟩,
      location := some ⟨"src/shapes.c", 2, 3⟩, replacement := "Replaced * with /",
      tests := [0, 1] },
    { mutator := "cxx_add_to_sub", function := ⟨0, "edge"⟩, address := ⟨0, 0⟩,
      location := some ⟨"src/shapes.c", 7, 3⟩, replacement := "Replaced + with -",
      tests := [0, 1] },
    { mutator := "cxx_add_to_sub", function := ⟨1, "main"⟩, address := ⟨0, 1⟩,
      location := some ⟨"src/front.c", 4, 3⟩, replacement := "Replaced + with -",
      tests := [0, 1] }]

theorem coveredIn_eq : campaign.coveredIn world.disk = some {
    everywhere := ["banner", "main"]
    inUnit := [("shapes.c", "edge"), ("shapes.c", "area")] } := by
  have hdisk : world.disk.read "coverage.json" = .ok (Json.print .compact coverage) := rfl
  have hexact : coverage.IsExact := by
    simp [coverage, record, Json.ofMembers, Json.IsExact, Json.AreExact, Json.MembersExact]
  rw [Campaign.coveredIn_of_read rfl hdisk, CoverageRecord.decodeAll?,
    Json.read?_print .compact hexact]
  decide +kernel

theorem expectedPoints_eq : campaign.expectedPoints world.modules world.disk 2 = points := by
  unfold Campaign.expectedPoints Campaign.foundPoints
  rw [coveredIn_eq]
  decide +kernel

theorem hasRoom : campaign.HasRoom := by
  unfold Campaign.HasRoom
  decide

end Shapes

namespace Campaign

theorem shapes_discovered :
    (∀ m ∈ Shapes.world.modules, (m.functions.map (·.name)).Nodup) ∧
    Shapes.campaign.HasRoom ∧
    (∃ said, (Shapes.campaign.discover 2).run Shapes.world
      = (.ok Shapes.points, { Shapes.world with diagnostics := said })) ∧
    (Shapes.points.map Point.identifier).Nodup ∧
    ∀ p ∈ Shapes.points, p.tests = [0, 1] ∧
      ∃ d ∈ (Shapes.campaign.programWith Shapes.world.modules).defined, ∃ i, d.ref = p.function ∧
        d.function.instruction? p.address = some i ∧ p.location = i.location := by
  have htests : 0 < 2 := by decide
  have hnames : ∀ m ∈ Shapes.world.modules, (m.functions.map (·.name)).Nodup := by decide
  have h := discovers Shapes.campaign Shapes.world htests hnames (by decide) (fun _ => id)
    Shapes.hasRoom
  rw [Shapes.expectedPoints_eq] at h
  exact ⟨hnames, Shapes.hasRoom, h⟩

/-! ### Too many workers -/

/-- A program with one function. -/
def loneModule : Module where
  name := "lone"
  sourceFile := "lone.c"
  functions := [{
    name := "main"
    params := 0
    blocks := [⟨[⟨.binary 0 .sub (.constant 1) (.constant 1), none⟩,
      ⟨.ret (.register 0), none⟩]⟩] }]

def loneWorld : World where
  modules := [loneModule]
  disk := {}
  diagnostics := .silent

/-- A campaign with so many workers. -/
def withWorkers (workers : UInt64) : Campaign where
  config := { executable := "tests", workers }
  filters := {}
  mutators := [.replaceOperator "cxx_sub_to_add" .sub .add]
  workDir := "mutants"
  runner := "runner"

/-- The point of the program. -/
def lonePoint : Point where
  mutator := "cxx_sub_to_add"
  function := ⟨0, "main"⟩
  address := ⟨0, 0⟩
  replacement := "Replaced - with +"
  tests := [0, 1]

/-- With as many workers as can be asked for, the same point is expected, but the campaign is given
up. -/
theorem most_workers_do_not_discover :
    0 < (withWorkers 18446744073709551615).config.workers ∧
    (∀ m ∈ loneWorld.modules, (m.functions.map (·.name)).Nodup) ∧
    (withWorkers 18446744073709551615).mutators.Nodup ∧
    (∀ m ∈ (withWorkers 18446744073709551615).mutators, m ∈ Catalogue.mutators) ∧
    (withWorkers 18446744073709551615).expectedPoints loneWorld.modules loneWorld.disk 2
      = [lonePoint] ∧
    ∃ said, ((withWorkers 18446744073709551615).discover 2).run loneWorld
      = (.error (.crowded "Instruction selection"), { loneWorld with diagnostics := said }) := by
  have hroom : ¬ (withWorkers 18446744073709551615).HasRoom := by
    unfold HasRoom
    decide
  exact ⟨by decide, by decide, by decide, by decide, by decide,
    gives_discover_crowded hroom 2 loneWorld.diagnostics⟩

end Campaign

end MutationTesting
