import MutationTesting.Proofs.Campaign.Discovery
import MutationTesting.Proofs.Campaign.Steps
import MutationTesting.Proofs.Synthesis.Buildable
import MutationTesting.Proofs.Synthesis.Contents
import MutationTesting.Proofs.Toolchain.Stored

/-!
# Building what has been discovered

The points that a campaign discovers can be built into its program, and the program that comes of it
can be compiled and linked wherever the program itself can.

The modules of a program hold no points when they have been loaded (`Session.fresh_of_loadModules`),
and the mutators of a campaign are registered ones.

* `Session.gives_onModules`, `Session.gives_applyAll` — stages that change modules
* `Campaign.gives_synthesize` — the four stages in a campaign
* `Campaign.fits_of_discover` — discovered points fit the program
* `Campaign.synthesis_keeps_building` — **the program can still be built**
-/

namespace MutationTesting

open Checks Session Workers

namespace Session

variable {modules modules' : List Module} {disk : Disk}

theorem gives_stage_of_leaves {ε σ ι ο : Type} {ofItem : ε → Failure} {s : Stage ε σ ι ο}
    {items items' : List ι} {state state' : σ} (hroom : s.hasRoom)
    (h : s.Leaves items state items' state') :
    ∃ outputs, (stage ofItem s items state).Gives modules disk
      (.ok (.ok outputs, items', state')) modules := by
  obtain ⟨outputs, houtcome, rfl, rfl⟩ := h
  exact ⟨outputs, gives_stage_ok hroom houtcome⟩

/-- A stage over modules leaves the modules that it leaves by itself. -/
theorem gives_onModules {s : Stage SynthesisFault Unit Module Unit} (hroom : s.hasRoom)
    (h : s.Leaves modules () modules' ()) :
    (onModules s).Gives modules disk (.ok ()) modules' := by
  obtain ⟨outputs, hstage⟩ := gives_stage_of_leaves hroom h
  unfold onModules
  refine gives_get_bind fun said => gives_bind hstage ?_
  refine gives_bind (gives_modify fun _ => modules') ?_
  exact gives_bind (gives_ofExcept _) (gives_pure _)

theorem gives_applyAll {mutators : List Mutator} {name : String} {points points' : List Point}
    (h : (Synthesis.applyStage mutators name).Leaves points modules points' modules') :
    (applyAll mutators name points).Gives modules disk (.ok (points', .ok ())) modules' := by
  obtain ⟨outputs, hstage⟩ := gives_stage_of_leaves rfl h
  unfold applyAll
  refine gives_get_bind fun said => gives_bind hstage ?_
  exact gives_bind (gives_modify fun _ => modules') (gives_pure _)

end Session

namespace Campaign

variable {c : Campaign}

/-- The four stages in a campaign. -/
theorem gives_synthesize (hroom : c.HasRoom) {modules : List Module} {points : List Point}
    {disk : Disk} (h : Synthesis.Fits c.mutators modules points) :
    ∃ built, (c.synthesize points).Gives modules disk (.ok (points.map Point.markApplied)) built ∧
      built.length = modules.length ∧
      ∀ (i : Nat) (m : Module), modules[i]? = some m → ∃ m', built[i]? = some m' ∧
        (m'.functions.map (·.name)).Nodup ∧
        (Synthesis.prepared m points i).Synthesized c.mutators m' := by
  have hroomModules : c.config.stageWorkers * 8 ≤ recordSpace := hroom.of_le (by decide)
  obtain ⟨built, hleaves, hlength, hbuilt⟩ := h.leaves
  obtain ⟨hclone, hdelete, hredirect, happly⟩ :=
    hleaves "Cloning functions for mutation" "Removing original functions"
      "Redirect mutated functions" "Applying mutations" _ _ _ (stageWorkers_pos (c := c))
      (stageWorkers_pos (c := c)) (stageWorkers_pos (c := c))
  refine ⟨built, ?_, hlength, hbuilt⟩
  unfold synthesize
  refine gives_bind (gives_announced
    (gives_modify fun modules => Synthesis.prepare modules points)) ?_
  refine gives_bind (gives_onModules (by exact decide_eq_true hroomModules) hclone) ?_
  refine gives_bind (gives_onModules (by exact decide_eq_true hroomModules) hdelete) ?_
  refine gives_bind (gives_onModules (by exact decide_eq_true hroomModules) hredirect) ?_
  refine gives_bind (gives_applyAll happly) ?_
  exact gives_bind (gives_ofExcept _) (gives_pure _)

section

variable {w w' : World} {others : List Module} {points : List Point} {tests : Nat} {image : Image}
  (hcatalogue : ∀ m ∈ c.mutators, m ∈ Catalogue.mutators)
  (hfresh : ∀ m ∈ w.modules, m.mutations = [])
  (hverified : ∀ m ∈ w.modules, m.verify = .ok ())
  (hpoints : (c.discover tests).run w = (.ok points, w'))
  (hunused : ∀ p ∈ points, ∀ m ∈ w.modules ++ others, ∀ f ∈ m.functions,
    f.name ≠ Point.unmutatedName p.function.name ∧ f.name ≠ p.mutantName)

include hcatalogue hfresh hverified hpoints hunused

/-- Discovered points fit the program. -/
theorem fits_of_discover : Synthesis.Fits c.mutators w.modules points := by
  obtain ⟨-, -, -, hdistinct, hmatches⟩ := matches_of_discover hcatalogue hpoints
  refine ⟨fun m hm => Catalogue.point_not_mem_id m (hcatalogue m hm), fun m hm => ?_, hfresh,
    hdistinct, hmatches, fun p hp m hm => ?_⟩
  · exact (Module.verify_eq_ok_iff.mp (hverified m hm)).nodup
  · exact hunused p hp m (List.mem_append_left _ (List.mem_of_getElem? hm))

variable (hnone : ∀ m ∈ w.modules ++ others, m.trampolines = [])
  (hlinked : Link.resolve (w.modules ++ others) = .ok image)

include hnone

/-- What becomes of the modules of the program, one by one. -/
theorem forall₂_of_discover {built : List Module} (hlength : built.length = w.modules.length)
    (hbuilt : ∀ (i : Nat) (m : Module), w.modules[i]? = some m → ∃ m', built[i]? = some m' ∧
      (m'.functions.map (·.name)).Nodup ∧
      (Synthesis.prepared m points i).Synthesized c.mutators m') :
    List.Forall₂ (fun m m' => Synthesis.Stands points m m' ∧ m'.verify = .ok () ∧
      m.objectName .program = m'.objectName .program) w.modules built := by
  have hfits := fits_of_discover hcatalogue hfresh hverified hpoints hunused
  -- module by module, as the points in one do not touch the others
  refine List.forall₂_iff_get.mpr ⟨hlength.symm, fun i hi hi' => ?_⟩
  have hm := List.getElem?_eq_getElem hi
  have hmem := List.mem_of_getElem? hm
  have hmemAll : w.modules[i] ∈ w.modules ++ others := List.mem_append_left _ hmem
  obtain ⟨m', hm', hnodup, h⟩ := hbuilt i _ hm
  obtain rfl : built[i] = m' := by
    rw [List.getElem?_eq_getElem hi'] at hm'
    exact Option.some.inj hm'
  have hmodule := Module.verify_eq_ok_iff.mp (hverified _ hmem)
  have hstands : Synthesis.Stands points (Synthesis.prepared w.modules[i] points i) built[i] := by
    refine Synthesis.stands_of_synthesized h hmodule.nodup hnodup (hnone w.modules[i] hmemAll)
      (fun p hp => ?_) (fun p hp => hfits.plain_mutator hp)
      fun f hf => Synthesis.readBack_of_ne fun p hp => hunused p hp _ hmemAll f hf
    rw [hfits.mutations_prepared hm] at hp
    exact (List.mem_filter.mp hp).1
  refine ⟨{ hstands with }, Module.verify_eq_ok_iff.mpr (h.verified { hmodule with } hnodup), ?_⟩
  simp only [List.get_eq_getElem, Module.objectName, h.name, h.sourceFile]
  rfl

include hlinked

/-- **The program can still be built.** All stages succeed, every module can be compiled, object
files keep apart, and the program can be linked. -/
theorem synthesis_keeps_building (hobjects : (w.modules.map (·.objectName .program)).Nodup) :
    ∃ built said, (c.synthesize points).run w' = (.ok (points.map Point.markApplied),
        { modules := built, disk := w.disk, diagnostics := said }) ∧
      (∀ m ∈ built, m.verify = .ok ()) ∧ (built.map (·.objectName .program)).Nodup ∧
      ∃ mutated, Link.resolve (built ++ others) = .ok mutated := by
  obtain ⟨hroom, hmodules, hdisk, -, -⟩ := matches_of_discover hcatalogue hpoints
  have hfits := fits_of_discover hcatalogue hfresh hverified hpoints hunused
  obtain ⟨built, hgives, hlength, hbuilt⟩ := gives_synthesize hroom hfits
  have hall := forall₂_of_discover hcatalogue hfresh hverified hpoints hunused hnone hlength hbuilt
  obtain ⟨said, hrun⟩ := hgives w'.diagnostics
  refine ⟨built, said, ?_, fun m' hm' => ?_, ?_, ?_⟩
  · rw [← hrun, ← hmodules, ← hdisk]
  · obtain ⟨m, -, -, hverify, -⟩ := exists_mem_of_forall₂ hall.flip hm'
    exact hverify
  · rwa [← map_eq_map_of_forall₂ (hall.imp fun _ _ h => h.2.2)]
  · -- the other objects stand in their own places
    obtain ⟨rfl, hresolved⟩ := Link.resolve_eq_ok_iff.mp hlinked
    have hothers : List.Forall₂ (Synthesis.Stands points) others others := by
      refine List.forall₂_same.mpr fun m hm => ?_
      have hmem : m ∈ w.modules ++ others := List.mem_append_right _ hm
      exact Synthesis.stands_self (Link.nodup_of_mem hresolved.functions hmem) (hnone m hmem)
        fun f hf => Synthesis.readBack_of_ne fun p hp => hunused p hp m hmem f hf
    exact ⟨_, Synthesis.resolve_of_stands hlinked (List.flatMap_eq_nil_iff.mpr hnone)
      (List.rel_append (hall.imp fun _ _ h => h.1) hothers)⟩

end

/-- A campaign on a program of two modules. -/
def figuresCampaign : Campaign where
  config := { executable := "tests", workers := 2 }
  filters := {}
  mutators := Catalogue.mutators
  workDir := "mutants"
  runner := "runner"

/-- No modules yet, but the files that they are saved in. -/
def figuresFiles : World where
  disk := {
    nodes := [["figures.json"], ["front.json"]].zip
      (Figures.modules.map fun m => .file m.encode false) }
  diagnostics := .silent

theorem load_figures :
    (loadModules ["figures.json", "front.json"]).run figuresFiles
      = (.ok Figures.modules, figuresFiles) := by
  refine run_loadModules_eq_ok_iff.mpr ⟨.cons ?_ (.cons ?_ .nil), rfl⟩
  · exact Disk.load_of_read (by rfl) (Module.decode?_encode _)
  · exact Disk.load_of_read (by rfl) (Module.decode?_encode _)

/-- A library beside the program. -/
def figuresLibrary : Module where
  name := "library"
  sourceFile := "library.c"
  functions := [{ name := "helper", params := 1, blocks := [⟨[⟨.ret (.parameter 0), none⟩]⟩] }]

/-- Modules that have been loaded, searched for points and filled with mutants. -/
theorem figures_keep_building : ∃ points w' built said,
    (loadModules ["figures.json", "front.json"]).run figuresFiles
      = (.ok Figures.modules, figuresFiles) ∧
    (figuresCampaign.discover 1).run { figuresFiles with modules := Figures.modules }
      = (.ok points, w') ∧ points.length = 4 ∧
    (figuresCampaign.synthesize points).run w' = (.ok (points.map Point.markApplied),
      { modules := built, disk := figuresFiles.disk, diagnostics := said }) ∧
    (∀ m ∈ built, m.verify = .ok ()) ∧ (built.map (·.objectName .program)).Nodup ∧
    ∃ mutated, Link.resolve (built ++ [figuresLibrary]) = .ok mutated := by
  have hroom : figuresCampaign.HasRoom := by
    unfold HasRoom
    decide
  have htests : 0 < 1 := by decide
  have hgives : (figuresCampaign.discover 1).Gives Figures.modules figuresFiles.disk
      (.ok (figuresCampaign.expectedPoints Figures.modules figuresFiles.disk 1)) Figures.modules :=
    gives_discover hroom (by decide) (by decide) (by decide) htests
  obtain ⟨said₁, hdiscover⟩ := hgives .silent
  have hunused : ∀ p ∈ figuresCampaign.expectedPoints Figures.modules figuresFiles.disk 1,
      ∀ m ∈ Figures.modules ++ [figuresLibrary], ∀ f ∈ m.functions,
        f.name ≠ Point.unmutatedName p.function.name ∧ f.name ≠ p.mutantName := by
    decide
  have hverified : ∀ m ∈ Figures.modules, m.verify = .ok () := by
    rw [Figures.modules, List.forall_mem_cons, List.forall_mem_singleton]
    exact ⟨rfl, rfl⟩
  have hnone : ∀ m ∈ Figures.modules ++ [figuresLibrary], m.trampolines = [] := by decide
  have hlinked : Link.resolve (Figures.modules ++ [figuresLibrary])
      = .ok (Link.imageOf (Figures.modules ++ [figuresLibrary])) := rfl
  obtain ⟨built, said, h⟩ := synthesis_keeps_building (c := figuresCampaign)
    (w := { figuresFiles with modules := Figures.modules }) (by decide)
    (fresh_of_loadModules load_figures) hverified hdiscover hunused hnone hlinked (by decide)
  exact ⟨_, _, built, said, load_figures, hdiscover, by decide, h⟩

end Campaign

end MutationTesting
