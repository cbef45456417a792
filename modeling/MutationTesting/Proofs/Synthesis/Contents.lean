import MutationTesting.Proofs.Synthesis.Progress

/-!
# What modules hold

The modules that the synthesis leaves, spelled out: which functions they have and in which order,
what a stub does, and where trampolines lead.

* `Function.IsStubOf` — a function that passes its parameters on
* `Module.HoldsMutants` — everything that is in a module after the synthesis
* `Synthesis.Fits.leaves_mutants` — **the stages leave exactly these modules**
-/

namespace MutationTesting

open Checks Workers

/-- A stub in the place of a function: a single block that passes all parameters, in order, through
the trampoline of the function and returns what comes back. -/
structure Function.IsStubOf (stub f : Function) : Prop where
  name : stub.name = f.name
  params : stub.params = f.params
  location : stub.location = f.location
  blocks : ∃ args, stub.blocks =
      [⟨[{ action := .dispatch 0 f.name args }, { action := .ret (.register 0) }]⟩] ∧
    args.length = f.params.toNat ∧ ∀ i < f.params, args[i.toNat]? = some (.parameter i)

theorem Function.isStubOf_stub (f : Function) : f.stub.IsStubOf f where
  name := rfl
  params := rfl
  location := rfl
  blocks := by
    refine ⟨_, rfl, by simp, fun i hi => ?_⟩
    rw [List.getElem?_map, List.getElem?_range (UInt32.lt_iff_toNat_lt.mp hi), Option.map_some,
      UInt32.ofNat_toNat]

/-- The functions that have points, each where it comes first. -/
def Point.functionNames (points : List Point) : List String :=
  (points.map (·.function.name)).eraseDups

/-- Everything that is in a module `m'` that has been made from a module `m` by building the mutants
of points into it. -/
structure Module.HoldsMutants (mutators : List Mutator) (points : List Point) (m m' : Module) :
    Prop where
  name : m'.name = m.name
  sourceFile : m'.sourceFile = m.sourceFile
  mutations : m'.mutations = points
  /-- The functions of the module in their places, those with points as stubs; then an unmutated
  copy of each of these, in the order in which they come first; then a copy for each point, in the
  order of points, that differs from the function by the edit of the point. -/
  functions : ∃ own unmutated mutants, m'.functions = own ++ unmutated ++ mutants ∧
    List.Forall₂ (fun f f' => (f.name ∈ points.map (·.function.name) → f'.IsStubOf f) ∧
      (f.name ∉ points.map (·.function.name) → f' = f)) m.functions own ∧
    List.Forall₂ (fun name copy => ∃ f ∈ m.functions, f.name = name ∧
      copy = { f with name := name ++ ".original" }) (Point.functionNames points) unmutated ∧
    List.Forall₂ (fun p mutant => ∃ f ∈ m.functions, f.name = p.function.name ∧
      ∃ mutator, mutators.find? (·.id == p.mutator) = some mutator ∧
        ∃ g, f.EditedBy mutator p.address g ∧ mutant = { g with name := p.mutantName })
      points mutants
  /-- The trampolines of the module, then one for each function with points, in the order in which
  these come first; it leads to the copies of the function's points, in their order. -/
  trampolines : m'.trampolines = m.trampolines ++ (Point.functionNames points).map fun name =>
    { function := name
      unmutated := name ++ ".original"
      mutants := (points.filter (·.function.name == name)).map fun p =>
        { selector := p.selector, function := p.mutantName } }

/-- A module with its points spelled out. -/
theorem Module.Synthesized.holdsMutants {mutators : List Mutator} {m m' : Module}
    (h : m.Synthesized mutators m') : m.HoldsMutants mutators m.mutations m' where
  name := h.name
  sourceFile := h.sourceFile
  mutations := h.mutations
  functions := by
    obtain ⟨unmutated, mutants, hfunctions, hunmutated, hmutants⟩ := h.functions
    refine ⟨_, unmutated, mutants, by rw [hfunctions, List.append_assoc], ?_, ?_, ?_⟩
    · rw [List.forall₂_map_right_iff, List.forall₂_same]
      refine fun f _ => ⟨fun hname => ?_, fun hname => if_neg ?_⟩
      · rw [if_pos (mem_mutatedNames.mpr (by simpa using hname))]
        exact f.isStubOf_stub
      · rwa [mutatedNames, mem_distinctBy_id]
    · rw [Point.functionNames, ← distinctBy_id_eq_eraseDups]
      refine hunmutated.imp fun name copy => ?_
      rintro ⟨f, hf, rfl⟩
      exact ⟨f, mem_of_function? hf, name_of_function? hf, rfl⟩
    · refine hmutants.imp fun p mutant => ?_
      rintro ⟨f, g, hf, hg, rfl⟩
      obtain ⟨mutator, hmutator, hg⟩ := Point.mutate_eq_ok_iff.mp hg
      exact ⟨f, mem_of_function? hf, name_of_function? hf, mutator, hmutator, g,
        Mutator.mutate_eq_ok_iff_editedBy.mp hg, rfl⟩
  trampolines := by
    rw [h.trampolines, Point.functionNames, ← distinctBy_id_eq_eraseDups]
    congr 1
    refine List.map_congr_left fun name _ => ?_
    rw [trampolineFor, h.mutantPoints]
    rfl

/-- The names of all functions, in their order. -/
theorem Module.HoldsMutants.map_name {mutators : List Mutator} {points : List Point}
    {m m' : Module} (h : m.HoldsMutants mutators points m') :
    m'.functions.map (·.name) = m.functions.map (·.name)
      ++ (Point.functionNames points).map Point.unmutatedName ++ points.map Point.mutantName := by
  obtain ⟨own, unmutated, mutants, hfunctions, hown, hunmutated, hmutants⟩ := h.functions
  have hownNames : m.functions.map (·.name) = own.map (·.name) := by
    refine map_eq_map_of_forall₂ (hown.imp fun f f' hf => ?_)
    by_cases hname : f.name ∈ points.map (·.function.name)
    · exact (hf.1 hname).name.symm
    · rw [hf.2 hname]
  have hunmutatedNames : (Point.functionNames points).map Point.unmutatedName
      = unmutated.map (·.name) := by
    refine map_eq_map_of_forall₂ (hunmutated.imp fun name copy hcopy => ?_)
    obtain ⟨f, -, -, rfl⟩ := hcopy
    rfl
  have hmutantNames : points.map Point.mutantName = mutants.map (·.name) := by
    refine map_eq_map_of_forall₂ (hmutants.imp fun p mutant hmutant => ?_)
    obtain ⟨f, -, -, mutator, -, g, -, rfl⟩ := hmutant
    rfl
  rw [hfunctions, List.map_append, List.map_append, hownNames, hunmutatedNames, hmutantNames]

namespace Synthesis

variable {mutators : List Mutator} {modules : List Module} {points : List Point}

/-- **The stages leave exactly the modules that hold the mutants**, whatever they are called and
however many workers they have. -/
theorem Fits.leaves_mutants (h : Fits mutators modules points) :
    ∃ cloned deleted redirected built,
      (∀ (cloning deleting redirecting applying : String) (workers workers' workers'' : Nat),
        0 < workers → 0 < workers' → 0 < workers'' →
        (cloneStage cloning workers).Leaves (prepare modules points) () cloned () ∧
        (deleteStage deleting workers').Leaves cloned () deleted () ∧
        (redirectStage redirecting workers'').Leaves deleted () redirected () ∧
        (applyStage mutators applying).Leaves points redirected (points.map Point.markApplied)
          built) ∧
      built.length = modules.length ∧
      ∀ (i : Nat) (m : Module), modules[i]? = some m → ∃ m', built[i]? = some m' ∧
        m.HoldsMutants mutators (points.filter (·.function.module == i)) m' := by
  obtain ⟨built, hleaves, hlength, hbuilt⟩ := h.leaves
  refine ⟨_, _, _, built, hleaves, hlength, fun i m hm => ?_⟩
  obtain ⟨m', hm', -, hsynthesized⟩ := hbuilt i m hm
  refine ⟨m', hm', ?_⟩
  rw [← h.mutations_prepared hm]
  -- but for its points, which are not looked at, the module is the prepared one
  exact { hsynthesized.holdsMutants with }

end Synthesis

/-! ### Two modules with several points -/

namespace Figures

def area : Function where
  name := "area"
  params := 2
  blocks := [⟨[⟨.binary 0 .mul (.parameter 0) (.parameter 1), none⟩,
    ⟨.binary 1 .add (.register 0) (.constant 1), none⟩, ⟨.ret (.register 1), none⟩]⟩]

def report : Function where
  name := "report"
  params := 0
  blocks := [⟨[⟨.call none "area" [.constant 2, .constant 3], none⟩, ⟨.ret (.constant 0), none⟩]⟩]

def main : Function where
  name := "main"
  params := 0
  blocks := [⟨[⟨.binary 0 .sub (.constant 1) (.constant 1), none⟩, ⟨.ret (.register 0), none⟩]⟩]

def modules : List Module :=
  [{ name := "figures", sourceFile := "figures.c", functions := [area, report] },
    { name := "front", sourceFile := "front.c", functions := [main] }]

/-- Points of three functions and two modules in no order. -/
def points : List Point :=
  [{ mutator := "cxx_add_to_sub", function := ⟨0, "area"⟩, address := ⟨0, 1⟩, replacement := "" },
    { mutator := "cxx_sub_to_add", function := ⟨1, "main"⟩, address := ⟨0, 0⟩, replacement := "" },
    { mutator := "cxx_remove_void_call", function := ⟨0, "report"⟩, address := ⟨0, 0⟩,
      replacement := "" },
    { mutator := "cxx_mul_to_div", function := ⟨0, "area"⟩, address := ⟨0, 0⟩, replacement := "" }]

theorem fits : Synthesis.Fits Catalogue.mutators modules points where
  plain := Catalogue.point_not_mem_id
  nodup := by decide
  fresh := by decide
  distinct := by decide
  matched := by
    simp only [points, List.forall_mem_cons]
    exact ⟨⟨_, _, rfl, rfl, _, _, rfl, rfl, rfl⟩, ⟨_, _, rfl, rfl, _, _, rfl, rfl, rfl⟩,
      ⟨_, _, rfl, rfl, _, _, rfl, rfl, rfl⟩, ⟨_, _, rfl, rfl, _, _, rfl, rfl, rfl⟩, by simp⟩
  unused := by
    show ∀ p ∈ points, ∀ m ∈ modules[p.function.module]?, ∀ f ∈ m.functions,
      f.name ≠ Point.unmutatedName p.function.name ∧ f.name ≠ p.mutantName
    decide

end Figures

namespace Synthesis

theorem Fits.figures_leave_mutants :
    Fits Catalogue.mutators Figures.modules Figures.points ∧
    ∃ cloned deleted redirected built,
      (cloneStage "cloning" 1).Leaves (prepare Figures.modules Figures.points) () cloned () ∧
      (deleteStage "deleting" 2).Leaves cloned () deleted () ∧
      (redirectStage "redirecting" 3).Leaves deleted () redirected () ∧
      (applyStage Catalogue.mutators "applying").Leaves Figures.points redirected
        (Figures.points.map Point.markApplied) built ∧
      built.length = 2 ∧ ∃ m' ∈ built, m'.name = "figures" ∧
        m'.functions.map (·.name) = ["area", "report", "area.original", "report.original",
          "area.mutant.cxx_add_to_sub.0_1", "report.mutant.cxx_remove_void_call.0_0",
          "area.mutant.cxx_mul_to_div.0_0"] := by
  obtain ⟨cloned, deleted, redirected, built, hleaves, hlength, hbuilt⟩ :=
    Figures.fits.leaves_mutants
  obtain ⟨hclone, hdelete, hredirect, happly⟩ :=
    hleaves "cloning" "deleting" "redirecting" "applying" 1 2 3 (by decide) (by decide) (by decide)
  obtain ⟨m', hm', hholds⟩ := hbuilt 0 _ rfl
  refine ⟨Figures.fits, cloned, deleted, redirected, built, hclone, hdelete, hredirect, happly,
    hlength, m', List.mem_of_getElem? hm', hholds.name, ?_⟩
  rw [hholds.map_name]
  decide

end Synthesis

end MutationTesting
