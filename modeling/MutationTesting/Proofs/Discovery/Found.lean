import MutationTesting.Campaign.Run
import MutationTesting.Proofs.Discovery.Merging
import MutationTesting.Proofs.Ir.Function
import MutationTesting.Proofs.Mutation.Names
import MutationTesting.Proofs.Toolchain.Resolved

/-!
# What is found

The search for mutation points as one list: function by function, mutator by mutator, instruction by
instruction. The stages of the search go through every function once for each test, and what they
find is merged into this list.

* `Definition.points` — the points of a function
* `Program.pairwise_points` — no point comes twice
* `mergeDuplicates_candidates` — **the search finds the points of all functions, each reached by all
  tests**
-/

namespace MutationTesting

/-- The point of a mutator at an instruction with an address, if it can change the instruction. -/
def Mutator.pointOf? (m : Mutator) (ref : FunctionRef) (address : Address) (i : Instruction) :
    Option Point :=
  (m.replacement? i.action).map fun replacement =>
    { mutator := m.id, function := ref, address, location := i.location, replacement }

/-- The points of a function: for each mutator in turn those at the instructions that it can change
and that are not to be left out, in the order of blocks. -/
def Definition.points (d : Definition) (mutators : List Mutator) (skips : Instruction → Bool) :
    List Point :=
  mutators.flatMap fun m =>
    (d.function.addressed.filter fun (_, i) => !skips i).filterMap
      fun (a, i) => m.pointOf? d.ref a i

theorem Definition.mem_points {d : Definition} {mutators : List Mutator}
    {skips : Instruction → Bool} {p : Point} :
    p ∈ d.points mutators skips ↔ ∃ m ∈ mutators, ∃ a i,
      d.function.instruction? a = some i ∧ skips i = false ∧ m.pointOf? d.ref a i = some p := by
  simp only [points, List.mem_flatMap, List.mem_filterMap, List.mem_filter, Prod.exists,
    Function.mem_addressed_iff, Bool.not_eq_eq_eq_not, Bool.not_true, and_assoc]

theorem Mutator.pointOf?_eq_some {m : Mutator} {ref : FunctionRef} {a : Address} {i : Instruction}
    {p : Point} (h : m.pointOf? ref a i = some p) :
    p.mutator = m.id ∧ p.function = ref ∧ p.address = a ∧ (m.replacement? i.action).isSome := by
  obtain ⟨replacement, hreplacement, rfl⟩ := Option.map_eq_some_iff.mp h
  exact ⟨rfl, rfl, rfl, by rw [hreplacement, Option.isSome_some]⟩

/-! ## Defined functions -/

namespace Program

variable {program : Program}

theorem mem_defined {d : Definition} : d ∈ program.defined ↔
    program.modules[d.ref.module]? = some d.owner ∧ d.function ∈ d.owner.functions ∧
      d.function.isDeclaration = false ∧ d.ref.name = d.function.name := by
  unfold defined
  simp only [List.mem_flatMap, List.mem_map, List.mem_filter, Prod.exists,
    List.mem_zipIdx_iff_getElem?]
  constructor
  · rintro ⟨owner, module, howner, f, ⟨hf, hbody⟩, rfl⟩
    exact ⟨howner, hf, by simpa using hbody, rfl⟩
  · obtain ⟨⟨module, name⟩, owner, f⟩ := d
    rintro ⟨howner, hf, hbody, hname⟩
    obtain rfl : name = f.name := hname
    exact ⟨owner, module, howner, f, ⟨hf, by simpa using hbody⟩, rfl⟩

/-- The reference of a defined function is looked up in its module. -/
theorem function?_ref_eq {d : Definition} (hd : d ∈ program.defined) :
    program.function? d.ref = d.owner.function? d.function.name := by
  obtain ⟨howner, -, -, hname⟩ := mem_defined.mp hd
  rw [function?, howner, Option.bind_some, hname]

variable (hnames : ∀ m ∈ program.modules, (m.functions.map (·.name)).Nodup)

include hnames

/-- The reference of a defined function leads to it. -/
theorem function?_ref {d : Definition} (hd : d ∈ program.defined) :
    program.function? d.ref = some d.function := by
  obtain ⟨howner, hf, -, -⟩ := mem_defined.mp hd
  rw [function?_ref_eq hd]
  exact (Machine.find?_eq_some_iff (hnames _ (List.mem_of_getElem? howner))).mpr ⟨hf, rfl⟩

/-- No reference comes twice. -/
theorem pairwise_defined : program.defined.Pairwise (·.ref ≠ ·.ref) := by
  unfold defined
  rw [List.pairwise_flatMap]
  refine ⟨fun ⟨owner, module⟩ howner => ?_,
    (Function.pairwise_zipIdx program.modules).imp fun hne x hx y hy he => hne ?_⟩
  · have hnodup := hnames owner (List.mem_of_getElem? (List.mem_zipIdx_iff_getElem?.mp howner))
    rw [List.pairwise_map]
    exact ((List.pairwise_map.mp hnodup).sublist List.filter_sublist).imp
      fun hne he => hne (FunctionRef.mk.inj he).2
  · obtain ⟨_, -, rfl⟩ := List.mem_map.mp hx
    obtain ⟨_, -, rfl⟩ := List.mem_map.mp hy
    exact (FunctionRef.mk.inj he).1

end Program

/-! ## No point comes twice -/

section

variable {mutators : List Mutator} (hnodup : mutators.Nodup)
  (hcatalogue : ∀ m ∈ mutators, m ∈ Catalogue.mutators) (skips : Instruction → Bool)

include hnodup hcatalogue

theorem Definition.pairwise_points (d : Definition) :
    (d.points mutators skips).Pairwise (·.identifier ≠ ·.identifier) := by
  have hcolon : ∀ m ∈ mutators, ':' ∉ m.id.toList :=
    fun m hm => Catalogue.colon_not_mem_id m (hcatalogue m hm)
  unfold points
  rw [List.pairwise_flatMap]
  -- points of one mutator differ in their addresses, those of two in their mutators
  constructor
  · intro m hm
    rw [List.pairwise_filterMap]
    refine (d.function.pairwise_addressed.sublist List.filter_sublist).imp ?_
    rintro ⟨a, i⟩ ⟨b, j⟩ hne p hp q hq hid
    obtain ⟨hpm, -, hpa, -⟩ := Mutator.pointOf?_eq_some hp
    obtain ⟨hqm, -, hqb, -⟩ := Mutator.pointOf?_eq_some hq
    obtain ⟨-, -, haddress⟩ :=
      Point.identifier_inj (hpm ▸ hcolon m hm) (hqm ▸ hcolon m hm) hid
    exact hne (hpa.symm.trans (haddress.trans hqb))
  · refine hnodup.imp_of_mem ?_
    intro m m' hm hm' hne p hp q hq hid
    obtain ⟨⟨a, i⟩, -, hp⟩ := List.mem_filterMap.mp hp
    obtain ⟨⟨b, j⟩, -, hq⟩ := List.mem_filterMap.mp hq
    obtain ⟨hpm, -⟩ := Mutator.pointOf?_eq_some hp
    obtain ⟨hqm, -⟩ := Mutator.pointOf?_eq_some hq
    obtain ⟨hmutator, -⟩ := Point.identifier_inj (hpm ▸ hcolon m hm) (hqm ▸ hcolon m' hm') hid
    exact hne (List.inj_on_of_nodup_map Catalogue.nodup_id (hcatalogue m hm) (hcatalogue m' hm')
      (hpm.symm.trans (hmutator.trans hqm)))

/-- **No point comes twice.** -/
theorem Program.pairwise_points {program : Program}
    (hnames : ∀ m ∈ program.modules, (m.functions.map (·.name)).Nodup)
    {definitions : List Definition} (hsub : definitions.Sublist program.defined) :
    ((definitions.flatMap (·.points mutators skips)).map Point.identifier).Nodup := by
  rw [List.Nodup, List.pairwise_map, List.pairwise_flatMap]
  refine ⟨fun d _ => d.pairwise_points hnodup hcatalogue skips,
    ((Program.pairwise_defined hnames).sublist hsub).imp fun hne p hp q hq hid => hne ?_⟩
  obtain ⟨m, hm, a, i, -, -, hp⟩ := Definition.mem_points.mp hp
  obtain ⟨m', hm', b, j, -, -, hq⟩ := Definition.mem_points.mp hq
  obtain ⟨hpm, hpf, -⟩ := Mutator.pointOf?_eq_some hp
  obtain ⟨hqm, hqf, -⟩ := Mutator.pointOf?_eq_some hq
  obtain ⟨-, hfunction, -⟩ := Point.identifier_inj
    (hpm ▸ Catalogue.colon_not_mem_id m (hcatalogue m hm))
    (hqm ▸ Catalogue.colon_not_mem_id m' (hcatalogue m' hm')) hid
  exact hpf.symm.trans (hfunction.trans hqf)

end

/-! ## The search -/

section

variable {program : Program} (hnames : ∀ m ∈ program.modules, (m.functions.map (·.name)).Nodup)

include hnames

/-- What is found in a function that a test reaches. -/
theorem Candidate.points_select {d : Definition} (hd : d ∈ program.defined)
    (filters : List (Filter Instruction)) (mutators : List Mutator) (test : Nat) :
    (({ function := d.ref, test } : Candidate).select program filters).points program mutators
      = (d.points mutators fun i => filters.any (·.skips i)).map (·.reachedBy [test]) := by
  have hfunction := program.function?_ref hnames hd
  unfold Candidate.points Candidate.select
  simp only [hfunction, Option.elim_some]
  rw [Definition.points, List.map_flatMap]
  refine List.flatMap_congr fun m _ => ?_
  rw [Mutator.find, selectable, List.filterMap_map]
  refine congrArg (List.map (Point.reachedBy · [test])) ?_
  refine List.filterMap_congr fun ⟨a, i⟩ hmem => ?_
  have hi := Function.mem_addressed_iff.mp (List.mem_filter.mp hmem).1
  rw [Function.comp_apply, Mutator.pointAt?, hi]
  show (m.replacement? i.action >>= _) = m.pointOf? d.ref a i
  unfold Mutator.pointOf?
  cases m.replacement? i.action <;> rfl

omit hnames in
/-- Whatever is found in a candidate is an instruction that a mutator can change. -/
theorem Candidate.exists_of_mem_points {c : Candidate} {mutators : List Mutator} {p : Point}
    (h : p ∈ c.points program mutators) : ∃ f, program.function? p.function = some f ∧
      ∃ m ∈ mutators, ∃ i, p.mutator = m.id ∧ f.instruction? p.address = some i ∧
        (m.replacement? i.action).isSome := by
  unfold points at h
  split at h
  · next f hf =>
    obtain ⟨m, hm, hp⟩ := List.mem_flatMap.mp h
    obtain ⟨q, hq, rfl⟩ := List.mem_map.mp hp
    obtain ⟨a, -, hpoint⟩ := List.mem_filterMap.mp hq
    obtain ⟨i, hi, hpoint⟩ := Option.bind_eq_some_iff.mp hpoint
    obtain ⟨replacement, hreplacement, hpoint⟩ := Option.bind_eq_some_iff.mp hpoint
    cases hpoint
    exact ⟨f, hf, m, hm, i, rfl, hi, by rw [hreplacement, Option.isSome_some]⟩
  · cases h

/-- The definitions that are searched. -/
def Program.searched (program : Program) (covered : Option Covered)
    (filters : List (Filter Function)) : List Definition :=
  program.defined.filter fun d =>
    Campaign.isCovered covered d && !filters.any (·.skips d.function)

omit hnames in
theorem Program.mem_defined_of_mem_searched {covered : Option Covered}
    {filters : List (Filter Function)} {d : Definition}
    (hd : d ∈ program.searched covered filters) :
    d ∈ program.defined :=
  (List.mem_filter.mp hd).1

theorem filter_candidates (covered : Option Covered) (filters : List (Filter Function))
    (tests : Nat) :
    (Campaign.candidates covered program tests).filter (fun c => filters.all (·.keeps program c))
      = (List.range tests).flatMap fun test =>
          (program.searched covered filters).map fun d => { function := d.ref, test } := by
  rw [Campaign.candidates, List.filter_flatMap]
  refine List.flatMap_congr fun test _ => ?_
  rw [List.filter_map, List.filter_filter, Program.searched]
  congr 1
  refine List.filter_congr fun d hd => ?_
  have hfunction := program.function?_ref hnames hd
  have hkeeps : ∀ f : Filter Function, f.keeps program { function := d.ref, test }
      = !f.skips d.function := by
    intro f
    rw [Filter.keeps, hfunction]
  rw [Bool.and_comm, List.not_any_eq_all_not]
  simp only [Function.comp_apply, hkeeps]

/-- **The search finds the points of all searched functions, each reached by all tests.** -/
theorem mergeDuplicates_candidates {mutators : List Mutator} (hnodup : mutators.Nodup)
    (hcatalogue : ∀ m ∈ mutators, m ∈ Catalogue.mutators) (covered : Option Covered)
    (functionFilters : List (Filter Function)) (instructionFilters : List (Filter Instruction))
    {tests : Nat} (htests : 0 < tests) :
    mergeDuplicates ((((Campaign.candidates covered program tests).filter fun c =>
        functionFilters.all (·.keeps program c)).map (·.select program instructionFilters)).flatMap
          (·.points program mutators))
      = ((program.searched covered functionFilters).flatMap (·.points mutators fun i =>
          instructionFilters.any (·.skips i))).map (·.reachedBy (List.range tests)) := by
  have hrounds : ((((Campaign.candidates covered program tests).filter fun c =>
        functionFilters.all (·.keeps program c)).map (·.select program instructionFilters)).flatMap
          (·.points program mutators))
      = (List.range tests).flatMap fun test =>
          ((program.searched covered functionFilters).flatMap (·.points mutators fun i =>
            instructionFilters.any (·.skips i))).map (·.reachedBy [test]) := by
    rw [filter_candidates hnames, List.map_flatMap, List.flatMap_assoc]
    refine List.flatMap_congr fun test _ => ?_
    rw [List.map_map, List.flatMap_map, List.map_flatMap]
    refine List.flatMap_congr fun d hd => ?_
    exact Candidate.points_select hnames (Program.mem_defined_of_mem_searched hd) _ _ _
  obtain ⟨tests, rfl⟩ := Nat.exists_eq_add_of_le' htests
  rw [hrounds]
  exact mergeDuplicates_rounds
    (Program.pairwise_points hnodup hcatalogue _ hnames List.filter_sublist) tests

end

end MutationTesting
