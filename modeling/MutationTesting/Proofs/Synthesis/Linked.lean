import MutationTesting.Proofs.Synthesis.Produced
import MutationTesting.Proofs.Synthesis.Redirected

/-!
# Programs with their mutants

A program is linked twice: as it is, and with its mutants built in.

* `Synthesis.Succeeds` — everything from the program to the two images succeeds
* `Synthesis.readBack` — the names of copies read as the names of the functions they were made of
* `Synthesis.Succeeds.redirects` — **the second image redirects the mutated functions of the first
  one**
-/

namespace MutationTesting

open Checks

namespace Synthesis

/-- The names of the functions with mutation points. -/
def pointNames (points : List Point) : List String :=
  points.map (·.function.name)

/-- A name in a program with mutants, a copy being read as the function that it was made of. -/
def readBack (points : List Point) (name : String) : String :=
  match points.find? fun p =>
      p.mutantName == name || Point.unmutatedName p.function.name == name with
  | some p => p.function.name
  | none => name

/-- The name of a copy is read as the only function that has a copy of this name. -/
theorem readBack_eq {points : List Point} {name function : String} {p : Point} (hp : p ∈ points)
    (hcopy : p.mutantName = name ∨ Point.unmutatedName p.function.name = name)
    (hall : ∀ q ∈ points, q.mutantName = name ∨ Point.unmutatedName q.function.name = name →
      q.function.name = function) : readBack points name = function := by
  unfold readBack
  split
  · next q hq =>
    have hname := List.find?_some hq
    simp only [Bool.or_eq_true, beq_iff_eq] at hname
    exact hall q (List.mem_of_find?_eq_some hq) hname
  · next hnone =>
    rw [List.find?_eq_none] at hnone
    refine absurd ?_ (hnone p hp)
    simpa only [Bool.or_eq_true, beq_iff_eq] using hcopy

theorem readBack_unmutated {points : List Point} {p : Point} (hp : p ∈ points) :
    readBack points (Point.unmutatedName p.function.name) = p.function.name := by
  refine readBack_eq hp (Or.inr rfl) fun q _ hname => ?_
  rcases hname with he | he
  · exact absurd he (q.mutantName_ne_unmutatedName _)
  · exact Point.unmutatedName_inj he

theorem readBack_mutantName {points : List Point} (hplain : ∀ p ∈ points, '.' ∉ p.mutator.toList)
    {p : Point} (hp : p ∈ points) : readBack points p.mutantName = p.function.name := by
  refine readBack_eq hp (Or.inl rfl) fun q hq hname => ?_
  rcases hname with he | he
  · exact (Point.mutantName_inj (hplain q hq) (hplain p hp) he).1
  · exact absurd he.symm (p.mutantName_ne_unmutatedName _)

/-- A name that no copy has is read as it is. -/
theorem readBack_of_ne {points : List Point} {name : String}
    (h : ∀ p ∈ points, name ≠ Point.unmutatedName p.function.name ∧ name ≠ p.mutantName) :
    readBack points name = name := by
  unfold readBack
  rw [List.find?_eq_none.mpr]
  intro p hp hname
  obtain ⟨hunmutated, hmutant⟩ := h p hp
  simp only [Bool.or_eq_true, beq_iff_eq] at hname
  rcases hname with he | he
  · exact hmutant he.symm
  · exact hunmutated he.symm

/-- A program of some modules and other objects is compiled and linked to the image `baseline`. Then
the mutants of points are built into its modules, and the modules `built` are compiled and linked
with the same objects to the image `mutated`. All of this succeeds. -/
structure Succeeds (mutators : List Mutator) (modules others built : List Module)
    (points : List Point) (baseline mutated : Image) : Prop where
  /-- No identifier of a mutator has a point in it; this is so for the whole catalogue. -/
  plain : ∀ m ∈ mutators, '.' ∉ m.id.toList
  /-- The points are distinct. -/
  distinct : (points.map Point.identifier).Nodup
  /-- The modules hold no mutation points yet, as when they are loaded. -/
  fresh : ∀ m ∈ modules, m.mutations = []
  verified : ∀ m ∈ modules, m.verify = .ok ()
  linked : Link.resolve (modules ++ others) = .ok baseline
  /-- The program has no trampolines of its own. -/
  noTrampolines : baseline.trampolines = []
  builds : Builds mutators modules points built
  builtVerified : ∀ m ∈ built, m.verify = .ok ()
  builtLinked : Link.resolve (built ++ others) = .ok mutated

namespace Succeeds

variable {mutators : List Mutator} {modules others built : List Module} {points : List Point}
  {baseline mutated : Image}

section

variable (h : Succeeds mutators modules others built points baseline mutated)

include h

theorem produces : Produces mutators modules others built points mutated :=
  ⟨h.plain, h.distinct, h.fresh, h.builds, h.builtVerified, h.builtLinked⟩

theorem resolved : baseline.Resolved :=
  (Link.resolve_eq_ok_iff.mp h.linked).2

theorem mutatedResolved : mutated.Resolved :=
  h.produces.resolved

theorem synthesized :
    built.length = modules.length ∧ (∀ p ∈ points, p.function.module < modules.length) ∧
      ∀ (i : Nat) (m : Module), modules[i]? = some m →
        ∃ m', built[i]? = some m' ∧ (prepared m points i).Synthesized mutators m' :=
  h.produces.synthesized

/-- What the module of a point has become. -/
theorem exists_module {p : Point} (hp : p ∈ points) :
    ∃ m m', modules[p.function.module]? = some m ∧ built[p.function.module]? = some m' ∧
      (prepared m points p.function.module).Synthesized mutators m' :=
  h.produces.exists_module hp

theorem mem_mutations {i : Nat} {m : Module} (hm : modules[i]? = some m) {p : Point} :
    p ∈ (prepared m points i).mutations ↔ p ∈ points ∧ p.function.module = i :=
  h.produces.mem_mutations hm

theorem mem_mutatedNames {i : Nat} {m : Module} (hm : modules[i]? = some m) {name : String} :
    name ∈ (prepared m points i).mutatedNames ↔
      ∃ p ∈ points, p.function.module = i ∧ p.function.name = name :=
  h.produces.mem_mutatedNames hm

/-! ### Functions of the program -/

theorem mem_baseline {m : Module} (hm : m ∈ modules) {f : Function} (hf : f ∈ m.functions)
    (hbody : f.isDeclaration = false) : f ∈ baseline.functions :=
  (Link.mem_functions_iff h.linked).mpr ⟨m, List.mem_append_left _ hm, hf, hbody⟩

theorem mem_mutated {m : Module} (hm : m ∈ built) {f : Function} (hf : f ∈ m.functions)
    (hbody : f.isDeclaration = false) : f ∈ mutated.functions :=
  (Link.mem_functions_iff h.builtLinked).mpr ⟨m, List.mem_append_left _ hm, hf, hbody⟩

/-- The function of a point has its body in the module of the point, where it can be mutated. -/
theorem exists_owner {p : Point} (hp : p ∈ points) :
    ∃ m m' f g, modules[p.function.module]? = some m ∧ built[p.function.module]? = some m' ∧
      (prepared m points p.function.module).Synthesized mutators m' ∧
      f ∈ baseline.functions ∧ m.function? p.function.name = some f ∧
      p.mutate mutators f = .ok g ∧ g.rename p.mutantName ∈ m'.functions := by
  obtain ⟨m, m', hm, hm', hs⟩ := h.exists_module hp
  obtain ⟨f, g, hf, hg, hmem⟩ := hs.mutant_mem ((h.mem_mutations hm).mpr ⟨hp, rfl⟩)
  exact ⟨m, m', f, g, hm, hm', hs, h.mem_baseline (List.mem_of_getElem? hm)
    (Module.mem_of_function? hf) (Point.isDeclaration_of_mutate hg), hf, hg, hmem⟩

/-- So a function of the program with a point in it is the one of its module. -/
theorem owner {p : Point} (hp : p ∈ points) {f : Function} (hf : f ∈ baseline.functions)
    (hname : f.name = p.function.name) :
    ∃ m m' g, modules[p.function.module]? = some m ∧ built[p.function.module]? = some m' ∧
      (prepared m points p.function.module).Synthesized mutators m' ∧
      m.function? f.name = some f ∧ p.mutate mutators f = .ok g ∧
      g.rename p.mutantName ∈ m'.functions := by
  obtain ⟨m, m', f', g, hm, hm', hs, hf', hfound, hg, hmem⟩ := h.exists_owner hp
  have hname' := Module.name_of_function? hfound
  obtain rfl := h.resolved.eq_of_name hf hf' (hname.trans hname'.symm)
  exact ⟨m, m', g, hm, hm', hs, hname ▸ hfound, hg, hmem⟩

theorem plain_point {p : Point} (hp : p ∈ points) : '.' ∉ p.mutator.toList :=
  h.produces.plain_point hp

/-! ### Functions of the program with mutants -/

theorem kept_mem {f : Function} (hf : f ∈ baseline.functions) (hname : f.name ∉ pointNames points) :
    f ∈ mutated.functions := by
  obtain ⟨m, hm, hfm, hbody⟩ := (Link.mem_functions_iff h.linked).mp hf
  rcases List.mem_append.mp hm with hm | hm
  · obtain ⟨i, hi⟩ := List.mem_iff_getElem?.mp hm
    obtain ⟨m', hm', hs⟩ := h.synthesized.2.2 i m hi
    refine h.mem_mutated (List.mem_of_getElem? hm') (hs.kept_mem hfm fun hmem => hname ?_) hbody
    obtain ⟨p, hp, -, he⟩ := (h.mem_mutatedNames hi).mp hmem
    exact List.mem_map.mpr ⟨p, hp, he⟩
  · exact (Link.mem_functions_iff h.builtLinked).mpr ⟨m, List.mem_append_right _ hm, hfm, hbody⟩

theorem stub_mem {f : Function} (hf : f ∈ baseline.functions) (hname : f.name ∈ pointNames points) :
    f.stub ∈ mutated.functions := by
  obtain ⟨p, hp, he⟩ := List.mem_map.mp hname
  obtain ⟨m, m', g, hm, hm', hs, hfound, -, -⟩ := h.owner hp hf he.symm
  exact h.mem_mutated (List.mem_of_getElem? hm') (hs.stub_mem (List.mem_of_find?_eq_some hfound)
    ((h.mem_mutatedNames hm).mpr ⟨p, hp, rfl, he⟩)) rfl

theorem unmutated_mem {f : Function} (hf : f ∈ baseline.functions)
    (hname : f.name ∈ pointNames points) :
    f.rename (Point.unmutatedName f.name) ∈ mutated.functions := by
  obtain ⟨p, hp, he⟩ := List.mem_map.mp hname
  obtain ⟨m, m', g, hm, hm', hs, hfound, hg, -⟩ := h.owner hp hf he.symm
  obtain ⟨f', hfound', hmem⟩ := hs.unmutated_mem ((h.mem_mutatedNames hm).mpr ⟨p, hp, rfl, he⟩)
  obtain rfl : f' = f := Option.some.inj (hfound'.symm.trans hfound)
  have hbody : f'.isDeclaration = false := Point.isDeclaration_of_mutate hg
  exact h.mem_mutated (List.mem_of_getElem? hm') hmem hbody

theorem mutant_mem {p : Point} (hp : p ∈ points) {f g : Function} (hf : f ∈ baseline.functions)
    (hname : f.name = p.function.name) (hg : p.mutate mutators f = .ok g) :
    g.rename p.mutantName ∈ mutated.functions := by
  obtain ⟨m, m', g', hm, hm', hs, -, hg', hmem⟩ := h.owner hp hf hname
  obtain rfl : g' = g := Except.ok.inj (hg'.symm.trans hg)
  refine h.mem_mutated (List.mem_of_getElem? hm') hmem ?_
  exact (Point.mutate_editOf hg).isDeclaration.trans (Point.isDeclaration_of_mutate hg)

/-- A mutated function has a trampoline that leads to exactly the mutants of its points. -/
theorem trampoline_mem {f : Function} (hf : f ∈ baseline.functions)
    (hname : f.name ∈ pointNames points) :
    ∃ t ∈ mutated.trampolines, t.function = f.name ∧ t.unmutated = Point.unmutatedName f.name ∧
      ∀ x, x ∈ t.mutants ↔ ∃ p ∈ points, p.function.name = f.name ∧
        x = ⟨p.selector, p.mutantName⟩ := by
  obtain ⟨p, hp, he⟩ := List.mem_map.mp hname
  obtain ⟨m, m', g, hm, hm', hs, hfound, hg, -⟩ := h.owner hp hf he.symm
  refine ⟨(prepared m points p.function.module).trampolineFor f.name, ?_, rfl, rfl, fun x => ?_⟩
  · obtain ⟨rfl, -⟩ := Link.resolve_eq_ok_iff.mp h.builtLinked
    exact List.mem_flatMap.mpr ⟨m', List.mem_append_left _ (List.mem_of_getElem? hm'),
      hs.trampoline_mem ((h.mem_mutatedNames hm).mpr ⟨p, hp, rfl, he⟩)⟩
  · simp only [Module.trampolineFor, hs.mutantPoints, List.mem_map, List.mem_filter,
      h.mem_mutations hm, beq_iff_eq]
    constructor
    · rintro ⟨q, ⟨⟨hq, -⟩, hqf⟩, rfl⟩
      exact ⟨q, hq, hqf, rfl⟩
    · rintro ⟨q, hq, hqf, rfl⟩
      refine ⟨q, ⟨⟨hq, ?_⟩, hqf⟩, rfl⟩
      -- the body of the function is in one module only
      obtain ⟨mq, -, -, hmq, -, -, hfoundq, -, -⟩ := h.owner hq hf hqf.symm
      by_contra hne
      have hbody := Point.isDeclaration_of_mutate hg
      have hnodup := h.resolved.functions
      obtain ⟨rfl, -⟩ := Link.resolve_eq_ok_iff.mp h.linked
      exact Link.name_ne_of_ne hnodup hne
        (by rw [List.getElem?_append_left (List.getElem?_eq_some_iff.mp hmq).1, hmq])
        (by rw [List.getElem?_append_left (List.getElem?_eq_some_iff.mp hm).1, hm])
        (List.mem_of_find?_eq_some hfoundq) hbody (List.mem_of_find?_eq_some hfound) hbody rfl

/-! ### Names of copies -/

/-- The body of a function, or its stub, stays in its place among the modules. -/
theorem exists_place {i : Nat} {m : Module} (hm : (modules ++ others)[i]? = some m) {f : Function}
    (hf : f ∈ m.functions) (hbody : f.isDeclaration = false) :
    ∃ m' f', (built ++ others)[i]? = some m' ∧ f' ∈ m'.functions ∧ f'.isDeclaration = false ∧
      f'.name = f.name := by
  obtain ⟨hlength, -, hall⟩ := h.synthesized
  rcases Nat.lt_or_ge i modules.length with hlt | hge
  · rw [List.getElem?_append_left hlt] at hm
    obtain ⟨m', hm', hs⟩ := hall i m hm
    rw [List.getElem?_append_left (hlength ▸ hlt)]
    by_cases hname : f.name ∈ (prepared m points i).mutatedNames
    · exact ⟨m', f.stub, hm', hs.stub_mem hf hname, rfl, rfl⟩
    · exact ⟨m', f, hm', hs.kept_mem hf hname, hbody, rfl⟩
  · rw [List.getElem?_append_right hge] at hm
    rw [List.getElem?_append_right (hlength ▸ hge), hlength]
    exact ⟨m, f, hm, hf, hbody, rfl⟩

/-- No function of the program has the name of a copy. -/
theorem name_ne {p : Point} (hp : p ∈ points) {f : Function} (hf : f ∈ baseline.functions) :
    f.name ≠ Point.unmutatedName p.function.name ∧ f.name ≠ p.mutantName := by
  obtain ⟨mp, mp', fp, gp, hmp, hmp', hs, hfp, hfound, hgp, hmutant⟩ := h.exists_owner hp
  have hmem := (h.mem_mutations hmp).mpr ⟨hp, rfl⟩
  obtain ⟨m, hm, hfm, hbody⟩ := (Link.mem_functions_iff h.linked).mp hf
  obtain ⟨i, hi⟩ := List.mem_iff_getElem?.mp hm
  by_cases hij : i = p.function.module
  · -- in the module of the point verification keeps names apart
    rw [hij, List.getElem?_append_left (List.getElem?_eq_some_iff.mp hmp).1, hmp] at hi
    obtain rfl := Option.some.inj hi
    exact hs.name_ne
      (Module.verify_eq_ok_iff.mp (h.builtVerified mp' (List.mem_of_getElem? hmp'))).nodup
      hfm hmem
  · -- and between modules linking does
    obtain ⟨m', f', hm', hf', hbody', hname⟩ := h.exists_place hi hfm hbody
    have hmp'' : (built ++ others)[p.function.module]? = some mp' := by
      rw [List.getElem?_append_left (List.getElem?_eq_some_iff.mp hmp').1, hmp']
    have hnodup := h.mutatedResolved.functions
    obtain ⟨rfl, -⟩ := Link.resolve_eq_ok_iff.mp h.builtLinked
    obtain ⟨fu, hfu, hunmutated⟩ := hs.unmutated_mem (Module.mem_mutatedNames.mpr ⟨p, hmem, rfl⟩)
    obtain rfl : fu = fp := Option.some.inj (hfu.symm.trans hfound)
    have hbodyp : fu.isDeclaration = false := Point.isDeclaration_of_mutate hgp
    rw [← hname]
    exact ⟨Link.name_ne_of_ne hnodup hij hm' hmp'' hf' hbody' hunmutated hbodyp,
      Link.name_ne_of_ne hnodup hij hm' hmp'' hf' hbody' hmutant
        ((Point.mutate_editOf hgp).isDeclaration.trans hbodyp)⟩

theorem readBack_name {f : Function} (hf : f ∈ baseline.functions) :
    readBack points f.name = f.name :=
  readBack_of_ne fun _ hp => h.name_ne hp hf

theorem readBack_mutant {p : Point} (hp : p ∈ points) :
    readBack points p.mutantName = p.function.name :=
  readBack_mutantName (fun _ hq => h.plain_point hq) hp

end

end Succeeds

end Synthesis

end MutationTesting
