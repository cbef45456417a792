import MutationTesting.Proofs.Synthesis.Built
import MutationTesting.Proofs.Toolchain.Resolved
import MutationTesting.Proofs.Toolchain.Verified

/-!
# Images with mutants

An image that the synthesis leads to: the mutants of points are built into the modules of a program,
and these are compiled and linked with other objects. All points of one function are in one module,
so the image has a single trampoline for each function with points.

* `Synthesis.Produces` — the synthesis leads to an image
* `Synthesis.Produces.module_eq` — points of one function are in one module
* `Synthesis.Produces.mem_trampolines_iff` — **the trampolines of the image**
-/

namespace MutationTesting

namespace Synthesis

/-- The mutants of points are built into some modules, and the modules `built` are compiled and linked
with other objects to the image. All of this succeeds. -/
structure Produces (mutators : List Mutator) (modules others built : List Module)
    (points : List Point) (image : Image) : Prop where
  /-- No identifier of a mutator has a point in it; this is so for the whole catalogue. -/
  plain : ∀ m ∈ mutators, '.' ∉ m.id.toList
  /-- The points are distinct. -/
  distinct : (points.map Point.identifier).Nodup
  /-- The modules hold no mutation points yet, as when they are loaded. -/
  fresh : ∀ m ∈ modules, m.mutations = []
  builds : Builds mutators modules points built
  verified : ∀ m ∈ built, m.verify = .ok ()
  linked : Link.resolve (built ++ others) = .ok image

/-- The trampoline of a function that leads to the mutants of its points. -/
def trampolineOf (points : List Point) (name : String) : Trampoline where
  function := name
  unmutated := Point.unmutatedName name
  mutants := (points.filter (·.function.name == name)).map fun p =>
    { selector := p.selector, function := p.mutantName }

namespace Produces

variable {mutators : List Mutator} {modules others built : List Module} {points : List Point}
  {image : Image} (h : Produces mutators modules others built points image)

include h

theorem resolved : image.Resolved :=
  (Link.resolve_eq_ok_iff.mp h.linked).2

theorem synthesized :
    built.length = modules.length ∧ (∀ p ∈ points, p.function.module < modules.length) ∧
      ∀ (i : Nat) (m : Module), modules[i]? = some m →
        ∃ m', built[i]? = some m' ∧ (prepared m points i).Synthesized mutators m' :=
  h.builds.synthesized h.plain h.distinct h.fresh fun m hm =>
    (Module.verify_eq_ok_iff.mp (h.verified m hm)).nodup

/-- What the module of a point has become. -/
theorem exists_module {p : Point} (hp : p ∈ points) :
    ∃ m m', modules[p.function.module]? = some m ∧ built[p.function.module]? = some m' ∧
      (prepared m points p.function.module).Synthesized mutators m' := by
  obtain ⟨-, hlt, hall⟩ := h.synthesized
  have hm := List.getElem?_eq_getElem (hlt p hp)
  obtain ⟨m', hm', hs⟩ := hall _ _ hm
  exact ⟨_, m', hm, hm', hs⟩

theorem mutations_prepared {i : Nat} {m : Module} (hm : modules[i]? = some m) :
    (prepared m points i).mutations = points.filter (·.function.module == i) := by
  simp [prepared, h.fresh m (List.mem_of_getElem? hm)]

theorem mem_mutations {i : Nat} {m : Module} (hm : modules[i]? = some m) {p : Point} :
    p ∈ (prepared m points i).mutations ↔ p ∈ points ∧ p.function.module = i := by
  simp [h.mutations_prepared hm]

theorem mem_mutatedNames {i : Nat} {m : Module} (hm : modules[i]? = some m) {name : String} :
    name ∈ (prepared m points i).mutatedNames ↔
      ∃ p ∈ points, p.function.module = i ∧ p.function.name = name := by
  simp only [Module.mem_mutatedNames, h.mem_mutations hm, and_assoc]

theorem plain_point {p : Point} (hp : p ∈ points) : '.' ∉ p.mutator.toList := by
  obtain ⟨m, m', hm, -, hs⟩ := h.exists_module hp
  obtain ⟨f, g, -, hg, -⟩ := hs.mutant_mem ((h.mem_mutations hm).mpr ⟨hp, rfl⟩)
  obtain ⟨mutator, hmem, hid⟩ := Point.exists_mutator hg
  exact hid ▸ h.plain mutator hmem

/-- In the module of a point there is a stub in the place of its function. -/
theorem exists_stub {p : Point} (hp : p ∈ points) :
    ∃ m', (built ++ others)[p.function.module]? = some m' ∧
      ∃ f ∈ m'.functions, f.name = p.function.name ∧ f.isDeclaration = false := by
  obtain ⟨m, m', hm, hm', hs⟩ := h.exists_module hp
  obtain ⟨f, -, hf, -, -⟩ := hs.mutant_mem ((h.mem_mutations hm).mpr ⟨hp, rfl⟩)
  have hname : f.name = p.function.name := Module.name_of_function? hf
  refine ⟨m', ?_, f.stub, hs.stub_mem (Module.mem_of_function? hf) ?_, hname, rfl⟩
  · rw [List.getElem?_append_left (List.getElem?_eq_some_iff.mp hm').1, hm']
  · exact (h.mem_mutatedNames hm).mpr ⟨p, hp, rfl, hname.symm⟩

/-- **Points of functions of one name are in one module:** two modules with stubs of one name cannot
be linked. -/
theorem module_eq {p q : Point} (hp : p ∈ points) (hq : q ∈ points)
    (hname : p.function.name = q.function.name) : p.function.module = q.function.module := by
  obtain ⟨m, hm, f, hf, hfname, hfbody⟩ := h.exists_stub hp
  obtain ⟨m', hm', g, hg, hgname, hgbody⟩ := h.exists_stub hq
  have hnodup := h.resolved.functions
  obtain ⟨rfl, -⟩ := Link.resolve_eq_ok_iff.mp h.linked
  by_contra hne
  refine Link.name_ne_of_ne hnodup hne hm hm' hf hfbody hg hgbody ?_
  rw [hfname, hgname, hname]

/-- The mutated copies of different points have different names in the whole image. -/
theorem eq_of_mutantName {p q : Point} (hp : p ∈ points) (hq : q ∈ points)
    (hname : p.mutantName = q.mutantName) : p = q := by
  obtain ⟨hfunction, hmutator, haddress⟩ :=
    Point.mutantName_inj (h.plain_point hp) (h.plain_point hq) hname
  refine List.inj_on_of_nodup_map h.distinct hp hq ?_
  simp only [Point.identifier, hmutator, hfunction, haddress, h.module_eq hp hq hfunction]

/-- The trampoline that a module has got for a function with points. -/
theorem trampolineFor_eq {i : Nat} {m m' : Module} (hm : modules[i]? = some m)
    (hs : (prepared m points i).Synthesized mutators m') {p : Point} (hp : p ∈ points)
    (hi : p.function.module = i) :
    (prepared m points i).trampolineFor p.function.name = trampolineOf points p.function.name := by
  have hfilter : ∀ q ∈ points,
      (q.function.name == p.function.name && q.function.module == i)
        = (q.function.name == p.function.name) := by
    intro q hq
    cases hname : q.function.name == p.function.name with
    | false => simp
    | true => simp [← hi, h.module_eq hq hp (by simpa using hname)]
  simp only [Module.trampolineFor, trampolineOf, hs.mutantPoints, h.mutations_prepared hm,
    List.filter_filter]
  rw [List.filter_congr hfilter]

/-- **The trampolines of the image are those of the program and one for each function with
points.** -/
theorem mem_trampolines_iff {t : Trampoline} :
    t ∈ image.trampolines ↔ (∃ m ∈ modules ++ others, t ∈ m.trampolines) ∨
      ∃ p ∈ points, t = trampolineOf points p.function.name := by
  obtain ⟨hlength, -, hall⟩ := h.synthesized
  obtain ⟨rfl, -⟩ := Link.resolve_eq_ok_iff.mp h.linked
  show t ∈ (built ++ others).flatMap (·.trampolines) ↔ _
  rw [List.mem_flatMap]
  constructor
  · rintro ⟨m', hm', ht⟩
    rcases List.mem_append.mp hm' with hm' | hm'
    · obtain ⟨i, hi⟩ := List.mem_iff_getElem?.mp hm'
      have hlt : i < modules.length := hlength ▸ (List.getElem?_eq_some_iff.mp hi).1
      obtain ⟨m'', hm'', hs⟩ := hall i _ (List.getElem?_eq_getElem hlt)
      obtain rfl : m'' = m' := Option.some.inj (hm''.symm.trans hi)
      rw [hs.trampolines, List.mem_append, List.mem_map] at ht
      rcases ht with ht | ⟨name, hname, rfl⟩
      · exact Or.inl ⟨_, List.mem_append_left _ (List.getElem_mem hlt), ht⟩
      · obtain ⟨p, hp, hmodule, rfl⟩ :=
          (h.mem_mutatedNames (List.getElem?_eq_getElem hlt)).mp hname
        exact Or.inr ⟨p, hp, h.trampolineFor_eq (List.getElem?_eq_getElem hlt) hs hp hmodule⟩
    · exact Or.inl ⟨m', List.mem_append_right _ hm', ht⟩
  · rintro (⟨m, hm, ht⟩ | ⟨p, hp, rfl⟩)
    · rcases List.mem_append.mp hm with hm | hm
      · obtain ⟨i, hi⟩ := List.mem_iff_getElem?.mp hm
        obtain ⟨m', hm', hs⟩ := hall i m hi
        refine ⟨m', List.mem_append_left _ (List.mem_of_getElem? hm'), ?_⟩
        rw [hs.trampolines]
        exact List.mem_append_left _ ht
      · exact ⟨m, List.mem_append_right _ hm, ht⟩
    · obtain ⟨m, m', hm, hm', hs⟩ := h.exists_module hp
      refine ⟨m', List.mem_append_left _ (List.mem_of_getElem? hm'), ?_⟩
      rw [← h.trampolineFor_eq hm hs hp rfl]
      exact hs.trampoline_mem ((h.mem_mutatedNames hm).mpr ⟨p, hp, rfl, rfl⟩)

end Produces

end Synthesis

end MutationTesting
