import Mathlib.Data.List.Nodup
import MutationTesting.Machine.Run
import MutationTesting.Proofs.Checks
import MutationTesting.Proofs.Ir.Function
import MutationTesting.Toolchain.Link

/-!
# Resolved images

What linking promises about an image, as a property of the image: modules resolve to an image
exactly if it is put together from them and has the property (`Link.resolve_eq_ok_iff`). The
functions and the trampolines of such an image can be looked up by name (`Machine.body?_load_iff`,
`Machine.target?_load_iff`).
-/

namespace MutationTesting

open Checks

/-- The symbol that an action refers to is there. -/
def Action.Resolved (image : Image) : Action → Prop
  | .call _ callee _ => ∃ f ∈ image.functions, f.name = callee
  | .dispatch _ trampoline _ => ∃ t ∈ image.trampolines, t.function = trampoline
  | _ => True

/-- What linking promises about an image. -/
structure Image.Resolved (image : Image) : Prop where
  /-- Every name has one body. -/
  functions : (image.functions.map (·.name)).Nodup
  /-- Every function has one trampoline. -/
  trampolines : (image.trampolines.map (·.function)).Nodup
  /-- The symbols that functions refer to are there. -/
  actions : ∀ f ∈ image.functions, ∀ a ∈ f.actions, a.Resolved image
  /-- There is a main function. -/
  main : ∃ f ∈ image.functions, f.name = "main"

namespace Link

/-- The functions with a body, in the order of modules. -/
def bodies (modules : List Module) : List Function :=
  modules.flatMap fun m => m.functions.filter fun f => !f.isDeclaration

theorem map_definitions (modules : List Module) :
    (definitions modules).map (·.2) = bodies modules := by
  simp only [definitions, bodies, List.map_flatMap, List.map_map]
  refine congrArg (fun g => List.flatMap g modules) (funext fun m => ?_)
  exact List.map_id _

/-- The image that modules are put together to. -/
def imageOf (modules : List Module) : Image where
  functions := bodies modules
  trampolines := modules.flatMap (·.trampolines)

theorem checkSymbols_eq_ok_iff :
    ∀ {seen ds : List (String × Function)}, checkSymbols seen ds = .ok () ↔
      ((ds.map (·.2)).map (·.name)).Nodup ∧ ∀ d ∈ ds, ∀ d' ∈ seen, d'.2.name ≠ d.2.name
  | seen, [] => by simp [checkSymbols]
  | seen, d :: ds => by
    unfold checkSymbols
    cases h : seen.find? (·.2.name == d.2.name) with
    | some previous =>
      have hmem := List.mem_of_find?_eq_some h
      have hname := List.find?_some h
      simp only [beq_iff_eq] at hname
      simp only [reduceCtorEq, List.mem_cons, forall_eq_or_imp, false_iff, not_and]
      exact fun _ hd => absurd hname (hd previous hmem)
    | none =>
      simp only [List.find?_eq_none, beq_iff_eq] at h
      simp only [checkSymbols_eq_ok_iff, List.map_cons, List.nodup_cons, List.mem_cons,
        forall_eq_or_imp, List.mem_map]
      constructor
      · rintro ⟨hnodup, hnew⟩
        refine ⟨⟨?_, hnodup⟩, h, fun d' hd' => (hnew d' hd').2⟩
        rintro ⟨f, ⟨d', hd', rfl⟩, he⟩
        exact (hnew d' hd').1 he.symm
      · rintro ⟨⟨hne, hnodup⟩, -, hnew⟩
        exact ⟨hnodup, fun d' hd' => ⟨fun he => hne ⟨_, ⟨d', hd', rfl⟩, he.symm⟩, hnew d' hd'⟩⟩

theorem checkTrampolines_eq_ok_iff :
    ∀ {seen : List String} {ts : List Trampoline}, checkTrampolines seen ts = .ok () ↔
      (ts.map (·.function)).Nodup ∧ ∀ t ∈ ts, t.function ∉ seen
  | seen, [] => by simp [checkTrampolines]
  | seen, t :: ts => by
    unfold checkTrampolines
    by_cases hseen : t.function ∈ seen
    · simp [hseen]
    · simp only [List.contains_eq_mem, decide_eq_true_eq, hseen, if_false,
        checkTrampolines_eq_ok_iff, List.map_cons, List.nodup_cons, List.mem_map, List.mem_cons,
        not_or, forall_eq_or_imp, not_false_eq_true, true_and]
      constructor
      · rintro ⟨hnodup, hnew⟩
        exact ⟨⟨fun ⟨t', ht', he⟩ => (hnew t' ht').1 he, hnodup⟩, fun t' ht' => (hnew t' ht').2⟩
      · rintro ⟨⟨hne, hnodup⟩, hnew⟩
        exact ⟨hnodup, fun t' ht' => ⟨fun he => hne ⟨t', ht', he⟩, hnew t' ht'⟩⟩

theorem checkAction_eq_ok_iff {image : Image} {function : String} {a : Action} :
    checkAction image function a = .ok () ↔ a.Resolved image := by
  cases a <;> simp [checkAction, Action.Resolved, List.any_eq_true]

theorem checkFunction_eq_ok_iff {image : Image} {f : Function} :
    checkFunction image f = .ok () ↔ ∀ a ∈ f.actions, a.Resolved image := by
  unfold checkFunction
  rw [forM_eq_ok_iff]
  simp only [checkAction_eq_ok_iff]
  constructor
  · intro h a ha
    obtain ⟨i, hi, rfl⟩ := Function.mem_actions_iff.mp ha
    exact h i hi
  · exact fun h i hi => h _ (Function.mem_actions_iff.mpr ⟨i, hi, rfl⟩)

/-- **Modules resolve exactly to the image they are put together to, if it has the property.** -/
theorem resolve_eq_ok_iff {modules : List Module} {image : Image} :
    resolve modules = .ok image ↔ image = imageOf modules ∧ image.Resolved := by
  unfold resolve
  simp only [seq_eq_ok_iff, checkSymbols_eq_ok_iff, checkTrampolines_eq_ok_iff, forM_eq_ok_iff,
    checkFunction_eq_ok_iff, map_definitions]
  show _ ∧ _ ∧ _ ∧ (if (imageOf modules).functions.any (·.name == "main") then _ else _) = _ ↔ _
  constructor
  · rintro ⟨⟨hfunctions, -⟩, ⟨htrampolines, -⟩, hactions, hmain⟩
    split at hmain
    · next hany =>
      cases hmain
      refine ⟨rfl, hfunctions, htrampolines, hactions, ?_⟩
      simpa [imageOf] using hany
    · cases hmain
  · rintro ⟨rfl, hfunctions, htrampolines, hactions, hmain⟩
    refine ⟨⟨hfunctions, by simp⟩, ⟨htrampolines, by simp⟩, hactions, ?_⟩
    rw [if_pos (by simpa using hmain)]
    rfl

theorem mem_bodies {modules : List Module} {f : Function} :
    f ∈ bodies modules ↔ ∃ m ∈ modules, f ∈ m.functions ∧ f.isDeclaration = false := by
  simp [bodies]

/-- The functions of an image are the bodies in its modules. -/
theorem mem_functions_iff {modules : List Module} {image : Image} (h : resolve modules = .ok image)
    {f : Function} :
    f ∈ image.functions ↔ ∃ m ∈ modules, f ∈ m.functions ∧ f.isDeclaration = false := by
  obtain ⟨rfl, -⟩ := resolve_eq_ok_iff.mp h
  exact mem_bodies

/-- In one module there are no two bodies of one name. -/
theorem nodup_of_mem {modules : List Module} (hnodup : ((bodies modules).map (·.name)).Nodup)
    {m : Module} (hm : m ∈ modules) :
    ((m.functions.filter fun f => !f.isDeclaration).map (·.name)).Nodup := by
  rw [bodies, List.map_flatMap, List.nodup_flatMap] at hnodup
  exact hnodup.1 m hm

/-- In different modules there are no two bodies of one name. -/
theorem name_ne_of_ne {modules : List Module} (hnodup : ((bodies modules).map (·.name)).Nodup)
    {i j : Nat} (hij : i ≠ j) {m m' : Module} (hm : modules[i]? = some m)
    (hm' : modules[j]? = some m') {f g : Function} (hf : f ∈ m.functions)
    (hfbody : f.isDeclaration = false) (hg : g ∈ m'.functions)
    (hgbody : g.isDeclaration = false) : f.name ≠ g.name := by
  intro he
  rw [bodies, List.map_flatMap, List.nodup_flatMap] at hnodup
  have hpairwise := List.pairwise_iff_getElem.mp hnodup.2
  have hfmem : f.name ∈ (m.functions.filter fun f => !f.isDeclaration).map (·.name) :=
    List.mem_map_of_mem (List.mem_filter.mpr ⟨hf, by simp [hfbody]⟩)
  have hgmem : f.name ∈ (m'.functions.filter fun f => !f.isDeclaration).map (·.name) :=
    he ▸ List.mem_map_of_mem (List.mem_filter.mpr ⟨hg, by simp [hgbody]⟩)
  obtain ⟨hi, rfl⟩ := List.getElem?_eq_some_iff.mp hm
  obtain ⟨hj, rfl⟩ := List.getElem?_eq_some_iff.mp hm'
  rcases Nat.lt_or_gt_of_ne hij with hlt | hlt
  · exact hpairwise i j hi hj hlt hfmem hgmem
  · exact hpairwise j i hj hi hlt hgmem hfmem

/-- If bodies have distinct names in every module and in every two modules, they have distinct names
in all of them together. -/
theorem nodup_bodies {modules : List Module}
    (hone : ∀ m ∈ modules, ((m.functions.filter fun f => !f.isDeclaration).map (·.name)).Nodup)
    (htwo : ∀ (i j : Nat) (m m' : Module), i ≠ j → modules[i]? = some m → modules[j]? = some m' →
      ∀ f ∈ m.functions, f.isDeclaration = false → ∀ g ∈ m'.functions, g.isDeclaration = false →
        f.name ≠ g.name) : ((bodies modules).map (·.name)).Nodup := by
  rw [bodies, List.map_flatMap, List.nodup_flatMap]
  refine ⟨hone, List.pairwise_iff_getElem.mpr fun i j hi hj hlt name hf hg => ?_⟩
  obtain ⟨f, hfmem, rfl⟩ := List.mem_map.mp hf
  obtain ⟨g, hgmem, hname⟩ := List.mem_map.mp hg
  obtain ⟨hfmem, hfbody⟩ := List.mem_filter.mp hfmem
  obtain ⟨hgmem, hgbody⟩ := List.mem_filter.mp hgmem
  exact htwo i j _ _ (Nat.ne_of_lt hlt) (List.getElem?_eq_getElem hi) (List.getElem?_eq_getElem hj)
    f hfmem (by simpa using hfbody) g hgmem (by simpa using hgbody) hname.symm

end Link

/-- A name stands for one function of a resolved image. -/
theorem Image.Resolved.eq_of_name {image : Image} (h : image.Resolved) {f g : Function}
    (hf : f ∈ image.functions) (hg : g ∈ image.functions) (hname : f.name = g.name) : f = g :=
  List.inj_on_of_nodup_map h.functions hf hg hname

/-! ## Looking things up -/

namespace Machine

/-- In a list whose keys are distinct, whatever has a key is found by it. -/
theorem find?_eq_some_iff {α : Type} {key : α → String} {items : List α}
    (hnodup : (items.map key).Nodup) {name : String} {a : α} :
    items.find? (key · == name) = some a ↔ a ∈ items ∧ key a = name := by
  constructor
  · intro h
    exact ⟨List.mem_of_find?_eq_some h, by simpa using List.find?_some h⟩
  · rintro ⟨hmem, rfl⟩
    induction items with
    | nil => simp at hmem
    | cons b items ih =>
      rw [List.map_cons, List.nodup_cons] at hnodup
      rcases List.mem_cons.mp hmem with rfl | hmem
      · simp
      · have hne : key b ≠ key a := fun he => hnodup.1 (he ▸ List.mem_map_of_mem hmem)
        rw [List.find?_cons_of_neg (by simpa using hne)]
        exact ih hnodup.2 hmem

theorem lookup_eq_some_iff {α : Type} {items : List (String × α)} (hnodup : (items.map (·.1)).Nodup)
    {name : String} {a : α} : items.lookup name = some a ↔ (name, a) ∈ items := by
  induction items with
  | nil => simp
  | cons b items ih =>
    rw [List.map_cons, List.nodup_cons] at hnodup
    obtain ⟨key, value⟩ := b
    rw [List.lookup_cons, List.mem_cons, Prod.mk.injEq]
    cases h : name == key with
    | true =>
      obtain rfl : name = key := by simpa using h
      simp only [Option.some.injEq, true_and]
      constructor
      · exact fun he => Or.inl he.symm
      · rintro (he | hmem)
        · exact he.symm
        · exact absurd (List.mem_map_of_mem hmem) hnodup.1
    | false =>
      have hne : name ≠ key := by simpa using h
      simp only [hne, false_and, false_or]
      exact ih hnodup.2

variable {image : Image} {isSet : String → Bool}

/-- The body of a name in an image whose names are distinct. -/
theorem body?_load_iff (hnodup : (image.functions.map (·.name)).Nodup) {name : String}
    {f : Function} :
    (load image isSet).body? name = some f ↔
      f ∈ image.functions ∧ f.isDeclaration = false ∧ f.name = name := by
  have hnodup' :
      (((image.functions.filter fun f => !f.isDeclaration).reverse).map (·.name)).Nodup := by
    rw [List.map_reverse, List.nodup_reverse]
    exact hnodup.sublist (List.filter_sublist.map _)
  unfold body? load
  rw [find?_eq_some_iff hnodup']
  simp [and_assoc]

/-- The target of a trampoline in an image with one trampoline for each function. -/
theorem target?_load_iff (hnodup : (image.trampolines.map (·.function)).Nodup)
    {trampoline target : String} :
    (load image isSet).target? trampoline = some target ↔
      ∃ t ∈ image.trampolines, t.function = trampoline ∧ t.target isSet = target := by
  have hnodup' : ((image.trampolines.map fun t => (t.function, t.target isSet)).reverse.map
      (·.1)).Nodup := by
    rw [List.map_reverse, List.nodup_reverse, List.map_map]
    exact hnodup
  unfold target? load
  rw [lookup_eq_some_iff hnodup']
  simp

end Machine

end MutationTesting
