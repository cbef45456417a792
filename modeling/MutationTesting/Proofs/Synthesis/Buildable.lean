import MutationTesting.Proofs.Synthesis.Linked
import MutationTesting.Proofs.Synthesis.Progress

/-!
# Programs with their mutants can be built

Every function of a module with mutants is made from a function of the module: it is kept, or is its
stub, its unmutated copy or one of its mutants. So what verification and linking ask of the program
they find in the program with mutants too.

* `Module.MadeFrom` — what a function is made into
* `Module.Synthesized.verified` — **a verified module stays verified**
* `Synthesis.Stands` — a module can stand in the place of another one when modules are linked
* `Synthesis.resolve_of_stands` — **modules that stand in the place of linked ones can be linked**
-/

namespace MutationTesting

open Checks

/-! ## Functions -/

/-- What becomes of a function `f` of a module. -/
inductive Module.MadeFrom (mutators : List Mutator) (m : Module) (f : Function) : Function → Prop
    where
  | kept : f.name ∉ m.mutatedNames → MadeFrom mutators m f f
  | stub : f.name ∈ m.mutatedNames → MadeFrom mutators m f f.stub
  | unmutated : f.name ∈ m.mutatedNames →
    MadeFrom mutators m f (f.rename (Point.unmutatedName f.name))
  | mutant {p : Point} {g : Function} : p ∈ m.mutations → p.function.name = f.name →
    p.mutate mutators f = .ok g → MadeFrom mutators m f (g.rename p.mutantName)

/-- Every function of a module with mutants is made from a function of the module. -/
theorem Module.Synthesized.exists_madeFrom {mutators : List Mutator} {m m' : Module}
    (h : m.Synthesized mutators m') {g : Function} (hg : g ∈ m'.functions) :
    ∃ f ∈ m.functions, m.MadeFrom mutators f g := by
  obtain ⟨unmutated, mutants, hfunctions, hunmutated, hmutants⟩ := h.functions
  rw [hfunctions] at hg
  rcases List.mem_append.mp hg with hg | hg
  · obtain ⟨f, hf, rfl⟩ := List.mem_map.mp hg
    refine ⟨f, hf, ?_⟩
    split
    · next hname => exact .stub hname
    · next hname => exact .kept hname
  rcases List.mem_append.mp hg with hg | hg
  · obtain ⟨name, hname, f, hf, rfl⟩ := exists_mem_of_forall₂ hunmutated.flip hg
    obtain rfl := name_of_function? hf
    exact ⟨f, mem_of_function? hf, .unmutated hname⟩
  · obtain ⟨p, hp, f, g, hf, hmutate, rfl⟩ := exists_mem_of_forall₂ hmutants.flip hg
    exact ⟨f, mem_of_function? hf, .mutant hp (name_of_function? hf).symm hmutate⟩

namespace Module.MadeFrom

variable {mutators : List Mutator} {m : Module} {f g : Function}

/-- A call is not made but kept. -/
theorem call_mem (h : m.MadeFrom mutators f g) {dst : Option UInt32} {callee : String}
    {args : List Operand} (hmem : .call dst callee args ∈ g.actions) :
    .call dst callee args ∈ f.actions := by
  cases h with
  | kept => exact hmem
  | stub => simp [Function.stub, Function.actions, Function.stubBlock] at hmem
  | unmutated => exact hmem
  | mutant _ _ hmutate => exact (Point.mutate_editOf hmutate).call_mem hmem

/-- Only a stub dispatches, through its own trampoline, where the function does not. -/
theorem dispatch_mem (h : m.MadeFrom mutators f g) {dst : UInt32} {trampoline : String}
    {args : List Operand} (hmem : .dispatch dst trampoline args ∈ g.actions) :
    .dispatch dst trampoline args ∈ f.actions ∨ trampoline ∈ m.mutatedNames := by
  cases h with
  | kept => exact Or.inl hmem
  | stub hname =>
    have htrampoline : trampoline = f.name := by
      simp [Function.stub, Function.actions, Function.stubBlock] at hmem
      exact hmem.2.1
    exact Or.inr (htrampoline ▸ hname)
  | unmutated => exact Or.inl hmem
  | mutant _ _ hmutate => exact Or.inl ((Point.mutate_editOf hmutate).dispatch_mem hmem)

end Module.MadeFrom

/-! ## Verification -/

theorem Action.Sound.mono {trampolines trampolines' : List Trampoline} {blocks : Nat} {a : Action}
    (h : a.Sound trampolines blocks)
    (hsub : ∀ t ∈ trampolines, ∃ t' ∈ trampolines', t'.function = t.function) :
    a.Sound trampolines' blocks := by
  cases a with
  | dispatch dst trampoline args =>
    obtain ⟨t, ht, rfl⟩ := h
    exact hsub t ht
  | _ => exact h

theorem Function.Sound.mono {trampolines trampolines' : List Trampoline} {f : Function}
    (h : f.Sound trampolines)
    (hsub : ∀ t ∈ trampolines, ∃ t' ∈ trampolines', t'.function = t.function) :
    f.Sound trampolines' where
  terminated := h.terminated
  actions := fun a ha => (h.actions a ha).mono hsub

theorem Function.sound_stub {trampolines : List Trampoline} {f : Function}
    (h : ∃ t ∈ trampolines, t.function = f.name) : f.stub.Sound trampolines where
  terminated := by
    intro b hb
    obtain rfl := List.mem_singleton.mp hb
    rfl
  actions := by
    intro a ha
    have hcases : a = .dispatch 0 f.name
        ((List.range f.params.toNat).map fun i => .parameter (.ofNat i)) ∨
        a = .ret (.register 0) := by
      simpa [stub, Function.actions, stubBlock] using ha
    rcases hcases with rfl | rfl
    · exact h
    · trivial

theorem Module.MadeFrom.sound {mutators : List Mutator} {m : Module} {f g : Function}
    {trampolines : List Trampoline} (h : m.MadeFrom mutators f g) (hf : f.Sound trampolines)
    (hnames : ∀ name ∈ m.mutatedNames, ∃ t ∈ trampolines, t.function = name) :
    g.Sound trampolines := by
  cases h with
  | kept => exact hf
  | stub hname => exact Function.sound_stub (hnames f.name hname)
  | unmutated => exact ⟨hf.terminated, hf.actions⟩
  | mutant _ _ hmutate =>
    obtain ⟨mutator, -, hmutate⟩ := Point.mutate_eq_ok_iff.mp hmutate
    have hsound := (Mutator.mutate_eq_ok_iff_editedBy.mp hmutate).sound hf
    exact ⟨hsound.terminated, hsound.actions⟩

namespace Module.Synthesized

variable {mutators : List Mutator} {m m' : Module} (h : m.Synthesized mutators m')

include h

/-- The function of a name with points has a body. -/
theorem exists_body {name : String} (hname : name ∈ m.mutatedNames) :
    ∃ f, m.function? name = some f ∧ f.isDeclaration = false := by
  obtain ⟨p, hp, rfl⟩ := mem_mutatedNames.mp hname
  obtain ⟨f, g, hf, hg, -⟩ := h.mutant_mem hp
  exact ⟨f, hf, Point.isDeclaration_of_mutate hg⟩

/-- A body, or its stub, stays under its name. -/
theorem exists_own {f : Function} (hf : f ∈ m.functions) (hbody : f.isDeclaration = false) :
    ∃ g ∈ m'.functions, g.isDeclaration = false ∧ g.name = f.name := by
  by_cases hname : f.name ∈ m.mutatedNames
  · exact ⟨f.stub, h.stub_mem hf hname, rfl, rfl⟩
  · exact ⟨f, h.kept_mem hf hname, hbody, rfl⟩

/-- Every trampoline leads to bodies. -/
theorem exists_target {name target : String} (hname : name ∈ m.mutatedNames)
    (htarget : target ∈ Point.unmutatedName name ::
      (m.trampolineFor name).mutants.map (·.function)) :
    ∃ g ∈ m'.functions, g.isDeclaration = false ∧ g.name = target := by
  rcases List.mem_cons.mp htarget with rfl | htarget
  · obtain ⟨f, hf, hbody⟩ := h.exists_body hname
    obtain ⟨f', hf', hmem⟩ := h.unmutated_mem hname
    obtain rfl := Option.some.inj (hf'.symm.trans hf)
    exact ⟨_, hmem, hbody, rfl⟩
  · obtain ⟨x, hx, rfl⟩ := List.mem_map.mp htarget
    obtain ⟨p, hp, rfl⟩ := List.mem_map.mp hx
    rw [h.mutantPoints] at hp
    obtain ⟨f, g, -, hg, hmem⟩ := h.mutant_mem (List.mem_filter.mp hp).1
    exact ⟨_, hmem, (Point.mutate_editOf hg).isDeclaration.trans (Point.isDeclaration_of_mutate hg),
      rfl⟩

/-- **A verified module stays verified** with its mutants, as long as names are distinct. -/
theorem verified (hm : m.Verified) (hnodup : (m'.functions.map (·.name)).Nodup) : m'.Verified where
  nodup := hnodup
  sound := by
    intro g hg
    obtain ⟨f, hf, hmade⟩ := h.exists_madeFrom hg
    refine hmade.sound ((hm.sound f hf).mono fun t ht => ⟨t, ?_, rfl⟩)
      fun name hname => ⟨m.trampolineFor name, h.trampoline_mem hname, rfl⟩
    rw [h.trampolines]
    exact List.mem_append_left _ ht
  targets := by
    intro t ht target htarget
    have hfound : ∃ g ∈ m'.functions, g.isDeclaration = false ∧ g.name = target := by
      rw [h.trampolines] at ht
      rcases List.mem_append.mp ht with ht | ht
      · obtain ⟨f, hf, hbody⟩ := hm.targets t ht target htarget
        obtain rfl := name_of_function? hf
        exact h.exists_own (mem_of_function? hf) hbody
      · obtain ⟨name, hname, rfl⟩ := List.mem_map.mp ht
        exact h.exists_target hname htarget
    obtain ⟨g, hg, hbody, hname⟩ := hfound
    exact ⟨g, (Machine.find?_eq_some_iff hnodup).mpr ⟨hg, hname⟩, hbody⟩

end Module.Synthesized

/-! ## Linking -/

namespace Synthesis

/-- A module `m'` can stand in the place of a module `m` when modules are linked: it has the bodies
of `m`, its other bodies are copies of these that are made for points, and it calls nothing else. -/
structure Stands (points : List Point) (m m' : Module) : Prop where
  nodup : ((m'.functions.filter fun f => !f.isDeclaration).map (·.name)).Nodup
  /-- Every body is made from one of `m`. -/
  origin : ∀ g ∈ m'.functions, g.isDeclaration = false →
    ∃ f ∈ m.functions, f.isDeclaration = false ∧ readBack points g.name = f.name ∧
      (∀ dst callee args, .call dst callee args ∈ g.actions → .call dst callee args ∈ f.actions) ∧
      ∀ dst trampoline args, .dispatch dst trampoline args ∈ g.actions →
        .dispatch dst trampoline args ∈ f.actions ∨ ∃ t ∈ m'.trampolines, t.function = trampoline
  /-- Every name keeps its body. -/
  own : ∀ f ∈ m.functions, f.isDeclaration = false →
    ∃ g ∈ m'.functions, g.isDeclaration = false ∧ g.name = f.name
  trampolines : (m'.trampolines.map (·.function)).Nodup
  /-- Trampolines redirect functions of `m`. -/
  redirected : ∀ t ∈ m'.trampolines, ∃ f ∈ m.functions, f.isDeclaration = false ∧
    f.name = t.function

section

variable {points : List Point} {modules modules' : List Module} {image : Image}
  (hlinked : Link.resolve modules = .ok image) (hnone : image.trampolines = [])
  (hstands : List.Forall₂ (Stands points) modules modules')

include hstands

/-- Whatever has a name in the linked modules has it in those that stand in their place. -/
theorem exists_body_of_stands {f : Function} (hf : f ∈ Link.bodies modules) :
    ∃ g ∈ Link.bodies modules', g.name = f.name := by
  obtain ⟨m, hm, hf, hbody⟩ := Link.mem_bodies.mp hf
  obtain ⟨m', hm', hs⟩ := exists_mem_of_forall₂ hstands hm
  obtain ⟨g, hg, hgbody, hname⟩ := hs.own f hf hbody
  exact ⟨g, Link.mem_bodies.mpr ⟨m', hm', hg, hgbody⟩, hname⟩

include hlinked

theorem nodup_bodies_of_stands : ((Link.bodies modules').map (·.name)).Nodup := by
  obtain ⟨rfl, hresolved⟩ := Link.resolve_eq_ok_iff.mp hlinked
  refine Link.nodup_bodies (fun m' hm' => ?_) fun i j m₁' m₂' hne h₁ h₂ g₁ hg₁ hbody₁ g₂ hg₂ hbody₂
    hname => ?_
  · obtain ⟨m, -, hs⟩ := exists_mem_of_forall₂ hstands.flip hm'
    exact hs.nodup
  · -- bodies of one name would be made from bodies of one name
    obtain ⟨m₁, hm₁, hs₁⟩ := getElem?_of_forall₂ hstands.flip h₁
    obtain ⟨m₂, hm₂, hs₂⟩ := getElem?_of_forall₂ hstands.flip h₂
    obtain ⟨f₁, hf₁, hfbody₁, hread₁, -⟩ := hs₁.origin g₁ hg₁ hbody₁
    obtain ⟨f₂, hf₂, hfbody₂, hread₂, -⟩ := hs₂.origin g₂ hg₂ hbody₂
    exact Link.name_ne_of_ne hresolved.functions hne hm₁ hm₂ hf₁ hfbody₁ hf₂ hfbody₂
      (hread₁.symm.trans ((congrArg _ hname).trans hread₂))

theorem nodup_trampolines_of_stands :
    ((modules'.flatMap (·.trampolines)).map (·.function)).Nodup := by
  obtain ⟨rfl, hresolved⟩ := Link.resolve_eq_ok_iff.mp hlinked
  rw [List.map_flatMap, List.nodup_flatMap]
  refine ⟨fun m' hm' => ?_, List.pairwise_iff_getElem.mpr fun i j hi hj hlt name h₁ h₂ => ?_⟩
  · obtain ⟨m, -, hs⟩ := exists_mem_of_forall₂ hstands.flip hm'
    exact hs.trampolines
  · -- two trampolines of one name would redirect two bodies of this name
    obtain ⟨t₁, ht₁, rfl⟩ := List.mem_map.mp h₁
    obtain ⟨t₂, ht₂, hname⟩ := List.mem_map.mp h₂
    obtain ⟨m₁, hm₁, hs₁⟩ := getElem?_of_forall₂ hstands.flip (List.getElem?_eq_getElem hi)
    obtain ⟨m₂, hm₂, hs₂⟩ := getElem?_of_forall₂ hstands.flip (List.getElem?_eq_getElem hj)
    obtain ⟨f₁, hf₁, hfbody₁, hname₁⟩ := hs₁.redirected t₁ ht₁
    obtain ⟨f₂, hf₂, hfbody₂, hname₂⟩ := hs₂.redirected t₂ ht₂
    exact Link.name_ne_of_ne hresolved.functions (Nat.ne_of_lt hlt) hm₁ hm₂ hf₁ hfbody₁ hf₂ hfbody₂
      (hname₁.trans (hname.symm.trans hname₂.symm))

include hnone

/-- **Modules that stand in the place of linked ones can be linked.** -/
theorem resolve_of_stands : Link.resolve modules' = .ok (Link.imageOf modules') := by
  refine Link.resolve_eq_ok_iff.mpr ⟨rfl, nodup_bodies_of_stands hlinked hstands,
    nodup_trampolines_of_stands hlinked hstands, fun g hg a ha => ?_, ?_⟩
  · obtain ⟨rfl, hresolved⟩ := Link.resolve_eq_ok_iff.mp hlinked
    obtain ⟨m', hm', hg, hbody⟩ := Link.mem_bodies.mp hg
    obtain ⟨m, hm, hs⟩ := exists_mem_of_forall₂ hstands.flip hm'
    obtain ⟨f, hf, hfbody, -, hcalls, hdispatches⟩ := hs.origin g hg hbody
    have hfmem : f ∈ (Link.imageOf modules).functions := Link.mem_bodies.mpr ⟨m, hm, hf, hfbody⟩
    cases a with
    | call dst callee args =>
      obtain ⟨f', hf', rfl⟩ := hresolved.actions f hfmem _ (hcalls dst callee args ha)
      exact exists_body_of_stands hstands hf'
    | dispatch dst trampoline args =>
      rcases hdispatches dst trampoline args ha with hmem | ⟨t, ht, hname⟩
      · obtain ⟨t, ht, -⟩ := hresolved.actions f hfmem _ hmem
        rw [hnone] at ht
        cases ht
      · exact ⟨t, List.mem_flatMap.mpr ⟨m', hm', ht⟩, hname⟩
    | _ => trivial
  · obtain ⟨rfl, hresolved⟩ := Link.resolve_eq_ok_iff.mp hlinked
    obtain ⟨f, hf, hmain⟩ := hresolved.main
    obtain ⟨g, hg, hname⟩ := exists_body_of_stands hstands hf
    exact ⟨g, hg, hname.trans hmain⟩

end

/-- A module without trampolines stands in its own place, if no body is named like a copy. -/
theorem stands_self {points : List Point} {m : Module}
    (hnodup : ((m.functions.filter fun f => !f.isDeclaration).map (·.name)).Nodup)
    (hnone : m.trampolines = [])
    (hunused : ∀ f ∈ m.functions, readBack points f.name = f.name) : Stands points m m where
  nodup := hnodup
  origin := fun g hg hbody =>
    ⟨g, hg, hbody, hunused g hg, fun _ _ _ h => h, fun _ _ _ h => Or.inl h⟩
  own := fun f hf hbody => ⟨f, hf, hbody, rfl⟩
  trampolines := by simp [hnone]
  redirected := by simp [hnone]

/-- A module with mutants stands in the place of the module. -/
theorem stands_of_synthesized {mutators : List Mutator} {points : List Point} {m m' : Module}
    (h : m.Synthesized mutators m') (hnames : (m.functions.map (·.name)).Nodup)
    (hnodup : (m'.functions.map (·.name)).Nodup) (hnone : m.trampolines = [])
    (hsub : ∀ p ∈ m.mutations, p ∈ points)
    (hplain : ∀ p ∈ points, '.' ∉ p.mutator.toList)
    (hunused : ∀ f ∈ m.functions, readBack points f.name = f.name) : Stands points m m' where
  nodup := hnodup.sublist (List.filter_sublist.map _)
  origin := by
    intro g hg hbody
    obtain ⟨f, hf, hmade⟩ := h.exists_madeFrom hg
    refine ⟨f, hf, ?_, ?_, fun _ _ _ => hmade.call_mem, fun _ _ _ hmem => ?_⟩
    · cases hmade with
      | kept => exact hbody
      | stub hname =>
        obtain ⟨f', hf', hbody'⟩ := h.exists_body hname
        have hfound := (Machine.find?_eq_some_iff hnames).mpr ⟨hf, rfl⟩
        obtain rfl := Option.some.inj (hf'.symm.trans hfound)
        exact hbody'
      | unmutated => exact hbody
      | mutant _ _ hmutate => exact Point.isDeclaration_of_mutate hmutate
    · cases hmade with
      | kept => exact hunused _ hf
      | stub => exact hunused f hf
      | unmutated hname =>
        obtain ⟨p, hp, he⟩ := Module.mem_mutatedNames.mp hname
        rw [Function.rename_name, ← he]
        exact readBack_unmutated (hsub p hp)
      | mutant hp he =>
        rw [Function.rename_name, ← he]
        exact readBack_mutantName hplain (hsub _ hp)
    · rcases hmade.dispatch_mem hmem with hmem | hname
      · exact Or.inl hmem
      · exact Or.inr ⟨m.trampolineFor _, h.trampoline_mem hname, rfl⟩
  own := fun f hf hbody => h.exists_own hf hbody
  trampolines := by
    rw [h.trampolines, hnone, List.nil_append, List.map_map]
    have hid : (·.function) ∘ m.trampolineFor = id := rfl
    rw [hid, List.map_id]
    exact m.nodup_mutatedNames
  redirected := by
    intro t ht
    rw [h.trampolines, hnone, List.nil_append] at ht
    obtain ⟨name, hname, rfl⟩ := List.mem_map.mp ht
    obtain ⟨f, hf, hbody⟩ := h.exists_body hname
    exact ⟨f, Module.mem_of_function? hf, hbody, Module.name_of_function? hf⟩

end Synthesis

end MutationTesting
