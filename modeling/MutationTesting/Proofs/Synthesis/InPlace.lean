import MutationTesting.Proofs.Synthesis.Agreement
import MutationTesting.Proofs.Synthesis.Linked

/-!
# Mutations in place

A mutant is to behave like the program in which the mutation has been carried out in the function
itself, without stubs and copies.

* `Image.mutate` — carries out a mutation in place
* `Image.edit` — an image with its functions edited, which covers that image and the unmutated one
* `Synthesis.Succeeds.redirects` — the program with mutants redirects every edit of the program that
  its trampolines lead to
* `Synthesis.Succeeds.redirects_unmutated`, `Synthesis.Succeeds.redirects_mutated` — without a
  selected point it redirects the program, and with one it redirects the program mutated in place
-/

namespace MutationTesting

namespace Image

/-- The image with all its functions edited. -/
def edit (image : Image) (change : Function → Function) : Image :=
  { image with functions := image.functions.map change }

/-- The image with the mutation of a point carried out in the function of the point itself. -/
def mutate (mutators : List Mutator) (p : Point) (image : Image) : Except ApplyFault Image :=
  match image.functions.find? (·.name == p.function.name) with
  | some f => (p.mutate mutators f).map fun mutant =>
    image.edit fun g => if g.name = p.function.name then mutant else g
  | none => .error (.noCopy p.function.name)

/-- A call of a named function with so many arguments has as many as the function declares. -/
def Fits (image : Image) (names : List String) (callee : String) (count : Nat) : Prop :=
  callee ∈ names → ∀ f ∈ image.functions, f.name = callee → count = f.params.toNat

/-- Every call of a named function in the image has as many arguments as it declares. -/
def CallsFit (image : Image) (names : List String) : Prop :=
  ∀ f ∈ image.functions, ∀ {dst callee operands}, .call dst callee operands ∈ f.actions →
    image.Fits names callee operands.length

@[simp] theorem edit_id (image : Image) : image.edit id = image := by
  simp [edit]

end Image

theorem Function.EditOf.stub_eq {g f : Function} (h : g.EditOf f) : g.stub = f.stub := by
  simp only [stub, h.name, h.params, h.location]

/-! ## Trampolines -/

namespace Trampoline

variable {t : Trampoline} {isSet : String → Bool}

theorem target_of_none (h : ∀ x ∈ t.mutants, isSet x.selector = false) :
    t.target isSet = t.unmutated := by
  rw [target, List.find?_eq_none.mpr]
  intro x hx
  simp [h x hx]

theorem target_of_unique {x : Mutant} (hx : x ∈ t.mutants) (hset : isSet x.selector = true)
    (hothers : ∀ y ∈ t.mutants, isSet y.selector = true → y = x) : t.target isSet = x.function := by
  unfold target
  split
  · next y hy =>
    have hyset : isSet y.selector = true := by simpa using List.find?_some hy
    rw [hothers y (List.mem_of_find?_eq_some hy) hyset]
  · next hnone =>
    exact absurd hset (List.find?_eq_none.mp hnone x hx)

end Trampoline

namespace Synthesis.Succeeds

open Machine (load)

variable {mutators : List Mutator} {modules others built : List Module} {points : List Point}
  {baseline mutated : Image} {isSet : String → Bool} {change : Function → Function}

section

variable (h : Succeeds mutators modules others built points baseline mutated)

include h

theorem isDeclaration_of_mem {f : Function} (hf : f ∈ baseline.functions) :
    f.isDeclaration = false := by
  obtain ⟨-, -, -, hbody⟩ := (Link.mem_functions_iff h.linked).mp hf
  exact hbody

theorem body?_mutated_iff {name : String} {f : Function} :
    (load mutated isSet).body? name = some f ↔
      f ∈ mutated.functions ∧ f.isDeclaration = false ∧ f.name = name :=
  Machine.body?_load_iff h.mutatedResolved.functions

/-- The bodies of an edited program. -/
theorem body?_edit_iff (hedit : ∀ f ∈ baseline.functions, (change f).EditOf f) {name : String}
    {f : Function} :
    (load (baseline.edit change) isSet).body? name = some f ↔
      ∃ f₀ ∈ baseline.functions, f₀.name = name ∧ change f₀ = f := by
  have hnames :
      (baseline.edit change).functions.map (·.name) = baseline.functions.map (·.name) := by
    rw [Image.edit, List.map_map]
    exact List.map_congr_left fun f hf => (hedit f hf).name
  rw [Machine.body?_load_iff (hnames ▸ h.resolved.functions)]
  constructor
  · rintro ⟨hmem, -, hname⟩
    obtain ⟨f₀, hf₀, rfl⟩ := List.mem_map.mp hmem
    exact ⟨f₀, hf₀, (hedit f₀ hf₀).name ▸ hname, rfl⟩
  · rintro ⟨f₀, hf₀, hname, rfl⟩
    exact ⟨List.mem_map_of_mem hf₀, (hedit f₀ hf₀).isDeclaration.trans (h.isDeclaration_of_mem hf₀),
      (hedit f₀ hf₀).name.trans hname⟩

theorem closed_edit (hedit : ∀ f ∈ baseline.functions, (change f).EditOf f) :
    (load (baseline.edit change) isSet).Closed where
  callee := fun hf _ _ _ hcall => by
    obtain ⟨f₀, hf₀, rfl, rfl⟩ := (h.body?_edit_iff hedit).mp hf
    obtain ⟨g, hg, hname⟩ := h.resolved.actions f₀ hf₀ _ ((hedit f₀ hf₀).call_mem hcall)
    exact ⟨change g, (h.body?_edit_iff hedit).mpr ⟨g, hg, hname, rfl⟩⟩
  noDispatch := fun hf _ _ _ hdispatch => by
    obtain ⟨f₀, hf₀, rfl, rfl⟩ := (h.body?_edit_iff hedit).mp hf
    obtain ⟨t, ht, -⟩ := h.resolved.actions f₀ hf₀ _ ((hedit f₀ hf₀).dispatch_mem hdispatch)
    rw [h.noTrampolines] at ht
    cases ht

/-- An edited program calls functions with as many arguments as the program does. -/
theorem fits_edit (hedit : ∀ f ∈ baseline.functions, (change f).EditOf f) {names : List String}
    {callee : String} {count : Nat} (hfits : baseline.Fits names callee count) :
    (load (baseline.edit change) isSet).Fits names callee count := by
  intro hcallee f hf
  obtain ⟨f₀, hf₀, hname, rfl⟩ := (h.body?_edit_iff hedit).mp hf
  rw [(hedit f₀ hf₀).params]
  exact hfits hcallee f₀ hf₀ hname

theorem callsFit_edit (hedit : ∀ f ∈ baseline.functions, (change f).EditOf f) {names : List String}
    (hfit : baseline.CallsFit names) : (load (baseline.edit change) isSet).CallsFit names := by
  intro name f hf dst callee operands hcall
  obtain ⟨f₀, hf₀, -, rfl⟩ := (h.body?_edit_iff hedit).mp hf
  exact h.fits_edit hedit (hfit f₀ hf₀ ((hedit f₀ hf₀).call_mem hcall))

theorem exists_body_edit (hedit : ∀ f ∈ baseline.functions, (change f).EditOf f) {f : Function}
    (hf : f ∈ baseline.functions) :
    ∃ g, (load (baseline.edit change) isSet).body? f.name = some g :=
  ⟨change f, (h.body?_edit_iff hedit).mpr ⟨f, hf, rfl, rfl⟩⟩

theorem exists_main_edit (hedit : ∀ f ∈ baseline.functions, (change f).EditOf f) :
    ∃ g, (load (baseline.edit change) isSet).body? "main" = some g := by
  obtain ⟨f, hf, hname⟩ := h.resolved.main
  exact hname ▸ h.exists_body_edit hedit hf

/-! ## Redirection -/

/-- **The program with mutants redirects every edit of the program whose functions its trampolines
lead to.** -/
theorem redirects (hedit : ∀ f ∈ baseline.functions, (change f).EditOf f)
    (hkept : ∀ f ∈ baseline.functions, f.name ∉ pointNames points → change f = f)
    (hcopied : ∀ f ∈ baseline.functions, f.name ∈ pointNames points →
      ∃ copy, (load mutated isSet).target? f.name = some copy ∧
        (change f).rename copy ∈ mutated.functions ∧ readBack points copy = f.name) :
    (load mutated isSet).Redirects (load (baseline.edit change) isSet) (pointNames points)
      (readBack points) where
  closed := h.closed_edit hedit
  kept := fun hf hname => by
    obtain ⟨f₀, hf₀, he, rfl⟩ := (h.body?_edit_iff hedit).mp hf
    rw [(hedit f₀ hf₀).name] at hname
    rw [hkept f₀ hf₀ hname]
    exact h.body?_mutated_iff.mpr ⟨h.kept_mem hf₀ hname, h.isDeclaration_of_mem hf₀, rfl⟩
  stubbed := fun hf hname => by
    obtain ⟨f₀, hf₀, he, rfl⟩ := (h.body?_edit_iff hedit).mp hf
    rw [(hedit f₀ hf₀).name] at hname ⊢
    rw [(hedit f₀ hf₀).stub_eq]
    exact h.body?_mutated_iff.mpr ⟨h.stub_mem hf₀ hname, rfl, rfl⟩
  copied := fun hf hname => by
    obtain ⟨f₀, hf₀, he, rfl⟩ := (h.body?_edit_iff hedit).mp hf
    rw [(hedit f₀ hf₀).name] at hname ⊢
    obtain ⟨copy, htarget, hmem, hback⟩ := hcopied f₀ hf₀ hname
    have hbody : (change f₀).isDeclaration = false :=
      (hedit f₀ hf₀).isDeclaration.trans (h.isDeclaration_of_mem hf₀)
    exact ⟨copy, htarget, h.body?_mutated_iff.mpr ⟨hmem, hbody, rfl⟩, hback⟩
  back_name := fun hf => by
    obtain ⟨f₀, hf₀, he, rfl⟩ := (h.body?_edit_iff hedit).mp hf
    rw [(hedit f₀ hf₀).name]
    exact h.readBack_name hf₀

/-! ## No point selected -/

omit h in
theorem editOf_id : ∀ f ∈ baseline.functions, (id f : Function).EditOf f :=
  fun f _ => .refl f

theorem target?_iff {f : Function} (hf : f ∈ baseline.functions)
    (hname : f.name ∈ pointNames points) :
    ∃ t : Trampoline, (load mutated isSet).target? f.name = some (t.target isSet) ∧
      t.unmutated = Point.unmutatedName f.name ∧
      ∀ x, x ∈ t.mutants ↔ ∃ p ∈ points, p.function.name = f.name ∧
        x = ⟨p.selector, p.mutantName⟩ := by
  obtain ⟨t, ht, hfunction, hunmutated, hmutants⟩ := h.trampoline_mem hf hname
  exact ⟨t, (Machine.target?_load_iff h.mutatedResolved.trampolines).mpr ⟨t, ht, hfunction, rfl⟩,
    hunmutated, hmutants⟩

/-- **Where no point is selected, the program with mutants redirects the program.** -/
theorem redirects_unmutated (hnone : ∀ p ∈ points, isSet p.selector = false) :
    (load mutated isSet).Redirects (load baseline isSet) (pointNames points) (readBack points) := by
  have hredirects :
      (load mutated isSet).Redirects (load (baseline.edit id) isSet) (pointNames points)
      (readBack points) := h.redirects editOf_id (fun _ _ _ => rfl) fun f hf hname => ?_
  · rwa [Image.edit_id] at hredirects
  · obtain ⟨t, htarget, hunmutated, hmutants⟩ := h.target?_iff hf hname
    obtain ⟨p, hp, he⟩ := List.mem_map.mp hname
    refine ⟨Point.unmutatedName f.name, ?_, h.unmutated_mem hf hname, he ▸ readBack_unmutated hp⟩
    rw [htarget, Trampoline.target_of_none, hunmutated]
    intro x hx
    obtain ⟨q, hq, -, rfl⟩ := (hmutants x).mp hx
    exact hnone q hq

theorem fits {names : List String} {callee : String} {count : Nat}
    (hfits : baseline.Fits names callee count) : (load baseline isSet).Fits names callee count := by
  have hedit : (load (baseline.edit id) isSet).Fits names callee count :=
    h.fits_edit editOf_id hfits
  rwa [Image.edit_id] at hedit

theorem callsFit {names : List String} (hfit : baseline.CallsFit names) :
    (load baseline isSet).CallsFit names := by
  have hedit : (load (baseline.edit id) isSet).CallsFit names := h.callsFit_edit editOf_id hfit
  rwa [Image.edit_id] at hedit

theorem exists_body {f : Function} (hf : f ∈ baseline.functions) :
    ∃ g, (load baseline isSet).body? f.name = some g := by
  have hedit : ∃ g, (load (baseline.edit id) isSet).body? f.name = some g :=
    h.exists_body_edit editOf_id hf
  rwa [Image.edit_id] at hedit

theorem exists_main : ∃ g, (load baseline isSet).body? "main" = some g := by
  obtain ⟨f, hf, hname⟩ := h.resolved.main
  exact hname ▸ h.exists_body hf

/-! ## One point selected -/

/-- The mutation of every point can be carried out in place. -/
theorem exists_mutate {p : Point} (hp : p ∈ points) :
    ∃ f g, f ∈ baseline.functions ∧ f.name = p.function.name ∧ p.mutate mutators f = .ok g ∧
      baseline.mutate mutators p
        = .ok (baseline.edit fun f => if f.name = p.function.name then g else f) := by
  obtain ⟨m, m', f, g, -, -, -, hf, hfound, hg, -⟩ := h.exists_owner hp
  have hname := Module.name_of_function? hfound
  refine ⟨f, g, hf, hname, hg, ?_⟩
  have hfind : baseline.functions.find? (·.name == p.function.name) = some f :=
    (Machine.find?_eq_some_iff h.resolved.functions).mpr ⟨hf, hname⟩
  simp only [Image.mutate, hfind, hg, Except.map]

/-- Carrying out a mutation in place edits one function. -/
theorem mutate_editOf {p : Point} {f g : Function} (hf : f ∈ baseline.functions)
    (hname : f.name = p.function.name) (hg : p.mutate mutators f = .ok g) :
    ∀ f' ∈ baseline.functions, (if f'.name = p.function.name then g else f').EditOf f' := by
  intro f' hf'
  split
  · next hname' =>
    obtain rfl := h.resolved.eq_of_name hf hf' (hname.trans hname'.symm)
    exact Point.mutate_editOf hg
  · exact .refl f'

/-- **Where one point is selected, the program with mutants redirects the program that is mutated in
place.** -/
theorem redirects_mutated {p : Point} (hp : p ∈ points) (hset : isSet p.selector = true)
    (hothers : ∀ q ∈ points, q ≠ p → isSet q.selector = false) {f g : Function}
    (hf : f ∈ baseline.functions) (hname : f.name = p.function.name)
    (hg : p.mutate mutators f = .ok g) :
    (load mutated isSet).Redirects
      (load (baseline.edit fun f => if f.name = p.function.name then g else f) isSet)
      (pointNames points) (readBack points) := by
  refine h.redirects (h.mutate_editOf hf hname hg) (fun f' hf' hname' => ?_)
    fun f' hf' hname' => ?_
  · refine if_neg fun he => hname' ?_
    exact List.mem_map.mpr ⟨p, hp, he.symm⟩
  · obtain ⟨t, htarget, hunmutated, hmutants⟩ := h.target?_iff hf' hname'
    by_cases he : f'.name = p.function.name
    · -- the mutated function: its trampoline leads to the selected mutant
      obtain rfl := h.resolved.eq_of_name hf hf' (hname.trans he.symm)
      refine ⟨p.mutantName, ?_, ?_, (h.readBack_mutant hp).trans hname.symm⟩
      · rw [htarget, Trampoline.target_of_unique ((hmutants ⟨p.selector, p.mutantName⟩).mpr
          ⟨p, hp, hname.symm, rfl⟩) hset]
        intro y hy hyset
        obtain ⟨q, hq, -, rfl⟩ := (hmutants y).mp hy
        by_cases hqp : q = p
        · rw [hqp]
        · rw [hothers q hq hqp] at hyset
          cases hyset
      · rw [if_pos hname]
        exact h.mutant_mem hp hf hname hg
    · -- any other function: none of its points is selected
      obtain ⟨q, hq, hqname⟩ := List.mem_map.mp hname'
      refine ⟨Point.unmutatedName f'.name, ?_, ?_, hqname ▸ readBack_unmutated hq⟩
      · rw [htarget, Trampoline.target_of_none, hunmutated]
        intro x hx
        obtain ⟨r, hr, hrname, rfl⟩ := (hmutants x).mp hx
        exact hothers r hr fun hrp => he (by rw [← hrname, hrp])
      · rw [if_neg he]
        exact h.unmutated_mem hf' hname'

end

end Synthesis.Succeeds

end MutationTesting
