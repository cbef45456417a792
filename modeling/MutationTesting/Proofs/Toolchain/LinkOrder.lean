import Mathlib.Data.List.Perm.Basic
import MutationTesting.Proofs.Machine.ControlFlow
import MutationTesting.Proofs.Machine.Ending

/-!
# The order of object modules

Object modules are scanned from the front, and a machine looks names up in lists. Still the order of
the modules cannot be told from the program: whether they can be linked is a matter of which symbols
there are, and in a linked image no name comes twice, so a look-up finds the same in any order.

* `Machine.Agrees` — two machines that look names up alike
* `Machine.Agrees.callAt_eq` — their calls do the same
* `Image.Rearranges` — two images that hold the same in another order
* `Image.Resolved.agrees` — a resolved image and a rearranged one give such machines
* `Link.order_is_invisible` — **modules can be linked in any order, and the programs run alike**
-/

namespace MutationTesting

/-! ## Machines that look names up alike -/

namespace Machine

/-- Two machines have the same body for every name, and their trampolines lead to the same
functions. -/
structure Agrees (m m' : Machine) : Prop where
  body : ∀ name, m.body? name = m'.body? name
  target : ∀ trampoline, m.target? trampoline = m'.target? trampoline

variable {m m' : Machine}

/-- The induction is on the depth of calls; inside a frame nothing but calls depends on the
machine. -/
theorem Agrees.call_tracks (h : m.Agrees m') (blocks : Nat) :
    ∀ (depth : Nat) (name : String) (args : List Int64),
      Run.Tracks id (fun _ => False) (m.call blocks depth name args)
        (m'.call blocks depth name args)
  | 0, _, _ => .trap .stackOverflow
  | depth + 1, name, args => by
    simp only [Machine.call, ← h.body]
    cases m.body? name with
    | none => exact .trap (.unknownFunction name)
    | some f =>
      simp only [Run.getOr_some, pure_bind]
      refine Frame.runBlocks_tracks (.refl _) ?_ blocks blocks 0 .empty (Nat.le_refl blocks) ?_
      · intro a _
        exact a.callsTrack_of_target h.target (h.call_tracks blocks depth)
      · intro hlt
        exact absurd hlt (Nat.lt_irrefl blocks)

/-- **Machines that look names up alike do the same in every call.** -/
theorem Agrees.callAt_eq (h : m.Agrees m') (blocks : Nat) (name : String) (args : List Int64)
    (depth : Nat) : m.callAt blocks name args depth = m'.callAt blocks name args depth := by
  rw [Machine.callAt_eq, Machine.callAt_eq]
  rcases (h.call_tracks blocks (maxCallDepth - depth) name args).outcome with
    heq | ⟨stop, -, hexcused⟩
  · rw [heq, Outcome.rename_id]
  · exact hexcused.elim

end Machine

/-! ## Images in another order -/

/-- Two images hold the same functions and the same trampolines, perhaps in another order. -/
structure Image.Rearranges (image image' : Image) : Prop where
  functions : image.functions.Perm image'.functions
  trampolines : image.trampolines.Perm image'.trampolines

namespace Image

variable {image image' : Image}

theorem Rearranges.action_resolved (h : image.Rearranges image') {a : Action}
    (ha : a.Resolved image) : a.Resolved image' := by
  cases a with
  | call dst callee operands =>
    obtain ⟨f, hf, hname⟩ := ha
    exact ⟨f, h.functions.mem_iff.mp hf, hname⟩
  | dispatch dst trampoline operands =>
    obtain ⟨t, ht, hfunction⟩ := ha
    exact ⟨t, h.trampolines.mem_iff.mp ht, hfunction⟩
  | _ => trivial

namespace Resolved

variable (hresolved : image.Resolved) (h : image.Rearranges image')

include hresolved h

/-- What linking promises is a matter of what an image holds, not of the order. -/
theorem rearranged : image'.Resolved where
  functions := (h.functions.map _).nodup_iff.mp hresolved.functions
  trampolines := (h.trampolines.map _).nodup_iff.mp hresolved.trampolines
  actions := by
    intro f hf a ha
    exact h.action_resolved (hresolved.actions f (h.functions.mem_iff.mpr hf) a ha)
  main := by
    obtain ⟨f, hf, hname⟩ := hresolved.main
    exact ⟨f, h.functions.mem_iff.mp hf, hname⟩

/-- **A resolved image and a rearranged one give machines that look names up alike**: no name comes
twice, so it does not matter which of two entries is found first. -/
theorem agrees (isSet : String → Bool) :
    (Machine.load image isSet).Agrees (Machine.load image' isSet) where
  body := by
    intro name
    apply Option.ext
    intro f
    rw [Machine.body?_load_iff hresolved.functions,
      Machine.body?_load_iff (hresolved.rearranged h).functions, h.functions.mem_iff]
  target := by
    intro trampoline
    apply Option.ext
    intro target
    rw [Machine.target?_load_iff hresolved.trampolines,
      Machine.target?_load_iff (hresolved.rearranged h).trampolines]
    simp only [h.trampolines.mem_iff]

end Resolved

end Image

/-! ## Modules in another order -/

namespace Link

variable {modules modules' : List Module}

theorem imageOf_rearranges (h : modules.Perm modules') :
    (imageOf modules).Rearranges (imageOf modules') where
  functions := h.flatMap_right _
  trampolines := h.flatMap_right _

theorem exists_image_of_perm (h : modules.Perm modules')
    (hlinked : ∃ image, resolve modules = .ok image) : ∃ image, resolve modules' = .ok image := by
  obtain ⟨image, himage⟩ := hlinked
  obtain ⟨rfl, hresolved⟩ := resolve_eq_ok_iff.mp himage
  exact ⟨imageOf modules',
    resolve_eq_ok_iff.mpr ⟨rfl, hresolved.rearranged (imageOf_rearranges h)⟩⟩

/-- **The order of object modules cannot be told from the program.** In every order modules can be
linked or in none; and whatever is selected, every function that is called with some arguments at
some depth ends alike in both programs, with the same value or trap and the same text, or in neither
of them. Also a run that is cut off has done the same in both. -/
theorem order_is_invisible (h : modules.Perm modules') :
    ((∃ image, resolve modules = .ok image) ↔ ∃ image', resolve modules' = .ok image') ∧
    ∀ image image', resolve modules = .ok image → resolve modules' = .ok image' →
      ∀ (isSet : String → Bool) (name : String) (args : List Int64) (depth : Nat),
        (∀ o, (Machine.load image isSet).Ends name args depth o ↔
          (Machine.load image' isSet).Ends name args depth o) ∧
        ∀ blocks, (Machine.load image isSet).callAt blocks name args depth
          = (Machine.load image' isSet).callAt blocks name args depth := by
  refine ⟨⟨exists_image_of_perm h, exists_image_of_perm h.symm⟩, ?_⟩
  intro image image' himage himage' isSet name args depth
  obtain ⟨rfl, hresolved⟩ := resolve_eq_ok_iff.mp himage
  obtain ⟨rfl, -⟩ := resolve_eq_ok_iff.mp himage'
  have hagrees := hresolved.agrees (imageOf_rearranges h) isSet
  have hsame : ∀ blocks, (Machine.load (imageOf modules) isSet).callAt blocks name args depth
      = (Machine.load (imageOf modules') isSet).callAt blocks name args depth :=
    fun blocks => hagrees.callAt_eq blocks name args depth
  refine ⟨fun o => ?_, hsame⟩
  simp only [Machine.Ends, hsame]

/-- With the callee in front of its caller the program of two modules still ends the same way. -/
theorem front_order_is_invisible :
    [front, back].Perm [back, front] ∧ resolve [back, front] = .ok (imageOf [back, front]) ∧
      imageOf [back, front] ≠ imageOf [front, back] ∧
      (Machine.load (imageOf [back, front]) (· == "STEP")).Ends "main" [] 0 ⟨.ok 0, []⟩ := by
  have hperm : [front, back].Perm [back, front] := List.Perm.swap back front []
  have hends : (Machine.load (imageOf [front, back]) (· == "STEP")).Ends "main" [] 0 ⟨.ok 0, []⟩ :=
    ⟨by simp, 3, rfl⟩
  refine ⟨hperm, rfl, by decide, ?_⟩
  exact (((order_is_invisible hperm).2 _ _ rfl rfl (· == "STEP") "main" [] 0).1 _).mp hends

end Link

end MutationTesting
