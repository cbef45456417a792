import MutationTesting.Proofs.Machine.Tracking
import MutationTesting.Proofs.Toolchain.Resolved

/-!
# Calls that find no function

Linking makes sure that every function that is called has a body and that every trampoline that is
dispatched through is there. It does not look at the functions that trampolines lead to. So a run of
a linked program can only miss a function that a trampoline leads to, and it misses none if all of
these have bodies.

* `Run.StopsWithin` — every stop of a run is of some kind
* `Machine.Linked.call` — **the invariant over nested calls**
* `Link.linked_load` — what linking makes sure of
* `Link.finds_functions_iff` — what is left to ask of the modules
-/

namespace MutationTesting

/-! ## How runs may stop -/

namespace Run

variable {α β : Type} {allowed : Stop → Prop}

/-- Wherever the run stops, it is allowed to. -/
def StopsWithin (allowed : Stop → Prop) (x : Run α) : Prop :=
  ∀ printed stop printed', x printed = .error stop printed' → allowed stop

namespace StopsWithin

theorem pure (a : α) : StopsWithin allowed (pure a) := by
  intro printed stop printed' h
  cases h

theorem throw {stop : Stop} (h : allowed stop) : StopsWithin allowed (throw stop : Run α) := by
  intro printed stop' printed' hstop
  cases hstop
  exact h

theorem getOr {t : Trap} (h : allowed (.trap t)) (o : Option α) :
    StopsWithin allowed (Run.getOr t o) := by
  cases o with
  | none => exact throw h
  | some a => exact pure a

theorem bind {x : Run α} {f : α → Run β} (hx : StopsWithin allowed x)
    (hf : ∀ a, StopsWithin allowed (f a)) : StopsWithin allowed (x >>= f) := by
  intro printed stop printed' h
  rw [bind_apply] at h
  cases hxp : x printed with
  | ok a p =>
    rw [hxp] at h
    exact hf a p stop printed' h
  | error stop' p =>
    rw [hxp] at h
    cases h
    exact hx printed _ _ hxp

theorem emit (value : Int64) : StopsWithin allowed (Run.emit value) := by
  intro printed stop printed' h
  cases h

end StopsWithin

end Run

/-! ## Frames -/

/-- The stop is for no missing function but those of `missed`. -/
def Stop.MissesOnly (missed : String → Prop) : Stop → Prop
  | .trap (.unknownFunction name) => missed name
  | _ => True

/-- The name may be called: it has a body, or it is one of those that may be missing. -/
def Machine.Expects (m : Machine) (missed : String → Prop) (name : String) : Prop :=
  (∃ f, m.body? name = some f) ∨ missed name

/-- Whatever function an action calls or dispatches to may be called. -/
def Action.Linked (m : Machine) (missed : String → Prop) : Action → Prop
  | .call _ callee _ => m.Expects missed callee
  | .dispatch _ trampoline _ =>
    ∃ target, m.target? trampoline = some target ∧ m.Expects missed target
  | _ => True

namespace Frame

variable {m : Machine} {missed : String → Prop} {invoke : String → List Int64 → Run Int64}

theorem read_misses (frame : Frame) (registers : Registers) (operand : Operand) :
    Run.StopsWithin (Stop.MissesOnly missed) (frame.read registers operand) := by
  cases operand with
  | constant value => exact .pure value
  | parameter index => exact .getOr trivial _
  | register index => exact .getOr trivial _

theorem readAll_misses (frame : Frame) (registers : Registers) :
    ∀ operands, Run.StopsWithin (Stop.MissesOnly missed) (frame.readAll registers operands)
  | [] => .pure []
  | operand :: operands =>
    .bind (read_misses frame registers operand) fun _ =>
      .bind (readAll_misses frame registers operands) fun _ => .pure _

section

variable (hinvoke : ∀ name args, m.Expects missed name →
  Run.StopsWithin (Stop.MissesOnly missed) (invoke name args))

include hinvoke

theorem execute_misses (frame : Frame) (registers : Registers) {a : Action}
    (ha : a.Linked m missed) :
    Run.StopsWithin (Stop.MissesOnly missed) (frame.execute m invoke registers a) := by
  cases a with
  | binary dst op lhs rhs =>
    refine .bind (read_misses frame registers lhs) fun l => ?_
    refine .bind (read_misses frame registers rhs) fun r => ?_
    exact .bind (.getOr trivial _) fun value => .pure _
  | call dst callee operands =>
    refine .bind (readAll_misses frame registers operands) fun values => ?_
    exact .bind (hinvoke callee values ha) fun value => .pure _
  | dispatch dst trampoline operands =>
    obtain ⟨target, htarget, hexpects⟩ := ha
    simp only [execute, htarget, Run.getOr_some, pure_bind]
    refine .bind (readAll_misses frame registers operands) fun values => ?_
    exact .bind (hinvoke target values hexpects) fun value => .pure _
  | print operand =>
    refine .bind (read_misses frame registers operand) fun value => ?_
    exact .bind (.emit value) fun _ => .pure _
  | jump target => exact .pure _
  | branch cond thenBlock elseBlock =>
    exact .bind (read_misses frame registers cond) fun value => .pure _
  | ret operand => exact .bind (read_misses frame registers operand) fun value => .pure _

theorem runBlock_misses (frame : Frame) (block : Nat) :
    ∀ (instructions : List Instruction) (registers : Registers),
      (∀ i ∈ instructions, i.action.Linked m missed) →
      Run.StopsWithin (Stop.MissesOnly missed)
        (runBlock m invoke frame block instructions registers)
  | [], _, _ => .throw trivial
  | i :: rest, registers, hcallees => by
    rw [List.forall_mem_cons] at hcallees
    refine .bind (execute_misses hinvoke frame registers hcallees.1) fun next => ?_
    cases next with
    | advance registers => exact runBlock_misses frame block rest registers hcallees.2
    | depart departure => exact .pure departure

theorem runBlocks_misses (frame : Frame)
    (hcallees : ∀ a ∈ frame.function.actions, a.Linked m missed) :
    ∀ (blocks block : Nat) (registers : Registers),
      Run.StopsWithin (Stop.MissesOnly missed) (runBlocks m invoke frame blocks block registers)
  | 0, _, _ => .throw trivial
  | blocks + 1, block, registers => by
    unfold runBlocks
    cases hblock : frame.function.blocks[block]? with
    | none => exact .throw trivial
    | some current =>
      have hmem : current ∈ frame.function.blocks := List.mem_of_getElem? hblock
      simp only [Run.getOr_some, pure_bind]
      refine .bind (runBlock_misses hinvoke frame block _ registers fun i hi =>
        hcallees _ (Function.mem_actions hmem hi)) fun departure => ?_
      cases departure with
      | leave value => exact .pure value
      | goto target registers => exact runBlocks_misses frame hcallees blocks target registers

end

end Frame

/-! ## Machines -/

namespace Machine

/-- Every function that a body calls or dispatches to may be called. -/
def Linked (m : Machine) (missed : String → Prop) : Prop :=
  ∀ name f, m.body? name = some f → ∀ a ∈ f.actions, a.Linked m missed

/-- **Calls of functions that may be called miss only functions that may be missing.** -/
theorem Linked.call {m : Machine} {missed : String → Prop} (h : m.Linked missed) (blocks : Nat) :
    ∀ (depth : Nat) (name : String) (args : List Int64), m.Expects missed name →
      Run.StopsWithin (Stop.MissesOnly missed) (m.call blocks depth name args)
  | 0, _, _, _ => .throw trivial
  | depth + 1, name, args, hexpects => by
    unfold Machine.call
    cases hbody : m.body? name with
    | some f =>
      simp only [Run.getOr_some, pure_bind]
      exact Frame.runBlocks_misses (h.call blocks depth) ⟨f, args⟩ (h name f hbody) blocks 0 .empty
    | none =>
      rcases hexpects with ⟨f, hf⟩ | hmissed
      · rw [hbody] at hf
        cases hf
      · exact .throw hmissed

/-- What a call comes to when it stops only in some ways. -/
theorem callAt_stopsWithin {m : Machine} {allowed : Stop → Prop} {blocks depth : Nat}
    {name : String} {args : List Int64}
    (h : Run.StopsWithin allowed (m.call blocks (maxCallDepth - depth) name args)) {stop : Stop}
    (hending : (m.callAt blocks name args depth).ending = .error stop) : allowed stop := by
  unfold callAt EStateM.run at hending
  split at hending
  · cases hending
  · next stop' printed hstop =>
    cases hending
    exact h [] _ _ hstop

end Machine

/-! ## Linked programs -/

/-- The functions that a trampoline may lead to. -/
def Trampoline.leads (t : Trampoline) : List String :=
  t.unmutated :: t.mutants.map (·.function)

theorem Trampoline.target_mem (t : Trampoline) (isSet : String → Bool) :
    t.target isSet ∈ t.leads := by
  unfold target
  split
  · next mutant hfind =>
    exact List.mem_cons_of_mem _ (List.mem_map_of_mem (List.mem_of_find?_eq_some hfind))
  · exact List.mem_cons_self

/-- The image has a body of this name. -/
def Image.Holds (image : Image) (name : String) : Prop :=
  ∃ f ∈ image.functions, f.name = name ∧ f.isDeclaration = false

/-- Every function that is called, every trampoline that is dispatched through, and every function
that a trampoline leads to is there. -/
structure Image.Complete (image : Image) : Prop where
  callees : ∀ f ∈ image.functions, ∀ dst callee operands, .call dst callee operands ∈ f.actions →
    image.Holds callee
  dispatches : ∀ f ∈ image.functions, ∀ dst trampoline operands,
    .dispatch dst trampoline operands ∈ f.actions →
      ∃ t ∈ image.trampolines, t.function = trampoline
  targets : ∀ t ∈ image.trampolines, ∀ target ∈ t.leads, image.Holds target

namespace Link

variable {modules : List Module} {image : Image}

theorem holds_iff (hlinked : resolve modules = .ok image) {name : String} :
    image.Holds name ↔
      ∃ m ∈ modules, ∃ f ∈ m.functions, f.name = name ∧ f.isDeclaration = false := by
  unfold Image.Holds
  simp only [mem_functions_iff hlinked]
  constructor
  · rintro ⟨f, ⟨m, hm, hf, hbody⟩, hname, -⟩
    exact ⟨m, hm, f, hf, hname, hbody⟩
  · rintro ⟨m, hm, f, hf, hname, hbody⟩
    exact ⟨f, ⟨m, hm, hf, hbody⟩, hname, hbody⟩

theorem holds_of_mem (hlinked : resolve modules = .ok image) {f : Function}
    (hf : f ∈ image.functions) : image.Holds f.name := by
  obtain ⟨m, -, -, hbody⟩ := (mem_functions_iff hlinked).mp hf
  exact ⟨f, hf, rfl, hbody⟩

theorem exists_body?_iff (hlinked : resolve modules = .ok image) {isSet : String → Bool}
    {name : String} : (∃ f, (Machine.load image isSet).body? name = some f) ↔ image.Holds name := by
  have hnodup := (resolve_eq_ok_iff.mp hlinked).2.functions
  simp only [Machine.body?_load_iff hnodup, Image.Holds]
  exact exists_congr fun f => and_congr_right fun _ => and_comm

/-- A function without body that a trampoline leads to. -/
def Dangling (image : Image) (isSet : String → Bool) (name : String) : Prop :=
  ∃ t ∈ image.trampolines, t.target isSet = name ∧ ¬ image.Holds name

/-- **Of a linked program only functions that trampolines lead to can be missing.** -/
theorem linked_load (hlinked : resolve modules = .ok image) (isSet : String → Bool) :
    (Machine.load image isSet).Linked (Dangling image isSet) := by
  have hresolved := (resolve_eq_ok_iff.mp hlinked).2
  intro name f hf a ha
  obtain ⟨hmem, -, -⟩ := (Machine.body?_load_iff hresolved.functions).mp hf
  have hall := hresolved.actions f hmem a ha
  cases a with
  | call dst callee operands =>
    obtain ⟨g, hg, rfl⟩ := hall
    exact Or.inl ((exists_body?_iff hlinked).mpr (holds_of_mem hlinked hg))
  | dispatch dst trampoline operands =>
    obtain ⟨t, ht, rfl⟩ := hall
    refine ⟨t.target isSet,
      (Machine.target?_load_iff hresolved.trampolines).mpr ⟨t, ht, rfl, rfl⟩, ?_⟩
    by_cases hholds : image.Holds (t.target isSet)
    · exact Or.inl ((exists_body?_iff hlinked).mpr hholds)
    · exact Or.inr ⟨t, ht, rfl, hholds⟩
  | _ => trivial

/-- A run of the main function that misses a function misses one that a trampoline leads to. -/
theorem dangling_of_unknownFunction (hlinked : resolve modules = .ok image) {isSet : String → Bool}
    {args : List Int64} {depth blocks : Nat} {name : String}
    (hending : ((Machine.load image isSet).callAt blocks "main" args depth).ending
      = .error (.trap (.unknownFunction name))) : Dangling image isSet name := by
  obtain ⟨f, hf, hmain⟩ := (resolve_eq_ok_iff.mp hlinked).2.main
  have hexpects : (Machine.load image isSet).Expects (Dangling image isSet) "main" :=
    Or.inl ((exists_body?_iff hlinked).mpr (hmain ▸ holds_of_mem hlinked hf))
  exact Machine.callAt_stopsWithin
    ((linked_load hlinked isSet).call blocks (maxCallDepth - depth) "main" args hexpects) hending

/-- A linked program is complete if its modules have a body for every function that their
trampolines lead to. -/
theorem complete_iff (hlinked : resolve modules = .ok image) :
    image.Complete ↔ ∀ m ∈ modules, ∀ t ∈ m.trampolines, ∀ target ∈ t.leads,
      ∃ m' ∈ modules, ∃ f ∈ m'.functions, f.name = target ∧ f.isDeclaration = false := by
  obtain ⟨himage, hresolved⟩ := resolve_eq_ok_iff.mp hlinked
  have hmem : ∀ t, t ∈ image.trampolines ↔ ∃ m ∈ modules, t ∈ m.trampolines := by
    rw [himage]
    exact fun t => List.mem_flatMap
  constructor
  · intro h m hm t ht target htarget
    exact (holds_iff hlinked).mp (h.targets t ((hmem t).mpr ⟨m, hm, ht⟩) target htarget)
  · intro h
    refine ⟨fun f hf dst callee operands ha => ?_, fun f hf dst trampoline operands ha => ?_,
      fun t ht target htarget => ?_⟩
    · obtain ⟨g, hg, rfl⟩ := hresolved.actions f hf _ ha
      exact holds_of_mem hlinked hg
    · exact hresolved.actions f hf _ ha
    · obtain ⟨m, hm, htm⟩ := (hmem t).mp ht
      exact (holds_iff hlinked).mpr (h m hm t htm target htarget)

/-- **Linking leaves one thing open: whether the functions that trampolines lead to have bodies.**
If the modules have a body for each of them, then the image is complete and no run of the main
function misses a function. If not, the image is not complete, and a run that misses a function has
been led there by a trampoline. -/
theorem finds_functions_iff (hlinked : resolve modules = .ok image) :
    ((image.Complete ∧ ∀ (isSet : String → Bool) (args : List Int64) (blocks : Nat) (name : String),
        ((Machine.load image isSet).runMain blocks args).ending
          ≠ .error (.trap (.unknownFunction name))) ↔
      ∀ m ∈ modules, ∀ t ∈ m.trampolines, ∀ target ∈ t.leads,
        ∃ m' ∈ modules, ∃ f ∈ m'.functions, f.name = target ∧ f.isDeclaration = false) ∧
    ∀ (isSet : String → Bool) (args : List Int64) (blocks : Nat) (name : String),
      ((Machine.load image isSet).runMain blocks args).ending
          = .error (.trap (.unknownFunction name)) →
        ∃ t ∈ image.trampolines, t.target isSet = name ∧ ¬ image.Holds name := by
  refine ⟨⟨fun h => (complete_iff hlinked).mp h.1, fun h => ?_⟩, fun isSet args blocks name =>
    dangling_of_unknownFunction hlinked⟩
  have hcomplete := (complete_iff hlinked).mpr h
  refine ⟨hcomplete, fun isSet args blocks name hending => ?_⟩
  obtain ⟨t, ht, rfl, hmissing⟩ := dangling_of_unknownFunction hlinked hending
  exact hmissing (hcomplete.targets t ht _ (t.target_mem isSet))

/-! ### An object whose trampoline leads nowhere -/

/-- The main function calls a function of another object. -/
def caller : Module where
  name := "caller"
  sourceFile := "caller.c"
  functions := [
    { name := "main"
      params := 0
      blocks := [⟨[⟨.call (some 0) "step" [.constant 3], none⟩, ⟨.ret (.register 0), none⟩]⟩] },
    { name := "step", params := 1, blocks := [] }]

/-- The trampoline of an object that has no unmutated copy of its function. -/
def stepless : Module where
  name := "stepless"
  sourceFile := "stepless.c"
  functions := [
    { name := "step"
      params := 1
      blocks := [⟨[⟨.dispatch 0 "step" [.parameter 0], none⟩, ⟨.ret (.register 0), none⟩]⟩] },
    { name := "step.mutant", params := 1, blocks := [⟨[⟨.ret (.constant 0), none⟩]⟩] }]
  trampolines := [⟨"step", "step.original", [⟨"STEP", "step.mutant"⟩]⟩]

/-- They are linked, and yet the main function misses a function unless the mutant is selected. -/
theorem stepless_misses_function :
    resolve [caller, stepless] = .ok (imageOf [caller, stepless]) ∧
      stepless.verify ≠ .ok () ∧
      ((Machine.load (imageOf [caller, stepless]) fun _ => false).runMain 1 []).ending
        = .error (.trap (.unknownFunction "step.original")) ∧
      ((Machine.load (imageOf [caller, stepless]) (· == "STEP")).runMain 1 []).ending = .ok 0 := by
  refine ⟨rfl, ?_, rfl, rfl⟩
  decide

/-- An object with the missing copy. -/
def spare : Module where
  name := "spare"
  sourceFile := "spare.c"
  functions := [
    { name := "step.original", params := 1, blocks := [⟨[⟨.ret (.parameter 0), none⟩]⟩] }]

/-- With the copy in a third object no function is missed. -/
theorem spare_completes :
    resolve [caller, stepless, spare] = .ok (imageOf [caller, stepless, spare]) ∧
      ∀ (isSet : String → Bool) (args : List Int64) (blocks : Nat) (name : String),
        ((Machine.load (imageOf [caller, stepless, spare]) isSet).runMain blocks args).ending
          ≠ .error (.trap (.unknownFunction name)) := by
  have hlinked : resolve [caller, stepless, spare] = .ok (imageOf [caller, stepless, spare]) := rfl
  refine ⟨hlinked, ((finds_functions_iff hlinked).1.mpr ?_).2⟩
  decide

end Link

end MutationTesting
