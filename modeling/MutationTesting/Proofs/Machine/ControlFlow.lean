import MutationTesting.Proofs.Machine.Tracking
import MutationTesting.Proofs.Toolchain.Resolved
import MutationTesting.Proofs.Toolchain.Verified

/-!
# Control never goes astray

Verification looks at one module at a time and linking looks at symbols only. Together they make
sure that no run calls a function without body or leaves for a block that does not exist.

* `Machine.Sound` — the invariant: whatever a body refers to is there
* `Machine.Sound.call` — no call on a sound machine goes astray
* `Link.sound_load` — the machines of verified and linked modules are sound
* `Link.main_keeps_to_the_program` — so the main function never goes astray
-/

namespace MutationTesting

/-- Control went where there is nothing to run. -/
def Stop.Astray : Stop → Prop
  | .trap (.unknownFunction _) => True
  | .trap (.invalidBlock _ _) => True
  | _ => False

/-! ## Runs that keep to the program -/

namespace Run

variable {α β : Type}

/-- The run never goes astray, and every value that it gives is as promised. -/
def Keeps (promise : α → Prop) (x : Run α) : Prop :=
  ∀ printed,
    match x printed with
    | .ok a _ => promise a
    | .error stop _ => ¬ stop.Astray

namespace Keeps

variable {promise : α → Prop} {promise' : β → Prop}

theorem pure {a : α} (h : promise a) : Keeps promise (pure a) :=
  fun _ => h

theorem trap {t : Trap} (h : ¬ (Stop.trap t).Astray) : Keeps promise (Run.trap t) :=
  fun _ => h

theorem bind {x : Run α} {f : α → Run β} (hx : Keeps promise x)
    (hf : ∀ a, promise a → Keeps promise' (f a)) : Keeps promise' (x >>= f) := by
  intro printed
  have hxp := hx printed
  rw [bind_apply]
  cases h : x printed with
  | ok a printed' =>
    rw [h] at hxp
    exact hf a hxp printed'
  | error stop printed' =>
    rw [h] at hxp
    exact hxp

/-- A value that is there, or else a trap of another kind. -/
theorem getOr {t : Trap} (h : ¬ (Stop.trap t).Astray) (o : Option α) :
    Keeps (fun _ => True) (Run.getOr t o) := by
  cases o with
  | none => exact trap h
  | some a => exact pure trivial

end Keeps

end Run

/-! ## Frames -/

/-- What an action of a function with so many blocks refers to is there. -/
def Action.Leads (m : Machine) (blocks : Nat) : Action → Prop
  | .call _ callee _ => ∃ f, m.body? callee = some f
  | .dispatch _ trampoline _ => ∃ target, m.target? trampoline = some target ∧
      ∃ f, m.body? target = some f
  | .jump target => target.toNat < blocks
  | .branch _ thenBlock elseBlock => thenBlock.toNat < blocks ∧ elseBlock.toNat < blocks
  | _ => True

/-- Control leaves for a block that exists, or not at all. -/
def Departure.Inside (blocks : Nat) : Departure → Prop
  | .goto block _ => block < blocks
  | .leave _ => True

namespace Frame

variable {m : Machine} {invoke : String → List Int64 → Run Int64} {blocks : Nat}

theorem read_keeps (frame : Frame) (registers : Registers) (operand : Operand) :
    Run.Keeps (fun _ => True) (frame.read registers operand) := by
  cases operand with
  | constant value => exact .pure trivial
  | register index => exact .getOr id _
  | parameter index => exact .getOr id _

theorem readAll_keeps (frame : Frame) (registers : Registers) :
    ∀ operands, Run.Keeps (fun _ => True) (frame.readAll registers operands)
  | [] => .pure trivial
  | operand :: operands =>
    .bind (read_keeps frame registers operand) fun _ _ =>
      .bind (readAll_keeps frame registers operands) fun _ _ => .pure trivial

/-- After an action control is in the same block if the action does not leave it, and else in a
block that exists. -/
theorem execute_keeps (hinvoke : ∀ name args, (∃ f, m.body? name = some f) →
      Run.Keeps (fun _ => True) (invoke name args))
    (frame : Frame) (registers : Registers) {a : Action} (ha : a.Leads m blocks) :
    Run.Keeps (fun next => match next with
      | .advance _ => a.isTerminator = false
      | .depart departure => departure.Inside blocks) (frame.execute m invoke registers a) := by
  cases a with
  | binary dst op lhs rhs =>
    refine .bind (read_keeps frame registers lhs) fun l _ => ?_
    refine .bind (read_keeps frame registers rhs) fun r _ => ?_
    exact .bind (.getOr id _) fun value _ => .pure rfl
  | call dst callee operands =>
    refine .bind (readAll_keeps frame registers operands) fun values _ => ?_
    exact .bind (hinvoke callee values ha) fun value _ => .pure rfl
  | dispatch dst trampoline operands =>
    obtain ⟨target, htarget, hbody⟩ := ha
    simp only [execute, htarget, Run.getOr_some, pure_bind]
    refine .bind (readAll_keeps frame registers operands) fun values _ => ?_
    exact .bind (hinvoke target values hbody) fun value _ => .pure rfl
  | print operand =>
    refine .bind (read_keeps frame registers operand) fun value _ => ?_
    have hemit : Run.Keeps (fun _ => True) (Run.emit value) := fun _ => trivial
    exact .bind hemit fun _ _ => .pure rfl
  | jump target => exact .pure ha
  | branch cond thenBlock elseBlock =>
    refine .bind (read_keeps frame registers cond) fun value _ => .pure ?_
    show (if value != 0 then thenBlock else elseBlock).toNat < blocks
    split
    · exact ha.1
    · exact ha.2
  | ret operand => exact .bind (read_keeps frame registers operand) fun value _ => .pure trivial

/-- A block that ends in an action that leaves it is never fallen off. -/
theorem runBlock_keeps (hinvoke : ∀ name args, (∃ f, m.body? name = some f) →
      Run.Keeps (fun _ => True) (invoke name args)) (frame : Frame) (block : Nat) :
    ∀ (instructions : List Instruction) (registers : Registers),
      instructions.getLast?.any (·.action.isTerminator) →
      (∀ i ∈ instructions, i.action.Leads m blocks) →
      Run.Keeps (Departure.Inside blocks) (runBlock m invoke frame block instructions registers)
  | [], _, hlast, _ => by simp at hlast
  | i :: rest, registers, hlast, hleads => by
    refine .bind (execute_keeps hinvoke frame registers (hleads i (by simp))) fun next hnext => ?_
    cases next with
    | depart departure => exact .pure hnext
    | advance registers =>
      refine runBlock_keeps hinvoke frame block rest registers ?_
        fun j hj => hleads j (by simp [hj])
      cases rest with
      | nil =>
        -- the last action would have left the block
        have hi : i.action.isTerminator = true := by simpa using hlast
        rw [show i.action.isTerminator = false from hnext] at hi
        cases hi
      | cons j rest => simpa [List.getLast?_cons_cons] using hlast

theorem runBlocks_keeps (hinvoke : ∀ name args, (∃ f, m.body? name = some f) →
      Run.Keeps (fun _ => True) (invoke name args)) (frame : Frame)
    (hterm : ∀ b ∈ frame.function.blocks, b.Terminated)
    (hleads : ∀ a ∈ frame.function.actions, a.Leads m frame.function.blocks.length) :
    ∀ (fuel block : Nat) (registers : Registers), block < frame.function.blocks.length →
      Run.Keeps (fun _ => True) (runBlocks m invoke frame fuel block registers)
  | 0, _, _, _ => fun _ => id
  | fuel + 1, block, registers, hblock => by
    simp only [runBlocks, List.getElem?_eq_getElem hblock, Run.getOr_some, pure_bind]
    have hmem := List.getElem_mem hblock
    refine .bind (runBlock_keeps hinvoke frame block _ registers (hterm _ hmem) fun i hi =>
      hleads _ (Function.mem_actions hmem hi)) fun departure hdeparture => ?_
    cases departure with
    | leave value => exact .pure trivial
    | goto target registers =>
      exact runBlocks_keeps hinvoke frame hterm hleads fuel target registers hdeparture

end Frame

/-! ## Machines -/

namespace Machine

/-- Every body has blocks that end, and whatever it refers to is there. -/
structure Sound (m : Machine) : Prop where
  nonempty : ∀ {name f}, m.body? name = some f → f.blocks ≠ []
  terminated : ∀ {name f}, m.body? name = some f → ∀ b ∈ f.blocks, b.Terminated
  leads : ∀ {name f}, m.body? name = some f → ∀ a ∈ f.actions, a.Leads m f.blocks.length

/-- **No call of a function with a body goes astray on a sound machine.** -/
theorem Sound.call {m : Machine} (h : m.Sound) (blocks : Nat) :
    ∀ (depth : Nat) (name : String) (args : List Int64), (∃ f, m.body? name = some f) →
      Run.Keeps (fun _ => True) (m.call blocks depth name args)
  | 0, _, _, _ => .trap id
  | depth + 1, name, args, ⟨f, hf⟩ => by
    simp only [Machine.call, hf, Run.getOr_some, pure_bind]
    exact Frame.runBlocks_keeps (h.call blocks depth) ⟨f, args⟩
      (h.terminated hf) (h.leads hf) blocks 0 .empty
      (List.length_pos_iff.mpr (h.nonempty hf))

end Machine

/-! ## Linked programs -/

namespace Link

variable {modules : List Module} {image : Image}

theorem body?_load_of_mem (hlinked : resolve modules = .ok image) {isSet : String → Bool}
    {f : Function} (hf : f ∈ image.functions) :
    (Machine.load image isSet).body? f.name = some f := by
  obtain ⟨rfl, hresolved⟩ := resolve_eq_ok_iff.mp hlinked
  obtain ⟨m, hm, hfm, hbody⟩ := mem_bodies.mp hf
  exact (Machine.body?_load_iff hresolved.functions).mpr ⟨hf, hbody, rfl⟩

/-- **The machines of verified and linked modules are sound, whatever is selected.** -/
theorem sound_load (hverified : ∀ m ∈ modules, m.verify = .ok ())
    (hlinked : resolve modules = .ok image) (isSet : String → Bool) :
    (Machine.load image isSet).Sound := by
  obtain ⟨rfl, hresolved⟩ := resolve_eq_ok_iff.mp hlinked
  have hbody : ∀ {name f}, (Machine.load (imageOf modules) isSet).body? name = some f →
      f ∈ (imageOf modules).functions ∧ f.blocks ≠ [] ∧ ∃ m ∈ modules, f.Sound m.trampolines := by
    intro name f hf
    obtain ⟨hmem, hdecl, -⟩ := (Machine.body?_load_iff hresolved.functions).mp hf
    obtain ⟨m, hm, hfm, -⟩ := mem_bodies.mp hmem
    refine ⟨hmem, ?_, m, hm, (Module.verify_eq_ok_iff.mp (hverified m hm)).sound f hfm⟩
    simpa [Function.isDeclaration] using hdecl
  refine ⟨fun hf => (hbody hf).2.1, fun hf => ?_, fun hf a ha => ?_⟩
  · obtain ⟨-, -, m, -, hsound⟩ := hbody hf
    exact hsound.terminated
  · obtain ⟨hmem, -, m, hm, hsound⟩ := hbody hf
    have hown := hsound.actions a ha
    have hall := hresolved.actions _ hmem a ha
    cases a with
    | jump target => exact hown
    | branch cond thenBlock elseBlock => exact hown
    | call dst callee operands =>
      obtain ⟨g, hg, rfl⟩ := hall
      exact ⟨g, body?_load_of_mem hlinked hg⟩
    | dispatch dst trampoline operands =>
      obtain ⟨t, ht, rfl⟩ := hall
      refine ⟨t.target isSet,
        (Machine.target?_load_iff hresolved.trampolines).mpr ⟨t, ht, rfl, rfl⟩, ?_⟩
      -- the module that holds the trampoline holds all its targets
      obtain ⟨m', hm', htm'⟩ := List.mem_flatMap.mp ht
      have htarget : t.target isSet ∈ t.unmutated :: t.mutants.map (·.function) := by
        unfold Trampoline.target
        split
        · next mutant hfind =>
          exact List.mem_cons_of_mem _ (List.mem_map_of_mem (List.mem_of_find?_eq_some hfind))
        · exact List.mem_cons_self
      obtain ⟨g, hg, hgbody⟩ :=
        (Module.verify_eq_ok_iff.mp (hverified m' hm')).targets t htm' _ htarget
      have hname : g.name = t.target isSet := by simpa using List.find?_some hg
      have hgmem : g ∈ (imageOf modules).functions :=
        mem_bodies.mpr ⟨m', hm', List.mem_of_find?_eq_some hg, hgbody⟩
      exact ⟨g, hname ▸ body?_load_of_mem hlinked hgmem⟩
    | _ => trivial

/-- **The main function of verified and linked modules never calls a function without body and never
reaches a block that does not exist,** whatever is selected, whatever the arguments are and at
whatever depth it begins. -/
theorem main_keeps_to_the_program (hverified : ∀ m ∈ modules, m.verify = .ok ())
    (hlinked : resolve modules = .ok image) (isSet : String → Bool) (args : List Int64)
    (depth blocks : Nat) :
    let ending := ((Machine.load image isSet).callAt blocks "main" args depth).ending
    (∀ name, ending ≠ .error (.trap (.unknownFunction name))) ∧
      ∀ function block, ending ≠ .error (.trap (.invalidBlock function block)) := by
  obtain ⟨f, hf, hmain⟩ := (resolve_eq_ok_iff.mp hlinked).2.main
  have hbody : (Machine.load image isSet).body? "main" = some f :=
    hmain ▸ body?_load_of_mem hlinked hf
  have hkeeps := (sound_load hverified hlinked isSet).call blocks (maxCallDepth - depth) "main" args
    ⟨f, hbody⟩ []
  show (∀ name, (Machine.callAt _ _ _ _ _).ending ≠ _) ∧ ∀ function block,
    (Machine.callAt _ _ _ _ _).ending ≠ _
  unfold Machine.callAt EStateM.run
  split
  · simp
  · next stop printed h =>
    rw [h] at hkeeps
    constructor
    · intro name he
      cases he
      exact hkeeps trivial
    · intro function block he
      cases he
      exact hkeeps trivial

/-! ### A program of two modules -/

/-- The main function calls into another module, dispatches through a trampoline and branches. -/
def front : Module where
  name := "front"
  sourceFile := "front.c"
  functions := [
    { name := "main"
      params := 0
      blocks := [
        ⟨[⟨.call (some 0) "read" [.constant 5], none⟩, ⟨.dispatch 1 "step" [.register 0], none⟩,
          ⟨.branch (.register 1) 1 2, none⟩]⟩,
        ⟨[⟨.ret (.register 1), none⟩]⟩,
        ⟨[⟨.jump 1, none⟩]⟩] },
    { name := "read", params := 1, blocks := [] },
    { name := "step.original", params := 1, blocks := [⟨[⟨.ret (.parameter 0), none⟩]⟩] },
    { name := "step.mutant", params := 1, blocks := [⟨[⟨.ret (.constant 0), none⟩]⟩] }]
  trampolines := [⟨"step", "step.original", [⟨"STEP", "step.mutant"⟩]⟩]

def back : Module where
  name := "back"
  sourceFile := "back.c"
  functions := [{ name := "read", params := 1, blocks := [⟨[⟨.ret (.parameter 0), none⟩]⟩] }]

theorem front_keeps_to_the_program :
    (∀ m ∈ [front, back], m.verify = .ok ()) ∧ resolve [front, back] = .ok (imageOf [front, back]) ∧
      ∀ name, ((Machine.load (imageOf [front, back]) (· == "STEP")).callAt 3 "main" [] 0).ending
        ≠ .error (.trap (.unknownFunction name)) := by
  have hverified : ∀ m ∈ [front, back], m.verify = .ok () := by
    simp only [List.forall_mem_cons, List.not_mem_nil, false_imp_iff, implies_true, and_true]
    exact ⟨rfl, rfl⟩
  exact ⟨hverified, rfl, (main_keeps_to_the_program hverified rfl (· == "STEP") [] 0 3).1⟩

end Link

end MutationTesting
