import Mathlib.Logic.Relation
import MutationTesting.Proofs.Machine.Ending

/-!
# Frames that halt and frames that hang

A frame is followed from position to position: where it is among its blocks, what is in its
registers and what has been printed. With enough blocks for the calls in it all runs of a frame take
the same way. So it halts if this way ends and all calls on it halt; and it hangs if the way does
not end or comes to a call that hangs.

* `Run.Halts` — all runs of a family with enough blocks come to the same value or trap
* `Run.Hangs` — no run of a family comes to any
* `Frame.Goes`, `Frame.Reaches` — a frame goes to another position, and comes to a call
* `Frame.haltsFrom_of_acc` — **a frame that cannot go on for ever halts if its calls do**
* `Frame.hangsFrom_of_path`, `Frame.hangsFrom_of_reaches` — **a frame that goes on for ever hangs,
  and so does one that comes to a call that hangs**
-/

namespace MutationTesting

/-! ## Families of runs that halt -/

namespace Run

variable {α β : Type} {printed : List Int64}

/-- The result is a value or a trap. -/
def Finished : EStateM.Result Stop (List Int64) α → Prop
  | .error .unfinished _ => False
  | _ => True

/-- With so much printed before, all runs of a family with enough blocks come to the same value or
trap. -/
def Halts (x : Nat → Run α) (printed : List Int64) : Prop :=
  ∃ r, Finished r ∧ ∃ least, ∀ blocks, least ≤ blocks → x blocks printed = r

namespace Halts

theorem const {x : Run α} (h : Finished (x printed)) : Halts (fun _ => x) printed :=
  ⟨_, h, 0, fun _ _ => rfl⟩

theorem getOr (t : Trap) (o : Option α) : Halts (fun _ => Run.getOr t o) printed := by
  cases o <;> exact const trivial

/-- The second half has to halt only for what the first half can give. -/
theorem bind {x : Nat → Run α} {f : Nat → α → Run β} (hx : Halts x printed)
    (hf : ∀ blocks a printed', x blocks printed = .ok a printed' →
      Halts (fun blocks => f blocks a) printed') :
    Halts (fun blocks => x blocks >>= f blocks) printed := by
  obtain ⟨r, hr, least, hleast⟩ := hx
  cases r with
  | ok a printed' =>
    obtain ⟨r', hr', least', hleast'⟩ := hf least a printed' (hleast least (Nat.le_refl least))
    refine ⟨r', hr', max least least', fun blocks hblocks => ?_⟩
    show (x blocks >>= f blocks) printed = r'
    rw [bind_apply, hleast blocks (Nat.le_trans (Nat.le_max_left ..) hblocks)]
    exact hleast' blocks (Nat.le_trans (Nat.le_max_right ..) hblocks)
  | error stop printed' =>
    refine ⟨.error stop printed', by cases stop <;> exact hr, least, fun blocks hblocks => ?_⟩
    show (x blocks >>= f blocks) printed = .error stop printed'
    rw [bind_apply, hleast blocks hblocks]

end Halts

/-! ## Families of runs that hang -/

/-- With so much printed before, no run of a family comes to a value or trap. -/
def Hangs (x : Nat → Run α) (printed : List Int64) : Prop :=
  ∀ blocks, ∃ printed', x blocks printed = .error .unfinished printed'

/-- More blocks do not change a run that is finished. -/
def Grows (x : Nat → Run α) : Prop :=
  ∀ blocks blocks', blocks ≤ blocks' → Tracks id (· = .unfinished) (x blocks) (x blocks')

theorem Grows.const (x : Run α) : Grows fun _ => x :=
  fun _ _ _ => .refl x

/-- What one run of a growing family gives all others give, unless they are unfinished. -/
theorem Grows.ok_or_unfinished {x : Nat → Run α} (h : Grows x) {blocks : Nat} {a : α}
    {printed' : List Int64} (hx : x blocks printed = .ok a printed') (blocks' : Nat) :
    x blocks' printed = .ok a printed' ∨ ∃ p, x blocks' printed = .error .unfinished p := by
  -- both are compared with a run that may enter as many blocks as either of them
  have hmore := h blocks (max blocks blocks') (Nat.le_max_left ..) printed
  have hmore' := h blocks' (max blocks blocks') (Nat.le_max_right ..) printed
  rw [hx] at hmore
  cases hx' : x blocks' printed with
  | ok a' p =>
    rw [hx'] at hmore'
    exact .inl (hmore'.symm.trans hmore)
  | error stop p =>
    rw [hx'] at hmore'
    obtain herror | rfl := hmore'
    · cases herror.symm.trans hmore
    · exact .inr ⟨p, rfl⟩

namespace Hangs

theorem bind_left {x : Nat → Run α} (h : Hangs x printed) (f : Nat → α → Run β) :
    Hangs (fun blocks => x blocks >>= f blocks) printed := by
  intro blocks
  obtain ⟨printed', hx⟩ := h blocks
  refine ⟨printed', ?_⟩
  show (x blocks >>= f blocks) printed = .error .unfinished printed'
  rw [bind_apply, hx]

/-- It is enough that the second half hangs for a value that the first half gives. -/
theorem bind_right {x : Nat → Run α} {f : Nat → α → Run β} (hgrows : Grows x) (blocks : Nat)
    {a : α} {printed' : List Int64} (hx : x blocks printed = .ok a printed')
    (h : Hangs (fun blocks => f blocks a) printed') :
    Hangs (fun blocks => x blocks >>= f blocks) printed := by
  intro blocks'
  show ∃ p, (x blocks' >>= f blocks') printed = .error .unfinished p
  rw [bind_apply]
  obtain hok | ⟨p, hunfinished⟩ := hgrows.ok_or_unfinished hx blocks'
  · rw [hok]
    exact h blocks'
  · rw [hunfinished]
    exact ⟨p, rfl⟩

end Hangs

end Run

/-! ## Frames -/

/-- A call that is made: of a function with some arguments, after some values have been printed. -/
structure Entry where
  /-- The function. -/
  name : String
  /-- Its arguments. -/
  args : List Int64
  /-- What has been printed, the newest first. -/
  printed : List Int64

/-- Where a frame is: at the beginning of a block, with these registers and so much printed. -/
structure Position where
  /-- The block. -/
  block : Nat
  /-- The registers of the frame. -/
  registers : Registers
  /-- What has been printed, the newest first. -/
  printed : List Int64

/-- Where the frame of a call begins. -/
def Entry.start (e : Entry) : Position :=
  ⟨0, .empty, e.printed⟩

namespace Frame

open Run (Halts Hangs Finished)

variable {m : Machine} {invoke : Nat → String → List Int64 → Run Int64} {frame : Frame}

/-- The call that an action makes, if its operands can be read. -/
def Asks (m : Machine) (frame : Frame) (registers : Registers) (printed : List Int64) :
    Action → Entry → Prop
  | .call _ callee operands, e => e.name = callee ∧
    frame.readAll registers operands printed = .ok e.args e.printed
  | .dispatch _ trampoline operands, e => m.target? trampoline = some e.name ∧
    frame.readAll registers operands printed = .ok e.args e.printed
  | _, _ => False

theorem read_halts (registers : Registers) (operand : Operand) (printed : List Int64) :
    Halts (fun _ => frame.read registers operand) printed := by
  cases operand with
  | constant value => exact .const trivial
  | parameter index => exact .getOr _ _
  | register index => exact .getOr _ _

theorem readAll_halts (registers : Registers) (operands : List Operand) (printed : List Int64) :
    Halts (fun _ => frame.readAll registers operands) printed := by
  induction operands generalizing printed with
  | nil => exact .const trivial
  | cons operand operands ih =>
    refine .bind (read_halts registers operand printed) fun _ value _ _ => ?_
    exact .bind (ih _) fun _ values _ _ => .const trivial

/-- An action halts if the call that it makes does. -/
theorem execute_halts {registers : Registers} {printed : List Int64} {a : Action}
    (h : ∀ e, frame.Asks m registers printed a e →
      Halts (fun blocks => invoke blocks e.name e.args) e.printed) :
    Halts (fun blocks => frame.execute m (invoke blocks) registers a) printed := by
  cases a with
  | binary dst op lhs rhs =>
    refine .bind (read_halts registers lhs printed) fun _ l _ _ => ?_
    refine .bind (read_halts registers rhs _) fun _ r _ _ => ?_
    exact .bind (.getOr _ _) fun _ value _ _ => .const trivial
  | call dst callee operands =>
    refine .bind (readAll_halts registers operands printed) fun _ values printed' hvalues => ?_
    exact .bind (h ⟨callee, values, printed'⟩ ⟨rfl, hvalues⟩) fun _ value _ _ => .const trivial
  | dispatch dst trampoline operands =>
    cases htarget : m.target? trampoline with
    | none =>
      simp only [execute, htarget, Run.getOr_none]
      exact .const trivial
    | some target =>
      simp only [execute, htarget, Run.getOr_some, pure_bind]
      refine .bind (readAll_halts registers operands printed) fun _ values printed' hvalues => ?_
      exact .bind (h ⟨target, values, printed'⟩ ⟨htarget, hvalues⟩)
        fun _ value _ _ => .const trivial
  | print operand =>
    refine .bind (read_halts registers operand printed) fun _ value _ _ => ?_
    exact .bind (.const trivial) fun _ _ _ _ => .const trivial
  | jump target => exact .const trivial
  | branch cond thenBlock elseBlock =>
    exact .bind (read_halts registers cond printed) fun _ value _ _ => .const trivial
  | ret operand =>
    exact .bind (read_halts registers operand printed) fun _ value _ _ => .const trivial

/-- Instructions make a call: the first one does, or one behind it after the first one has been
executed. -/
inductive Makes (m : Machine) (invoke : Nat → String → List Int64 → Run Int64) (frame : Frame) :
    List Instruction → Registers → List Int64 → Entry → Prop where
  | here {i : Instruction} {rest : List Instruction} {registers : Registers}
      {printed : List Int64} {e : Entry} :
      frame.Asks m registers printed i.action e →
      Makes m invoke frame (i :: rest) registers printed e
  | later {i : Instruction} {rest : List Instruction} {registers registers' : Registers}
      {printed printed' : List Int64} {e : Entry} {blocks : Nat} :
      frame.execute m (invoke blocks) registers i.action printed
        = .ok (.advance registers') printed' →
      Makes m invoke frame rest registers' printed' e →
      Makes m invoke frame (i :: rest) registers printed e

/-- A block halts if the calls that its instructions make do. -/
theorem runBlock_halts (block : Nat) {instructions : List Instruction} {registers : Registers}
    {printed : List Int64}
    (h : ∀ e, frame.Makes m invoke instructions registers printed e →
      Halts (fun blocks => invoke blocks e.name e.args) e.printed) :
    Halts (fun blocks => frame.runBlock m (invoke blocks) block instructions registers)
      printed := by
  induction instructions generalizing registers printed with
  | nil => exact .const trivial
  | cons i rest ih =>
    refine .bind (execute_halts fun e he => h e (.here he)) fun blocks next printed' hnext => ?_
    cases next with
    | advance registers' => exact ih fun e he => h e (.later hnext he)
    | depart departure => exact .const trivial

/-! ### From block to block -/

/-- A frame goes from one position to another: with enough blocks for its calls, the block at the
one leaves for the other. -/
def Goes (m : Machine) (invoke : Nat → String → List Int64 → Run Int64) (frame : Frame)
    (s t : Position) : Prop :=
  ∃ current blocks, frame.function.blocks[s.block]? = some current ∧
    frame.runBlock m (invoke blocks) s.block current.instructions s.registers s.printed
      = .ok (.goto t.block t.registers) t.printed

/-- From a position on, a frame comes to a call. -/
def Reaches (m : Machine) (invoke : Nat → String → List Int64 → Run Int64) (frame : Frame)
    (s : Position) (e : Entry) : Prop :=
  ∃ t current, Relation.ReflTransGen (frame.Goes m invoke) s t ∧
    frame.function.blocks[t.block]? = some current ∧
    frame.Makes m invoke current.instructions t.registers t.printed e

/-- What a frame does after it has run one more block. -/
theorem runBlocks_succ {invoke : String → List Int64 → Run Int64} {left block : Nat}
    {registers : Registers} {printed : List Int64} {current : Block}
    (hblock : frame.function.blocks[block]? = some current) :
    frame.runBlocks m invoke (left + 1) block registers printed =
      match frame.runBlock m invoke block current.instructions registers printed with
      | .ok (.leave value) printed' => .ok value printed'
      | .ok (.goto target registers') printed' =>
        frame.runBlocks m invoke left target registers' printed'
      | .error stop printed' => .error stop printed' := by
  simp only [runBlocks, hblock, Run.getOr_some, pure_bind]
  rw [Run.bind_apply]
  cases frame.runBlock m invoke block current.instructions registers printed with
  | ok departure printed' => cases departure <;> rfl
  | error stop printed' => rfl

/-- From a position on, a frame comes to one value or trap, whenever it and its calls may enter
enough blocks. -/
def HaltsFrom (m : Machine) (invoke : Nat → String → List Int64 → Run Int64) (frame : Frame)
    (s : Position) : Prop :=
  ∃ r, Finished r ∧ ∃ least, ∀ blocks left, least ≤ blocks → least ≤ left →
    frame.runBlocks m (invoke blocks) left s.block s.registers s.printed = r

/-- From a position on, a frame comes to no value or trap. -/
def HangsFrom (m : Machine) (invoke : Nat → String → List Int64 → Run Int64) (frame : Frame)
    (s : Position) : Prop :=
  ∀ blocks left, ∃ p, frame.runBlocks m (invoke blocks) left s.block s.registers s.printed
    = .error .unfinished p

/-! ### Halting -/

/-- A frame halts if one more block ends it. -/
theorem haltsFrom_of_stop {s : Position} {r : EStateM.Result Stop (List Int64) Int64}
    (hr : Finished r) (least : Nat)
    (h : ∀ blocks left, least ≤ blocks →
      frame.runBlocks m (invoke blocks) (left + 1) s.block s.registers s.printed = r) :
    frame.HaltsFrom m invoke s := by
  refine ⟨r, hr, least + 1, fun blocks left hblocks hleft => ?_⟩
  obtain ⟨left, rfl⟩ : ∃ n, left = n + 1 := Nat.exists_eq_add_of_le' (by omega)
  exact h blocks left (Nat.le_of_succ_le hblocks)

/-- A frame halts if it does so one block later. -/
theorem HaltsFrom.of_next {s t : Position} (ht : frame.HaltsFrom m invoke t) (least : Nat)
    (h : ∀ blocks left, least ≤ blocks →
      frame.runBlocks m (invoke blocks) (left + 1) s.block s.registers s.printed
        = frame.runBlocks m (invoke blocks) left t.block t.registers t.printed) :
    frame.HaltsFrom m invoke s := by
  obtain ⟨r, hr, least', hleast'⟩ := ht
  refine ⟨r, hr, max least (least' + 1), fun blocks left hblocks hleft => ?_⟩
  obtain ⟨left, rfl⟩ : ∃ n, left = n + 1 := Nat.exists_eq_add_of_le' (by omega)
  rw [h blocks left (by omega)]
  exact hleast' blocks left (by omega) (by omega)

/-- **A frame halts if it cannot go on for ever and all calls that it comes to halt.** -/
theorem haltsFrom_of_acc {s : Position} (hacc : Acc (fun t s => frame.Goes m invoke s t) s)
    (h : ∀ e, frame.Reaches m invoke s e →
      Halts (fun blocks => invoke blocks e.name e.args) e.printed) :
    frame.HaltsFrom m invoke s := by
  induction hacc with
  | intro s _ ih =>
    cases hblock : frame.function.blocks[s.block]? with
    | none =>
      refine haltsFrom_of_stop (r := .error (.trap (.invalidBlock frame.function.name s.block))
        s.printed) trivial 0 fun blocks left _ => ?_
      simp only [runBlocks, hblock]
      rfl
    | some current =>
      obtain ⟨r, hr, least, hleast⟩ := runBlock_halts s.block
        fun e he => h e ⟨s, current, .refl, hblock, he⟩
      dsimp only at hleast
      cases r with
      | error stop printed' =>
        refine haltsFrom_of_stop (r := .error stop printed') (by cases stop <;> exact hr) least ?_
        intro blocks left hblocks
        rw [runBlocks_succ hblock, hleast blocks hblocks]
      | ok departure printed' =>
        cases departure with
        | leave value =>
          refine haltsFrom_of_stop (r := .ok value printed') trivial least ?_
          intro blocks left hblocks
          rw [runBlocks_succ hblock, hleast blocks hblocks]
        | goto target registers' =>
          have hgoes : frame.Goes m invoke s ⟨target, registers', printed'⟩ :=
            ⟨current, least, hblock, hleast least (Nat.le_refl least)⟩
          have hrest : frame.HaltsFrom m invoke ⟨target, registers', printed'⟩ := by
            refine ih _ hgoes ?_
            rintro e ⟨t, current', hpath, ht⟩
            exact h e ⟨t, current', .head hgoes hpath, ht⟩
          refine hrest.of_next least fun blocks left hblocks => ?_
          rw [runBlocks_succ hblock, hleast blocks hblocks]

/-! ### Hanging -/

section Hanging

variable (hgrows : ∀ name args, Run.Grows fun blocks => invoke blocks name args)

include hgrows

theorem execute_grows (registers : Registers) (a : Action) :
    Run.Grows fun blocks => frame.execute m (invoke blocks) registers a := by
  intro blocks blocks' hle
  exact execute_tracks (.refl frame) registers
    (a.callsTrack_self fun name args => hgrows name args blocks blocks' hle)

theorem runBlock_grows (block : Nat) (instructions : List Instruction) (registers : Registers) :
    Run.Grows fun blocks => frame.runBlock m (invoke blocks) block instructions registers := by
  intro blocks blocks' hle
  exact runBlock_tracks (.refl frame) block instructions registers fun i _ =>
    i.action.callsTrack_self fun name args => hgrows name args blocks blocks' hle

omit hgrows in
theorem execute_hangs {registers : Registers} {printed : List Int64} {a : Action} {e : Entry}
    (ha : frame.Asks m registers printed a e)
    (he : Hangs (fun blocks => invoke blocks e.name e.args) e.printed) :
    Hangs (fun blocks => frame.execute m (invoke blocks) registers a) printed := by
  cases a with
  | call dst callee operands =>
    obtain ⟨rfl, hvalues⟩ := ha
    exact .bind_right (.const _) 0 hvalues (he.bind_left _)
  | dispatch dst trampoline operands =>
    obtain ⟨htarget, hvalues⟩ := ha
    simp only [execute, htarget, Run.getOr_some, pure_bind]
    exact .bind_right (.const _) 0 hvalues (he.bind_left _)
  | _ => exact ha.elim

/-- A block hangs if its instructions make a call that does. -/
theorem runBlock_hangs (block : Nat) {instructions : List Instruction} {registers : Registers}
    {printed : List Int64} {e : Entry}
    (hmakes : frame.Makes m invoke instructions registers printed e)
    (he : Hangs (fun blocks => invoke blocks e.name e.args) e.printed) :
    Hangs (fun blocks => frame.runBlock m (invoke blocks) block instructions registers)
      printed := by
  induction hmakes with
  | here ha => exact (execute_hangs ha he).bind_left _
  | later hnext _ ih => exact .bind_right (execute_grows hgrows _ _) _ hnext (ih he)

/-- A frame that goes to another position goes on from there, if it is not unfinished by then. -/
theorem runBlocks_of_goes {s t : Position} (hgoes : frame.Goes m invoke s t) (blocks left : Nat) :
    (∃ p, frame.runBlocks m (invoke blocks) (left + 1) s.block s.registers s.printed
      = .error .unfinished p) ∨
    frame.runBlocks m (invoke blocks) (left + 1) s.block s.registers s.printed
      = frame.runBlocks m (invoke blocks) left t.block t.registers t.printed := by
  obtain ⟨current, blocks', hblock, hrun⟩ := hgoes
  rw [runBlocks_succ hblock]
  obtain hok | ⟨p, hunfinished⟩ := (runBlock_grows hgrows s.block current.instructions
    s.registers).ok_or_unfinished hrun blocks
  · rw [hok]
    exact .inr rfl
  · rw [hunfinished]
    exact .inl ⟨p, rfl⟩

/-- **A frame that goes on for ever hangs.** -/
theorem hangsFrom_of_path {path : Nat → Position}
    (hpath : ∀ n, frame.Goes m invoke (path n) (path (n + 1))) (n : Nat) :
    frame.HangsFrom m invoke (path n) := by
  intro blocks left
  induction left generalizing n with
  | zero => exact ⟨(path n).printed, rfl⟩
  | succ left ih =>
    obtain hunfinished | hnext := runBlocks_of_goes hgrows (hpath n) blocks left
    · exact hunfinished
    · rw [hnext]
      exact ih (n + 1)

/-- **A frame that comes to a call that hangs does so too.** -/
theorem hangsFrom_of_reaches {s : Position} {e : Entry} (hreaches : frame.Reaches m invoke s e)
    (he : Hangs (fun blocks => invoke blocks e.name e.args) e.printed) :
    frame.HangsFrom m invoke s := by
  intro blocks left
  obtain ⟨t, current, hgoes, hblock, hmakes⟩ := hreaches
  induction hgoes using Relation.ReflTransGen.head_induction_on generalizing left with
  | refl =>
    cases left with
    | zero => exact ⟨t.printed, rfl⟩
    | succ left =>
      obtain ⟨p, hunfinished⟩ := runBlock_hangs hgrows t.block hmakes he blocks
      dsimp only at hunfinished
      rw [runBlocks_succ hblock, hunfinished]
      exact ⟨p, rfl⟩
  | @head s s' hstep _ ih =>
    cases left with
    | zero => exact ⟨s.printed, rfl⟩
    | succ left =>
      obtain hunfinished | hnext := runBlocks_of_goes hgrows hstep blocks left
      · exact hunfinished
      · rw [hnext]
        exact ih left

end Hanging

end Frame

end MutationTesting
