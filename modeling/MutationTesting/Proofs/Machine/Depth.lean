import MutationTesting.Proofs.Machine.Ending

/-!
# Depth of nesting

A call that begins at a smaller depth has more levels left for the calls inside it. This changes
nothing as long as neither call overflows; and a call that overflows has by then printed what the
one with more levels printed first.

Two runs are compared from every state. The run that is cut short stops in the middle of the other
one, so what the other one does from there on has to be known to add to the text and never to take
anything back: the relation says both at once.

* `Run.CutShort` — a run is another one up to an overflow
* `Frame.runBlocks_cutShort` — frames are as soon as their calls are
* `Run.CutShort.outcome` — what it says about whole runs
* `Machine.call_cutShort` — **a call with fewer levels is cut short**
* `Image.depth_keeps_answers` — what this says about how calls end
-/

namespace MutationTesting

namespace Run

variable {α β : Type}

/-- What has been printed in the end, the newest first. -/
def textOf : EStateM.Result Stop (List Int64) α → List Int64
  | .ok _ printed => printed
  | .error _ printed => printed

/-- The run `y` only adds to what was printed before, and `x` does the same, except that it may
overflow when only a part of the text of `y` has been printed. -/
def CutShort (x y : Run α) : Prop :=
  ∀ printed, printed <:+ textOf (y printed) ∧
    (x printed = y printed ∨
      ∃ printed', x printed = .error (.trap .stackOverflow) printed' ∧
        printed' <:+ textOf (y printed))

namespace CutShort

/-- Every run that adds to the text is cut short only at its end. -/
theorem of_suffix {x : Run α} (h : ∀ printed, printed <:+ textOf (x printed)) : CutShort x x :=
  fun printed => ⟨h printed, .inl rfl⟩

theorem pure (a : α) : CutShort (pure a) (pure a) :=
  of_suffix fun _ => List.suffix_rfl

theorem throw (stop : Stop) : CutShort (throw stop : Run α) (throw stop) :=
  of_suffix fun _ => List.suffix_rfl

theorem getOr (t : Trap) (o : Option α) : CutShort (Run.getOr t o) (Run.getOr t o) := by
  cases o with
  | none => exact throw (.trap t)
  | some a => exact pure a

theorem emit (value : Int64) : CutShort (Run.emit value) (Run.emit value) :=
  of_suffix fun printed => List.suffix_cons value printed

/-- An overflow at once cuts every run short that adds to the text. -/
theorem overflow {y : Run α} (h : CutShort y y) : CutShort (Run.trap .stackOverflow) y :=
  fun printed => ⟨(h printed).1, .inr ⟨printed, rfl, (h printed).1⟩⟩

/-- The second half of `y` has to add to the text for every value: it also runs where `x` has
overflowed in the first half. -/
theorem bind {x y : Run α} {f f' : α → Run β} (h : CutShort x y)
    (hf : ∀ a, CutShort (f a) (f' a)) : CutShort (x >>= f) (y >>= f') := by
  intro printed
  obtain ⟨hadds, hx⟩ := h printed
  rw [bind_apply, bind_apply]
  cases hy : y printed with
  | ok a middle =>
    rw [hy] at hadds hx
    obtain ⟨hadds', hfx⟩ := hf a middle
    refine ⟨hadds.trans hadds', ?_⟩
    rcases hx with hx | ⟨printed', hx, hpart⟩
    · rw [hx]
      exact hfx
    · rw [hx]
      exact .inr ⟨printed', rfl, hpart.trans hadds'⟩
  | error stop middle =>
    rw [hy] at hadds hx
    refine ⟨hadds, ?_⟩
    rcases hx with hx | ⟨printed', hx, hpart⟩
    · rw [hx]
      exact .inl rfl
    · rw [hx]
      exact .inr ⟨printed', rfl, hpart⟩

end CutShort

/-- The printed values of an outcome in order. -/
theorem printed_outcome (x : Run Int64) : x.outcome.printed = (textOf (x [])).reverse := by
  unfold outcome EStateM.run textOf
  cases x [] <;> rfl

/-- What it says about whole runs to be cut short. -/
theorem CutShort.outcome {x y : Run Int64} (h : CutShort x y) :
    x.outcome = y.outcome ∨ x.outcome.Overflows ∧ x.outcome.printed <+: y.outcome.printed := by
  obtain ⟨-, hsame | ⟨printed', hover, hpart⟩⟩ := h []
  · left
    unfold Run.outcome EStateM.run
    rw [hsame]
  · right
    constructor
    · unfold Run.outcome EStateM.run
      rw [hover]
      rfl
    · rw [printed_outcome, printed_outcome, hover]
      exact List.reverse_prefix.mpr hpart

end Run

/-! ## Frames -/

namespace Frame

variable {m : Machine} {invoke invoke' : String → List Int64 → Run Int64} (frame : Frame)

theorem read_cutShort (registers : Registers) (operand : Operand) :
    Run.CutShort (frame.read registers operand) (frame.read registers operand) := by
  cases operand with
  | constant value => exact .pure value
  | parameter index => exact .getOr _ _
  | register index => exact .getOr _ _

theorem readAll_cutShort (registers : Registers) :
    ∀ operands : List Operand,
      Run.CutShort (frame.readAll registers operands) (frame.readAll registers operands)
  | [] => .pure []
  | operand :: operands => by
    refine .bind (read_cutShort frame registers operand) fun value => ?_
    exact .bind (readAll_cutShort registers operands) fun values => .pure _

variable (hcalls : ∀ name args, Run.CutShort (invoke name args) (invoke' name args))

include hcalls

theorem execute_cutShort (registers : Registers) (a : Action) :
    Run.CutShort (frame.execute m invoke registers a) (frame.execute m invoke' registers a) := by
  cases a with
  | binary dst op lhs rhs =>
    refine .bind (read_cutShort frame registers lhs) fun l => ?_
    refine .bind (read_cutShort frame registers rhs) fun r => ?_
    exact .bind (.getOr _ _) fun value => .pure _
  | call dst callee operands =>
    refine .bind (readAll_cutShort frame registers operands) fun values => ?_
    exact .bind (hcalls callee values) fun value => .pure _
  | dispatch dst trampoline operands =>
    refine .bind (.getOr _ _) fun target => ?_
    refine .bind (readAll_cutShort frame registers operands) fun values => ?_
    exact .bind (hcalls target values) fun value => .pure _
  | print operand =>
    refine .bind (read_cutShort frame registers operand) fun value => ?_
    exact .bind (.emit value) fun _ => .pure _
  | jump target => exact .pure _
  | branch cond thenBlock elseBlock =>
    exact .bind (read_cutShort frame registers cond) fun value => .pure _
  | ret operand => exact .bind (read_cutShort frame registers operand) fun value => .pure _

theorem runBlock_cutShort (block : Nat) :
    ∀ (instructions : List Instruction) (registers : Registers),
      Run.CutShort (runBlock m invoke frame block instructions registers)
        (runBlock m invoke' frame block instructions registers)
  | [], _ => .throw _
  | i :: rest, registers => by
    refine .bind (execute_cutShort frame hcalls registers i.action) fun next => ?_
    cases next with
    | advance registers => exact runBlock_cutShort block rest registers
    | depart departure => exact .pure departure

/-- **Frames are cut short only where their calls are.** -/
theorem runBlocks_cutShort :
    ∀ (blocks block : Nat) (registers : Registers),
      Run.CutShort (runBlocks m invoke frame blocks block registers)
        (runBlocks m invoke' frame blocks block registers)
  | 0, _, _ => .throw _
  | blocks + 1, block, registers => by
    refine .bind (.getOr _ _) fun current => ?_
    refine .bind (runBlock_cutShort frame hcalls block current.instructions registers)
      fun departure => ?_
    cases departure with
    | leave value => exact .pure value
    | goto target registers => exact runBlocks_cutShort blocks target registers

end Frame

/-! ## Calls -/

namespace Machine

/-- **A call with fewer levels left does what one with more levels does, up to an overflow.** The
induction is on the levels of the call that has more of them. -/
theorem call_cutShort (m : Machine) (blocks levels' : Nat) :
    ∀ levels ≤ levels', ∀ name args,
      Run.CutShort (m.call blocks levels name args) (m.call blocks levels' name args) := by
  induction levels' with
  | zero =>
    intro levels hle name args
    obtain rfl := Nat.le_zero.mp hle
    exact .throw _
  | succ levels' ih =>
    have hstep : ∀ levels ≤ levels', ∀ name args, Run.CutShort
        (m.call blocks (levels + 1) name args) (m.call blocks (levels' + 1) name args) := by
      intro levels hle name args
      exact .bind (.getOr _ _) fun f =>
        Frame.runBlocks_cutShort ⟨f, args⟩ (ih levels hle) blocks 0 .empty
    intro levels hle name args
    cases levels with
    | zero => exact .overflow (hstep levels' (Nat.le_refl levels') name args)
    | succ levels => exact hstep levels (Nat.le_of_succ_le_succ hle) name args

/-- A call at a greater depth has the outcome of one at a smaller depth, or it has overflowed with a
first part of the text. -/
theorem callAt_eq_or_overflows (m : Machine) (blocks : Nat) (name : String) (args : List Int64)
    {depth' depth : Nat} (hle : depth' ≤ depth) :
    m.callAt blocks name args depth = m.callAt blocks name args depth' ∨
      (m.callAt blocks name args depth).Overflows ∧
        (m.callAt blocks name args depth).printed
          <+: (m.callAt blocks name args depth').printed := by
  have hlevels : maxCallDepth - depth ≤ maxCallDepth - depth' := Nat.sub_le_sub_left hle _
  rw [callAt_eq, callAt_eq]
  exact (m.call_cutShort blocks _ _ hlevels name args).outcome

end Machine

/-! ## Programs -/

namespace Image

/-- **More room for nested calls never changes an answer.** Whatever is selected, and whatever
function is called with whatever arguments: if the call ends at some depth in anything but an
overflow, it ends at every smaller depth with the same value or trap and the same text; and if it
overflows at the smaller depth, it overflows at the greater one as well, having printed a first part
of that text. -/
theorem depth_keeps_answers (image : Image) (isSet : String → Bool) (name : String)
    (args : List Int64) {depth' depth : Nat} (hle : depth' ≤ depth) :
    (∀ o, (Machine.load image isSet).Ends name args depth o → ¬o.Overflows →
      (Machine.load image isSet).Ends name args depth' o) ∧
    ∀ o', (Machine.load image isSet).Ends name args depth' o' → o'.Overflows →
      ∃ o, (Machine.load image isSet).Ends name args depth o ∧ o.Overflows ∧
        o.printed <+: o'.printed := by
  constructor
  · rintro _ ⟨hfinished, blocks, rfl⟩ hover
    rcases (Machine.load image isSet).callAt_eq_or_overflows blocks name args hle with
      hsame | ⟨hdeeper, -⟩
    · exact ⟨hfinished, blocks, hsame.symm⟩
    · exact absurd hdeeper hover
  · rintro _ ⟨hfinished, blocks, rfl⟩ hover
    rcases (Machine.load image isSet).callAt_eq_or_overflows blocks name args hle with
      hsame | ⟨hdeeper, hpart⟩
    · exact ⟨_, ⟨hfinished, blocks, hsame⟩, hover, List.prefix_rfl⟩
    · refine ⟨_, ⟨?_, blocks, rfl⟩, hdeeper, hpart⟩
      rw [hdeeper]
      simp

/-- A function that prints its argument and calls itself, and one that gives a value. -/
def echoing : Image where
  functions := [
    { name := "echo"
      params := 1
      blocks := [⟨[⟨.print (.parameter 0), none⟩, ⟨.call (some 0) "echo" [.parameter 0], none⟩,
        ⟨.ret (.register 0), none⟩]⟩] },
    { name := "main"
      params := 0
      blocks := [⟨[⟨.print (.constant 7), none⟩, ⟨.ret (.constant 0), none⟩]⟩] }]

/-- With fewer levels left the function that calls itself prints less before it overflows, and the
other one does the same. -/
theorem echoing_keeps_answers :
    1019 ≤ 1021 ∧
    ((Machine.load echoing fun _ => false).Ends "main" [] 1021 ⟨.ok 0, [7]⟩ ∧
      (Machine.load echoing fun _ => false).Ends "main" [] 1019 ⟨.ok 0, [7]⟩) ∧
    (Machine.load echoing fun _ => false).Ends "echo" [1] 1019
      ⟨.error (.trap .stackOverflow), [1, 1, 1, 1, 1]⟩ ∧
    ∃ o, (Machine.load echoing fun _ => false).Ends "echo" [1] 1021 o ∧ o.Overflows ∧
      o.printed <+: [1, 1, 1, 1, 1] := by
  have hle : 1019 ≤ 1021 := by decide
  have hmain : (Machine.load echoing fun _ => false).Ends "main" [] 1021 ⟨.ok 0, [7]⟩ :=
    ⟨by simp, 1, rfl⟩
  have hecho : (Machine.load echoing fun _ => false).Ends "echo" [1] 1019
      ⟨.error (.trap .stackOverflow), [1, 1, 1, 1, 1]⟩ := ⟨by simp, 1, rfl⟩
  refine ⟨hle, ⟨hmain, ?_⟩, hecho, ?_⟩
  · exact (depth_keeps_answers echoing _ "main" [] hle).1 _ hmain (by simp [Outcome.Overflows])
  · exact (depth_keeps_answers echoing _ "echo" [1] hle).2 _ hecho rfl

end Image

end MutationTesting
