import MutationTesting.Machine.Run
import MutationTesting.Proofs.Ir.Function

/-!
# Runs that follow each other

Two machines are compared by comparing what their runs do from every state: one run *tracks* another
if it prints the same values and ends the same way, where the function names in its traps are read
through a map, and where it may stop early for an excused reason.

The relation is kept by everything a frame does. So two calls track each other as soon as the calls
made inside them do (`Frame.runBlocks_tracks`), which is the step of every induction on the depth of
calls.

* `Run.Tracks` — the relation
* `Run.Tracks.bind` — it is kept by sequencing
* `Frame.runBlocks_tracks` — it is kept by frames
* `Run.Tracks.outcome` — what it says about whole runs
-/

namespace MutationTesting

/-! ## Reading function names differently -/

/-- A trap with another reading of function names. -/
def Trap.rename (g : String → String) : Trap → Trap
  | .divisionByZero function => .divisionByZero (g function)
  | .unknownFunction name => .unknownFunction (g name)
  | .undefinedRegister function register => .undefinedRegister (g function) register
  | .missingParameter function index => .missingParameter (g function) index
  | .invalidBlock function block => .invalidBlock (g function) block
  | .stackOverflow => .stackOverflow

/-- The reason of a stop with another reading of function names. -/
def Stop.rename (g : String → String) : Stop → Stop
  | .trap t => .trap (t.rename g)
  | .unfinished => .unfinished

/-- An outcome with another reading of function names. -/
def Outcome.rename (g : String → String) (o : Outcome) : Outcome :=
  { o with ending := o.ending.mapError (Stop.rename g) }

@[simp] theorem Trap.rename_id (t : Trap) : t.rename id = t := by
  cases t <;> rfl

@[simp] theorem Stop.rename_id (s : Stop) : s.rename id = s := by
  cases s <;> simp [Stop.rename]

@[simp] theorem Outcome.rename_ok (g : String → String) (value : Int64) (printed : List Int64) :
    (⟨.ok value, printed⟩ : Outcome).rename g = ⟨.ok value, printed⟩ := rfl

@[simp] theorem Outcome.rename_error (g : String → String) (stop : Stop) (printed : List Int64) :
    (⟨.error stop, printed⟩ : Outcome).rename g = ⟨.error (stop.rename g), printed⟩ := rfl

@[simp] theorem Outcome.rename_id (o : Outcome) : o.rename id = o := by
  obtain ⟨ending, printed⟩ := o
  cases ending <;> simp

/-! ## The relation -/

namespace Run

@[simp] theorem getOr_some {α : Type} (t : Trap) (a : α) : getOr t (some a) = pure a := rfl

@[simp] theorem getOr_none {α : Type} (t : Trap) : getOr t (none : Option α) = trap t := rfl

variable {α β : Type} {g : String → String} {excused : Stop → Prop}

/-- A sequence goes on with the value and the text of its first half. -/
theorem bind_apply (x : Run α) (f : α → Run β) (printed : List Int64) :
    (x >>= f) printed = match x printed with
      | .ok a printed' => f a printed'
      | .error stop printed' => .error stop printed' := by
  show EStateM.bind x f printed = _
  unfold EStateM.bind
  cases x printed <;> rfl

/-- The run can give this value. -/
def Gives (x : Run α) (a : α) : Prop :=
  ∃ printed printed', x printed = .ok a printed'

/-- What a sequence gives is what its second half gives after some value of the first. -/
theorem Gives.of_bind {x : Run α} {f : α → Run β} {b : β} (h : (x >>= f).Gives b) :
    ∃ a, x.Gives a ∧ (f a).Gives b := by
  obtain ⟨printed, printed', h⟩ := h
  rw [bind_apply] at h
  cases hx : x printed with
  | ok a middle =>
    rw [hx] at h
    exact ⟨a, ⟨printed, middle, hx⟩, middle, printed', h⟩
  | error stop middle =>
    rw [hx] at h
    cases h

/-- The run does what another one does, function names being read through `g`, unless it stops for
an excused reason. -/
def Tracks (g : String → String) (excused : Stop → Prop) (x y : Run α) : Prop :=
  ∀ printed,
    match x printed with
    | .ok a printed' => y printed = .ok a printed'
    | .error stop printed' => y printed = .error (stop.rename g) printed' ∨ excused stop

namespace Tracks

theorem pure (a : α) : Tracks g excused (pure a) (pure a) :=
  fun _ => rfl

theorem trap (t : Trap) : Tracks g excused (Run.trap t : Run α) (Run.trap (t.rename g)) :=
  fun _ => Or.inl rfl

theorem of_excused {stop : Stop} (h : excused stop) (y : Run α) :
    Tracks g excused (throw stop) y :=
  fun _ => Or.inr h

theorem refl (x : Run α) : Tracks id excused x x := by
  intro printed
  cases h : x printed with
  | ok a printed' => rfl
  | error stop printed' => exact Or.inl (by rw [Stop.rename_id])

/-- The second halves need to track each other only for values that the first half can give. -/
theorem bind {x y : Run α} {f f' : α → Run β} (hx : Tracks g excused x y)
    (hf : ∀ a, x.Gives a → Tracks g excused (f a) (f' a)) :
    Tracks g excused (x >>= f) (y >>= f') := by
  intro printed
  have hxp := hx printed
  rw [bind_apply, bind_apply]
  cases h : x printed with
  | ok a printed' =>
    rw [h] at hxp
    simp only [hxp]
    exact hf a ⟨printed, printed', h⟩ printed'
  | error stop printed' =>
    rw [h] at hxp
    rcases hxp with hy | he
    · simp only [hy, true_or]
    · exact Or.inr he

theorem getOr (t : Trap) (o : Option α) :
    Tracks g excused (Run.getOr t o) (Run.getOr (t.rename g) o) := by
  cases o with
  | none => exact trap t
  | some a => exact pure a

end Tracks

end Run

/-! ## Actions -/

section

variable (g : String → String) (excused : Stop → Prop) (m m' : Machine)
  (invoke invoke' : String → List Int64 → Run Int64)

/-- The calls that an action makes track each other on both sides. -/
def Action.CallsTrack : Action → Prop
  | .call _ callee operands => ∀ values, values.length = operands.length →
      Run.Tracks g excused (invoke callee values) (invoke' callee values)
  | .dispatch _ trampoline operands =>
      m.target? trampoline = none ∧ m'.target? trampoline = none ∧ g trampoline = trampoline ∨
      ∃ target target', m.target? trampoline = some target ∧ m'.target? trampoline = some target' ∧
        ∀ values, values.length = operands.length →
          Run.Tracks g excused (invoke target values) (invoke' target' values)
  | _ => True

end

/-- Where trampolines lead to the same functions the calls of an action track each other as soon as
all calls do. -/
theorem Action.callsTrack_of_target {excused : Stop → Prop} {m m' : Machine}
    {invoke invoke' : String → List Int64 → Run Int64}
    (htarget : ∀ trampoline, m.target? trampoline = m'.target? trampoline)
    (h : ∀ name values, Run.Tracks id excused (invoke name values) (invoke' name values))
    (a : Action) : a.CallsTrack id excused m m' invoke invoke' := by
  cases a with
  | call dst callee operands => exact fun values _ => h callee values
  | dispatch dst trampoline operands =>
    have hsame := htarget trampoline
    cases ht : m.target? trampoline with
    | none => exact Or.inl ⟨ht, hsame ▸ ht, rfl⟩
    | some target => exact Or.inr ⟨target, target, ht, hsame ▸ ht, fun values _ => h target values⟩
  | _ => trivial

/-- On one machine the calls of an action track each other as soon as all calls do. -/
theorem Action.callsTrack_self {excused : Stop → Prop} {m : Machine}
    {invoke invoke' : String → List Int64 → Run Int64}
    (h : ∀ name values, Run.Tracks id excused (invoke name values) (invoke' name values))
    (a : Action) : a.CallsTrack id excused m m invoke invoke' :=
  a.callsTrack_of_target (fun _ => rfl) h

/-! ## Frames -/

namespace Frame

variable {g : String → String} {excused : Stop → Prop}

/-- Two frames run the same blocks, and read the same arguments except where it is excused to miss
one. -/
structure Tracks (g : String → String) (excused : Stop → Prop) (x y : Frame) : Prop where
  name : y.function.name = g x.function.name
  blocks : y.function.blocks = x.function.blocks
  args : ∀ index : UInt32, x.args[index.toNat]? = y.args[index.toNat]? ∨
    x.args[index.toNat]? = none ∧ excused (.trap (.missingParameter x.function.name index))

theorem Tracks.refl (x : Frame) : Tracks id excused x x :=
  ⟨rfl, rfl, fun _ => Or.inl rfl⟩

variable {x y : Frame}

theorem read_tracks (h : Tracks g excused x y) (registers : Registers) (operand : Operand) :
    Run.Tracks g excused (x.read registers operand) (y.read registers operand) := by
  cases operand with
  | constant value => exact .pure value
  | register index =>
    simp only [read, h.name]
    exact .getOr (.undefinedRegister x.function.name index) _
  | parameter index =>
    simp only [read, h.name]
    rcases h.args index with hargs | ⟨hargs, he⟩
    · rw [← hargs]
      exact .getOr (.missingParameter x.function.name index) _
    · rw [hargs]
      exact .of_excused he _

theorem readAll_tracks (h : Tracks g excused x y) (registers : Registers) :
    ∀ operands : List Operand,
      Run.Tracks g excused (x.readAll registers operands) (y.readAll registers operands)
  | [] => .pure []
  | operand :: operands => by
    refine .bind (read_tracks h registers operand) fun value _ => ?_
    refine .bind (readAll_tracks h registers operands) fun values _ => ?_
    exact .pure _

/-- As many values are read as there are operands. -/
theorem length_of_readAll {registers : Registers} :
    ∀ {operands : List Operand} {values : List Int64},
      (x.readAll registers operands).Gives values → values.length = operands.length
  | [], values, ⟨printed, printed', h⟩ => by
    cases h
    rfl
  | operand :: operands, values, h => by
    obtain ⟨value, -, h⟩ := h.of_bind
    obtain ⟨rest, hrest, printed, printed', h⟩ := h.of_bind
    cases h
    rw [List.length_cons, List.length_cons, length_of_readAll hrest]

variable {m m' : Machine} {invoke invoke' : String → List Int64 → Run Int64}

theorem execute_tracks (h : Tracks g excused x y) (registers : Registers) {a : Action}
    (ha : a.CallsTrack g excused m m' invoke invoke') :
    Run.Tracks g excused (x.execute m invoke registers a) (y.execute m' invoke' registers a) := by
  cases a with
  | binary dst op lhs rhs =>
    refine .bind (read_tracks h registers lhs) fun l _ => ?_
    refine .bind (read_tracks h registers rhs) fun r _ => ?_
    rw [h.name]
    exact .bind (.getOr (.divisionByZero x.function.name) _) fun value _ => .pure _
  | call dst callee operands =>
    refine .bind (readAll_tracks h registers operands) fun values hv => ?_
    exact .bind (ha values (length_of_readAll hv)) fun value _ => .pure _
  | dispatch dst trampoline operands =>
    rcases ha with ⟨hm, hm', hg⟩ | ⟨target, target', hm, hm', hcalls⟩
    · -- without a target nothing is read
      simp only [execute, hm, hm']
      have ht : Run.Tracks g excused (Run.trap (.unknownFunction trampoline) : Run Next)
          (Run.trap (.unknownFunction (g trampoline))) := .trap (.unknownFunction trampoline)
      rwa [hg] at ht
    · simp only [execute, hm, hm', Run.getOr_some, pure_bind]
      refine .bind (readAll_tracks h registers operands) fun values hv => ?_
      exact .bind (hcalls values (length_of_readAll hv)) fun value _ => .pure _
  | print operand =>
    refine .bind (read_tracks h registers operand) fun value _ => ?_
    exact .bind (fun _ => rfl) fun _ _ => .pure _
  | jump target => exact .pure _
  | branch cond thenBlock elseBlock =>
    exact .bind (read_tracks h registers cond) fun value _ => .pure _
  | ret operand =>
    exact .bind (read_tracks h registers operand) fun value _ => .pure _

theorem runBlock_tracks (h : Tracks g excused x y) (block : Nat) :
    ∀ (instructions : List Instruction) (registers : Registers),
      (∀ i ∈ instructions, i.action.CallsTrack g excused m m' invoke invoke') →
      Run.Tracks g excused (runBlock m invoke x block instructions registers)
        (runBlock m' invoke' y block instructions registers)
  | [], registers, _ => by
    simp only [runBlock, h.name]
    exact .trap (.invalidBlock x.function.name block)
  | i :: rest, registers, hcalls => by
    refine .bind (execute_tracks h registers (hcalls i (by simp))) fun next _ => ?_
    cases next with
    | advance registers =>
      exact runBlock_tracks h block rest registers fun j hj => hcalls j (by simp [hj])
    | depart departure => exact .pure departure

/-- **Frames track each other as soon as their calls do.** The second frame may enter more blocks
than the first one if it is excused to be left unfinished. -/
theorem runBlocks_tracks (h : Tracks g excused x y)
    (hcalls : ∀ a ∈ x.function.actions, a.CallsTrack g excused m m' invoke invoke') :
    ∀ (blocks blocks' block : Nat) (registers : Registers), blocks ≤ blocks' →
      (blocks < blocks' → excused .unfinished) →
      Run.Tracks g excused (runBlocks m invoke x blocks block registers)
        (runBlocks m' invoke' y blocks' block registers)
  | 0, 0, _, _, _, _ => fun _ => Or.inl rfl
  | 0, _ + 1, _, _, _, he => .of_excused (he (by omega)) _
  | blocks + 1, blocks' + 1, block, registers, hle, he => by
    simp only [runBlocks, h.name, h.blocks]
    cases hb : x.function.blocks[block]? with
    | none => exact .trap (.invalidBlock x.function.name block)
    | some current =>
      have hmem : current ∈ x.function.blocks := List.mem_of_getElem? hb
      simp only [Run.getOr_some, pure_bind]
      refine .bind (runBlock_tracks h block current.instructions registers
        fun i hi => hcalls _ (Function.mem_actions hmem hi)) fun departure _ => ?_
      cases departure with
      | leave value => exact .pure value
      | goto target registers =>
        exact runBlocks_tracks h hcalls blocks blocks' target registers (by omega)
          fun hlt => he (by omega)

end Frame

/-! ## Whole runs -/

/-- What a run comes to when nothing has been printed before. -/
def Run.outcome (x : Run Int64) : Outcome :=
  match x.run [] with
  | .ok value printed => { ending := .ok value, printed := printed.reverse }
  | .error stop printed => { ending := .error stop, printed := printed.reverse }

theorem Machine.callAt_eq (m : Machine) (blocks : Nat) (name : String) (args : List Int64)
    (depth : Nat) :
    m.callAt blocks name args depth =
      (m.call blocks (maxCallDepth - depth) name args).outcome := rfl

/-- A run that tracks another one has its outcome, unless it stops for an excused reason. -/
theorem Run.Tracks.outcome {g : String → String} {excused : Stop → Prop} {x y : Run Int64}
    (h : Run.Tracks g excused x y) :
    y.outcome = x.outcome.rename g ∨ ∃ stop, x.outcome.ending = .error stop ∧ excused stop := by
  have hp := h []
  unfold Run.outcome EStateM.run
  cases hx : x [] with
  | ok value printed =>
    rw [hx] at hp
    simp only [hp]
    exact Or.inl rfl
  | error stop printed =>
    rw [hx] at hp
    rcases hp with hy | he
    · simp only [hy]
      exact Or.inl rfl
    · exact Or.inr ⟨stop, rfl, he⟩

end MutationTesting
