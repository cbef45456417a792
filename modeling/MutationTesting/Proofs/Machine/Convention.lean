import MutationTesting.Proofs.Machine.Tracking

/-!
# Calling conventions

A stub adds two things to the calls of the function that it stands for: a level of depth, and a list
of arguments that is cut to the declared parameters. Both are described here without any stub, as a
*convention* under which a machine calls its functions.

* `Machine.callUnder` — calls under a convention
* `Machine.callUnder_direct` — under the direct one they are the calls of the machine
* `Machine.callUnder_tracks` — two conventions are compared by comparing their frames
* `Machine.callUnder_tracks_of_levels` — fewer levels for each call never lose a run
* `Machine.callUnder_tracks_of_fits` — cutting the arguments changes nothing where they fit
* `Machine.callUnder_forwarding_tracks` — and where they do not fit it can only miss a parameter
-/

namespace MutationTesting

/-- The arguments that a stub of a function passes on: its declared parameters, all of which have to
be there. -/
def Function.forward (f : Function) (args : List Int64) : Run (List Int64) :=
  if args.length < f.params.toNat then
    Run.trap (.missingParameter f.name (.ofNat args.length))
  else pure (args.take f.params.toNat)

theorem Function.forward_of_length {f : Function} {args : List Int64}
    (h : args.length = f.params.toNat) : f.forward args = pure args := by
  unfold forward
  rw [if_neg (by omega), ← h, List.take_length]

/-- How functions are called. -/
structure Convention where
  /-- The levels of depth that a call of a function takes besides its own. -/
  extra : Function → Nat
  /-- The arguments that reach the body of a function. -/
  pass : Function → List Int64 → Run (List Int64)

namespace Convention

/-- Every call takes one level and passes its arguments as they are. -/
def direct : Convention where
  extra _ := 0
  pass _ args := pure args

/-- Calls of the named functions take two levels. -/
def twoLevels (names : List String) : Convention where
  extra f := if f.name ∈ names then 1 else 0
  pass _ args := pure args

/-- Calls of the named functions pass on exactly the declared parameters. -/
def forwarding (names : List String) : Convention where
  extra _ := 0
  pass f args := if f.name ∈ names then f.forward args else pure args

/-- Calls of the named functions take two levels and pass on exactly the declared parameters, as
through a stub. -/
def stubbed (names : List String) : Convention where
  extra := (twoLevels names).extra
  pass := (forwarding names).pass

end Convention

/-! ## Missing parameters -/

/-- A run stops because a named function misses a parameter. -/
def Stop.MissesParameter (names : List String) : Stop → Prop
  | .trap (.missingParameter function _) => function ∈ names
  | _ => False

/-- A frame that lost the arguments behind the declared parameters can only miss one of them. -/
theorem Frame.tracks_take {names : List String} {f : Function} (hf : f.name ∈ names)
    (args : List Int64) (count : Nat) :
    Frame.Tracks id (Stop.MissesParameter names) ⟨f, args.take count⟩ ⟨f, args⟩ where
  name := rfl
  blocks := rfl
  args := fun index => by
    by_cases h : index.toNat < count
    · exact Or.inl (List.getElem?_take_of_lt h)
    · exact Or.inr ⟨List.getElem?_take_eq_none (by omega), hf⟩

/-! ## Calls under a convention -/

namespace Machine

/-- Calls a function under a convention with so many levels of depth left, each frame entering at
most so many blocks. -/
def callUnder (m : Machine) (c : Convention) (blocks : Nat) :
    Nat → String → List Int64 → Run Int64
  | 0, _, _ => Run.trap .stackOverflow
  | levels + 1, name, args => do
    let function ← Run.getOr (.unknownFunction name) (m.body? name)
    let args ← c.pass function args
    if levels < c.extra function then Run.trap .stackOverflow
    else
      Frame.runBlocks m
        (fun name args => callUnder m c blocks (levels - c.extra function) name args)
        ⟨function, args⟩ blocks 0 .empty
termination_by levels => levels
decreasing_by exact Nat.lt_succ_of_le (Nat.sub_le _ _)

variable {m : Machine} {c c' : Convention} {names : List String} {excused : Stop → Prop}

theorem callUnder_zero (blocks : Nat) (name : String) (args : List Int64) :
    m.callUnder c blocks 0 name args = Run.trap .stackOverflow := by
  rw [callUnder]

/-- A call with a level left, once the body of the function is known. -/
theorem callUnder_succ {name : String} {f : Function} (h : m.body? name = some f)
    (blocks levels : Nat) (args : List Int64) :
    m.callUnder c blocks (levels + 1) name args = (do
      let args ← c.pass f args
      if levels < c.extra f then Run.trap .stackOverflow
      else
        Frame.runBlocks m (m.callUnder c blocks (levels - c.extra f))
          ⟨f, args⟩ blocks 0 .empty) := by
  rw [callUnder]
  simp only [h, Run.getOr_some, pure_bind]

theorem callUnder_unknown {name : String} (h : m.body? name = none) (blocks levels : Nat)
    (args : List Int64) :
    m.callUnder c blocks (levels + 1) name args = Run.trap (.unknownFunction name) := by
  rw [callUnder]
  simp only [h]
  rfl

/-! ## The direct convention -/

theorem callUnder_direct (m : Machine) (blocks : Nat) :
    ∀ levels, m.callUnder .direct blocks levels = m.call blocks levels
  | 0 => by
    funext name args
    rw [callUnder_zero]
    rfl
  | levels + 1 => by
    funext name args
    cases h : m.body? name with
    | none =>
      rw [callUnder_unknown h]
      simp only [call, h]
      rfl
    | some f =>
      rw [callUnder_succ h]
      simp only [Convention.direct, Nat.not_lt_zero, if_false, pure_bind, Nat.sub_zero, call, h,
        Run.getOr_some]
      exact congrArg (fun invoke => Frame.runBlocks m invoke ⟨f, args⟩ blocks 0 .empty)
        (callUnder_direct m blocks levels)

/-! ## Comparing conventions -/

/-- **Calls under two conventions with the same levels track each other as soon as their frames
do.** The property `P` is one of the compared calls that every call made inside them has again.

The induction is on the levels of depth; whether a call overflows is the same on both sides. -/
theorem callUnder_tracks {P : String → List Int64 → Prop} {blocks blocks' : Nat}
    (hextra : c'.extra = c.extra)
    (hframe : ∀ {name f}, m.body? name = some f → ∀ args, P name args →
      ∀ (deep : Prop) [Decidable deep] (invoke invoke' : String → List Int64 → Run Int64),
        (∀ callee values, P callee values →
          Run.Tracks id excused (invoke callee values) (invoke' callee values)) →
        Run.Tracks id excused
          (c.pass f args >>= fun args => if deep then Run.trap .stackOverflow
            else Frame.runBlocks m invoke ⟨f, args⟩ blocks 0 .empty)
          (c'.pass f args >>= fun args => if deep then Run.trap .stackOverflow
            else Frame.runBlocks m invoke' ⟨f, args⟩ blocks' 0 .empty))
    (levels : Nat) :
    ∀ name args, P name args → Run.Tracks id excused (m.callUnder c blocks levels name args)
      (m.callUnder c' blocks' levels name args) := by
  induction levels using Nat.strongRecOn with
  | ind levels ih =>
    intro name args hP
    cases levels with
    | zero =>
      rw [callUnder_zero, callUnder_zero]
      exact .trap .stackOverflow
    | succ levels =>
      cases h : m.body? name with
      | none =>
        rw [callUnder_unknown h, callUnder_unknown h]
        exact .trap (.unknownFunction name)
      | some f =>
        rw [callUnder_succ h, callUnder_succ h, hextra]
        exact hframe h args hP _ _ _ (ih (levels - c.extra f) (by omega))

/-- More blocks never change a run that ends. -/
theorem callUnder_tracks_of_blocks {blocks blocks' : Nat} (hle : blocks ≤ blocks') (levels : Nat)
    (name : String) (args : List Int64) :
    Run.Tracks id (· = .unfinished) (m.callUnder c blocks levels name args)
      (m.callUnder c blocks' levels name args) := by
  refine callUnder_tracks (P := fun _ _ => True) rfl
    (fun h args _ deep _ invoke invoke' hcalls => ?_)
    levels name args trivial
  refine .bind (.refl _) fun args _ => ?_
  split
  · exact .trap .stackOverflow
  · exact Frame.runBlocks_tracks (.refl _)
      (fun a _ => a.callsTrack_self fun callee values => hcalls callee values trivial) _ _ _ _ hle
      fun _ => rfl

/-- Where a call takes at most `rate` times the levels, `rate` times the depth loses no run. -/
theorem callUnder_tracks_of_levels {rate : Nat} (hpass : c'.pass = c.pass)
    (hextra : ∀ f, c'.extra f + 1 ≤ rate * (c.extra f + 1)) (blocks levels : Nat) :
    ∀ levels', rate * levels ≤ levels' → ∀ name args,
      Run.Tracks id (· = .trap .stackOverflow) (m.callUnder c blocks levels name args)
        (m.callUnder c' blocks levels' name args) := by
  induction levels using Nat.strongRecOn with
  | ind levels ih =>
    intro levels' hle name args
    cases levels with
    | zero =>
      rw [callUnder_zero]
      exact .of_excused rfl _
    | succ levels =>
      -- a level on one side is at least a level on the other
      have hrate : 0 < rate := by
        rcases Nat.eq_zero_or_pos rate with h0 | h0
        · have := hextra ⟨name, 0, [], none⟩
          rw [h0] at this
          omega
        · exact h0
      have hpos : 0 < levels' := Nat.lt_of_lt_of_le (Nat.mul_pos hrate (Nat.succ_pos levels)) hle
      obtain ⟨levels', rfl⟩ : ∃ n, levels' = n + 1 := ⟨levels' - 1, by omega⟩
      cases h : m.body? name with
      | none =>
        rw [callUnder_unknown h, callUnder_unknown h]
        exact .trap (.unknownFunction name)
      | some f =>
        rw [callUnder_succ h, callUnder_succ h, hpass]
        refine .bind (.refl _) fun args _ => ?_
        by_cases hover : levels < c.extra f
        · rw [if_pos hover]
          exact .of_excused rfl _
        · -- what is left after the call is still `rate` times as deep
          have hmul :
              rate * (levels + 1) = rate * (levels - c.extra f) + rate * (c.extra f + 1) := by
            rw [← Nat.mul_add]
            congr 1
            omega
          have hf := hextra f
          rw [if_neg hover, if_neg (by omega)]
          exact Frame.runBlocks_tracks (.refl _)
            (fun a _ => a.callsTrack_self (ih (levels - c.extra f) (by omega) _ (by omega)))
            _ _ _ _ (Nat.le_refl blocks) fun hlt => absurd hlt (Nat.lt_irrefl blocks)

/-! ## Fitting calls -/

/-- A call of a named function with so many arguments has as many as the function declares. -/
def Fits (m : Machine) (names : List String) (callee : String) (count : Nat) : Prop :=
  callee ∈ names → ∀ f, m.body? callee = some f → count = f.params.toNat

/-- The calls inside functions lead to functions, and none is dispatched. -/
structure Closed (m : Machine) : Prop where
  callee : ∀ {name f}, m.body? name = some f →
    ∀ {dst callee operands}, .call dst callee operands ∈ f.actions → ∃ g, m.body? callee = some g
  noDispatch : ∀ {name f}, m.body? name = some f →
    ∀ {dst trampoline operands}, .dispatch dst trampoline operands ∉ f.actions

/-- Every call of a named function inside a function has as many arguments as it declares. -/
def CallsFit (m : Machine) (names : List String) : Prop :=
  ∀ {name f}, m.body? name = some f → ∀ {dst callee operands},
    .call dst callee operands ∈ f.actions → m.Fits names callee operands.length

theorem name_of_body? {name : String} {f : Function} (h : m.body? name = some f) :
    f.name = name := by
  have := List.find?_some h
  simpa using this

/-- Where all calls fit, cutting the arguments to the parameters changes nothing. -/
theorem callUnder_tracks_of_fits (hfit : m.CallsFit names) (hclosed : m.Closed)
    (blocks levels : Nat) (name : String) (args : List Int64)
    (hargs : m.Fits names name args.length) :
    Run.Tracks id excused (m.callUnder (.stubbed names) blocks levels name args)
      (m.callUnder (.twoLevels names) blocks levels name args) := by
  have hextra : (Convention.twoLevels names).extra = (Convention.stubbed names).extra := rfl
  refine callUnder_tracks (P := fun name args => m.Fits names name args.length) hextra
    (fun {name f} h args hargs deep _ invoke invoke' hcalls => ?_) levels name args hargs
  have hpass : (Convention.stubbed names).pass f args = pure args := by
    simp only [Convention.stubbed, Convention.forwarding, name_of_body? h]
    split
    · exact f.forward_of_length (hargs ‹_› f h)
    · rfl
  rw [hpass]
  refine .bind (.pure args) fun args _ => ?_
  split
  · exact .trap .stackOverflow
  · refine Frame.runBlocks_tracks (.refl _) (fun a ha => ?_) _ _ _ _ (Nat.le_refl blocks)
      fun hlt => absurd hlt (Nat.lt_irrefl blocks)
    cases a with
    | call dst callee operands =>
      -- as many values are passed as there are operands, so the call inside fits as well
      intro values hvalues
      refine hcalls callee values ?_
      rw [hvalues]
      exact hfit h ha
    | dispatch dst trampoline operands => exact absurd ha (hclosed.noDispatch h)
    | _ => trivial

/-! ## Calls that do not fit -/

/-- Cutting the arguments to the parameters changes a run only if a parameter is missed for it. -/
theorem callUnder_forwarding_tracks (blocks levels : Nat) (name : String) (args : List Int64) :
    Run.Tracks id (Stop.MissesParameter names)
      (m.callUnder (.forwarding names) blocks levels name args)
      (m.callUnder .direct blocks levels name args) := by
  have hextra : Convention.direct.extra = (Convention.forwarding names).extra := rfl
  refine callUnder_tracks (P := fun _ _ => True) hextra
    (fun {name f} h args _ deep _ invoke invoke' hcalls => ?_) levels name args trivial
  -- a body that gets fewer arguments behaves alike until it reads one of the others
  have hframe : ∀ args', Frame.Tracks id (Stop.MissesParameter names) ⟨f, args'⟩ ⟨f, args⟩ →
      Run.Tracks id (Stop.MissesParameter names)
        (if deep then Run.trap .stackOverflow
          else Frame.runBlocks m invoke ⟨f, args'⟩ blocks 0 .empty)
        (if deep then Run.trap .stackOverflow
          else Frame.runBlocks m invoke' ⟨f, args⟩ blocks 0 .empty) := by
    intro args' hargs
    split
    · exact .trap .stackOverflow
    · exact Frame.runBlocks_tracks hargs
        (fun a _ => a.callsTrack_self fun callee values => hcalls callee values trivial) _ _ _ _
        (Nat.le_refl blocks) fun hlt => absurd hlt (Nat.lt_irrefl blocks)
  simp only [Convention.forwarding, Convention.direct, pure_bind]
  by_cases hf : f.name ∈ names
  · rw [if_pos hf]
    unfold Function.forward
    split
    · exact .of_excused
        (show Stop.MissesParameter names (.trap (.missingParameter f.name _)) from hf) _
    · rw [pure_bind]
      exact hframe _ (Frame.tracks_take hf args _)
  · rw [if_neg hf, pure_bind]
    exact hframe args (.refl _)

end Machine

end MutationTesting
