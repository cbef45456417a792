import MutationTesting.Proofs.Machine.Convention

/-!
# How runs end

A run *ends* with an outcome if some number of blocks for each frame is enough to reach it. More
blocks never change the outcome (`Machine.EndsUnder.unique`), so a run that ends does so in one way
only, and a run that does not end goes round in circles for ever.

* `Run.EndsAs.iff_of_tracks` — runs that track each other end alike
* `Machine.Ends`, `Machine.EndsUnder` — how a call ends, directly and under a convention
* `Machine.NestsWithin` — a call needs at most so many levels of depth
-/

namespace MutationTesting

namespace Outcome

/-- The run nested its calls too deeply. -/
def Overflows (o : Outcome) : Prop :=
  o.ending = .error (.trap .stackOverflow)

theorem rename_finished {g : String → String} {o : Outcome}
    (h : o.ending ≠ .error .unfinished) : (o.rename g).ending ≠ .error .unfinished := by
  obtain ⟨ending, printed⟩ := o
  cases ending with
  | ok value => simp
  | error stop =>
    cases stop with
    | trap t => simp [Stop.rename]
    | unfinished => exact absurd rfl h

theorem finished_of_rename {g : String → String} {o : Outcome}
    (h : (o.rename g).ending ≠ .error .unfinished) : o.ending ≠ .error .unfinished := by
  obtain ⟨ending, printed⟩ := o
  rintro rfl
  exact h rfl

theorem rename_eq_ok {g : String → String} {o : Outcome} {value : Int64} {printed : List Int64}
    (h : o.rename g = ⟨.ok value, printed⟩) : o = ⟨.ok value, printed⟩ := by
  obtain ⟨ending, printed'⟩ := o
  cases ending with
  | ok value' => exact h
  | error stop => simp at h

theorem rename_overflows {g : String → String} {o : Outcome} :
    (o.rename g).Overflows ↔ o.Overflows := by
  obtain ⟨ending, printed⟩ := o
  cases ending with
  | ok value => simp [Overflows]
  | error stop =>
    cases stop with
    | trap t => cases t <;> simp [Overflows, Stop.rename, Trap.rename]
    | unfinished => simp [Overflows, Stop.rename]

end Outcome

/-! ## Families of runs -/

namespace Run

/-- Among runs with more and more blocks some one reaches the outcome. -/
def EndsAs (x : Nat → Run Int64) (o : Outcome) : Prop :=
  o.ending ≠ .error .unfinished ∧ ∃ blocks, (x blocks).outcome = o

namespace EndsAs

variable {x y : Nat → Run Int64} {g : String → String} {excused : Stop → Prop} {o : Outcome}

theorem tracks (h : ∀ blocks, Tracks g excused (x blocks) (y blocks)) (ho : EndsAs x o)
    (hex : ∀ stop, o.ending = .error stop → ¬ excused stop) : EndsAs y (o.rename g) := by
  obtain ⟨hfin, blocks, rfl⟩ := ho
  refine ⟨Outcome.rename_finished hfin, blocks, ?_⟩
  rcases (h blocks).outcome with heq | ⟨stop, hstop, he⟩
  · exact heq
  · exact absurd he (hex stop hstop)

/-- If the tracked run ends, the other one ends too, alike or for an excused reason. -/
theorem of_tracked (h : ∀ blocks, Tracks g excused (x blocks) (y blocks))
    (hun : ¬ excused .unfinished) (ho : EndsAs y o) :
    ∃ o', EndsAs x o' ∧ (o = o'.rename g ∨ ∃ stop, o'.ending = .error stop ∧ excused stop) := by
  obtain ⟨hfin, blocks, rfl⟩ := ho
  refine ⟨(x blocks).outcome, ⟨?_, blocks, rfl⟩, (h blocks).outcome⟩
  rcases (h blocks).outcome with heq | ⟨stop, hstop, he⟩
  · exact Outcome.finished_of_rename (heq ▸ hfin)
  · intro hunf
    rw [hunf] at hstop
    cases hstop
    exact hun he

/-- Runs that track each other without any excuse end alike. -/
theorem iff_of_tracks (h : ∀ blocks, Tracks g (fun _ => False) (x blocks) (y blocks)) :
    EndsAs y o ↔ ∃ o', EndsAs x o' ∧ o'.rename g = o := by
  constructor
  · intro ho
    obtain ⟨o', ho', rfl | ⟨_, _, he⟩⟩ := of_tracked h id ho
    · exact ⟨o', ho', rfl⟩
    · exact he.elim
  · rintro ⟨o', ho', rfl⟩
    exact tracks h ho' fun _ _ => id

end EndsAs

end Run

/-! ## Calls -/

namespace Machine

/-- A call under a convention, with so many levels of depth left, ends with an outcome. -/
def EndsUnder (m : Machine) (c : Convention) (levels : Nat) (name : String) (args : List Int64)
    (o : Outcome) : Prop :=
  Run.EndsAs (fun blocks => m.callUnder c blocks levels name args) o

/-- A call at a depth of nesting ends with an outcome. -/
def Ends (m : Machine) (name : String) (args : List Int64) (depth : Nat) (o : Outcome) : Prop :=
  o.ending ≠ .error .unfinished ∧ ∃ blocks, m.callAt blocks name args depth = o

/-- A call under a convention ends without needing more than so many levels of depth. -/
def NestsWithin (m : Machine) (c : Convention) (levels : Nat) (name : String) (args : List Int64) :
    Prop :=
  ∃ o, m.EndsUnder c levels name args o ∧ ¬ o.Overflows

variable {m : Machine} {c c' : Convention} {levels levels' : Nat} {name : String}
  {args : List Int64} {o o' : Outcome}

theorem endsUnder_direct_iff :
    m.EndsUnder .direct levels name args o ↔
      o.ending ≠ .error .unfinished ∧ ∃ blocks, (m.call blocks levels name args).outcome = o := by
  simp only [EndsUnder, Run.EndsAs, callUnder_direct]

theorem ends_iff {depth : Nat} :
    m.Ends name args depth o ↔ m.EndsUnder .direct (maxCallDepth - depth) name args o := by
  simp only [Ends, endsUnder_direct_iff, callAt_eq]

/-- An outcome that some number of blocks reaches is reached by every greater number. -/
theorem outcome_of_le {blocks blocks' : Nat} (hle : blocks ≤ blocks')
    (h : (m.callUnder c blocks levels name args).outcome.ending ≠ .error .unfinished) :
    (m.callUnder c blocks' levels name args).outcome
      = (m.callUnder c blocks levels name args).outcome := by
  rcases (callUnder_tracks_of_blocks (m := m) (c := c) hle levels name args).outcome with
    heq | ⟨stop, hstop, rfl⟩
  · rw [heq, Outcome.rename_id]
  · exact absurd hstop h

/-- **A call ends in one way only.** -/
theorem EndsUnder.unique (h : m.EndsUnder c levels name args o)
    (h' : m.EndsUnder c levels name args o') : o = o' := by
  obtain ⟨hfin, blocks, rfl⟩ := h
  obtain ⟨hfin', blocks', rfl⟩ := h'
  rw [← outcome_of_le (Nat.le_max_left blocks blocks') hfin,
    ← outcome_of_le (Nat.le_max_right blocks blocks') hfin']

/-- The number of blocks may be taken to be positive. -/
theorem endsUnder_iff_succ :
    m.EndsUnder c levels name args o ↔
      Run.EndsAs (fun blocks => m.callUnder c (blocks + 1) levels name args) o := by
  constructor
  · rintro ⟨hfin, blocks, rfl⟩
    exact ⟨hfin, blocks, outcome_of_le (Nat.le_succ blocks) hfin⟩
  · rintro ⟨hfin, blocks, rfl⟩
    exact ⟨hfin, blocks + 1, rfl⟩

/-! ## Depth -/

/-- A call that ends without overflow ends alike with more depth and fewer levels for each call. -/
theorem EndsUnder.deepen (h : m.EndsUnder c levels name args o) (ho : ¬ o.Overflows) (rate : Nat)
    (hpass : c'.pass = c.pass) (hextra : ∀ f, c'.extra f + 1 ≤ rate * (c.extra f + 1))
    (hle : rate * levels ≤ levels') :
    m.EndsUnder c' levels' name args o := by
  have ht := Run.EndsAs.tracks
    (fun blocks => callUnder_tracks_of_levels hpass hextra blocks levels levels' hle name args) h
    (fun stop hstop he => ho (by rw [Outcome.Overflows, hstop, he]))
  rwa [Outcome.rename_id] at ht

/-- A call that does not need all the depth that is left ends as it does. -/
theorem EndsUnder.ends (h : m.EndsUnder .direct levels name args o) (ho : ¬ o.Overflows)
    {depth : Nat} (hle : levels ≤ maxCallDepth - depth) : m.Ends name args depth o :=
  ends_iff.mpr (h.deepen ho 1 rfl (fun _ => by omega) (by omega))

/-- A call that ends also ends with less depth or more levels for each call, if only by overflow. -/
theorem EndsUnder.flatten (h : m.EndsUnder c' levels' name args o) (rate : Nat)
    (hpass : c'.pass = c.pass) (hextra : ∀ f, c'.extra f + 1 ≤ rate * (c.extra f + 1))
    (hle : rate * levels ≤ levels') :
    ∃ o', m.EndsUnder c levels name args o' ∧ (o' = o ∨ o'.Overflows) := by
  obtain ⟨o', ho', hor⟩ := Run.EndsAs.of_tracked
    (fun blocks => callUnder_tracks_of_levels hpass hextra blocks levels levels' hle name args)
    (by simp) h
  refine ⟨o', ho', ?_⟩
  rcases hor with rfl | ⟨stop, hstop, rfl⟩
  · exact Or.inl (Outcome.rename_id o').symm
  · exact Or.inr hstop

end Machine

end MutationTesting
