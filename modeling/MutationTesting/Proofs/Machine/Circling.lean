import Mathlib.Order.WellFounded
import MutationTesting.Proofs.Machine.Halting

/-!
# Runs that go round in circles

Calls nest only so deeply, and a block has only so many instructions. So a run that never ends has
one frame that goes from block to block for ever; and since a function has only so many blocks, such
a frame goes backwards again and again. In a program whose jumps and branches all lead forwards
there is no such frame: it always ends, however its functions call each other.

* `Machine.Course` — a call comes to another one, through calls in calls
* `Machine.Circles` — the frame of a call goes round in circles
* `Machine.call_halts_or_circles` — the induction on the depth of calls
* `Image.ForwardOnly.not_circles` — no frame of a program that leads forwards does that
* `Image.ends_or_circles` — **a program that leads forwards always ends, and a run that does not end
  has a frame that goes backwards for ever**
-/

namespace MutationTesting

/-! ## Going backwards -/

/-- A frame that goes on for ever goes backwards again and again: every block that it comes from is
one of its function. -/
theorem Frame.exists_backward {m : Machine}
    {invoke : Nat → String → List Int64 → Run Int64} {frame : Frame} {path : Nat → Position}
    (hpath : ∀ n, frame.Goes m invoke (path n) (path (n + 1))) (n : Nat) :
    ∃ k, n ≤ k ∧ (path (k + 1)).block ≤ (path k).block := by
  -- otherwise the numbers of the blocks would grow beyond that of the last one
  by_contra hforward
  rw [not_exists] at hforward
  have hgrows : ∀ k, k ≤ (path (n + k)).block := by
    intro k
    induction k with
    | zero => exact Nat.zero_le _
    | succ k ih =>
      have hnext := hforward (n + k)
      rw [not_and, Nat.not_le] at hnext
      exact Nat.lt_of_le_of_lt ih (hnext (Nat.le_add_right n k))
  obtain ⟨current, -, hblock, -⟩ := hpath (n + frame.function.blocks.length)
  have hlt := (List.getElem?_eq_some_iff.mp hblock).1
  exact absurd (hgrows frame.function.blocks.length) (Nat.not_le.mpr hlt)

/-! ## Nested calls -/

namespace Machine

open Run (Halts Hangs)

variable {m : Machine}

/-- A call that leaves so much depth to the calls in it comes to one of these. -/
def Nests (m : Machine) (depth : Nat) (e e' : Entry) : Prop :=
  ∃ f, m.body? e.name = some f ∧
    (Frame.mk f e.args).Reaches m (fun blocks => m.call blocks depth) e.start e'

/-- A call with so much depth left comes, through calls in calls, to another one with less depth
left. -/
inductive Course (m : Machine) : Nat → Entry → Nat → Entry → Prop where
  | here (depth : Nat) (e : Entry) : Course m depth e depth e
  | inner {depth left : Nat} {e e' e'' : Entry} : m.Nests depth e e' →
      Course m depth e' left e'' → Course m (depth + 1) e left e''

/-- The frame of a call goes on for ever, and goes backwards again and again. -/
def Circles (m : Machine) (depth : Nat) (e : Entry) : Prop :=
  ∃ f, m.body? e.name = some f ∧ ∃ path : Nat → Position, path 0 = e.start ∧
    (∀ n, (Frame.mk f e.args).Goes m (fun blocks => m.call blocks depth) (path n) (path (n + 1))) ∧
    ∀ n, ∃ k, n ≤ k ∧ (path (k + 1)).block ≤ (path k).block

/-- **A call halts, or it comes to a call whose frame goes round in circles.** The induction is on
the depth of calls. -/
theorem call_halts_or_circles (depth : Nat) (e : Entry) :
    Halts (fun blocks => m.call blocks depth e.name e.args) e.printed ∨
      ∃ left e', m.Course depth e (left + 1) e' ∧ m.Circles left e' := by
  induction depth generalizing e with
  | zero => exact .inl (.const trivial)
  | succ depth ih =>
    cases hbody : m.body? e.name with
    | none =>
      simp only [call, hbody, Run.getOr_none]
      exact .inl (.const trivial)
    | some f =>
      -- either some call in it does not halt, or the frame alone decides
      by_cases hcalls : ∀ e', m.Nests depth e e' →
          Halts (fun blocks => m.call blocks depth e'.name e'.args) e'.printed
      · by_cases hacc : Acc (fun t s =>
            (Frame.mk f e.args).Goes m (fun blocks => m.call blocks depth) s t) e.start
        · left
          obtain ⟨r, hr, least, hleast⟩ :=
            Frame.haltsFrom_of_acc hacc fun e' he' => hcalls e' ⟨f, hbody, he'⟩
          refine ⟨r, hr, least, fun blocks hblocks => ?_⟩
          simp only [call, hbody, Run.getOr_some, pure_bind]
          exact hleast blocks blocks hblocks hblocks
        · obtain ⟨path, hstart, hpath⟩ := not_acc_iff_exists_descending_chain.mp hacc
          exact .inr ⟨depth, e, .here _ e, f, hbody, path, hstart, hpath,
            Frame.exists_backward hpath⟩
      · rw [not_forall] at hcalls
        obtain ⟨e', hcalls⟩ := hcalls
        rw [Classical.not_imp] at hcalls
        obtain ⟨hnests, hhalts⟩ := hcalls
        obtain ⟨left, e'', hcourse, hcircles⟩ := (ih e').resolve_left hhalts
        exact .inr ⟨left, e'', .inner hnests hcourse, hcircles⟩

/-- More blocks do not change a call that is finished. -/
theorem call_grows (depth : Nat) (name : String) (args : List Int64) :
    Run.Grows fun blocks => m.call blocks depth name args := by
  intro blocks blocks' hle
  have htracks := callUnder_tracks_of_blocks (m := m) (c := .direct) hle depth name args
  rwa [callUnder_direct, callUnder_direct] at htracks

/-- A call hangs if its frame does. -/
theorem call_hangs_of_frame {depth : Nat} {e : Entry} {f : Function}
    (hbody : m.body? e.name = some f)
    (h : (Frame.mk f e.args).HangsFrom m (fun blocks => m.call blocks depth) e.start) :
    Hangs (fun blocks => m.call blocks (depth + 1) e.name e.args) e.printed := by
  intro blocks
  simp only [call, hbody, Run.getOr_some, pure_bind]
  exact h blocks blocks

/-- A call whose frame goes round in circles hangs. -/
theorem Circles.hangs {depth : Nat} {e : Entry} (h : m.Circles depth e) :
    Hangs (fun blocks => m.call blocks (depth + 1) e.name e.args) e.printed := by
  obtain ⟨f, hbody, path, hstart, hpath, -⟩ := h
  refine call_hangs_of_frame hbody ?_
  rw [← hstart]
  exact Frame.hangsFrom_of_path (call_grows depth) hpath 0

/-- A call hangs if one that it comes to does. -/
theorem Course.hangs {depth left : Nat} {e e' : Entry} (h : m.Course depth e left e')
    (he' : Hangs (fun blocks => m.call blocks left e'.name e'.args) e'.printed) :
    Hangs (fun blocks => m.call blocks depth e.name e.args) e.printed := by
  induction h with
  | here => exact he'
  | inner hnests _ ih =>
    obtain ⟨f, hbody, hreaches⟩ := hnests
    exact call_hangs_of_frame hbody
      (Frame.hangsFrom_of_reaches (call_grows _) hreaches (ih he'))

/-- A call that halts ends. -/
theorem exists_ends_of_halts {name : String} {args : List Int64} {depth : Nat}
    (h : Halts (fun blocks => m.call blocks (maxCallDepth - depth) name args) []) :
    ∃ o, m.Ends name args depth o := by
  obtain ⟨r, hr, least, hleast⟩ := h
  refine ⟨_, ?_, least, rfl⟩
  have hrun := hleast least (Nat.le_refl least)
  dsimp only at hrun
  rw [callAt, EStateM.run, hrun]
  cases r with
  | ok value printed => simp
  | error stop printed =>
    intro hunfinished
    injection hunfinished with hstop
    subst hstop
    exact hr

theorem not_ends_of_hangs {name : String} {args : List Int64} {depth : Nat}
    (h : Hangs (fun blocks => m.call blocks (maxCallDepth - depth) name args) []) :
    ¬∃ o, m.Ends name args depth o := by
  rintro ⟨_, hfinished, blocks, rfl⟩
  obtain ⟨printed, hcall⟩ := h blocks
  dsimp only at hcall
  rw [callAt, EStateM.run, hcall] at hfinished
  exact hfinished rfl

end Machine

/-! ## Programs that lead forwards -/

/-- Control leaves with an action only for blocks behind this one. -/
def Action.LeadsBeyond (block : Nat) : Action → Prop
  | .jump target => block < target.toNat
  | .branch _ thenBlock elseBlock => block < thenBlock.toNat ∧ block < elseBlock.toNat
  | _ => True

/-- All jumps and branches lead to blocks behind the one that they are in. -/
def Image.ForwardOnly (image : Image) : Prop :=
  ∀ f ∈ image.functions, ∀ (block : Nat) (current : Block), f.blocks[block]? = some current →
    ∀ i ∈ current.instructions, i.action.LeadsBeyond block

instance Action.decidableLeadsBeyond (block : Nat) : DecidablePred (Action.LeadsBeyond block)
  | .jump target => inferInstanceAs (Decidable (block < target.toNat))
  | .branch _ thenBlock elseBlock =>
    inferInstanceAs (Decidable (block < thenBlock.toNat ∧ block < elseBlock.toNat))
  | .binary _ _ _ _ | .call _ _ _ | .dispatch _ _ _ | .print _ | .ret _ => isTrue trivial

theorem Image.forwardOnly_iff {image : Image} :
    image.ForwardOnly ↔ ∀ f ∈ image.functions, ∀ entry ∈ f.blocks.zipIdx,
      ∀ i ∈ entry.1.instructions, i.action.LeadsBeyond entry.2 := by
  simp only [ForwardOnly, Prod.forall, List.mk_mem_zipIdx_iff_getElem?]
  exact forall₂_congr fun f _ => forall_comm

instance (image : Image) : Decidable image.ForwardOnly :=
  decidable_of_iff _ Image.forwardOnly_iff.symm

namespace Frame

variable {m : Machine} {invoke : String → List Int64 → Run Int64} {frame : Frame}
  {registers registers' : Registers} {block target : Nat}

theorem lt_of_execute {a : Action} (ha : a.LeadsBeyond block)
    (h : (frame.execute m invoke registers a).Gives (.depart (.goto target registers'))) :
    block < target := by
  cases a with
  | binary dst op lhs rhs =>
    obtain ⟨l, -, h⟩ := h.of_bind
    obtain ⟨r, -, h⟩ := h.of_bind
    obtain ⟨value, -, printed, printed', h⟩ := h.of_bind
    cases h
  | call dst callee operands =>
    obtain ⟨values, -, h⟩ := h.of_bind
    obtain ⟨value, -, printed, printed', h⟩ := h.of_bind
    cases h
  | dispatch dst trampoline operands =>
    obtain ⟨name, -, h⟩ := h.of_bind
    obtain ⟨values, -, h⟩ := h.of_bind
    obtain ⟨value, -, printed, printed', h⟩ := h.of_bind
    cases h
  | print operand =>
    obtain ⟨value, -, h⟩ := h.of_bind
    obtain ⟨-, -, printed, printed', h⟩ := h.of_bind
    cases h
  | jump destination =>
    obtain ⟨printed, printed', h⟩ := h
    cases h
    exact ha
  | branch cond thenBlock elseBlock =>
    obtain ⟨value, -, printed, printed', h⟩ := h.of_bind
    cases h
    by_cases hcond : (value != 0) = true
    · rw [if_pos hcond]
      exact ha.1
    · rw [if_neg hcond]
      exact ha.2
  | ret operand =>
    obtain ⟨value, -, printed, printed', h⟩ := h.of_bind
    cases h

/-- A block whose actions lead forwards is left for one behind it. -/
theorem lt_of_runBlock {instructions : List Instruction}
    (hbeyond : ∀ i ∈ instructions, i.action.LeadsBeyond block)
    (h : (frame.runBlock m invoke block instructions registers).Gives (.goto target registers')) :
    block < target := by
  induction instructions generalizing registers with
  | nil =>
    obtain ⟨printed, printed', h⟩ := h
    cases h
  | cons i rest ih =>
    rw [List.forall_mem_cons] at hbeyond
    obtain ⟨next, hnext, h⟩ := h.of_bind
    cases next with
    | advance registers'' => exact ih hbeyond.2 h
    | depart departure =>
      obtain ⟨printed, printed', h⟩ := h
      cases h
      exact lt_of_execute hbeyond.1 hnext

end Frame

namespace Image

variable {image : Image}

/-- In a program that leads forwards no frame goes round in circles. -/
theorem ForwardOnly.not_circles (h : image.ForwardOnly) (isSet : String → Bool) (depth : Nat)
    (e : Entry) : ¬(Machine.load image isSet).Circles depth e := by
  rintro ⟨f, hbody, path, -, hpath, hbackward⟩
  have hmem : f ∈ image.functions := by
    have hfound := List.mem_of_find?_eq_some hbody
    rw [Machine.load, List.mem_reverse] at hfound
    exact (List.mem_filter.mp hfound).1
  obtain ⟨k, -, hk⟩ := hbackward 0
  obtain ⟨current, blocks, hblock, hrun⟩ := hpath k
  have hlt := Frame.lt_of_runBlock (h f hmem _ current hblock) ⟨_, _, hrun⟩
  exact absurd hlt (Nat.not_lt.mpr hk)

/-- **Programs that lead forwards always end, and others hang only inside one frame.** Whatever is
selected, whatever function is called with whatever arguments and at whatever depth, and however
functions call each other: a call ends with a value or a trap if all jumps and branches lead
forwards; and a call does not end exactly if it comes to one whose frame goes backwards again and
again, for ever. -/
theorem ends_or_circles (image : Image) (isSet : String → Bool) (name : String) (args : List Int64)
    (depth : Nat) :
    (image.ForwardOnly → ∃ o, (Machine.load image isSet).Ends name args depth o) ∧
    ((¬∃ o, (Machine.load image isSet).Ends name args depth o) ↔
      ∃ left e, (Machine.load image isSet).Course (maxCallDepth - depth) ⟨name, args, []⟩
        (left + 1) e ∧ (Machine.load image isSet).Circles left e) := by
  have hcases := (Machine.load image isSet).call_halts_or_circles (maxCallDepth - depth)
    ⟨name, args, []⟩
  refine ⟨?_, ?_, ?_⟩
  · intro hforward
    obtain hhalts | ⟨left, e, -, hcircles⟩ := hcases
    · exact Machine.exists_ends_of_halts hhalts
    · exact absurd hcircles (hforward.not_circles isSet left e)
  · intro hends
    exact hcases.resolve_left fun hhalts => hends (Machine.exists_ends_of_halts hhalts)
  · rintro ⟨left, e, hcourse, hcircles⟩
    exact Machine.not_ends_of_hangs (hcourse.hangs hcircles.hangs)

/-- Two functions that call each other for ever, one of them through a trampoline. -/
def volley : Image where
  functions := [
    { name := "ping"
      params := 1
      blocks := [
        ⟨[⟨.dispatch 0 "pong" [.parameter 0], none⟩, ⟨.branch (.register 0) 1 2, none⟩]⟩,
        ⟨[⟨.jump 2, none⟩]⟩,
        ⟨[⟨.ret (.register 0), none⟩]⟩] },
    { name := "pong.original"
      params := 1
      blocks := [⟨[⟨.call (some 0) "ping" [.parameter 0], none⟩, ⟨.ret (.register 0), none⟩]⟩] }]
  trampolines := [⟨"pong", "pong.original", []⟩]

/-- A function that prints for ever. -/
def ticking : Image where
  functions := [
    { name := "main", params := 0, blocks := [⟨[⟨.print (.constant 1), none⟩, ⟨.jump 0, none⟩]⟩] }]

/-- The functions that call each other end, if only by nesting too deeply; the one that prints goes
back to its only block for ever. -/
theorem volley_ends_and_ticking_does_not :
    volley.ForwardOnly ∧ (∃ o, (Machine.load volley fun _ => false).Ends "ping" [1] 0 o) ∧
    (Machine.load ticking fun _ => false).Circles 1023 ⟨"main", [], []⟩ ∧
    ¬∃ o, (Machine.load ticking fun _ => false).Ends "main" [] 0 o := by
  have hforward : volley.ForwardOnly := by decide
  have hcircles : (Machine.load ticking fun _ => false).Circles 1023 ⟨"main", [], []⟩ := by
    refine ⟨_, rfl, fun n => ⟨0, .empty, List.replicate n 1⟩, rfl, fun n => ?_, fun n => ?_⟩
    · exact ⟨_, 0, rfl, rfl⟩
    · exact ⟨n, Nat.le_refl n, Nat.le_refl 0⟩
  exact ⟨hforward, (ends_or_circles volley _ "ping" [1] 0).1 hforward, hcircles,
    (ends_or_circles ticking _ "main" [] 0).2.mpr ⟨1023, _, .here _ _, hcircles⟩⟩

end Image

end MutationTesting
