import MutationTesting.Proofs.Machine.Ending
import MutationTesting.Synthesis.Redirection

/-!
# Redirected machines

A machine is *redirected* with respect to another one if some of its functions have become stubs,
and the trampolines behind the stubs lead to copies of the functions as the other machine has them.
Nothing is said here about how such a machine is made.

* `Frame.readAll_parameters` — a stub reads exactly the declared parameters
* `Machine.call_stub` — a call of a stub is a call of the copy with the forwarded arguments
* `Machine.Redirects.call_tracks` — **a redirected machine runs as the other one does under the
  convention of stubs**
-/

namespace MutationTesting

/-! ## Stubs -/

namespace Function

@[simp] theorem stub_name (f : Function) : f.stub.name = f.name := rfl

@[simp] theorem stub_blocks (f : Function) : f.stub.blocks = [stubBlock f.name f.params] := rfl

end Function

/-- Reading parameters from one on gives the arguments there or misses the first one behind them. -/
theorem Frame.readAll_parameters (frame : Frame) (registers : Registers) :
    ∀ count start : Nat, start ≤ frame.args.length → start + count < UInt32.size →
      frame.readAll registers ((List.range' start count).map fun i => .parameter (.ofNat i)) =
        if frame.args.length < start + count then
          Run.trap (.missingParameter frame.function.name (.ofNat frame.args.length))
        else pure ((frame.args.drop start).take count)
  | 0, start, hs, _ => by
    rw [if_neg (by omega)]
    simp [readAll]
  | count + 1, start, hs, hc => by
    -- the parameters of a stub are too few for an index to wrap around
    have hnat : (UInt32.ofNat start).toNat = start := UInt32.toNat_ofNat_of_lt' (by omega)
    simp only [List.range'_succ, List.map_cons, readAll, read, hnat]
    rcases Nat.lt_or_ge start frame.args.length with hlt | hge
    · rw [List.getElem?_eq_getElem hlt, Run.getOr_some, pure_bind,
        readAll_parameters frame registers count (start + 1) (by omega) (by omega)]
      by_cases hshort : frame.args.length < start + 1 + count
      · rw [if_pos hshort, if_pos (by omega)]
        rfl
      · rw [if_neg hshort, if_neg (by omega), pure_bind, List.drop_eq_getElem_cons hlt,
          List.take_succ_cons]
    · obtain rfl : start = frame.args.length := by omega
      rw [List.getElem?_eq_none (Nat.le_refl _), Run.getOr_none, if_pos (by omega)]
      rfl

namespace Machine

/-- **A call of a stub calls the target of its trampoline with the forwarded arguments.** -/
theorem call_stub {s : Machine} {f : Function} {target : String}
    (hbody : s.body? f.name = some f.stub) (htarget : s.target? f.name = some target)
    (blocks levels : Nat) (args : List Int64) :
    s.call (blocks + 1) (levels + 1) f.name args =
      (f.forward args >>= fun args => s.call (blocks + 1) levels target args) := by
  have hread : Frame.readAll ⟨f.stub, args⟩ .empty
      ((List.range f.params.toNat).map fun i => .parameter (.ofNat i)) = f.forward args := by
    rw [List.range_eq_range', Frame.readAll_parameters _ _ _ _ (Nat.zero_le _) (by
      have := f.params.toNat_lt_size
      omega)]
    simp [Function.forward]
  have hret : ∀ value : Int64,
      Frame.read ⟨f.stub, args⟩ (Registers.empty.set 0 value) (.register 0) = pure value := by
    intro value
    simp [Frame.read]
  simp only [call, hbody, Run.getOr_some, pure_bind, Frame.runBlocks, Function.stub_blocks,
    List.getElem?_cons_zero, Function.stubBlock, Frame.runBlock, Frame.execute, htarget, hread,
    bind_assoc, hret, bind_pure]

/-! ## Redirection -/

/-- The machine `s` redirects the named functions of `b`. A name in `s` is read as a name in `b`
through `back`: a copy as the function that it was made of. -/
structure Redirects (s b : Machine) (names : List String) (back : String → String) : Prop where
  /-- The other machine is closed. -/
  closed : b.Closed
  /-- A function without stub is there as it was. -/
  kept : ∀ {f}, b.body? f.name = some f → f.name ∉ names → s.body? f.name = some f
  /-- A named function is a stub. -/
  stubbed : ∀ {f}, b.body? f.name = some f → f.name ∈ names → s.body? f.name = some f.stub
  /-- The trampoline of a named function leads to a copy of it. -/
  copied : ∀ {f}, b.body? f.name = some f → f.name ∈ names →
    ∃ copy, s.target? f.name = some copy ∧ s.body? copy = some (f.rename copy) ∧ back copy = f.name
  /-- The names of the other machine are read as themselves. -/
  back_name : ∀ {f}, b.body? f.name = some f → back f.name = f.name

namespace Redirects

variable {s b : Machine} {names : List String} {back : String → String}

/-- **A redirected machine runs as the other one does under the convention of stubs.**

The induction is on the levels of depth. A stub and the copy behind it take one level each, which
the convention accounts for in one step. -/
theorem call_tracks (h : s.Redirects b names back) (blocks levels : Nat) :
    ∀ name args, (∃ f, b.body? name = some f) →
      Run.Tracks back (fun _ => False) (s.call (blocks + 1) levels name args)
        (b.callUnder (.stubbed names) (blocks + 1) levels name args) := by
  induction levels using Nat.strongRecOn with
  | ind levels ih =>
    rintro name args ⟨f, hf⟩
    obtain rfl := name_of_body? hf
    -- a frame of a copy or of the function itself, once all calls in it track each other
    have hframe : ∀ copy args lower, back copy = f.name → lower < levels →
        Run.Tracks back (fun _ => False)
          (Frame.runBlocks s (s.call (blocks + 1) lower)
            ⟨f.rename copy, args⟩ (blocks + 1) 0 .empty)
          (Frame.runBlocks b (b.callUnder (.stubbed names) (blocks + 1) lower)
            ⟨f, args⟩ (blocks + 1) 0 .empty) := by
      intro copy args lower hcopy hlower
      have hsame : Frame.Tracks back (fun _ => False) ⟨f.rename copy, args⟩ ⟨f, args⟩ :=
        ⟨hcopy.symm, rfl, fun _ => Or.inl rfl⟩
      refine Frame.runBlocks_tracks hsame (fun a ha => ?_) _ _ _ _
        (Nat.le_refl _) fun hlt => absurd hlt (Nat.lt_irrefl _)
      cases a with
      | call dst callee operands =>
        exact fun values _ => ih lower hlower callee values (h.closed.callee hf ha)
      | dispatch dst trampoline operands => exact absurd ha (h.closed.noDispatch hf)
      | _ => trivial
    cases levels with
    | zero =>
      rw [callUnder_zero]
      exact .trap .stackOverflow
    | succ levels =>
      rw [callUnder_succ hf]
      by_cases hn : f.name ∈ names
      · obtain ⟨copy, htarget, hbody, hback⟩ := h.copied hf hn
        rw [call_stub (h.stubbed hf hn) htarget]
        simp only [Convention.stubbed, Convention.forwarding, Convention.twoLevels, if_pos hn]
        refine .bind ?_ fun args _ => ?_
        · -- the stub and the function that it stands for miss the same parameter
          unfold Function.forward
          split
          · have ht : Run.Tracks back (fun _ => False)
                (Run.trap (.missingParameter f.name (.ofNat args.length)) : Run (List Int64))
                (Run.trap (.missingParameter (back f.name) (.ofNat args.length))) :=
              .trap (.missingParameter f.name (.ofNat args.length))
            rwa [h.back_name hf] at ht
          · exact .pure _
        · -- the stub has taken one level, and the copy takes another
          cases levels with
          | zero => exact .trap .stackOverflow
          | succ levels =>
            rw [if_neg (by omega)]
            simp only [call, hbody, Run.getOr_some, pure_bind]
            exact hframe copy args levels hback (by omega)
      · simp only [Convention.stubbed, Convention.forwarding, Convention.twoLevels, if_neg hn,
          Nat.not_lt_zero, if_false, Nat.sub_zero, pure_bind, call, h.kept hf hn, Run.getOr_some]
        exact hframe f.name args levels (h.back_name hf) (by omega)

end Redirects

end Machine

end MutationTesting
