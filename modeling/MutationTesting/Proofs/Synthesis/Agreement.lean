import MutationTesting.Proofs.Synthesis.Redirected

/-!
# What redirection keeps

A redirected machine runs as the other one does under the convention of stubs, so what redirection
keeps and what it loses can be read off the other machine alone.

* Where calls fit, the arguments do not matter, and a stub costs a level of depth: a run is kept
  unless it overflows (`Machine.Redirects.ends_of_fits`), and it is kept whenever half the depth is
  enough for it (`Machine.Redirects.ends_of_nestsWithin`).
* Where calls do not fit, a run is kept unless a parameter is missed
  (`Machine.Redirects.ends_or_misses`).
-/

namespace MutationTesting

/-- The outcome is a trap about a missing parameter of one of the named functions. -/
def Outcome.MissesParameter (names : List String) (o : Outcome) : Prop :=
  ∃ function ∈ names, ∃ index, o.ending = .error (.trap (.missingParameter function index))

namespace Machine

variable {s b : Machine} {names : List String} {back : String → String} {name : String}
  {args : List Int64} {depth levels : Nat} {o : Outcome}

/-! ## Conventions on one machine -/

/-- Where all calls fit, stubs cost levels only. -/
theorem endsUnder_stubbed_iff_of_fits (hclosed : b.Closed) (hfit : b.CallsFit names)
    (hargs : b.Fits names name args.length) :
    b.EndsUnder (.stubbed names) levels name args o
      ↔ b.EndsUnder (.twoLevels names) levels name args o := by
  have h := Run.EndsAs.iff_of_tracks (o := o)
    fun blocks => callUnder_tracks_of_fits hfit hclosed blocks levels name args hargs
  simp only [Outcome.rename_id, exists_eq_right] at h
  exact h.symm

theorem extra_twoLevels_le (names : List String) (f : Function) :
    (Convention.twoLevels names).extra f ≤ 1 := by
  simp only [Convention.twoLevels]
  split <;> omega

/-- A call under the convention of two levels that does not overflow ends alike directly. -/
theorem EndsUnder.direct_of_twoLevels (h : b.EndsUnder (.twoLevels names) levels name args o)
    (ho : ¬ o.Overflows) : b.EndsUnder .direct levels name args o :=
  h.deepen ho 1 rfl (fun f => by simp only [Convention.direct]; omega) (by omega)

/-- Twice the depth makes up for two levels. -/
theorem EndsUnder.twoLevels_of_direct (h : b.EndsUnder .direct levels name args o)
    (ho : ¬ o.Overflows) : b.EndsUnder (.twoLevels names) (2 * levels) name args o :=
  h.deepen ho 2 rfl (fun f => by
    have := extra_twoLevels_le names f
    simp only [Convention.direct]
    omega) (Nat.le_refl _)

/-- A call that ends directly also ends with two levels for some functions, if only by overflow. -/
theorem EndsUnder.exists_twoLevels (h : b.EndsUnder .direct levels name args o) :
    ∃ o', b.EndsUnder (.twoLevels names) levels name args o' ∧ (o' = o ∨ o'.Overflows) :=
  h.flatten 1 rfl (fun f => by simp only [Convention.direct]; omega) (by omega)

/-- A call through stubs that does not overflow ends as if arguments were forwarded without them. -/
theorem EndsUnder.forwarding_of_stubbed (h : b.EndsUnder (.stubbed names) levels name args o)
    (ho : ¬ o.Overflows) : b.EndsUnder (.forwarding names) levels name args o :=
  h.deepen ho 1 rfl (fun f => by simp only [Convention.forwarding]; omega) (by omega)

theorem EndsUnder.exists_stubbed (h : b.EndsUnder (.forwarding names) levels name args o) :
    ∃ o', b.EndsUnder (.stubbed names) levels name args o' ∧ (o' = o ∨ o'.Overflows) :=
  h.flatten 1 rfl (fun f => by simp only [Convention.forwarding]; omega) (by omega)

/-- Forwarding changes how a call ends only to a missing parameter. -/
theorem EndsUnder.direct_or_misses (h : b.EndsUnder (.forwarding names) levels name args o) :
    b.EndsUnder .direct levels name args o ∨ o.MissesParameter names := by
  by_cases hmiss : o.MissesParameter names
  · exact Or.inr hmiss
  · refine Or.inl ?_
    have ht := Run.EndsAs.tracks
      (fun blocks => callUnder_forwarding_tracks blocks levels name args) h
      (fun stop hstop he => hmiss ?_)
    · rwa [Outcome.rename_id] at ht
    · cases stop with
      | unfinished => exact he.elim
      | trap t =>
        cases t with
        | missingParameter function index => exact ⟨function, he, index, hstop⟩
        | _ => exact he.elim

/-! ## Redirected machines -/

namespace Redirects

variable (h : s.Redirects b names back)

include h

/-- **A redirected machine ends as the other one does under the convention of stubs.** -/
theorem endsUnder_stubbed_iff (hbody : ∃ f, b.body? name = some f) :
    b.EndsUnder (.stubbed names) (maxCallDepth - depth) name args o
      ↔ ∃ o', s.Ends name args depth o' ∧ o'.rename back = o := by
  simp only [ends_iff, endsUnder_iff_succ, callUnder_direct]
  exact Run.EndsAs.iff_of_tracks fun blocks => h.call_tracks blocks _ name args hbody

/-- A run of the redirected machine, unless it overflows, is a run of the other one. -/
theorem ends_of_fits (hfit : b.CallsFit names) (hbody : ∃ f, b.body? name = some f)
    (hargs : b.Fits names name args.length) (ho : s.Ends name args depth o)
    (hover : ¬ o.Overflows) :
    b.Ends name args depth (o.rename back) := by
  have hstub := (h.endsUnder_stubbed_iff hbody).mpr ⟨o, ho, rfl⟩
  rw [endsUnder_stubbed_iff_of_fits h.closed hfit hargs] at hstub
  rw [ends_iff]
  exact hstub.direct_of_twoLevels (mt Outcome.rename_overflows.mp hover)

/-- How the redirected machine ends, where calls fit: as the other one does when calls of the named
functions take two levels. -/
theorem endsUnder_twoLevels_iff (hfit : b.CallsFit names) (hbody : ∃ f, b.body? name = some f)
    (hargs : b.Fits names name args.length) :
    b.EndsUnder (.twoLevels names) (maxCallDepth - depth) name args o
      ↔ ∃ o', s.Ends name args depth o' ∧ o'.rename back = o := by
  rw [← endsUnder_stubbed_iff_of_fits h.closed hfit hargs]
  exact h.endsUnder_stubbed_iff hbody

/-- A run that half the depth is enough for is a run of the redirected machine. -/
theorem ends_of_nestsWithin (hfit : b.CallsFit names) (hbody : ∃ f, b.body? name = some f)
    (hargs : b.Fits names name args.length) (ho : b.Ends name args depth o)
    (hnests : b.NestsWithin .direct levels name args)
    (hlevels : 2 * levels ≤ maxCallDepth - depth) :
    ∃ o', s.Ends name args depth o' ∧ o'.rename back = o := by
  obtain ⟨o', ho', hover⟩ := hnests
  have hsame : o' = o := by
    refine EndsUnder.unique (ho'.deepen hover 1 rfl (fun f => by omega) ?_) (ends_iff.mp ho)
    omega
  subst hsame
  rw [← h.endsUnder_twoLevels_iff hfit hbody hargs]
  exact (ho'.twoLevels_of_direct hover).deepen hover 1 rfl (fun f => by omega) (by omega)

/-- A run of the redirected machine, unless it overflows, is a run of the other one or misses a
parameter. -/
theorem ends_or_misses (hbody : ∃ f, b.body? name = some f) (ho : s.Ends name args depth o)
    (hover : ¬ o.Overflows) :
    b.Ends name args depth (o.rename back) ∨ (o.rename back).MissesParameter names := by
  have hstub := (h.endsUnder_stubbed_iff hbody).mpr ⟨o, ho, rfl⟩
  rw [ends_iff]
  exact (hstub.forwarding_of_stubbed (mt Outcome.rename_overflows.mp hover)).direct_or_misses

/-- If no run of the redirected machine overflows, it ends as the other one does when arguments are
forwarded. -/
theorem endsUnder_forwarding_iff (hbody : ∃ f, b.body? name = some f)
    (hover : ∀ o', s.Ends name args depth o' → ¬ o'.Overflows) :
    b.EndsUnder (.forwarding names) (maxCallDepth - depth) name args o
      ↔ ∃ o', s.Ends name args depth o' ∧ o'.rename back = o := by
  rw [← h.endsUnder_stubbed_iff hbody]
  have hstub : ∀ o, b.EndsUnder (.stubbed names) (maxCallDepth - depth) name args o →
      ¬ o.Overflows := by
    intro o ho
    obtain ⟨o', ho', rfl⟩ := (h.endsUnder_stubbed_iff hbody).mp ho
    exact mt Outcome.rename_overflows.mp (hover o' ho')
  constructor
  · intro ho
    obtain ⟨o', ho', hor⟩ := ho.exists_stubbed
    rcases hor with rfl | hor
    · exact ho'
    · exact absurd hor (hstub o' ho')
  · exact fun ho => ho.forwarding_of_stubbed (hstub o ho)

end Redirects

end Machine

end MutationTesting
