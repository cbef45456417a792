import MutationTesting.Proofs.Campaign.Discovery

/-!
# Steps that only look

Most steps of a campaign look at the program and the files and say something, but leave both as they
are, also when the campaign is given up in their midst. Steps that only look can be put together to
one that only looks; a campaign that lists its mutants without running them is one.

* `Session.Looks` — a step leaves modules and files as they are
* `Session.looks_bind`, `Session.looks_stage` — steps one after the other, and stages
* `Campaign.looks_run` — **a dry run only looks**
-/

namespace MutationTesting

open Session

namespace Session

/-- However a step ends, it leaves modules and files as they are. -/
def Looks {α : Type} (x : Session α) : Prop :=
  ∀ w, (x.run w).2.modules = w.modules ∧ (x.run w).2.disk = w.disk

variable {α β : Type}

theorem Looks.of_run {x : Session α} (h : x.Looks) {w w' : World} {result : Except Failure α}
    (hrun : x.run w = (result, w')) : w'.modules = w.modules ∧ w'.disk = w.disk := by
  have hw := h w
  rwa [hrun] at hw

/-- A step that gives something and leaves the modules that it has been given. -/
theorem Looks.of_gives {x : Session α}
    (h : ∀ modules disk, ∃ result, x.Gives modules disk result modules) : x.Looks := by
  intro w
  obtain ⟨result, hgives⟩ := h w.modules w.disk
  exact (hgives.of_run rfl).2

theorem looks_pure (a : α) : (pure a : Session α).Looks :=
  fun _ => ⟨rfl, rfl⟩

theorem looks_throw (failure : Failure) : (throw failure : Session α).Looks :=
  fun _ => ⟨rfl, rfl⟩

theorem looks_get : (get : Session World).Looks :=
  fun _ => ⟨rfl, rfl⟩

theorem looks_say (severity : Severity) (text : String) : (say severity text).Looks :=
  fun _ => ⟨rfl, rfl⟩

theorem looks_ofExcept (result : Except Failure α) : (ofExcept result : Session α).Looks :=
  .of_gives fun _ _ => ⟨_, gives_ofExcept result⟩

/-- Steps one after the other. -/
theorem looks_bind {x : Session α} {f : α → Session β} (hx : x.Looks) (hf : ∀ a, (f a).Looks) :
    (x >>= f).Looks := by
  intro w
  rw [run_bind]
  cases hrun : x.run w with
  | mk result w₁ =>
    obtain ⟨hmodules, hdisk⟩ := hx.of_run hrun
    cases result with
    | ok a => exact ⟨(hf a w₁).1.trans hmodules, (hf a w₁).2.trans hdisk⟩
    | error failure => exact ⟨hmodules, hdisk⟩

theorem looks_forM {f : α → Session Unit} (hf : ∀ a, (f a).Looks) :
    ∀ items : List α, (items.forM f).Looks
  | [] => looks_pure ()
  | item :: items => looks_bind (hf item) fun _ => looks_forM hf items

/-- A step between two messages. -/
theorem looks_announced {name : String} {step : Session α} (h : step.Looks) :
    (announced name step).Looks :=
  fun w => h { w with diagnostics := w.diagnostics.record ⟨.info, name ++ " (threads: 1)"⟩ }

variable {ε σ ι ο : Type}

/-- A stage works on items and a state of its own. -/
theorem looks_stage (ofItem : ε → Failure) (s : Workers.Stage ε σ ι ο) (items : List ι)
    (state : σ) : (stage ofItem s items state).Looks := by
  refine .of_gives fun _ _ => ?_
  by_cases hroom : s.hasRoom = true
  · exact ⟨_, gives_stage hroom⟩
  · exact ⟨_, gives_stage_crowded (Bool.eq_false_iff.mpr hroom)⟩

theorem looks_collect (s : Workers.Stage Failure Unit ι ο) (items : List ι) :
    (collect s items).Looks :=
  looks_bind (looks_stage id s items ()) fun _ => looks_ofExcept _

end Session

namespace Campaign

variable (c : Campaign)

theorem looks_surroundings : c.surroundings.Looks :=
  looks_bind looks_get fun _ => looks_pure _

/-- The unmutated program is run beside the campaign. -/
theorem looks_sanityCheck (names : List String) : (c.sanityCheck names).Looks := by
  unfold sanityCheck
  dsimp only
  split
  · exact looks_pure _
  · refine looks_bind (looks_announced (looks_bind c.looks_surroundings fun around => ?_))
      fun execution => ?_
    · split
      · exact looks_bind (looks_forM (fun _ => looks_say _ _) _) fun _ => looks_pure _
      · exact looks_throw _
    · split
      · exact looks_bind (looks_forM (fun _ => looks_say _ _) _) fun _ => looks_pure _
      · exact looks_pure _

/-- The discovery finds points or is crowded out. -/
theorem looks_findPoints (tests : Nat) : (c.findPoints tests).Looks := by
  refine .of_gives fun _ _ => ?_
  by_cases hroom : c.HasRoom
  · exact ⟨_, gives_findPoints hroom tests⟩
  · exact ⟨_, gives_findPoints_crowded hroom tests⟩

theorem looks_filterPoints : ∀ (fs : List (Filter Point)) (ps : List Point),
    (c.filterPoints fs ps).Looks
  | [], ps => looks_pure ps
  | _ :: fs, _ => looks_bind (looks_collect _ _) fun _ => looks_filterPoints fs _

/-- A dry run lists its points. -/
theorem looks_runPoints (h : c.config.dryRun = true) (points : List Point) :
    (c.runPoints points).Looks := by
  unfold runPoints
  rw [h]
  split
  · exact looks_pure _
  · exact looks_bind (looks_collect _ _) fun _ => looks_pure _

/-- **A dry run only looks**: it leaves the modules of the program and all files as they are, also
when it is given up. -/
theorem looks_run (h : c.config.dryRun = true) : c.run.Looks := by
  unfold run
  refine looks_bind (.of_gives fun _ _ => ⟨_, gives_names⟩) fun names => ?_
  split
  · refine looks_bind (looks_say _ _) fun _ => ?_
    exact looks_bind (c.looks_filterPoints _ _) fun _ => looks_pure _
  · refine looks_bind (c.looks_sanityCheck names) fun tests => ?_
    refine looks_bind (c.looks_findPoints _) fun found => ?_
    refine looks_bind (c.looks_filterPoints _ found) fun points => ?_
    exact looks_bind (c.looks_runPoints h points) fun _ => looks_pure _

end Campaign

end MutationTesting
