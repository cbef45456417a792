import MutationTesting.Campaign.Run
import MutationTesting.Proofs.Campaign.Giving
import MutationTesting.Proofs.Ir.Codec
import MutationTesting.Proofs.Synthesis.Built

/-!
# Steps of a campaign

A step of a campaign that is not given up is taken apart into the steps that it is made of, and what
is said on the way changes nothing but the sink for messages.

* `Session.run_bind_ok` — the steps of a step
* `Session.run_loadModules_eq_ok_iff`, `Session.fresh_of_loadModules` — modules that are loaded, which
  hold no points
* `Session.leaves_of_onModules` — a stage over modules
* `Campaign.builds_of_synthesize` — **the synthesis of a campaign goes through the four stages**
-/

namespace MutationTesting

open Checks Workers

namespace Module

/-- A module does not bring points from its file. -/
theorem mutations_of_load {disk : Disk} {path : String} {m : Module}
    (h : load disk path = .ok m) : m.mutations = [] := by
  unfold load Disk.load at h
  split at h
  · cases h
  · next text _ =>
    cases hdecoded : decode? text with
    | none => simp [hdecoded] at h
    | some m' =>
      simp only [hdecoded, Except.ok.injEq] at h
      obtain rfl := h
      exact mutations_of_decode? hdecoded

end Module

namespace Session

variable {α β : Type} {w w' : World}

theorem run_bind_of_ok {x : Session α} {f : α → Session β} {a : α}
    (h : x.run w = (.ok a, w')) : (x >>= f).run w = (f a).run w' := by
  rw [run_bind, h]

theorem run_get_bind {f : World → Session β} : (get >>= f).run w = (f w).run w :=
  run_bind_of_ok rfl

theorem run_bind_ok {x : Session α} {f : α → Session β} {b : β}
    (h : (x >>= f).run w = (.ok b, w')) :
    ∃ a w₁, x.run w = (.ok a, w₁) ∧ (f a).run w₁ = (.ok b, w') := by
  rw [run_bind] at h
  cases hx : x.run w with
  | mk result w₁ =>
    cases result with
    | ok a => exact ⟨a, w₁, rfl, by rwa [hx] at h⟩
    | error e =>
      rw [hx] at h
      cases h

theorem run_ofExcept_ok {result : Except Failure α} {a : α}
    (h : (ofExcept result : Session α).run w = (.ok a, w')) : result = .ok a ∧ w' = w := by
  cases result with
  | ok b =>
    cases h
    exact ⟨rfl, rfl⟩
  | error e => cases h

/-- What is taken between two messages is the step itself, as far as modules and files go. -/
theorem run_announced_ok {name : String} {step : Session α} {a : α}
    (h : (announced name step).run w = (.ok a, w')) :
    ∃ w₁ w₂, w₁.modules = w.modules ∧ w₁.disk = w.disk ∧ step.run w₁ = (.ok a, w₂) ∧
      w'.modules = w₂.modules ∧ w'.disk = w₂.disk := by
  let before : World :=
    { w with diagnostics := w.diagnostics.record ⟨.info, name ++ " (threads: 1)"⟩ }
  refine ⟨before, (step.run before).2, rfl, rfl, ?_⟩
  have hsteps : (announced name step).run w = ((step.run before).1,
      { (step.run before).2 with diagnostics :=
        (step.run before).2.diagnostics.record ⟨.info, name ++ ": finished"⟩ }) := rfl
  rw [hsteps] at h
  cases hstep : step.run before with
  | mk result w₂ =>
    rw [hstep] at h
    cases h
    exact ⟨rfl, rfl, rfl⟩

/-! ## Loading -/

theorem run_mapM_ofExcept {f : α → Except Failure β} : ∀ {items : List α},
    (items.mapM fun a => (ofExcept (f a) : Session β)).run w = (items.mapM f, w)
  | [] => rfl
  | a :: items => by
    rw [List.mapM_cons, List.mapM_cons, run_bind]
    cases f a with
    | error e => rfl
    | ok b =>
      -- the world is still the same
      show (_ >>= _ : Session (List β)).run w = _
      rw [run_bind, run_mapM_ofExcept]
      cases items.mapM f <;> rfl

/-- Modules are loaded one by one, each from its path. -/
theorem run_loads_eq_ok_iff {disk : Disk} {wrap : LoadFault → Failure} {paths : List String}
    {modules : List Module} :
    (paths.mapM fun path => (ofExcept ((Module.load disk path).mapError wrap) : Session Module)).run w
        = (.ok modules, w') ↔
      List.Forall₂ (fun path m => Module.load disk path = .ok m) paths modules ∧ w' = w := by
  rw [run_mapM_ofExcept, Prod.mk.injEq, mapM_eq_ok_iff, eq_comm (a := w)]
  simp only [mapError_eq_ok_iff]

theorem run_loadModules_eq_ok_iff {paths : List String} {modules : List Module} :
    (loadModules paths).run w = (.ok modules, w') ↔
      List.Forall₂ (fun path m => Module.load w.disk path = .ok m) paths modules ∧ w' = w := by
  rw [loadModules, run_get_bind, run_loads_eq_ok_iff]

/-- Loaded modules hold no points. -/
theorem fresh_of_loadModules {paths : List String} {modules : List Module}
    (h : (loadModules paths).run w = (.ok modules, w')) : ∀ m ∈ modules, m.mutations = [] := by
  obtain ⟨hloaded, -⟩ := run_loadModules_eq_ok_iff.mp h
  intro m hm
  obtain ⟨path, -, hload⟩ := exists_mem_of_forall₂ hloaded.flip hm
  exact Module.mutations_of_load hload

/-! ## Stages -/

variable {ε σ ι ο : Type}

theorem run_stage_ok {ofItem : ε → Failure} {s : Stage ε σ ι ο} {items : List ι} {state : σ}
    {result : Except Failure (List ο) × List ι × σ}
    (h : (stage ofItem s items state).run w = (.ok result, w')) :
    result = ((s.run items state).outcome.mapError (Failure.ofStage ofItem s.name),
      (s.run items state).items, (s.run items state).state) ∧
      w'.modules = w.modules ∧ w'.disk = w.disk := by
  unfold stage at h
  by_cases hroom : s.hasRoom = true
  · rw [if_pos hroom] at h
    cases h
    exact ⟨rfl, rfl, rfl⟩
  · rw [if_neg hroom] at h
    cases h

theorem leaves_of_outcome {ofItem : ε → Failure} {s : Stage ε σ ι ο} {items : List ι} {state : σ}
    {outputs : List ο}
    (h : (s.run items state).outcome.mapError (Failure.ofStage ofItem s.name) = .ok outputs) :
    s.Leaves items state (s.run items state).items (s.run items state).state :=
  ⟨outputs, mapError_eq_ok_iff.mp h, rfl, rfl⟩

/-- A stage whose outputs have been collected has handled its items in sequence. -/
theorem handlesAll_of_collect {s : Stage Failure Unit ι ο} {items : List ι} {outputs : List ο}
    (h : (collect s items).run w = (.ok outputs, w')) (handle : ι → Unit → Handled Failure Unit ι ο)
    (hsame : ∀ worker, s.handle worker = handle) :
    (∃ items', HandlesAll handle items () outputs items' ()) ∧ w'.modules = w.modules ∧
      w'.disk = w.disk := by
  obtain ⟨result, w₁, hstage, h⟩ := run_bind_ok h
  obtain ⟨rfl, hmodules, hdisk⟩ := run_stage_ok hstage
  obtain ⟨houtcome, rfl⟩ := run_ofExcept_ok h
  have hrun := mapError_eq_ok_iff.mp houtcome
  exact ⟨⟨_, Stage.handlesAll_of_outcome hrun handle hsame⟩, hmodules, hdisk⟩

/-- A stage over the modules of the program. -/
theorem leaves_of_onModules {s : Stage SynthesisFault Unit Module Unit}
    (h : (onModules s).run w = (.ok (), w')) : s.Leaves w.modules () w'.modules () := by
  obtain ⟨_, w₁, hget, hrest⟩ := run_bind_ok h
  cases hget
  obtain ⟨result, w₂, hstage, hrest⟩ := run_bind_ok hrest
  obtain ⟨rfl, -, -⟩ := run_stage_ok hstage
  obtain ⟨_, w₃, hmodify, hrest⟩ := run_bind_ok hrest
  cases hmodify
  obtain ⟨outputs, w₄, hcheck, hrest⟩ := run_bind_ok hrest
  cases hrest
  obtain ⟨houtcome, hsame⟩ := run_ofExcept_ok hcheck
  rw [hsame]
  exact leaves_of_outcome houtcome

/-- The stage that carries out mutations in the modules of the program. -/
theorem leaves_of_applyAll {mutators : List Mutator} {name : String} {points points' : List Point}
    {outcome : Except Failure Unit} (hok : outcome = .ok ())
    (h : (applyAll mutators name points).run w = (.ok (points', outcome), w')) :
    (Synthesis.applyStage mutators name).Leaves points w.modules points' w'.modules := by
  obtain ⟨_, w₁, hget, hrest⟩ := run_bind_ok h
  cases hget
  obtain ⟨result, w₂, hstage, hrest⟩ := run_bind_ok hrest
  obtain ⟨rfl, -, -⟩ := run_stage_ok hstage
  obtain ⟨_, w₃, hmodify, hrest⟩ := run_bind_ok hrest
  cases hmodify
  cases hrest
  cases houtcome : ((Synthesis.applyStage mutators name).run points w.modules).outcome.mapError
      (Failure.ofStage .ofSynthesis (Synthesis.applyStage mutators name).name) with
  | ok outputs => exact leaves_of_outcome houtcome
  | error fault =>
    rw [houtcome] at hok
    cases hok

end Session

/-- **A campaign whose synthesis is not given up goes through the four stages.** -/
theorem Campaign.builds_of_synthesize {c : Campaign} {points points' : List Point} {w w' : World}
    (h : (c.synthesize points).run w = (.ok points', w')) :
    Synthesis.Builds c.mutators w.modules points w'.modules := by
  obtain ⟨_, w₁, hprepare, hrest⟩ := Session.run_bind_ok h
  obtain ⟨w₂, w₃, hbefore, -, hmodify, hafter, -⟩ := Session.run_announced_ok hprepare
  cases hmodify
  obtain ⟨_, w₄, hclone, hrest⟩ := Session.run_bind_ok hrest
  obtain ⟨_, w₅, hdelete, hrest⟩ := Session.run_bind_ok hrest
  obtain ⟨_, w₆, hredirect, hrest⟩ := Session.run_bind_ok hrest
  obtain ⟨⟨applied, outcome⟩, w₇, happly, hrest⟩ := Session.run_bind_ok hrest
  obtain ⟨_, w₈, hcheck, hrest⟩ := Session.run_bind_ok hrest
  cases hrest
  obtain ⟨hok, hsame⟩ := Session.run_ofExcept_ok hcheck
  have hprepared : w₁.modules = Synthesis.prepare w.modules points := by
    rw [hafter, ← hbefore]
  have hcloned := Session.leaves_of_onModules hclone
  rw [hprepared] at hcloned
  rw [hsame]
  exact ⟨_, _, _, _, _, _, _, _, _, _, _, hcloned, Session.leaves_of_onModules hdelete,
    Session.leaves_of_onModules hredirect, Session.leaves_of_applyAll hok happly⟩

end MutationTesting
