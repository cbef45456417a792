import MutationTesting.Campaign.Session
import MutationTesting.Proofs.Workers.Sequence

/-!
# What a step gives

How a step of a campaign ends and which modules it leaves can be read off the modules and the files
it begins with; what has been said before does not matter. Steps that are taken one after the other
are put together from what each of them gives.

* `Session.Gives` — how a step ends and which modules it leaves
* `Session.gives_stage`, `Session.gives_stage_crowded` — a stage with and without room for its
  workers
* `Session.gives_collect` — a stage whose items can be handled in sequence
-/

namespace MutationTesting

open Workers

namespace Session

variable {α β : Type} {modules modules₁ modules₂ : List Module} {disk : Disk}

theorem run_bind (x : Session α) (f : α → Session β) (w : World) :
    (x >>= f).run w = match x.run w with
      | (.ok a, w₁) => (f a).run w₁
      | (.error failure, w₁) => (.error failure, w₁) := by
  show (ExceptT.bind x f).run w = _
  simp only [ExceptT.bind, ExceptT.run, ExceptT.mk, bind, StateT.bind]
  cases x w with
  | mk result w₁ => cases result <;> rfl

/-- Begun with these modules and files, a step ends like this and leaves these modules, whatever has
been said before. Files stay as they are. -/
def Gives (x : Session α) (modules : List Module) (disk : Disk) (result : Except Failure α)
    (modules' : List Module) : Prop :=
  ∀ said, ∃ said', x.run { modules, disk, diagnostics := said }
    = (result, { modules := modules', disk, diagnostics := said' })

/-- A step that gives something ends in no other way. -/
theorem Gives.of_run {x : Session α} {w w' : World} {result result' : Except Failure α}
    (h : x.Gives w.modules w.disk result modules₁) (hrun : x.run w = (result', w')) :
    result' = result ∧ w'.modules = modules₁ ∧ w'.disk = w.disk := by
  obtain ⟨said', hsaid⟩ := h w.diagnostics
  cases hrun.symm.trans hsaid
  exact ⟨rfl, rfl, rfl⟩

theorem Gives.modules_eq {x : Session α} {result : Except Failure α}
    (h : x.Gives modules disk result modules₁) (said : Diagnostics) :
    (x.run ⟨modules, disk, said⟩).2.modules = modules₁ :=
  (h.of_run (w := ⟨modules, disk, said⟩) rfl).2.1

/-! ## Steps one after the other -/

theorem gives_pure (a : α) : (pure a : Session α).Gives modules disk (.ok a) modules :=
  fun said => ⟨said, rfl⟩

theorem gives_bind {x : Session α} {f : α → Session β} {a : α} {result : Except Failure β}
    (hx : x.Gives modules disk (.ok a) modules₁) (hf : (f a).Gives modules₁ disk result modules₂) :
    (x >>= f).Gives modules disk result modules₂ := by
  intro said
  obtain ⟨said₁, hx⟩ := hx said
  obtain ⟨said₂, hf⟩ := hf said₁
  refine ⟨said₂, ?_⟩
  rw [run_bind, hx]
  exact hf

theorem gives_bind_error {x : Session α} {f : α → Session β} {failure : Failure}
    (hx : x.Gives modules disk (.error failure) modules₁) :
    (x >>= f).Gives modules disk (.error failure) modules₁ := by
  intro said
  obtain ⟨said₁, hx⟩ := hx said
  exact ⟨said₁, by rw [run_bind, hx]⟩

/-- A step that looks at the world. -/
theorem gives_get_bind {f : World → Session β} {result : Except Failure β}
    (h : ∀ said, (f { modules, disk, diagnostics := said }).Gives modules disk result modules₁) :
    (get >>= f).Gives modules disk result modules₁ :=
  fun said => h said said

/-- A step that changes the modules. -/
theorem gives_modify (change : List Module → List Module) :
    (modify fun w => { w with modules := change w.modules } : Session Unit).Gives modules disk
      (.ok ()) (change modules) :=
  fun said => ⟨said, rfl⟩

theorem gives_say (severity : Severity) (text : String) :
    (say severity text).Gives modules disk (.ok ()) modules :=
  fun _ => ⟨_, rfl⟩

theorem gives_ofExcept (result : Except Failure α) :
    (ofExcept result : Session α).Gives modules disk result modules := by
  cases result <;> exact fun said => ⟨said, rfl⟩

/-- Between two messages a step ends as it does without them. -/
theorem run_announced {name : String} {step : Session α} {result : Except Failure α} {w : World}
    (w' : World)
    (h : ∀ said, ∃ said', step.run { w with diagnostics := said }
      = (result, { w' with diagnostics := said' })) :
    ∃ said, (announced name step).run w = (result, { w' with diagnostics := said }) := by
  let before : World :=
    { w with diagnostics := w.diagnostics.record ⟨.info, name ++ " (threads: 1)"⟩ }
  obtain ⟨said', h⟩ := h before.diagnostics
  refine ⟨said'.record ⟨.info, name ++ ": finished"⟩, ?_⟩
  have hsteps : (announced name step).run w = ((step.run before).1,
      { (step.run before).2 with diagnostics :=
        (step.run before).2.diagnostics.record ⟨.info, name ++ ": finished"⟩ }) := rfl
  rw [hsteps, h]

/-- A step between two messages gives what it gives without them. -/
theorem gives_announced {name : String} {step : Session α} {result : Except Failure α}
    (h : step.Gives modules disk result modules₁) :
    (announced name step).Gives modules disk result modules₁ :=
  fun said => run_announced (w := ⟨modules, disk, said⟩) ⟨modules₁, disk, said⟩ h

/-! ## Stages -/

variable {ε σ ι ο : Type} {ofItem : ε → Failure} {s : Stage ε σ ι ο} {items : List ι} {state : σ}

/-- A stage with room for its workers. -/
theorem gives_stage (hroom : s.hasRoom) : (stage ofItem s items state).Gives modules disk
    (.ok ((s.run items state).outcome.mapError (Failure.ofStage ofItem s.name),
      (s.run items state).items, (s.run items state).state)) modules := by
  intro said
  refine ⟨said.recordAll (s.run items state).messages, ?_⟩
  unfold stage
  rw [if_pos hroom]
  rfl

theorem gives_stage_ok (hroom : s.hasRoom) {outputs : List ο}
    (houtcome : (s.run items state).outcome = .ok outputs) :
    (stage ofItem s items state).Gives modules disk
      (.ok (.ok outputs, (s.run items state).items, (s.run items state).state)) modules := by
  have hresult : (s.run items state).outcome.mapError (Failure.ofStage ofItem s.name)
      = .ok outputs := by
    rw [houtcome, Except.mapError]
  rw [← hresult]
  exact gives_stage hroom

/-- A stage without room for its workers is not begun. -/
theorem gives_stage_crowded (hroom : s.hasRoom = false) :
    (stage ofItem s items state).Gives modules disk (.error (.crowded s.name)) modules := by
  intro said
  refine ⟨said, ?_⟩
  unfold stage
  rw [if_neg (by simp [hroom])]
  rfl

/-- A stage whose items can be handled in sequence. -/
theorem gives_stage_of_handlesAll {handle : ι → σ → Handled ε σ ι ο}
    (hsame : ∀ worker, s.handle worker = handle) (hworkers : 0 < s.workers) (hroom : s.hasRoom)
    {items' : List ι} {state' : σ} {outputs : List ο}
    (h : HandlesAll handle items state outputs items' state') :
    (stage ofItem s items state).Gives modules disk (.ok (.ok outputs, items', state'))
      modules := by
  obtain ⟨houtcome, rfl, rfl⟩ := Stage.run_of_handlesAll hsame hworkers h
  exact gives_stage_ok hroom houtcome

/-- A stage that asks every item for outputs by itself. -/
theorem gives_collect {s : Stage Failure Unit ι ο} {handle : ι → Unit → Handled Failure Unit ι ο}
    (hsame : ∀ worker, s.handle worker = handle) (hworkers : 0 < s.workers) (hroom : s.hasRoom)
    {items : List ι} {outputs : ι → List ο}
    (h : ∀ item ∈ items, (handle item ()).ending = .done (outputs item)) :
    (collect s items).Gives modules disk (.ok (items.flatMap outputs)) modules :=
  gives_bind (gives_stage_of_handlesAll hsame hworkers hroom (handlesAll_of_forall h))
    (gives_ofExcept _)

theorem gives_collect_crowded {s : Stage Failure Unit ι ο} {items : List ι}
    (hroom : s.hasRoom = false) :
    (collect s items).Gives modules disk (.error (.crowded s.name)) modules :=
  gives_bind_error (gives_stage_crowded hroom)

end Session

end MutationTesting
