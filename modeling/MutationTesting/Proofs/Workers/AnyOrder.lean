import Mathlib.Data.List.Forall2
import MutationTesting.Failure
import MutationTesting.Proofs.Workers.Sequence

/-!
# Stages in any order

The shards of a stage run side by side, so they may be begun and ended in any order. Where the
ending of an item depends on the item alone, this cannot be told from what the stage gives: it gives
what one worker would give who handles all items from the front.

* `Report.Succeeded`, `Report.GivenUp` — what the callers of a stage get
* `Stage.HandlesOnce` — a stage handles every item once
* `ShardReport.Describes` — what a worker reports of its shard
* `Stage.runIn_as_one_worker` — **a stage gives what one worker would give**, however many workers
  it has and in whatever order they run
-/

namespace MutationTesting.Workers

variable {ε σ ι ο : Type}

/-! ## What callers get -/

namespace Report

/-- What a caller gets who asks for the outputs of a stage. -/
def collected (r : Report ε σ ι ο) (ofItem : ε → Failure) (stage : String) :
    Except Failure (List ο) :=
  r.outcome.mapError (Failure.ofStage ofItem stage)

/-- What a caller gets who drops the outputs of a stage. -/
def discarded (r : Report ε σ ι ο) (ofItem : ε → Failure) (stage : String) : Except Failure Unit :=
  (r.collected ofItem stage).map fun _ => ()

/-- Every caller gets what a stage with these outputs gives. -/
structure Succeeded (r : Report ε σ ι ο) (ofItem : ε → Failure) (stage : String)
    (outputs : List ο) : Prop where
  collected : r.collected ofItem stage = .ok outputs
  discarded : r.discarded ofItem stage = .ok ()
  /-- They are put behind what a list holds already. -/
  appended : ∀ sink, r.appendTo sink = sink ++ outputs

/-- Every caller gets this failure. -/
structure GivenUp (r : Report ε σ ι ο) (ofItem : ε → Failure) (stage : String)
    (failure : Failure) : Prop where
  collected : r.collected ofItem stage = .error failure
  discarded : r.discarded ofItem stage = .error failure
  /-- Nothing is appended to a list. -/
  untouched : ∀ sink, r.appendTo sink = sink

theorem Succeeded.of_outcome {r : Report ε σ ι ο} {ofItem : ε → Failure} {stage : String}
    {outputs : List ο} (h : r.outcome = .ok outputs) : r.Succeeded ofItem stage outputs where
  collected := by rw [Report.collected, h, Except.mapError]
  discarded := by rw [Report.discarded, Report.collected, h, Except.mapError, Except.map]
  appended := fun sink => by rw [Report.appendTo, h]

theorem GivenUp.of_outcome {r : Report ε σ ι ο} {ofItem : ε → Failure} {stage : String}
    {fault : Fault ε} (h : r.outcome = .error fault) :
    r.GivenUp ofItem stage (Failure.ofStage ofItem stage fault) where
  collected := by rw [Report.collected, h, Except.mapError]
  discarded := by rw [Report.discarded, Report.collected, h, Except.mapError, Except.map]
  untouched := fun sink => by rw [Report.appendTo, h]

end Report

/-- A stage has handled every item once. -/
structure Stage.HandlesOnce (stage : Stage ε σ ι ο) (items : List ι) (state : σ)
    (r : Report ε σ ι ο) : Prop where
  /-- The shared state is what the items leave when each of them is handled once, in some order and
  each by some worker. -/
  state : ∃ steps : List (Nat × ι), (steps.map (·.2)).Perm items ∧
    r.state = steps.foldl (fun state step => (stage.handle step.1 step.2 state).state) state
  /-- The items are what the handling made of them, in their order. -/
  handled : List.Forall₂
    (fun item item' => ∃ worker state, item' = (stage.handle worker item state).item) items r.items
  /-- As many items are reported as there are. -/
  counted : ⟨.debug, stage.name ++ ": processed " ++ items.length.repr ++ "/"
    ++ items.length.repr ++ " items"⟩ ∈ r.messages

/-! ## Endings -/

namespace Ending

/-- Why the handling of an item makes its stage fail, if it does. -/
def fault? : Ending ε ο → Option (Fault ε)
  | .done _ => none
  | .failed error => some (.item error)
  | .panicked => some .panicked

/-- The outputs of an item; an item that is not handled to the end has none. -/
def outputs : Ending ε ο → List ο
  | .done outputs => outputs
  | .failed _ => []
  | .panicked => []

end Ending

/-- What comes of handling items one after the other: the outputs of all of them, or the fault of
the first one that has a fault. -/
def outcomeOf (ending : ι → Ending ε ο) (items : List ι) : Except (Fault ε) (List ο) :=
  match items.findSome? fun item => (ending item).fault? with
  | some fault => .error fault
  | none => .ok (items.flatMap fun item => (ending item).outputs)

theorem outcomeOf_append (ending : ι → Ending ε ο) (xs ys : List ι) :
    outcomeOf ending (xs ++ ys) = match outcomeOf ending xs with
      | .ok outputs => (outcomeOf ending ys).map (outputs ++ ·)
      | .error fault => .error fault := by
  unfold outcomeOf
  rw [List.findSome?_append, List.flatMap_append]
  cases xs.findSome? fun item => (ending item).fault? with
  | some fault => rfl
  | none => cases ys.findSome? fun item => (ending item).fault? <;> rfl

/-! ## Shards -/

/-- What a worker reports of its shard. -/
structure ShardReport.Describes (report : ShardReport ε ι ο) (ending : ι → Ending ε ο)
    (handle : ι → σ → Handled ε σ ι ο) (shard : List ι) : Prop where
  fault : report.fault = shard.findSome? fun item => (ending item).fault?
  outputs : report.fault = none → report.outputs = shard.flatMap fun item => (ending item).outputs
  processed : report.fault = none → report.processed = shard.length
  /-- Each item is what its handling made of it. -/
  items : report.fault = none →
    List.Forall₂ (fun item item' => ∃ state, item' = (handle item state).item) shard report.items

theorem ShardReport.Describes.outcome {report : ShardReport ε ι ο} {ending : ι → Ending ε ο}
    {handle : ι → σ → Handled ε σ ι ο} {shard : List ι}
    (h : report.Describes ending handle shard) :
    outcomeOf ending shard = match report.fault with
      | some fault => .error fault
      | none => .ok report.outputs := by
  unfold outcomeOf
  rw [← h.fault]
  cases hfault : report.fault with
  | some fault => rfl
  | none => exact congrArg Except.ok (h.outputs hfault).symm

section

variable {handle : ι → σ → Handled ε σ ι ο} {ending : ι → Ending ε ο}
  (hending : ∀ item state, (handle item state).ending = ending item)

include hending

theorem describes_runShard : ∀ (shard : List ι) (state : σ),
    (runShard handle shard state).1.Describes ending handle shard
  | [], _ => ⟨rfl, fun _ => rfl, fun _ => rfl, fun _ => .nil⟩
  | item :: shard, state => by
    have hitem := hending item state
    have hrest := describes_runShard shard (handle item state).state
    cases h : ending item with
    | done outputs =>
      rw [h] at hitem
      simp only [runShard, hitem]
      refine ⟨?_, fun hnone => ?_, fun hnone => ?_, fun hnone => ?_⟩
      · simp [h, Ending.fault?, hrest.fault]
      · simp [h, Ending.outputs, hrest.outputs hnone]
      · simp [hrest.processed hnone]
      · exact .cons ⟨state, rfl⟩ (hrest.items hnone)
    | failed error =>
      rw [h] at hitem
      simp only [runShard, hitem]
      exact ⟨by simp [h, Ending.fault?], by simp, by simp, by simp⟩
    | panicked =>
      rw [h] at hitem
      simp only [runShard, hitem]
      exact ⟨by simp [h, Ending.fault?], by simp, by simp, by simp⟩

/-- A shard without fault leaves the state that its items leave one after the other. -/
theorem state_runShard : ∀ (shard : List ι) (state : σ),
    (runShard handle shard state).1.fault = none → (runShard handle shard state).2 =
      shard.foldl (fun state item => (handle item state).state) state
  | [], _, _ => rfl
  | item :: shard, state, hnone => by
    have hitem := hending item state
    cases h : ending item with
    | done outputs =>
      rw [h] at hitem
      simp only [runShard, hitem] at hnone ⊢
      exact state_runShard shard _ hnone
    | failed error =>
      rw [h] at hitem
      simp [runShard, hitem] at hnone
    | panicked =>
      rw [h] at hitem
      simp [runShard, hitem] at hnone

end

/-- Reports that are looked up are those of the keys, in the order of the keys. -/
theorem forall₂_filterMap_lookup {α : Type} {R : Nat → α → Prop} {reports : List (Nat × α)}
    (hR : ∀ entry ∈ reports, R entry.1 entry.2) : ∀ {keys : List Nat},
    (∀ key ∈ keys, key ∈ reports.map (·.1)) →
      List.Forall₂ R keys (keys.filterMap (List.lookup · reports))
  | [], _ => .nil
  | key :: keys, hkeys => by
    rw [List.forall_mem_cons] at hkeys
    obtain ⟨value, hvalue⟩ : ∃ value, reports.lookup key = some value := by
      rw [← Option.isSome_iff_exists, List.lookup_isSome_iff]
      obtain ⟨entry, hentry, rfl⟩ := List.mem_map.mp hkeys.1
      exact ⟨entry, hentry, by simp⟩
    obtain ⟨before, after, rfl, -⟩ := List.lookup_eq_some_iff.mp hvalue
    rw [List.filterMap_cons]
    simp only [hvalue]
    exact .cons (hR (key, value) (by simp)) (forall₂_filterMap_lookup hR hkeys.2)

section

variable {handle : Nat → ι → σ → Handled ε σ ι ο} {ending : ι → Ending ε ο}
  {shards : List (List ι)}
  (hending : ∀ worker item state, (handle worker item state).ending = ending item)

include hending

theorem describes_runShards : ∀ {order : List Nat} {state : σ},
    ∀ entry ∈ (runShards handle shards order state).1,
      entry.2.Describes ending (handle entry.1) (shards.getD entry.1 [])
  | [], _ => by simp [runShards]
  | worker :: order, state => by
    simp only [runShards, List.forall_mem_cons]
    exact ⟨describes_runShard (hending worker) _ _, describes_runShards⟩

/-- Shards without fault leave the state that their items leave in the order of the shards. -/
theorem state_runShards : ∀ {order : List Nat} {state : σ},
    (∀ entry ∈ (runShards handle shards order state).1, entry.2.fault = none) →
      (runShards handle shards order state).2 =
        (order.flatMap fun worker => (shards.getD worker []).map (worker, ·)).foldl
          (fun state step => (handle step.1 step.2 state).state) state
  | [], _, _ => rfl
  | worker :: order, state, hnone => by
    simp only [runShards, List.forall_mem_cons] at hnone ⊢
    rw [state_runShards hnone.2, state_runShard (hending worker) _ _ hnone.1, List.flatMap_cons,
      List.foldl_append, List.foldl_map]

/-- The reports of shards come in the order of the shards, whatever order the shards were run in. -/
theorem forall₂_reports {order : List Nat} {count : Nat} (horder : order.Perm (List.range count))
    (hlength : shards.length = count) (state : σ) :
    List.Forall₂ (fun shard report => ∃ worker, report.Describes ending (handle worker) shard)
      shards ((List.range count).filterMap
        (List.lookup · (runShards handle shards order state).1)) := by
  have hkeys : ∀ worker ∈ List.range count,
      worker ∈ (runShards handle shards order state).1.map (·.1) := by
    intro worker hworker
    rw [map_fst_runShards]
    exact horder.mem_iff.mpr hworker
  have hreports := forall₂_filterMap_lookup
    (R := fun worker report => report.Describes ending (handle worker) (shards.getD worker []))
    (describes_runShards hending) hkeys
  rw [← map_getD_range hlength, List.forall₂_map_left_iff, map_getD_range hlength]
  exact hreports.imp fun worker report h => ⟨worker, h⟩

end

theorem mem_flatten_of_mem_getD {shards : List (List ι)} {item : ι} {worker : Nat}
    (h : item ∈ shards.getD worker []) : item ∈ shards.flatten := by
  rw [List.getD_eq_getElem?_getD] at h
  cases hshard : shards[worker]? with
  | none => simp [hshard] at h
  | some shard =>
    rw [hshard, Option.getD_some] at h
    exact List.mem_flatten.mpr ⟨shard, List.mem_of_getElem? hshard, h⟩

/-! ## Stages -/

section

variable {handle : Nat → ι → σ → Handled ε σ ι ο} {ending : ι → Ending ε ο}
  {shards : List (List ι)} {reports : List (ShardReport ε ι ο)}
  (h : List.Forall₂ (fun shard report => ∃ worker, report.Describes ending (handle worker) shard)
    shards reports)

include h

/-- The reports of shards put together give the outcome of all items. -/
theorem collect_eq_outcomeOf : Stage.collect reports = outcomeOf ending shards.flatten := by
  induction h with
  | nil => rfl
  | @cons shard report shards reports hreport _ ih =>
    obtain ⟨worker, hreport⟩ := hreport
    rw [List.flatten_cons, outcomeOf_append, hreport.outcome, Stage.collect, ih]
    cases report.fault <;> rfl

variable (hnone : ∀ item ∈ shards.flatten, (ending item).fault? = none)

include hnone

theorem forall₂_items_of_reports :
    List.Forall₂ (fun item item' => ∃ worker state, item' = (handle worker item state).item)
      shards.flatten (reports.flatMap (·.items)) := by
  induction h with
  | nil => exact .nil
  | @cons shard report shards reports hreport _ ih =>
    obtain ⟨worker, hreport⟩ := hreport
    rw [List.flatten_cons, List.forall_mem_append] at hnone
    rw [List.flatten_cons, List.flatMap_cons]
    have hfault := hreport.fault.trans (List.findSome?_eq_none_iff.mpr hnone.1)
    refine List.rel_append ?_ (ih hnone.2)
    exact (hreport.items hfault).imp fun _ _ hitem => ⟨worker, hitem⟩

theorem processed_of_reports :
    (reports.map (·.processed)).foldl (· + ·) 0 = shards.flatten.length := by
  rw [← List.sum_eq_foldl]
  induction h with
  | nil => rfl
  | @cons shard report shards reports hreport _ ih =>
    obtain ⟨worker, hreport⟩ := hreport
    rw [List.flatten_cons, List.forall_mem_append] at hnone
    have hfault := hreport.fault.trans (List.findSome?_eq_none_iff.mpr hnone.1)
    rw [List.map_cons, List.sum_cons, ih hnone.2, hreport.processed hfault, List.flatten_cons,
      List.length_append]

end

namespace Stage

/-- The death of a worker as users read it. -/
theorem message_panicked (name : String) : (Failure.task name .panicked).message
    = "Task '" ++ name ++ "' failed: worker thread panicked" := by
  have hjoin : "' failed: " ++ "worker thread panicked" = "' failed: worker thread panicked" := by
    decide
  rw [← hjoin, ← String.append_assoc]
  rfl

section

variable {stage : Stage ε σ ι ο} {ending : ι → Ending ε ο} {items : List ι} {order : List Nat}
  (hending : ∀ worker item state, (stage.handle worker item state).ending = ending item)
  (horder : order.Perm (List.range (stage.threads items))) (state : σ)

include hending horder

theorem outcome_runIn : (stage.runIn order items state).outcome = outcomeOf ending items := by
  have hreports := forall₂_reports hending horder (length_partition items _) state
  have hcollect := collect_eq_outcomeOf hreports
  rwa [flatten_partition (stage.threads_pos items)] at hcollect

theorem handlesOnce_runIn (hnone : ∀ item ∈ items, (ending item).fault? = none) :
    stage.HandlesOnce items state (stage.runIn order items state) := by
  have hreports := forall₂_reports hending horder (length_partition items _) state
  have hflatten := flatten_partition (stage.threads_pos items) items
  rw [← hflatten] at hnone
  have hhandled := forall₂_items_of_reports hreports hnone
  have hprocessed := processed_of_reports hreports hnone
  have hcollect := collect_eq_outcomeOf hreports
  rw [outcomeOf, List.findSome?_eq_none_iff.mpr hnone] at hcollect
  rw [hflatten] at hhandled hprocessed
  refine ⟨⟨order.flatMap fun worker =>
    ((partition items (stage.threads items)).getD worker []).map (worker, ·), ?_, ?_⟩, hhandled, ?_⟩
  · -- the shards in another order are still the shards
    have hperm := horder.flatMap_right fun worker =>
      (partition items (stage.threads items)).getD worker []
    rw [flatMap_getD_range (length_partition items _), hflatten] at hperm
    rw [List.map_flatMap]
    simpa only [List.map_map, Function.comp_def, List.map_id'] using hperm
  · refine state_runShards hending fun entry hentry => ?_
    rw [(describes_runShards hending entry hentry).fault, List.findSome?_eq_none_iff]
    exact fun item hitem => hnone item (mem_flatten_of_mem_getD hitem)
  · unfold runIn
    simp only [hcollect, hprocessed]
    simp

/-- **A stage gives what one worker would give** who handles all items from the front, however many
workers it has and in whatever order they run. -/
theorem runIn_as_one_worker (hworkers : 0 < stage.workers) (ofItem : ε → Failure) :
    (∀ outputs : ι → List ο, (∀ item ∈ items, ending item = .done (outputs item)) →
      (stage.runIn order items state).Succeeded ofItem stage.name (items.flatMap outputs) ∧
      stage.HandlesOnce items state (stage.runIn order items state)) ∧
    (∀ before item after, items = before ++ item :: after →
      (∀ item ∈ before, ∃ outputs, ending item = .done outputs) →
      (∀ error, ending item = .failed error →
        (stage.runIn order items state).GivenUp ofItem stage.name (ofItem error)) ∧
      (ending item = .panicked →
        (stage.runIn order items state).GivenUp ofItem stage.name (.task stage.name .panicked) ∧
        (Failure.task stage.name .panicked).message
          = "Task '" ++ stage.name ++ "' failed: worker thread panicked")) ∧
    stage.run items state = stage.runIn (List.range (stage.threads items)) items state := by
  have houtcome := outcome_runIn hending horder state
  refine ⟨fun outputs hdone => ?_, fun before item after hitems hbefore => ?_, ?_⟩
  · have hnone : ∀ item ∈ items, (ending item).fault? = none := by
      intro item hitem
      rw [hdone item hitem, Ending.fault?]
    have houtputs : (items.flatMap fun item => (ending item).outputs) = items.flatMap outputs := by
      refine List.flatMap_congr fun item hitem => ?_
      rw [hdone item hitem, Ending.outputs]
    refine ⟨.of_outcome ?_, handlesOnce_runIn hending horder state hnone⟩
    rw [houtcome, outcomeOf, List.findSome?_eq_none_iff.mpr hnone, houtputs]
  · -- nothing in front of the item has a fault, so the fault that is found is the one of the item
    have hfirst : ∀ fault, (ending item).fault? = some fault →
        (stage.runIn order items state).outcome = .error fault := by
      intro fault hfault
      have hnone : before.findSome? (fun item => (ending item).fault?) = none := by
        refine List.findSome?_eq_none_iff.mpr fun item hitem => ?_
        obtain ⟨outputs, hdone⟩ := hbefore item hitem
        rw [hdone, Ending.fault?]
      rw [houtcome, outcomeOf, hitems, List.findSome?_append, hnone, Option.none_or,
        List.findSome?_cons_of_isSome (by rw [hfault, Option.isSome_some]), hfault]
    refine ⟨fun error herror => ?_, fun hpanicked => ⟨?_, ?_⟩⟩
    · exact .of_outcome (hfirst (.item error) (by rw [herror, Ending.fault?]))
    · exact .of_outcome (hfirst .panicked (by rw [hpanicked, Ending.fault?]))
    · exact message_panicked stage.name
  · rw [run, if_neg (Nat.ne_of_gt hworkers)]

end

/-- How a number ends in the stage below: multiples of four fail, multiples of five kill the worker,
and all others are given twice. -/
def probed (n : Nat) : Ending Failure Nat :=
  if n % 4 = 0 then .failed (.crowded n.repr) else if n % 5 = 0 then .panicked else .done [n, n]

/-- Three workers that note the numbers they have handled. -/
def probe : Stage Failure (List Nat) Nat Nat where
  name := "probing"
  workers := 3
  handle _ n seen := { ending := probed n, item := n + 1, state := seen ++ [n] }

/-- The last worker of three comes first: five numbers are given in their order all the same, and of
two numbers that cannot be handled the first one counts. -/
theorem probe_as_one_worker :
    probe.HandlesOnce [1, 2, 3, 6, 7] [] (probe.runIn [2, 0, 1] [1, 2, 3, 6, 7] []) ∧
    (probe.runIn [2, 0, 1] [1, 2, 3, 6, 7] []).Succeeded id "probing"
      [1, 1, 2, 2, 3, 3, 6, 6, 7, 7] ∧
    (probe.runIn [2, 0, 1] [1, 2, 3, 4, 5] []).GivenUp id "probing" (.crowded "4") ∧
    (probe.runIn [2, 0, 1] [1, 2, 3, 5, 4] []).GivenUp id "probing"
      (.task "probing" .panicked) := by
  have hending : ∀ worker item state, (probe.handle worker item state).ending = probed item :=
    fun _ _ _ => rfl
  have horder : ∀ a b c d e : Nat, [2, 0, 1].Perm (List.range (probe.threads [a, b, c, d, e])) := by
    intro a b c d e
    show [2, 0, 1].Perm (List.range 3)
    decide
  have hfine := (runIn_as_one_worker hending (horder 1 2 3 6 7) [] (by decide) id).1
    (fun n => [n, n]) (by simp [probed])
  have hfailed := (runIn_as_one_worker hending (horder 1 2 3 4 5) [] (by decide) id).2.1
    [1, 2, 3] 4 [5] rfl (by simp [probed])
  have hpanicked := (runIn_as_one_worker hending (horder 1 2 3 5 4) [] (by decide) id).2.1
    [1, 2, 3] 5 [4] rfl (by simp [probed])
  exact ⟨hfine.2, hfine.1, hfailed.1 _ rfl, (hpanicked.2 rfl).1⟩

end Stage

end MutationTesting.Workers
