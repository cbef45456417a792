import Mathlib.Data.List.Forall2
import MutationTesting.Proofs.Workers.Partition

/-!
# Stages in sequence

A stage whose workers all handle items alike does what one worker would do who handles the whole
list from the front: shards are contiguous and in order, so nothing is lost or swapped at their
borders.

* `HandlesAll` — all items are handled one after the other, each to the end
* `Stage.handlesAll_of_outcome` — a stage that succeeds has handled its items in sequence
* `Stage.run_of_handlesAll` — a stage whose items can be handled in sequence succeeds
* `Stage.run_of_failed` — a stage with one worker stops at the first item that fails
-/

namespace MutationTesting.Workers

/-! ## Handling in sequence -/

variable {ε σ ι ο : Type} {handle : ι → σ → Handled ε σ ι ο}

/-- All items are handled one after the other, each to the end. -/
inductive HandlesAll (handle : ι → σ → Handled ε σ ι ο) :
    List ι → σ → List ο → List ι → σ → Prop where
  | nil (state : σ) : HandlesAll handle [] state [] [] state
  | cons {item : ι} {items items' : List ι} {state state' : σ} {outputs outputs' : List ο} :
      (handle item state).ending = .done outputs →
      HandlesAll handle items (handle item state).state outputs' items' state' →
      HandlesAll handle (item :: items) state (outputs ++ outputs')
        ((handle item state).item :: items') state'

theorem HandlesAll.append {xs xs' ys ys' : List ι} {s s' s'' : σ} {outputs outputs' : List ο}
    (h : HandlesAll handle xs s outputs xs' s') (h' : HandlesAll handle ys s' outputs' ys' s'') :
    HandlesAll handle (xs ++ ys) s (outputs ++ outputs') (xs' ++ ys') s'' := by
  induction h with
  | nil => exact h'
  | cons hdone _ ih =>
    rw [List.append_assoc]
    exact .cons hdone (ih h')

/-- Where there is no state to share, every item has been handled by itself. -/
theorem HandlesAll.forall₂ {handle : ι → Unit → Handled ε Unit ι ο} {items items' : List ι}
    {s s' : Unit} {outputs : List ο} (h : HandlesAll handle items s outputs items' s') :
    List.Forall₂ (fun item item' => (∃ outputs, (handle item ()).ending = .done outputs) ∧
      (handle item ()).item = item') items items' := by
  induction h with
  | nil => exact .nil
  | cons hdone _ ih => exact .cons ⟨⟨_, hdone⟩, rfl⟩ ih

/-- Items that give one output each give as many outputs as there are items, in their order. -/
theorem HandlesAll.forall₂_outputs {handle : ι → Unit → Handled ε Unit ι ο} {R : ι → ο → Prop}
    (hone : ∀ item outputs, (handle item ()).ending = .done outputs →
      ∃ output, outputs = [output] ∧ R item output)
    {items items' : List ι} {s s' : Unit} {outputs : List ο}
    (h : HandlesAll handle items s outputs items' s') : List.Forall₂ R items outputs := by
  induction h with
  | nil => exact .nil
  | cons hdone _ ih =>
    obtain ⟨output, rfl, houtput⟩ := hone _ _ hdone
    exact .cons houtput ih

/-- Items that are handled by themselves give their own outputs. -/
theorem HandlesAll.outputs_eq {handle : ι → Unit → Handled ε Unit ι ο} {own : ι → List ο}
    (hown : ∀ item, (handle item ()).ending = .done (own item)) {items items' : List ι}
    {s s' : Unit} {outputs : List ο} (h : HandlesAll handle items s outputs items' s') :
    outputs = items.flatMap own := by
  induction h with
  | nil => rfl
  | cons hdone _ ih =>
    rw [List.flatMap_cons, ← ih]
    congr 1
    exact Ending.done.inj (hdone.symm.trans (hown _))

/-- What is handled in sequence is handled up to any border and then on from there. -/
theorem HandlesAll.of_append {xs ys zs : List ι} {s s' : σ} {outputs : List ο} :
    HandlesAll handle (xs ++ ys) s outputs zs s' →
      ∃ outputs₁ outputs₂ xs' ys' mid, outputs = outputs₁ ++ outputs₂ ∧ zs = xs' ++ ys' ∧
        HandlesAll handle xs s outputs₁ xs' mid ∧ HandlesAll handle ys mid outputs₂ ys' s' := by
  induction xs generalizing s outputs zs with
  | nil => exact fun h => ⟨[], outputs, [], zs, s, rfl, rfl, .nil s, h⟩
  | cons item xs ih =>
    intro h
    cases h with
    | cons hdone hrest =>
      obtain ⟨outputs₁, outputs₂, xs', ys', mid, rfl, rfl, hxs, hys⟩ := ih hrest
      exact ⟨_, outputs₂, _, ys', mid, (List.append_assoc _ _ _).symm, rfl, .cons hdone hxs, hys⟩

/-- Items that are each handled to the end by themselves are handled in sequence. -/
theorem handlesAll_of_forall {handle : ι → Unit → Handled ε Unit ι ο} {outputs : ι → List ο} :
    ∀ {items : List ι}, (∀ item ∈ items, (handle item ()).ending = .done (outputs item)) →
      HandlesAll handle items () (items.flatMap outputs) (items.map fun item => (handle item ()).item)
        ()
  | [], _ => .nil ()
  | item :: items, h => by
    rw [List.forall_mem_cons] at h
    exact .cons h.1 (handlesAll_of_forall h.2)

theorem runShard_of_handlesAll {items items' : List ι} {s s' : σ} {outputs : List ο}
    (h : HandlesAll handle items s outputs items' s') :
    (runShard handle items s).1.outputs = outputs ∧ (runShard handle items s).1.items = items' ∧
      (runShard handle items s).1.fault = none ∧ (runShard handle items s).2 = s' := by
  induction h with
  | nil => exact ⟨rfl, rfl, rfl, rfl⟩
  | cons hdone _ ih =>
    obtain ⟨houtputs, hitems, hfault, hstate⟩ := ih
    simp only [runShard, hdone]
    exact ⟨by rw [houtputs], by rw [hitems], hfault, hstate⟩

theorem runShards_of_handlesAll {shards : List (List ι)} : ∀ {order : List Nat} {items' : List ι}
    {s s' : σ} {outputs : List ο},
    HandlesAll handle (order.flatMap fun worker => shards.getD worker []) s outputs items' s' →
      (∀ report ∈ (runShards (fun _ => handle) shards order s).1, report.2.fault = none) ∧
      (runShards (fun _ => handle) shards order s).1.flatMap (·.2.outputs) = outputs ∧
      (runShards (fun _ => handle) shards order s).1.flatMap (·.2.items) = items' ∧
      (runShards (fun _ => handle) shards order s).2 = s'
  | [], _, _, _, _, .nil _ => ⟨by simp [runShards], rfl, rfl, rfl⟩
  | worker :: order, _, _, _, _, h => by
    rw [List.flatMap_cons] at h
    obtain ⟨outputs₁, outputs₂, xs', ys', mid, rfl, rfl, hshard, hrest⟩ := h.of_append
    obtain ⟨rfl, rfl, hfault, rfl⟩ := runShard_of_handlesAll hshard
    obtain ⟨hfaults, rfl, rfl, rfl⟩ := runShards_of_handlesAll hrest
    exact ⟨List.forall_mem_cons.mpr ⟨hfault, hfaults⟩, rfl, rfl, rfl⟩

/-- A shard without fault has been handled in sequence. -/
theorem handlesAll_of_runShard : ∀ {items : List ι} {state : σ},
    (runShard handle items state).1.fault = none →
      HandlesAll handle items state (runShard handle items state).1.outputs
        (runShard handle items state).1.items (runShard handle items state).2
  | [], state, _ => .nil state
  | item :: rest, state, h => by
    cases hending : (handle item state).ending with
    | done outputs =>
      simp only [runShard, hending] at h ⊢
      exact .cons hending (handlesAll_of_runShard h)
    | failed error => simp [runShard, hending] at h
    | panicked => simp [runShard, hending] at h

/-- Items are handled in sequence: all of them, or those before the first that is not handled to the
end. -/
theorem handlesAll_or_stops (handle : ι → σ → Handled ε σ ι ο) (items : List ι) (state : σ) :
    (∃ outputs items' state', HandlesAll handle items state outputs items' state') ∨
    ∃ done item rest outputs done' mid, items = done ++ item :: rest ∧
      HandlesAll handle done state outputs done' mid ∧
      ∀ outputs, (handle item mid).ending ≠ .done outputs := by
  induction items generalizing state with
  | nil => exact .inl ⟨[], [], state, .nil state⟩
  | cons item items ih =>
    by_cases hdone : ∃ outputs, (handle item state).ending = .done outputs
    · obtain ⟨outputs, hdone⟩ := hdone
      obtain ⟨_, items', state', hall⟩ | ⟨before, stop, rest, _, done', mid, rfl, hall, hstop⟩ :=
        ih (handle item state).state
      · exact .inl ⟨_, _, _, .cons hdone hall⟩
      · exact .inr ⟨item :: before, stop, rest, _, _, mid, rfl, .cons hdone hall, hstop⟩
    · rw [not_exists] at hdone
      exact .inr ⟨[], item, items, [], [], state, rfl, .nil state, hdone⟩

/-- A worker whose shard has an item that fails leaves those behind it as they are. -/
theorem runShard_of_failed (rest : List ι) {done done' : List ι} {item : ι} {s mid : σ}
    {outputs : List ο} {error : ε} (h : HandlesAll handle done s outputs done' mid)
    (hfailed : (handle item mid).ending = .failed error) :
    (runShard handle (done ++ item :: rest) s).1.fault = some (.item error) ∧
      (runShard handle (done ++ item :: rest) s).1.items
        = done' ++ (handle item mid).item :: rest ∧
      (runShard handle (done ++ item :: rest) s).2 = (handle item mid).state := by
  induction h with
  | nil =>
    rw [List.nil_append, runShard]
    simp only [hfailed]
    exact ⟨trivial, rfl, trivial⟩
  | cons hdone _ ih =>
    obtain ⟨hfault, hitems, hstate⟩ := ih hfailed
    rw [List.cons_append, runShard]
    simp only [hdone]
    exact ⟨hfault, by rw [hitems, List.cons_append], hstate⟩

/-- Shards without fault that are run in some order have been handled in that order. -/
theorem handlesAll_of_runShards {shards : List (List ι)} : ∀ {order : List Nat} {state : σ},
    (∀ report ∈ (runShards (fun _ => handle) shards order state).1, report.2.fault = none) →
      HandlesAll handle (order.flatMap fun worker => shards.getD worker []) state
        ((runShards (fun _ => handle) shards order state).1.flatMap (·.2.outputs))
        ((runShards (fun _ => handle) shards order state).1.flatMap (·.2.items))
        (runShards (fun _ => handle) shards order state).2
  | [], state, _ => .nil state
  | worker :: order, state, h => by
    simp only [runShards, List.mem_cons, forall_eq_or_imp] at h ⊢
    simp only [List.flatMap_cons]
    exact (handlesAll_of_runShard h.1).append (handlesAll_of_runShards h.2)

/-! ## Stages -/

theorem map_fst_runShards {handle : Nat → ι → σ → Handled ε σ ι ο} {shards : List (List ι)} :
    ∀ {order : List Nat} {state : σ}, (runShards handle shards order state).1.map (·.1) = order
  | [], _ => rfl
  | worker :: order, state => by simp [runShards, map_fst_runShards]

/-- Looking up all keys of a list in their order gives all its values. -/
theorem filterMap_lookup {α : Type} : ∀ {reports : List (Nat × α)}, (reports.map (·.1)).Nodup →
    (reports.map (·.1)).filterMap (List.lookup · reports) = reports.map (·.2)
  | [], _ => rfl
  | (key, value) :: reports, h => by
    rw [List.map_cons, List.nodup_cons] at h
    simp only [List.map_cons, List.filterMap_cons, List.lookup_cons, beq_self_eq_true]
    congr 1
    rw [← filterMap_lookup h.2]
    refine List.filterMap_congr fun k hk => ?_
    have hne : (k == key) = false := by
      rw [beq_eq_false_iff_ne]
      rintro rfl
      exact h.1 hk
    simp [hne]

theorem Stage.collect_of_forall : ∀ {reports : List (ShardReport ε ι ο)},
    (∀ report ∈ reports, report.fault = none) → collect reports = .ok (reports.flatMap (·.outputs))
  | [], _ => rfl
  | report :: reports, h => by
    rw [List.forall_mem_cons] at h
    simp only [collect, h.1, collect_of_forall h.2, Except.map, List.flatMap_cons]

theorem Stage.collect_eq_ok : ∀ {reports : List (ShardReport ε ι ο)} {outputs : List ο},
    collect reports = .ok outputs →
      (∀ report ∈ reports, report.fault = none) ∧ outputs = reports.flatMap (·.outputs)
  | [], outputs, h => by
    cases h
    exact ⟨by simp, rfl⟩
  | report :: reports, outputs, h => by
    cases hfault : report.fault with
    | some fault => simp [collect, hfault] at h
    | none =>
      cases hrest : collect reports with
      | error fault => simp [collect, hfault, hrest, Except.map] at h
      | ok rest =>
        obtain ⟨hall, rfl⟩ := collect_eq_ok hrest
        simp only [collect, hfault, hrest, Except.map, Except.ok.injEq] at h
        subst h
        exact ⟨List.forall_mem_cons.mpr ⟨hfault, hall⟩, by simp⟩

/-- In the usual order the reports of the workers come in the order of the shards. -/
theorem filterMap_lookup_runShards (handle : Nat → ι → σ → Handled ε σ ι ο)
    (shards : List (List ι)) (count : Nat) (state : σ) :
    (List.range count).filterMap
        (List.lookup · (runShards handle shards (List.range count) state).1)
      = (runShards handle shards (List.range count) state).1.map (·.2) := by
  have hkeys : (runShards handle shards (List.range count) state).1.map (·.1) = List.range count :=
    map_fst_runShards
  have hreports := filterMap_lookup (hkeys ▸ List.nodup_range)
  rwa [hkeys] at hreports

/-- A stage succeeds and leaves these items and this state. -/
def Stage.Leaves (stage : Stage ε σ ι ο) (items : List ι) (state : σ) (items' : List ι)
    (state' : σ) : Prop :=
  ∃ outputs, (stage.run items state).outcome = .ok outputs ∧
    (stage.run items state).items = items' ∧ (stage.run items state).state = state'

/-- **A stage that succeeds has handled its items in sequence**, however many workers it had. -/
theorem Stage.handlesAll_of_outcome {stage : Stage ε σ ι ο} {items : List ι} {state : σ}
    {outputs : List ο} (h : (stage.run items state).outcome = .ok outputs)
    (handle : ι → σ → Handled ε σ ι ο) (hsame : ∀ worker, stage.handle worker = handle) :
    HandlesAll handle items state outputs (stage.run items state).items
      (stage.run items state).state := by
  obtain rfl : handle = stage.handle 0 := (hsame 0).symm
  have hhandle : stage.handle = fun _ => stage.handle 0 := funext hsame
  unfold Stage.run at h ⊢
  split at h
  · cases h
  · next hworkers =>
    rw [if_neg hworkers]
    unfold Stage.runIn at h ⊢
    rw [hhandle] at h ⊢
    simp only [filterMap_lookup_runShards] at h ⊢
    obtain ⟨hall, rfl⟩ := Stage.collect_eq_ok h
    have hdone := handlesAll_of_runShards fun report hr => hall report.2 (List.mem_map_of_mem hr)
    rw [flatMap_getD_range (length_partition items _),
      flatten_partition (stage.threads_pos items)] at hdone
    simpa only [List.flatMap_map] using hdone

theorem Stage.Leaves.handlesAll {stage : Stage ε σ ι ο} {items items' : List ι} {state state' : σ}
    (h : stage.Leaves items state items' state') (handle : ι → σ → Handled ε σ ι ο)
    (hsame : ∀ worker, stage.handle worker = handle) :
    ∃ outputs, HandlesAll handle items state outputs items' state' := by
  obtain ⟨outputs, h, rfl, rfl⟩ := h
  exact ⟨outputs, Stage.handlesAll_of_outcome h handle hsame⟩

/-- **A stage whose items can be handled in sequence succeeds**, however many workers it has. -/
theorem Stage.run_of_handlesAll {stage : Stage ε σ ι ο} (hsame : ∀ worker, stage.handle worker = handle)
    (hworkers : 0 < stage.workers) {items items' : List ι} {state state' : σ} {outputs : List ο}
    (h : HandlesAll handle items state outputs items' state') :
    (stage.run items state).outcome = .ok outputs ∧ (stage.run items state).items = items' ∧
      (stage.run items state).state = state' := by
  have hhandle : stage.handle = fun _ => handle := funext hsame
  rw [← flatten_partition (stage.threads_pos items) items,
    ← flatMap_getD_range (length_partition items _)] at h
  obtain ⟨hfaults, rfl, rfl, rfl⟩ := runShards_of_handlesAll h
  unfold Stage.run
  rw [if_neg (Nat.ne_of_gt hworkers)]
  unfold Stage.runIn
  rw [hhandle]
  simp only [filterMap_lookup_runShards]
  rw [Stage.collect_of_forall (List.forall_mem_map.mpr hfaults)]
  simp only [List.flatMap_map, and_self]

theorem Stage.leaves_of_handlesAll {stage : Stage ε σ ι ο}
    (hsame : ∀ worker, stage.handle worker = handle) (hworkers : 0 < stage.workers)
    {items items' : List ι} {state state' : σ} {outputs : List ο}
    (h : HandlesAll handle items state outputs items' state') :
    stage.Leaves items state items' state' :=
  ⟨outputs, Stage.run_of_handlesAll hsame hworkers h⟩

/-- A stage with a single worker stops at the first item that fails. -/
theorem Stage.run_of_failed (stage : Stage ε σ ι ο) (hworkers : stage.workers = 1)
    (rest : List ι) {done done' : List ι} {item : ι} {s mid : σ} {outputs : List ο} {error : ε}
    (h : HandlesAll (stage.handle 0) done s outputs done' mid)
    (hfailed : (stage.handle 0 item mid).ending = .failed error) :
    let report := stage.run (done ++ item :: rest) s
    report.outcome = .error (.item error) ∧
      report.items = done' ++ (stage.handle 0 item mid).item :: rest ∧
      report.state = (stage.handle 0 item mid).state := by
  obtain ⟨hfault, hitems, hstate⟩ := runShard_of_failed rest h hfailed
  have hthreads : stage.threads (done ++ item :: rest) = 1 := by
    rw [threads, hworkers, List.length_append, List.length_cons]
    omega
  dsimp only
  unfold Stage.run
  rw [if_neg (by rw [hworkers]; exact Nat.one_ne_zero)]
  unfold Stage.runIn
  simp only [hthreads, partition_one, filterMap_lookup_runShards]
  simp only [List.range_one, runShards, List.getD_cons_zero, List.map_cons, List.map_nil,
    List.flatMap_cons, List.flatMap_nil, List.append_nil, collect, hfault]
  exact ⟨trivial, hitems, hstate⟩

end MutationTesting.Workers
