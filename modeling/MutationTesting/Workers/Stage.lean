import MutationTesting.Diagnostics
import MutationTesting.Workers.Partition

/-!
# Stages

A stage hands the items of a list to workers. Each worker gets a contiguous shard and handles its
items one by one; an item that fails ends its shard, not those of the others. The outputs are put
together in the order of the items, and the stage fails with the fault of the first failed shard.

The shards may be run in any order; the usual one is that of the list. Items can be changed by their
handling, and all shards share a state.
-/

namespace MutationTesting.Workers

/-! ## Handling an item -/

/-- How the handling of an item ends. -/
inductive Ending (ε ο : Type) where
  /-- With outputs. -/
  | done (outputs : List ο)
  /-- With an error. -/
  | failed (error : ε)
  /-- With the death of the worker. -/
  | panicked

/-- What the handling of an item leaves behind. -/
structure Handled (ε σ ι ο : Type) where
  /-- How it ended. -/
  ending : Ending ε ο
  /-- The item afterwards. -/
  item : ι
  /-- The shared state afterwards. -/
  state : σ
  /-- Debug messages. -/
  notes : List String := []

/-- Why a stage fails. -/
inductive Fault (ε : Type) where
  /-- It has no workers. -/
  | noWorkers
  /-- A worker died. -/
  | panicked
  /-- An item failed. -/
  | item (error : ε)
  deriving DecidableEq, Repr

/-! ## Shards -/

/-- What a worker did with its shard. -/
structure ShardReport (ε ι ο : Type) where
  /-- The outputs of the handled items in order. -/
  outputs : List ο := []
  /-- The items afterwards; those behind a failure are untouched. -/
  items : List ι := []
  /-- Why the shard ended early, if it did. -/
  fault : Option (Fault ε) := none
  /-- The number of items that were handled to the end. -/
  processed : Nat := 0
  /-- Debug messages in order. -/
  notes : List String := []

variable {ε σ ι ο : Type}

/-- Handles the items of a shard up to the first failure. -/
def runShard (handle : ι → σ → Handled ε σ ι ο) : List ι → σ → ShardReport ε ι ο × σ
  | [], state => ({}, state)
  | item :: rest, state =>
    let h := handle item state
    match h.ending with
    | .done outputs =>
      let (report, state) := runShard handle rest h.state
      ({ report with
          outputs := outputs ++ report.outputs
          items := h.item :: report.items
          processed := report.processed + 1
          notes := h.notes ++ report.notes }, state)
    | .failed error =>
      ({ items := h.item :: rest, fault := some (.item error), notes := h.notes }, h.state)
    | .panicked =>
      ({ items := h.item :: rest, fault := some .panicked, notes := h.notes }, h.state)

/-- Runs the shards named in an order, each with the report of its worker. -/
def runShards (handle : Nat → ι → σ → Handled ε σ ι ο) (shards : List (List ι)) :
    List Nat → σ → List (Nat × ShardReport ε ι ο) × σ
  | [], state => ([], state)
  | worker :: order, state =>
    let (report, state) := runShard (handle worker) (shards.getD worker []) state
    let (reports, state) := runShards handle shards order state
    ((worker, report) :: reports, state)

/-! ## Stages -/

/-- What a stage did. -/
structure Report (ε σ ι ο : Type) where
  /-- The outputs in the order of the items, or why there are none. -/
  outcome : Except (Fault ε) (List ο)
  /-- The items afterwards. -/
  items : List ι
  /-- The shared state afterwards. -/
  state : σ
  /-- What the stage said. -/
  messages : List Message

namespace Report

/-- A list of outputs after a stage that appends its own to it: unchanged if the stage fails. -/
def appendTo (sink : List ο) (r : Report ε σ ι ο) : List ο :=
  match r.outcome with
  | .ok outputs => sink ++ outputs
  | .error _ => sink

end Report

/-- A stage: its name, the number of its workers, and how each worker handles an item. -/
structure Stage (ε σ ι ο : Type) where
  /-- The name by which messages speak of it. -/
  name : String
  /-- The number of workers asked for. -/
  workers : Nat
  /-- How a worker handles an item. -/
  handle : Nat → ι → σ → Handled ε σ ι ο
  /-- The size of the record that is kept for each worker, in bytes. -/
  recordSize : Nat := 8

/-- The number of bytes that the records of a stage may take up in all. -/
def recordSpace : Nat :=
  0x7fffffffffffffff

namespace Stage

/-- There is room for a record of every worker. -/
def hasRoom (stage : Stage ε σ ι ο) : Bool :=
  stage.workers * stage.recordSize ≤ recordSpace

/-- The number of workers that get a shard: not more than there are items, but at least one. -/
def threads (stage : Stage ε σ ι ο) (items : List ι) : Nat :=
  max 1 (min stage.workers items.length)

/-- The outputs of shards in order, or the fault of the first one that failed. -/
def collect : List (ShardReport ε ι ο) → Except (Fault ε) (List ο)
  | [] => .ok []
  | report :: reports =>
    match report.fault with
    | some fault => .error fault
    | none => (collect reports).map (report.outputs ++ ·)

/-- Runs a stage with its shards in some order. -/
def runIn (order : List Nat) (stage : Stage ε σ ι ο) (items : List ι) (state : σ) :
    Report ε σ ι ο :=
  let (reports, after) := runShards stage.handle (partition items (stage.threads items)) order state
  let reports' := (List.range (stage.threads items)).filterMap (List.lookup · reports)
  let outcome := collect reports'
  let start := ⟨.info, stage.name ++ " (threads: " ++ (stage.threads items).repr ++ ")"⟩
  let notes := (reports.flatMap (·.2.notes)).map fun note => ⟨.debug, note⟩
  let finish : List Message :=
    match outcome with
    | .error _ => []
    | .ok _ =>
      let processed := (reports'.map (·.processed)).foldl (· + ·) 0
      [⟨.debug, stage.name ++ ": processed " ++ processed.repr ++ "/" ++ items.length.repr
          ++ " items"⟩,
        ⟨.info, stage.name ++ ": finished"⟩]
  { outcome
    items := reports'.flatMap (·.items)
    state := after
    messages := start :: notes ++ finish }

/-- Runs a stage on a list of items; a stage without workers fails at once. -/
def run (stage : Stage ε σ ι ο) (items : List ι) (state : σ) : Report ε σ ι ο :=
  if stage.workers = 0 then
    { outcome := .error .noWorkers, items, state, messages := [] }
  else stage.runIn (List.range (stage.threads items)) items state

end Stage

/-! ## Stages without a shared state -/

/-- The handling of an item that only gives outputs. -/
def Handled.pure (item : ι) (outputs : List ο) : Handled ε Unit ι ο :=
  { ending := .done outputs, item, state := () }

end MutationTesting.Workers
