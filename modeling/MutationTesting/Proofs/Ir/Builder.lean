import Mathlib.Algebra.Group.Nat.Defs
import Mathlib.Data.List.Induction
import Mathlib.Data.List.Nodup
import MutationTesting.Ir.Builder
import MutationTesting.Proofs.Ir.Function

/-!
# What a builder builds

A builder remembers a few things between its steps: the block, the location and the file that were
set last, and the next unused register. Here they are read off the steps instead, looking back from
the newest one. What a step does to the function then follows from the steps before it alone.

* `Builder.Command.action?` — the action that a step emits
* `Builder.blockSet`, `Builder.locationSet` — what the steps before have set last
* `Builder.StepOf` — what a step does to the function, and what it answers
* `Builder.Reached.perform` — **the invariant of a builder is kept by one step**
* `Builder.builds_fresh` — every register is written by one instruction, and every step only adds
-/

namespace MutationTesting

/-! ## Registers that are written -/

/-- The register that an action writes. -/
def Action.dst? : Action → Option UInt32
  | .binary dst _ _ _ => some dst
  | .call dst _ _ => dst
  | .dispatch dst _ _ => some dst
  | _ => none

namespace Function

/-- The registers that the actions of a function write. -/
def destinations (f : Function) : List UInt32 :=
  f.actions.filterMap (·.dst?)

theorem actions_append_block (blocks : List Block) (f : Function) :
    ({ f with blocks := f.blocks ++ blocks } : Function).actions
      = f.actions ++ blocks.flatMap fun b => b.instructions.map (·.action) :=
  List.flatMap_append

/-- An instruction at the end of a block adds its action to those of the function. -/
theorem actions_modifyBlock_concat {f : Function} {block : Nat} (h : block < f.blocks.length)
    (i : Instruction) :
    (f.modifyBlock block (· ++ [i])).actions.Perm (i.action :: f.actions) := by
  obtain ⟨front, b, back, hblocks, -, hmodify⟩ :=
    List.exists_of_modify (fun b : Block => ⟨b.instructions ++ [i]⟩) h
  unfold modifyBlock actions
  dsimp only
  rw [hmodify, hblocks]
  simp only [List.flatMap_append, List.flatMap_cons, List.map_append, List.map_cons, List.map_nil,
    List.append_assoc, List.cons_append, List.nil_append]
  rw [← List.append_assoc, ← List.append_assoc _ _ (List.flatMap _ _)]
  exact List.perm_middle

/-- An instruction at the end of a block writes its register besides those written before. -/
theorem destinations_modifyBlock_concat {f : Function} {block : Nat}
    (h : block < f.blocks.length) (i : Instruction) :
    (f.modifyBlock block (· ++ [i])).destinations.Perm
      (i.action.dst?.toList ++ f.destinations) := by
  have hperm := (actions_modifyBlock_concat h i).filterMap Action.dst?
  unfold destinations
  rw [List.filterMap_cons] at hperm
  cases hdst : i.action.dst? <;> simpa [hdst] using hperm

end Function

namespace Builder

/-! ## Looking back -/

namespace Command

/-- The action that a step emits, if this is the next unused register. -/
def action? (next : UInt32) : Command → Option Action
  | .binary op lhs rhs => some (.binary next op lhs rhs)
  | .call callee args => some (.call (some next) callee args)
  | .callVoid callee args => some (.call none callee args)
  | .dispatch trampoline args => some (.dispatch next trampoline args)
  | .print value => some (.print value)
  | .jump target => some (.jump target)
  | .branch cond thenBlock elseBlock => some (.branch cond thenBlock elseBlock)
  | .ret value => some (.ret value)
  | _ => none

/-- The step takes a register: it is an operator, a call with a result or a dispatch. -/
def allocates : Command → Bool
  | .binary _ _ _ => true
  | .call _ _ => true
  | .dispatch _ _ => true
  | _ => false

end Command

/-- The block that was switched to last, the newest step standing in front. -/
def blockSet : List Command → Nat
  | [] => 0
  | .switchTo block :: _ => block
  | _ :: earlier => blockSet earlier

/-- The file of the function that was set last. -/
def fileSet : List Command → String
  | [] => ""
  | .located file _ _ :: _ => file
  | _ :: earlier => fileSet earlier

/-- The location that was set last, in the file that the function had then. -/
def locationSet : List Command → Option Location
  | [] => none
  | .at line column :: earlier => some ⟨fileSet earlier, line, column⟩
  | .withoutLocation :: _ => none
  | _ :: earlier => locationSet earlier

/-- How many registers the steps have taken. -/
def taken (steps : List Command) : Nat :=
  steps.countP Command.allocates

/-- How many blocks there are after the steps. -/
def blocksOpen (steps : List Command) : Nat :=
  steps.count .block + 1

/-- Every step that switches names a block that exists by then. -/
def SwitchesInside (steps : List Command) : Prop :=
  ∀ before block after, steps = before ++ .switchTo block :: after → block < blocksOpen before

/-- The block that a step switches to. -/
def Command.target? : Command → Option Nat
  | .switchTo index => some index
  | _ => none

theorem Command.target?_eq_some_iff {c : Command} {index : Nat} :
    c.target? = some index ↔ c = .switchTo index := by
  cases c <;> simp [target?]

theorem switchesInside_iff {steps : List Command} :
    SwitchesInside steps ↔ ∀ i < steps.length, ∀ block ∈ steps[i]?.bind Command.target?,
      block < blocksOpen (steps.take i) := by
  constructor
  · intro h i hi block hblock
    rw [List.getElem?_eq_getElem hi, Option.bind_some, Option.mem_def,
      Command.target?_eq_some_iff] at hblock
    refine h (steps.take i) block (steps.drop (i + 1)) ?_
    rw [← hblock, List.getElem_cons_drop, List.take_append_drop]
  · rintro h before block after rfl
    have hat := h before.length (by simp) block
    rw [List.take_left, List.getElem?_append_right (Nat.le_refl _), Nat.sub_self] at hat
    exact hat rfl

instance (steps : List Command) : Decidable (SwitchesInside steps) :=
  decidable_of_iff _ switchesInside_iff.symm

/-! ## One step -/

/-- What a step does to a function `f`, the steps of `history` having been carried out before, the
newest standing in front. -/
structure StepOf (history : List Command) (c : Command) (f f' : Function) (reply : Reply) :
    Prop where
  /-- A step that emits an action appends one instruction to the block switched to last, at the
  location set last, and changes nothing else; it answers the register that the instruction writes,
  if it writes one. -/
  emits : ∀ action, c.action? (.ofNat (taken history)) = some action →
    (∃ is, f.blocks[blockSet history]? = some ⟨is⟩ ∧ f' = { f with
      blocks := f.blocks.set (blockSet history) ⟨is ++ [⟨action, locationSet history⟩]⟩ }) ∧
    reply = action.dst?.elim .done fun dst => .value (.register dst)
  /-- A step that takes a register takes the next one. -/
  takes : c.allocates → ∃ action, c.action? (.ofNat (taken history)) = some action ∧
    action.dst? = some (.ofNat (taken history))
  /-- A new block is empty and stands behind all others, and its index is answered. -/
  opens : c = .block → f' = { f with blocks := f.blocks ++ [⟨[]⟩] } ∧
    reply = .block f.blocks.length ∧ f'.blocks[f.blocks.length]? = some ⟨[]⟩
  /-- Every other step leaves all instructions alone and answers nothing. -/
  sets : c.action? (.ofNat (taken history)) = none → c ≠ .block →
    f'.blocks = f.blocks ∧ reply = .done

/-- What a builder remembers after the steps of `history`, the newest standing in front. -/
structure Reached (history : List Command) (b : Builder) : Prop where
  current : b.current = blockSet history
  file : (b.function.location.map (·.file)).getD "" = fileSet history
  location : b.location = locationSet history
  next : b.next = .ofNat (taken history)
  blocks : b.function.blocks.length = blocksOpen history
  inside : b.current < b.function.blocks.length
  registers : (b.function.destinations.map UInt32.toNat).Perm (List.range (taken history))

theorem reached_start (name : String) (params : UInt32) : Reached [] (start name params) where
  current := rfl
  file := rfl
  location := rfl
  next := rfl
  blocks := rfl
  inside := Nat.zero_lt_one
  registers := .nil

/-! ### Steps that emit -/

namespace Command

variable {next : UInt32} {c : Command} {action : Action}

/-- The register that a step takes is the one that its action writes. -/
theorem dst?_of_action (h : c.action? next = some action) :
    action.dst? = if c.allocates then some next else none := by
  cases c <;> cases h <;> rfl

/-- Whether a step emits does not depend on the next register, and one that does not takes none. -/
theorem quiet_of_no_action (h : c.action? next = none) (next' : UInt32) :
    c.action? next' = none ∧ c.allocates = false := by
  cases c <;> first | exact ⟨rfl, rfl⟩ | cases h

/-- A step that emits sets nothing. -/
theorem sets_nothing_of_action (h : c.action? next = some action) (history : List Command) :
    blockSet (c :: history) = blockSet history ∧ fileSet (c :: history) = fileSet history ∧
      locationSet (c :: history) = locationSet history ∧
      blocksOpen (c :: history) = blocksOpen history := by
  cases c <;> cases h <;> exact ⟨rfl, rfl, rfl, by simp [blocksOpen]⟩

end Command

/-- A step that emits, in a block that exists. -/
theorem perform?_of_action {b : Builder} {c : Command} {action : Action}
    (hinside : b.current < b.function.blocks.length) (h : c.action? b.next = some action) :
    b.perform? c = some ({ b with
      function := b.function.modifyBlock b.current (· ++ [⟨action, b.location⟩])
      next := if c.allocates then b.next + 1 else b.next },
      action.dst?.elim .done fun dst => .value (.register dst)) := by
  cases c <;> cases h <;>
    simp [perform?, perform?.done, perform?.valued, emit?, emitResult?, hinside,
      Command.allocates, Action.dst?]

theorem taken_cons (c : Command) (history : List Command) :
    taken (c :: history) = taken history + if c.allocates then 1 else 0 :=
  List.countP_cons

namespace Reached

variable {history : List Command} {b : Builder} {c : Command}

/-- A step that emits keeps the invariant: it writes no register but the next one. -/
theorem emit (h : Reached history b) {action : Action}
    (haction : c.action? b.next = some action) (hroom : taken (c :: history) < 2 ^ 32) :
    Reached (c :: history) { b with
      function := b.function.modifyBlock b.current (· ++ [⟨action, b.location⟩])
      next := if c.allocates then b.next + 1 else b.next } := by
  obtain ⟨hblock, hfile, hlocation, hopen⟩ := Command.sets_nothing_of_action haction history
  have hlength : (b.function.modifyBlock b.current (· ++ [⟨action, b.location⟩])).blocks.length
      = b.function.blocks.length := List.length_modify ..
  have hperm := Function.destinations_modifyBlock_concat h.inside ⟨action, b.location⟩
  replace hperm := hperm.map UInt32.toNat
  rw [Command.dst?_of_action haction] at hperm
  rw [taken_cons] at hroom
  refine ⟨hblock ▸ h.current, hfile ▸ h.file, hlocation ▸ h.location, ?_, ?_, ?_, ?_⟩
  · rw [taken_cons, h.next]
    split
    · exact (UInt32.ofNat_add _ _).symm
    · rfl
  · rw [hlength, hopen]
    exact h.blocks
  · rw [hlength]
    exact h.inside
  · refine hperm.trans ?_
    rw [taken_cons]
    split
    · next hallocates =>
      rw [if_pos hallocates] at hroom
      have hnext : b.next.toNat = taken history := by
        rw [h.next]
        exact UInt32.toNat_ofNat_of_lt' (Nat.lt_of_succ_lt hroom)
      rw [List.range_succ]
      simp only [Option.toList_some, List.cons_append, List.nil_append, List.map_cons, hnext]
      exact (h.registers.cons _).trans (List.perm_append_singleton _ _).symm
    · exact h.registers

/-- What an emitting step does, said of the steps before it. -/
theorem stepOf_emit (h : Reached history b) {action : Action}
    (haction : c.action? b.next = some action) :
    StepOf history c b.function (b.function.modifyBlock b.current (· ++ [⟨action, b.location⟩]))
      (action.dst?.elim .done fun dst => .value (.register dst)) := by
  rw [h.next] at haction
  refine ⟨fun action' haction' => ?_, fun hallocates => ⟨action, haction, ?_⟩, ?_, ?_⟩
  · obtain rfl := Option.some.inj (haction.symm.trans haction')
    obtain ⟨is, hblock⟩ : ∃ is, b.function.blocks[b.current]? = some ⟨is⟩ :=
      ⟨_, List.getElem?_eq_getElem h.inside⟩
    refine ⟨⟨is, h.current ▸ hblock, ?_⟩, rfl⟩
    rw [Function.modifyBlock_eq_set hblock, h.current, h.location]
  · rw [Command.dst?_of_action haction, if_pos hallocates]
  · rintro rfl
    cases haction
  · intro hnone
    rw [hnone] at haction
    cases haction

/-! ### Steps that emit nothing -/

/-- A step that emits nothing takes no register. -/
theorem taken_of_no_action {next : UInt32} (h : c.action? next = none) :
    taken (c :: history) = taken history := by
  rw [taken_cons, (Command.quiet_of_no_action h next).2]
  rfl

/-- What a new block is, said of the steps before it. -/
theorem stepOf_block (f : Function) :
    StepOf history .block f { f with blocks := f.blocks ++ [⟨[]⟩] } (.block f.blocks.length) where
  emits _ h := by cases h
  takes h := by cases h
  opens _ := ⟨rfl, rfl, List.getElem?_concat_length⟩
  sets _ h := absurd rfl h

theorem stepOf_set {f f' : Function} {next : UInt32} (h : c.action? next = none)
    (hne : c ≠ .block) (hblocks : f'.blocks = f.blocks) : StepOf history c f f' .done where
  emits action haction := by
    rw [(Command.quiet_of_no_action h _).1] at haction
    cases haction
  takes hallocates := by
    rw [(Command.quiet_of_no_action h next).2] at hallocates
    cases hallocates
  opens hblock := absurd hblock hne
  sets _ _ := ⟨hblocks, rfl⟩

/-- A new block adds no instruction. -/
theorem block (h : Reached history b) :
    Reached (.block :: history)
      { b with function := { b.function with blocks := b.function.blocks ++ [⟨[]⟩] } } where
  current := h.current
  file := h.file
  location := h.location
  next := h.next
  blocks := by
    rw [List.length_append, h.blocks, blocksOpen, blocksOpen, List.count_cons_self]
    rfl
  inside := Nat.lt_of_lt_of_le h.inside (by simp)
  registers := by
    rw [Function.destinations, Function.actions_append_block, List.flatMap_cons, List.flatMap_nil,
      List.map_nil, List.append_nil, List.append_nil]
    exact h.registers

/-- **A step keeps the invariant**, provided that there is a register left for it and that it does
not switch to a block that does not exist. -/
theorem perform (h : Reached history b) (hroom : taken (c :: history) < 2 ^ 32)
    (hswitch : ∀ block, c = .switchTo block → block < blocksOpen history) :
    ∃ b' reply, b.perform? c = some (b', reply) ∧ Reached (c :: history) b' ∧
      StepOf history c b.function b'.function reply := by
  cases haction : c.action? b.next with
  | some action =>
    exact ⟨_, _, perform?_of_action h.inside haction, h.emit haction hroom, h.stepOf_emit haction⟩
  | none =>
    have htaken : taken (c :: history) = taken history := taken_of_no_action haction
    have hopen : c ≠ .block → blocksOpen (c :: history) = blocksOpen history := by
      intro hne
      rw [blocksOpen, List.count_cons_of_ne hne, blocksOpen]
    cases c with
    | block => exact ⟨_, _, rfl, h.block, stepOf_block b.function⟩
    | located file line column =>
      refine ⟨_, _, rfl, ⟨h.current, rfl, h.location, htaken ▸ h.next, ?_, h.inside, ?_⟩,
        stepOf_set haction (by simp) rfl⟩
      · exact h.blocks.trans (hopen (by simp)).symm
      · exact htaken ▸ h.registers
    | «at» line column =>
      refine ⟨_, _, rfl, ⟨h.current, h.file, ?_, htaken ▸ h.next, ?_, h.inside, ?_⟩,
        stepOf_set haction (by simp) rfl⟩
      · show some (Location.mk _ line column) = some ⟨fileSet history, line, column⟩
        rw [← h.file]
      · exact h.blocks.trans (hopen (by simp)).symm
      · exact htaken ▸ h.registers
    | withoutLocation =>
      refine ⟨_, _, rfl, ⟨h.current, h.file, rfl, htaken ▸ h.next, ?_, h.inside, ?_⟩,
        stepOf_set haction (by simp) rfl⟩
      · exact h.blocks.trans (hopen (by simp)).symm
      · exact htaken ▸ h.registers
    | switchTo block =>
      have hlt : block < blocksOpen history := hswitch block rfl
      refine ⟨_, _, rfl, ⟨rfl, h.file, h.location, htaken ▸ h.next, ?_, ?_, ?_⟩,
        stepOf_set haction (by simp) rfl⟩
      · exact h.blocks.trans (hopen (by simp)).symm
      · exact h.blocks ▸ hlt
      · exact htaken ▸ h.registers
    | _ => cases haction

end Reached

/-! ## Runs of steps -/

theorem SwitchesInside.of_append {before after : List Command}
    (h : SwitchesInside (before ++ after)) : SwitchesInside before := by
  rintro front block back rfl
  exact h front block (back ++ after) (by simp)

theorem taken_le_append (before after : List Command) : taken before ≤ taken (before ++ after) := by
  rw [taken, taken, List.countP_append]
  exact Nat.le_add_right _ _

theorem taken_reverse (steps : List Command) : taken steps.reverse = taken steps :=
  List.countP_reverse

theorem blocksOpen_reverse (steps : List Command) :
    blocksOpen steps.reverse = blocksOpen steps := by
  rw [blocksOpen, List.count_reverse, blocksOpen]

/-- The invariant is kept by the step behind the first ones of a run. -/
theorem Reached.perform_next {before after : List Command} {c : Command} {b : Builder}
    (h : Reached before.reverse b) (hswitch : SwitchesInside (before ++ c :: after))
    (hroom : taken (before ++ c :: after) < 2 ^ 32) :
    ∃ b' reply, b.perform? c = some (b', reply) ∧ Reached (before ++ [c]).reverse b' ∧
      StepOf before.reverse c b.function b'.function reply := by
  rw [List.reverse_concat]
  refine h.perform ?_ ?_
  · rw [← List.reverse_concat, taken_reverse]
    rw [List.append_cons] at hroom
    exact Nat.lt_of_le_of_lt (taken_le_append _ after) hroom
  · rintro block rfl
    rw [blocksOpen_reverse]
    exact hswitch before block after rfl

theorem run?_cons (b : Builder) (c : Command) (steps : List Command) :
    b.run? (c :: steps) = (b.perform? c).bind fun p =>
      (p.1.run? steps).map fun r => (r.1, p.2 :: r.2) := by
  rw [run?]
  cases b.perform? c with
  | none => rfl
  | some p => cases hrun : p.1.run? steps <;> simp [hrun]

/-- Steps behind others start from the builder that those have come to. -/
theorem run?_append (b : Builder) (before after : List Command) :
    b.run? (before ++ after) = (b.run? before).bind fun p =>
      (p.1.run? after).map fun r => (r.1, p.2 ++ r.2) := by
  induction before generalizing b with
  | nil => simp [run?]
  | cons c before ih =>
    rw [List.cons_append, run?_cons, run?_cons, Option.bind_assoc]
    congr 1
    funext p
    rw [ih, Option.bind_map, Option.map_bind]
    congr 1
    funext q
    simp only [Function.comp_apply, Option.map_map]
    rfl

/-- Every step has an answer. -/
theorem length_of_run? {b b' : Builder} {steps : List Command} {replies : List Reply}
    (h : b.run? steps = some (b', replies)) : replies.length = steps.length := by
  induction steps generalizing b replies with
  | nil =>
    obtain ⟨rfl, rfl⟩ := Prod.mk.inj (Option.some.inj h)
    rfl
  | cons c steps ih =>
    rw [run?_cons, Option.bind_eq_some_iff] at h
    obtain ⟨⟨b₁, reply⟩, -, h⟩ := h
    obtain ⟨⟨b₂, rest⟩, hrest, h⟩ := Option.map_eq_some_iff.mp h
    obtain ⟨rfl, rfl⟩ := Prod.mk.inj h
    rw [List.length_cons, List.length_cons, ih hrest]

/-- **A run of steps keeps the invariant.** The induction takes the last step off. -/
theorem exists_run (name : String) (params : UInt32) {steps : List Command}
    (hswitch : SwitchesInside steps) (hroom : taken steps < 2 ^ 32) :
    ∃ b replies, (start name params).run? steps = some (b, replies) ∧
      Reached steps.reverse b := by
  induction steps using List.reverseRecOn with
  | nil => exact ⟨_, _, rfl, reached_start name params⟩
  | append_singleton before c ih =>
    obtain ⟨b, replies, hrun, hreached⟩ :=
      ih hswitch.of_append (Nat.lt_of_le_of_lt (taken_le_append before [c]) hroom)
    obtain ⟨b', reply, hstep, hreached', -⟩ := hreached.perform_next hswitch hroom
    refine ⟨b', replies ++ [reply], ?_, hreached'⟩
    rw [run?_append, hrun]
    simp [hstep, run?]

/-- **A builder uses every register once and only ever adds.** After any steps that switch only to
blocks that exist and take fewer registers than there are, the registers written in the function are
the first ones, each of them once and as many as there are operators, calls with a result and
dispatches among the steps. And at whatever step one looks: it is carried out on the function that
the steps before it have built, and it does to it what it has to do, at the block and the location
that were set last. -/
theorem builds_fresh (name : String) (params : UInt32) {steps : List Command}
    (hswitch : SwitchesInside steps) (hroom : taken steps < 2 ^ 32) :
    ∃ b replies, (start name params).run? steps = some (b, replies) ∧
      b.function.destinations.Nodup ∧
      (∀ register, register ∈ b.function.destinations ↔ register.toNat < taken steps) ∧
      replies.length = steps.length ∧
      ∀ before c after, steps = before ++ c :: after →
        ∃ b₀ replies₀ b₁ reply, (start name params).run? before = some (b₀, replies₀) ∧
          b₀.perform? c = some (b₁, reply) ∧ replies[before.length]? = some reply ∧
          StepOf before.reverse c b₀.function b₁.function reply := by
  obtain ⟨b, replies, hrun, hreached⟩ := exists_run name params hswitch hroom
  have hregisters := hreached.registers
  rw [taken_reverse] at hregisters
  refine ⟨b, replies, hrun, ?_, fun register => ?_, length_of_run? hrun, ?_⟩
  · exact List.Nodup.of_map _ (hregisters.nodup_iff.mpr List.nodup_range)
  · rw [← List.mem_range, ← hregisters.mem_iff, List.mem_map]
    constructor
    · exact fun hmem => ⟨register, hmem, rfl⟩
    · rintro ⟨register', hmem, hsame⟩
      exact UInt32.toNat_inj.mp hsame ▸ hmem
  · rintro before c after rfl
    obtain ⟨b₀, replies₀, hbefore, hreached₀⟩ := exists_run name params hswitch.of_append
      (Nat.lt_of_le_of_lt (taken_le_append before (c :: after)) hroom)
    obtain ⟨b₁, reply, hstep, -, hdoes⟩ := hreached₀.perform_next hswitch hroom
    refine ⟨b₀, replies₀, b₁, reply, hbefore, hstep, ?_, hdoes⟩
    -- the answer stands behind those of the steps before
    rw [run?_append, hbefore, Option.bind_some, run?_cons, hstep, Option.bind_some,
      Option.map_map, Option.map_eq_some_iff] at hrun
    obtain ⟨rest, -, hrun⟩ := hrun
    obtain ⟨-, rfl⟩ := Prod.mk.inj hrun
    rw [← length_of_run? hbefore]
    exact List.getElem?_append_right (Nat.le_refl _) |>.trans (by simp)

/-- Steps that build a function of three blocks, with a location from its second block on. -/
def larger : List Command :=
  [.located "larger.c" 1 1, .binary .gt (.parameter 0) (.parameter 1), .block, .block,
    .branch (.register 0) 1 2, .switchTo 2, .at 3 5, .call "note" [.parameter 1],
    .ret (.register 1), .switchTo 1, .dispatch "pick" [.parameter 0], .ret (.register 2)]

/-- The registers are used in the order of the steps and not of the blocks. -/
theorem larger_builds_fresh :
    SwitchesInside larger ∧ taken larger < 2 ^ 32 ∧
    ∃ b replies, (start "larger" 2).run? larger = some (b, replies) ∧
      b.function.destinations = [0, 2, 1] ∧
      ∀ register, register ∈ b.function.destinations ↔ register.toNat < 3 := by
  have hswitch : SwitchesInside larger := by decide
  have hroom : taken larger < 2 ^ 32 := by decide
  obtain ⟨b, replies, hrun, -, hregisters, -⟩ := builds_fresh "larger" 2 hswitch hroom
  refine ⟨hswitch, hroom, b, replies, hrun, ?_, hregisters⟩
  cases hrun
  rfl

end Builder

end MutationTesting
