import MutationTesting.Proofs.Campaign.Steps
import MutationTesting.Proofs.Synthesis.InPlace

/-!
# Mutants run as they should

What a program with mutants does, said about the program alone.

* `Synthesis.Succeeds.runs_as_in_place` — with one point selected it runs as the program that is
  mutated in place, and with none as the program itself, as long as calls have as many arguments as
  they should
* `Synthesis.Succeeds.keeps_value_iff` — without a selected point a run of the program is kept
  exactly if it is left enough depth when every call of a mutated function takes two levels
* `Synthesis.Succeeds.transparent_iff` — whatever the arguments are, a call is kept exactly if it
  ends alike when mutated functions are passed exactly their parameters
-/

namespace MutationTesting

open Machine (load)

/-- The main function of a machine runs as the one of another machine, names being read through
`back`: alike unless it overflows, and alike whenever 512 levels are enough for the other one. -/
structure Machine.RunsAs (s b : Machine) (back : String → String) (args : List Int64) : Prop where
  of_ends : ∀ o, s.Ends "main" args 0 o → ¬ o.Overflows → b.Ends "main" args 0 (o.rename back)
  exists_ends : ∀ o, b.Ends "main" args 0 o → b.NestsWithin .direct 512 "main" args →
    ∃ o', s.Ends "main" args 0 o' ∧ o'.rename back = o

theorem Machine.Redirects.runsAs {s b : Machine} {names : List String} {back : String → String}
    (h : s.Redirects b names back) (hmain : ∃ f, b.body? "main" = some f) (hfit : b.CallsFit names)
    {args : List Int64} (hargs : b.Fits names "main" args.length) : s.RunsAs b back args where
  of_ends := fun _ ho hover => h.ends_of_fits hfit hmain hargs ho hover
  exists_ends := fun _ ho hnests => h.ends_of_nestsWithin hfit hmain hargs ho hnests (by decide)

variable {mutators : List Mutator} {modules others built : List Module} {points : List Point}
  {baseline mutated : Image}

namespace Synthesis.Succeeds

/-! ## Calls that fit -/

/-- **With one point selected, a program with mutants runs as the program that is mutated in place;
with none selected, it runs as the program itself.** -/
theorem runs_as_in_place (h : Succeeds mutators modules others built points baseline mutated)
    (hfit : baseline.CallsFit (pointNames points)) (args : List Int64)
    (hargs : baseline.Fits (pointNames points) "main" args.length) :
    (∀ p ∈ points, ∃ inPlace, baseline.mutate mutators p = .ok inPlace ∧
      ∀ isSet : String → Bool, isSet p.selector = true →
        (∀ q ∈ points, q ≠ p → isSet q.selector = false) →
        (load mutated isSet).RunsAs (load inPlace isSet) (readBack points) args) ∧
      ∀ isSet : String → Bool, (∀ p ∈ points, isSet p.selector = false) →
        (load mutated isSet).RunsAs (load baseline isSet) (readBack points) args := by
  constructor
  · intro p hp
    obtain ⟨f, g, hf, hname, hg, hinPlace⟩ := h.exists_mutate hp
    have hedit := h.mutate_editOf hf hname hg
    refine ⟨_, hinPlace, fun isSet hset hothers => ?_⟩
    exact (h.redirects_mutated hp hset hothers hf hname hg).runsAs (h.exists_main_edit hedit)
      (h.callsFit_edit hedit hfit) (h.fits_edit hedit hargs)
  · intro isSet hnone
    exact (h.redirects_unmutated hnone).runsAs h.exists_main (h.callsFit hfit) (h.fits hargs)

end Synthesis.Succeeds

/-! ### The dozens of a total -/

namespace Dozens

open Synthesis

/-- The total of the numbers up to its argument, which are printed on the way. -/
def total : Function where
  name := "total"
  params := 1
  blocks := [
    ⟨[⟨.binary 0 .eq (.parameter 0) (.constant 0), none⟩, ⟨.branch (.register 0) 1 2, none⟩]⟩,
    ⟨[⟨.ret (.constant 0), none⟩]⟩,
    ⟨[⟨.print (.parameter 0), none⟩,
      ⟨.binary 1 .sub (.parameter 0) (.constant 1), none⟩,
      ⟨.call (some 2) "total" [.register 1], none⟩,
      ⟨.binary 3 .add (.parameter 0) (.register 2), none⟩,
      ⟨.ret (.register 3), none⟩]⟩]

def dozens : Function where
  name := "dozens"
  params := 1
  blocks := [⟨[⟨.binary 0 .mul (.constant 12) (.parameter 0), none⟩, ⟨.ret (.register 0), none⟩]⟩]

/-- Twelve times what the total of three numbers has beyond six, which is nothing. -/
def main : Function where
  name := "main"
  params := 0
  blocks := [⟨[⟨.call (some 0) "total" [.constant 3], none⟩,
    ⟨.binary 1 .sub (.register 0) (.constant 6), none⟩,
    ⟨.call (some 2) "dozens" [.register 1], none⟩,
    ⟨.ret (.register 2), none⟩]⟩]

def unit : Module where
  name := "dozens"
  sourceFile := "dozens.c"
  functions := [main, total, dozens]

/-- The point at which the total subtracts. -/
def inTotal : Point where
  mutator := "cxx_add_to_sub"
  function := ⟨0, "total"⟩
  address := ⟨2, 3⟩
  replacement := "Replaced + with -"

/-- The point at which twelve is divided. -/
def inDozens : Point where
  mutator := "cxx_mul_to_div"
  function := ⟨0, "dozens"⟩
  address := ⟨0, 0⟩
  replacement := "Replaced * with /"

/-- The point at which the main function adds. -/
def inMain : Point where
  mutator := "cxx_sub_to_add"
  function := ⟨0, "main"⟩
  address := ⟨0, 1⟩
  replacement := "Replaced - with +"

def allPoints : List Point :=
  [inTotal, inDozens, inMain]

def subtracting : Function :=
  total.setInstruction ⟨2, 3⟩ ⟨.binary 3 .sub (.parameter 0) (.register 2), none⟩

def dividing : Function :=
  dozens.setInstruction ⟨0, 0⟩ ⟨.binary 0 .div (.constant 12) (.parameter 0), none⟩

def adding : Function :=
  main.setInstruction ⟨0, 1⟩ ⟨.binary 1 .add (.register 0) (.constant 6), none⟩

def unitWithMutants : Module where
  name := "dozens"
  sourceFile := "dozens.c"
  functions := [main.stub, total.stub, dozens.stub, total.rename (Point.unmutatedName "total"),
    dozens.rename (Point.unmutatedName "dozens"), main.rename (Point.unmutatedName "main"),
    subtracting.rename inTotal.mutantName, dividing.rename inDozens.mutantName,
    adding.rename inMain.mutantName]
  trampolines := [trampolineOf [inTotal] "total", trampolineOf [inDozens] "dozens",
    trampolineOf [inMain] "main"]
  mutations := allPoints

def program : Image where
  functions := unit.functions

def programWithMutants : Image where
  functions := unitWithMutants.functions
  trampolines := unitWithMutants.trampolines

/-- The program in which the total subtracts. -/
def programSubtracting : Image where
  functions := [main, subtracting, dozens]

/-- The program in which twelve is divided. -/
def programDividing : Image where
  functions := [main, total, dividing]

def campaign : Campaign where
  config := { executable := "tests", workers := 2 }
  filters := {}
  mutators := Catalogue.mutators
  workDir := "mutants"
  runner := "runner"

theorem synthesizes :
    (campaign.synthesize allPoints).run { modules := [unit], disk := {}, diagnostics := .silent } =
      (.ok (allPoints.map .markApplied),
        { modules := [unitWithMutants], disk := {}, diagnostics := .silent }) := rfl

theorem succeeds : Succeeds Catalogue.mutators [unit] [] [unitWithMutants] allPoints program
    programWithMutants where
  plain := Catalogue.point_not_mem_id
  distinct := by decide
  fresh := by simp [unit]
  verified := by decide +kernel
  linked := rfl
  noTrampolines := rfl
  builds := (Campaign.builds_of_synthesize synthesizes :)
  builtVerified := by decide +kernel
  builtLinked := by decide +kernel

theorem callsFit : program.CallsFit (pointNames allPoints) := by
  have htotal : program.Fits (pointNames allPoints) "total" 1 := by
    simp [Image.Fits, program, unit, main, total, dozens]
  have hdozens : program.Fits (pointNames allPoints) "dozens" 1 := by
    simp [Image.Fits, program, unit, main, total, dozens]
  intro f hf dst callee operands hcall
  simp only [program, unit, List.mem_cons, List.not_mem_nil, or_false] at hf
  obtain rfl | rfl | rfl := hf
  · obtain ⟨-, rfl, rfl⟩ | ⟨-, rfl, rfl⟩ :
        some 0 = dst ∧ "total" = callee ∧ [.constant 3] = operands ∨
          some 2 = dst ∧ "dozens" = callee ∧ [.register 1] = operands := by
      simpa [Function.actions, main, eq_comm] using hcall
    · exact htotal
    · exact hdozens
  · obtain ⟨-, rfl, rfl⟩ : some 2 = dst ∧ "total" = callee ∧ [.register 1] = operands := by
      simpa [Function.actions, total, eq_comm] using hcall
    exact htotal
  · simp [Function.actions, dozens] at hcall

theorem fits : program.Fits (pointNames allPoints) "main" 0 := by
  simp [Image.Fits, program, unit, main, total, dozens]

theorem mutate_inTotal : program.mutate Catalogue.mutators inTotal = .ok programSubtracting := rfl

theorem mutate_inDozens : program.mutate Catalogue.mutators inDozens = .ok programDividing := rfl

/-- No two points have one selector. -/
theorem selector_beq_false :
    ∀ p ∈ allPoints, ∀ q ∈ allPoints, q ≠ p → (q.selector == p.selector) = false := by
  decide +kernel

theorem subtracting_endsUnder (isSet : String → Bool) :
    (load programSubtracting isSet).EndsUnder .direct 512 "main" [] ⟨.ok (-48), [3, 2, 1]⟩ :=
  Machine.endsUnder_direct_iff.mpr ⟨by simp, 2, rfl⟩

/-- The copy of the function traps, and under its own name. -/
theorem traps : (load programWithMutants (· == inDozens.selector)).Ends "main" [] 0
    ⟨.error (.trap (.divisionByZero inDozens.mutantName)), [3, 2, 1]⟩ :=
  ⟨by simp, 2, Outcome.ext (by decide +kernel) (by decide +kernel)⟩

theorem ends : (load programWithMutants fun _ => false).Ends "main" [] 0 ⟨.ok 0, [3, 2, 1]⟩ :=
  ⟨by simp, 2, rfl⟩

end Dozens

namespace Synthesis.Succeeds

/-- A mutant that gives another value, because the program mutated in place does; a mutant that
traps, and so the program mutated in place traps as well; and the program itself, which gives what it
gives with its mutants built in. -/
theorem dozens_run_as_in_place :
    Succeeds Catalogue.mutators [Dozens.unit] [] [Dozens.unitWithMutants] Dozens.allPoints
      Dozens.program Dozens.programWithMutants ∧
    Dozens.program.CallsFit (pointNames Dozens.allPoints) ∧
    Dozens.program.Fits (pointNames Dozens.allPoints) "main" 0 ∧
    (Dozens.program.mutate Catalogue.mutators Dozens.inTotal = .ok Dozens.programSubtracting ∧
      (load Dozens.programSubtracting (· == Dozens.inTotal.selector)).NestsWithin .direct 512
        "main" [] ∧
      (load Dozens.programWithMutants (· == Dozens.inTotal.selector)).Ends "main" [] 0
        ⟨.ok (-48), [3, 2, 1]⟩) ∧
    (Dozens.program.mutate Catalogue.mutators Dozens.inDozens = .ok Dozens.programDividing ∧
      (load Dozens.programWithMutants (· == Dozens.inDozens.selector)).Ends "main" [] 0
        ⟨.error (.trap (.divisionByZero Dozens.inDozens.mutantName)), [3, 2, 1]⟩ ∧
      (load Dozens.programDividing (· == Dozens.inDozens.selector)).Ends "main" [] 0
        ⟨.error (.trap (.divisionByZero "dozens")), [3, 2, 1]⟩) ∧
    (load Dozens.programWithMutants fun _ => false).Ends "main" [] 0 ⟨.ok 0, [3, 2, 1]⟩ ∧
    (load Dozens.program fun _ => false).Ends "main" [] 0 ⟨.ok 0, [3, 2, 1]⟩ := by
  obtain ⟨hpoints, hnone⟩ := runs_as_in_place Dozens.succeeds Dozens.callsFit [] Dozens.fits
  have hselected : ∀ p ∈ Dozens.allPoints, ∀ image,
      Dozens.program.mutate Catalogue.mutators p = .ok image →
        (load Dozens.programWithMutants (· == p.selector)).RunsAs
          (load image (· == p.selector)) (readBack Dozens.allPoints) [] := by
    intro p hp image himage
    obtain ⟨inPlace, hinPlace, hruns⟩ := hpoints p hp
    obtain rfl := Except.ok.inj (himage.symm.trans hinPlace)
    exact hruns _ (by simp) (Dozens.selector_beq_false p hp)
  have htotal := hselected Dozens.inTotal (by simp [Dozens.allPoints]) _ Dozens.mutate_inTotal
  have hdozens := hselected Dozens.inDozens (by simp [Dozens.allPoints]) _ Dozens.mutate_inDozens
  -- the value is that of the program mutated in place, which needs few levels
  have hover : ¬ Outcome.Overflows ⟨.ok (-48), [3, 2, 1]⟩ := by simp [Outcome.Overflows]
  have hunder := Dozens.subtracting_endsUnder (· == Dozens.inTotal.selector)
  have hnests : (load Dozens.programSubtracting (· == Dozens.inTotal.selector)).NestsWithin .direct
      512 "main" [] := ⟨_, hunder, hover⟩
  obtain ⟨o, ho, hback⟩ := htotal.exists_ends _ (hunder.ends hover (by decide)) hnests
  obtain rfl := Outcome.rename_eq_ok hback
  refine ⟨Dozens.succeeds, Dozens.callsFit, Dozens.fits, ⟨Dozens.mutate_inTotal, hnests, ho⟩,
    ⟨Dozens.mutate_inDozens, Dozens.traps, ?_⟩, Dozens.ends, ?_⟩
  -- the other two endings are those of the program with mutants
  · exact hdozens.of_ends _ Dozens.traps (by simp [Outcome.Overflows])
  · exact (hnone (fun _ => false) fun _ _ => rfl).of_ends _ Dozens.ends
      (by simp [Outcome.Overflows])

/-- Without a selected point, a program with mutants runs as the program does when calls of mutated
functions take two levels. -/
theorem twoLevels_iff (h : Succeeds mutators modules others built points baseline mutated)
    (hfit : baseline.CallsFit (pointNames points)) {isSet : String → Bool}
    (hnone : ∀ p ∈ points, isSet p.selector = false) (args : List Int64) {o : Outcome}
    (hargs : baseline.Fits (pointNames points) "main" args.length) :
    (load baseline isSet).EndsUnder (.twoLevels (pointNames points)) (maxCallDepth - 0)
        "main" args o ↔
      ∃ o', (load mutated isSet).Ends "main" args 0 o' ∧ o'.rename (readBack points) = o :=
  (h.redirects_unmutated hnone).endsUnder_twoLevels_iff (h.callsFit hfit) h.exists_main
    (h.fits hargs)

/-- **Without a selected point, a run that gives a value is kept exactly if it is left enough depth
when every call of a mutated function takes two levels;** otherwise it overflows. -/
theorem keeps_value_iff (h : Succeeds mutators modules others built points baseline mutated)
    (hfit : baseline.CallsFit (pointNames points)) (isSet : String → Bool)
    (hnone : ∀ p ∈ points, isSet p.selector = false) (args : List Int64) {printed : List Int64}
    {value : Int64} (hargs : baseline.Fits (pointNames points) "main" args.length)
    (hends : (load baseline isSet).Ends "main" args 0 ⟨.ok value, printed⟩) :
    ((load mutated isSet).Ends "main" args 0 ⟨.ok value, printed⟩ ↔
      (load baseline isSet).NestsWithin (.twoLevels (pointNames points)) maxCallDepth "main" args) ∧
    (¬ (load baseline isSet).NestsWithin (.twoLevels (pointNames points)) maxCallDepth "main" args →
      ∃ printed', (load mutated isSet).Ends "main" args 0
        ⟨.error (.trap .stackOverflow), printed'⟩) := by
  have hiff := fun o => h.twoLevels_iff (o := o) hfit hnone args hargs
  -- with two levels for each call the run still ends, if only by overflow
  obtain ⟨o, ho, hor⟩ : ∃ o, (load baseline isSet).EndsUnder (.twoLevels (pointNames points))
      maxCallDepth "main" args o ∧ (o = ⟨.ok value, printed⟩ ∨ o.Overflows) :=
    (Machine.ends_iff.mp hends).exists_twoLevels
  constructor
  · constructor
    · intro hmutated
      exact ⟨_, (hiff _).mpr ⟨_, hmutated, rfl⟩, by simp [Outcome.Overflows]⟩
    · rintro ⟨o', ho', hover⟩
      obtain rfl : o' = o := Machine.EndsUnder.unique ho' ho
      obtain rfl := hor.resolve_right hover
      obtain ⟨o'', ho'', hback⟩ := (hiff _).mp ho
      exact Outcome.rename_eq_ok hback ▸ ho''
  · intro hnests
    have hover : o.Overflows := by
      by_contra hover
      exact hnests ⟨o, ho, hover⟩
    obtain ⟨⟨ending, printed'⟩, ho', rfl⟩ := (hiff _).mp ho
    have hending : ending = .error (.trap .stackOverflow) := Outcome.rename_overflows.mp hover
    exact ⟨printed', hending ▸ ho'⟩

end Synthesis.Succeeds

/-! ### A countdown -/

namespace Countdown

open Synthesis

/-- Calls itself with one less until it is called with zero. -/
def down : Function where
  name := "down"
  params := 1
  blocks := [
    ⟨[⟨.binary 0 .eq (.parameter 0) (.constant 0), none⟩, ⟨.branch (.register 0) 1 2, none⟩]⟩,
    ⟨[⟨.ret (.constant 0), none⟩]⟩,
    ⟨[⟨.binary 1 .sub (.parameter 0) (.constant 1), none⟩,
      ⟨.call (some 2) "down" [.register 1], none⟩,
      ⟨.ret (.register 2), none⟩]⟩]

/-- Counts down from 600. -/
def main : Function where
  name := "main"
  params := 0
  blocks := [⟨[⟨.call (some 0) "down" [.constant 600], none⟩, ⟨.ret (.register 0), none⟩]⟩]

def unit : Module where
  name := "deep"
  sourceFile := "deep.c"
  functions := [down, main]

/-- The point at which the countdown goes up instead. -/
def point : Point where
  mutator := "cxx_sub_to_add"
  function := ⟨0, "down"⟩
  address := ⟨2, 0⟩
  replacement := "Replaced - with +"

/-- The countdown that goes up. -/
def up : Function :=
  down.setInstruction ⟨2, 0⟩ ⟨.binary 1 .add (.parameter 0) (.constant 1), none⟩

def unitWithMutants : Module where
  name := "deep"
  sourceFile := "deep.c"
  functions := [down.stub, main, down.rename (Point.unmutatedName "down"),
    up.rename point.mutantName]
  trampolines := [⟨"down", Point.unmutatedName "down", [⟨point.selector, point.mutantName⟩]⟩]
  mutations := [point]

def program : Image where
  functions := unit.functions

def programWithMutants : Image where
  functions := unitWithMutants.functions
  trampolines := unitWithMutants.trampolines

theorem succeeds : Succeeds Catalogue.mutators [unit] [] [unitWithMutants] [point] program
    programWithMutants where
  plain := Catalogue.point_not_mem_id
  distinct := by simp
  fresh := by simp [unit]
  verified := by
    rw [List.forall_mem_singleton]
    rfl
  linked := rfl
  noTrampolines := rfl
  builds := ⟨"", "", "", "", 1, 1, 1, _, _, _, _, ⟨_, rfl, rfl, rfl⟩, ⟨_, rfl, rfl, rfl⟩,
    ⟨_, rfl, rfl, rfl⟩, ⟨_, rfl, rfl, rfl⟩⟩
  builtVerified := by
    rw [List.forall_mem_singleton]
    rfl
  builtLinked := rfl

theorem callsFit : program.CallsFit (pointNames [point]) := by
  simp [Image.CallsFit, Image.Fits, program, unit, main, down, Function.actions, pointNames, point]

theorem fits : program.Fits (pointNames [point]) "main" 0 := by
  simp [Image.Fits, pointNames, point]

/-- One step of the countdown. -/
theorem runBlocks_down (m : Machine) (invoke : String → List Int64 → Run Int64) (n : Int64) :
    Frame.runBlocks m invoke ⟨down, [n]⟩ 2 0 .empty
      = if n = 0 then pure 0 else invoke "down" [n - 1] := by
  by_cases h : n = 0
  · subst h
    rfl
  · simp [Frame.runBlocks, down, Frame.runBlock, Frame.execute, Frame.read, Frame.readAll,
      Operator.evaluate, Operator.truth, h]

/-- Counting down from `n` takes as many levels as a call takes, `n + 1` times. -/
theorem callUnder_down {c : Convention} (hpass : c.pass down = pure) (isSet : String → Bool)
    (n : Nat) (hn : n ≤ 600) : ∀ levels,
      (load program isSet).callUnder c 2 levels "down" [.ofNat n] =
        if (n + 1) * (c.extra down + 1) ≤ levels then pure 0 else Run.trap .stackOverflow := by
  have hbody : (load program isSet).body? "down" = some down := rfl
  induction n with
  | zero =>
    intro levels
    cases levels with
    | zero => rw [Machine.callUnder_zero, if_neg (by omega)]
    | succ levels =>
      rw [Machine.callUnder_succ hbody, hpass, pure_bind, runBlocks_down,
        show Int64.ofNat 0 = 0 from rfl, if_pos rfl]
      split
      · rw [if_neg (by omega)]
      · rw [if_pos (by omega)]
  | succ n ih =>
    intro levels
    -- nothing wraps around
    have hne : Int64.ofNat (n + 1) ≠ 0 := by
      intro h
      have hnat := congrArg Int64.toInt h
      rw [Int64.toInt_ofNat_of_lt (by omega)] at hnat
      simp at hnat
      omega
    have hpred : Int64.ofNat (n + 1) - 1 = Int64.ofNat n := by
      rw [Int64.ofNat_add]
      exact Int64.add_sub_cancel _ _
    have hmul :
        (n + 1 + 1) * (c.extra down + 1) = (n + 1) * (c.extra down + 1) + (c.extra down + 1) :=
      Nat.succ_mul _ _
    cases levels with
    | zero =>
      rw [Machine.callUnder_zero, if_neg (by omega)]
    | succ levels =>
      rw [Machine.callUnder_succ hbody, hpass, pure_bind, runBlocks_down, if_neg hne, hpred,
        ih (by omega), hmul]
      by_cases hlevels : levels < c.extra down
      · rw [if_pos hlevels, if_neg (by omega)]
      · rw [if_neg hlevels]
        by_cases hle : (n + 1) * (c.extra down + 1) ≤ levels - c.extra down
        · rw [if_pos hle, if_pos (by omega)]
        · rw [if_neg hle, if_neg (by omega)]

/-- The main function takes a level and then counts down. -/
theorem callUnder_main {c : Convention} (hpass : c.pass = fun _ args => pure args)
    (hextra : c.extra main = 0) (isSet : String → Bool) (levels : Nat) :
    (load program isSet).callUnder c 2 (levels + 1) "main" [] =
      if 601 * (c.extra down + 1) ≤ levels then pure 0 else Run.trap .stackOverflow := by
  have hbody : (load program isSet).body? "main" = some main := rfl
  have hmain : Frame.runBlocks (load program isSet) ((load program isSet).callUnder c 2 levels)
      ⟨main, []⟩ 2 0 .empty = (load program isSet).callUnder c 2 levels "down" [.ofNat 600] := by
    simp [Frame.runBlocks, main, Frame.runBlock, Frame.execute, Frame.read, Frame.readAll]
  rw [Machine.callUnder_succ hbody, hpass, pure_bind, hextra, if_neg (by omega), Nat.sub_zero,
    hmain, callUnder_down (by rw [hpass]) isSet 600 (by decide)]

theorem ends (isSet : String → Bool) : (load program isSet).Ends "main" [] 0 ⟨.ok 0, []⟩ := by
  refine Machine.ends_iff.mpr ⟨by simp, 2, ?_⟩
  show ((load program isSet).callUnder .direct 2 (1023 + 1) "main" []).outcome = _
  rw [callUnder_main rfl rfl, if_pos (by decide)]
  rfl

/-- With two levels for each call the countdown is too deep. -/
theorem overflows (isSet : String → Bool) :
    (load program isSet).EndsUnder (.twoLevels (pointNames [point])) maxCallDepth "main" []
      ⟨.error (.trap .stackOverflow), []⟩ := by
  refine ⟨by simp, 2, ?_⟩
  show
    ((load program isSet).callUnder (.twoLevels (pointNames [point])) 2 (1023 + 1) "main" []).outcome
    = _
  rw [callUnder_main rfl rfl, if_neg (by decide)]
  rfl

end Countdown

namespace Synthesis.Succeeds

/-- A run that gives a value can be lost: the countdown ends with a value, and with its mutants
built in it overflows although no point is selected. -/
theorem countdown_not_kept :
    Succeeds Catalogue.mutators [Countdown.unit] [] [Countdown.unitWithMutants] [Countdown.point]
      Countdown.program Countdown.programWithMutants ∧
    Countdown.program.CallsFit (pointNames [Countdown.point]) ∧
    Countdown.program.Fits (pointNames [Countdown.point]) "main" 0 ∧
    (load Countdown.program fun _ => false).Ends "main" [] 0 ⟨.ok 0, []⟩ ∧
    (load Countdown.programWithMutants fun _ => false).Ends "main" [] 0
      ⟨.error (.trap .stackOverflow), []⟩ ∧
    ¬ (load Countdown.programWithMutants fun _ => false).Ends "main" [] 0 ⟨.ok 0, []⟩ := by
  have hnone : ∀ p ∈ [Countdown.point], (fun _ => false : String → Bool) p.selector = false :=
    fun _ _ => rfl
  have hover := Countdown.overflows fun _ => false
  refine ⟨Countdown.succeeds, Countdown.callsFit, Countdown.fits, Countdown.ends _, ?_,
    fun hok => ?_⟩
  · obtain ⟨⟨ending, printed⟩, ho, hback⟩ :=
      (Countdown.succeeds.twoLevels_iff Countdown.callsFit hnone [] Countdown.fits).mp hover
    have hrenamed :
        ((⟨ending, printed⟩ : Outcome).rename (readBack [Countdown.point])).Overflows := by
      rw [hback]
      rfl
    have hending : ending = .error (.trap .stackOverflow) := Outcome.rename_overflows.mp hrenamed
    have hprinted : printed = [] := congrArg Outcome.printed hback
    rwa [hending, hprinted] at ho
  · have hkept := (Countdown.succeeds.twoLevels_iff Countdown.callsFit hnone [] Countdown.fits).mpr
      ⟨_, hok, rfl⟩
    have hsame := hkept.unique hover
    simp at hsame

theorem keeps_value_iff_countdown :
    Succeeds Catalogue.mutators [Countdown.unit] [] [Countdown.unitWithMutants] [Countdown.point]
      Countdown.program Countdown.programWithMutants ∧
    Countdown.program.CallsFit (pointNames [Countdown.point]) ∧
    Countdown.program.Fits (pointNames [Countdown.point]) "main" 0 ∧
    (load Countdown.program fun _ => false).Ends "main" [] 0 ⟨.ok 0, []⟩ ∧
    ∃ printed, (load Countdown.programWithMutants fun _ => false).Ends "main" [] 0
      ⟨.error (.trap .stackOverflow), printed⟩ := by
  refine ⟨Countdown.succeeds, Countdown.callsFit, Countdown.fits, Countdown.ends _, ?_⟩
  obtain ⟨-, hlost⟩ := keeps_value_iff Countdown.succeeds Countdown.callsFit (fun _ => false)
    (fun _ _ => rfl) [] Countdown.fits (Countdown.ends _)
  refine hlost fun ⟨o, ho, hover⟩ => hover ?_
  rw [Machine.EndsUnder.unique ho (Countdown.overflows _)]
  rfl

/-! ## Calls that do not fit -/

/-- **Without a selected point, and without overflow, calls of a function are kept exactly if they
end alike when mutated functions are passed exactly their parameters.** If they are not kept, the
function of a point misses a parameter. -/
theorem transparent_iff (h : Succeeds mutators modules others built points baseline mutated)
    (isSet : String → Bool) (hnone : ∀ p ∈ points, isSet p.selector = false) {f : Function}
    (hf : f ∈ baseline.functions) (args : List Int64) (depth : Nat)
    (hover : ∀ o, (load mutated isSet).Ends f.name args depth o → ¬ o.Overflows) :
    ((∀ o, (load baseline isSet).Ends f.name args depth o ↔
        ∃ o', (load mutated isSet).Ends f.name args depth o' ∧ o'.rename (readBack points) = o) ↔
      ∀ o, (load baseline isSet).Ends f.name args depth o ↔
        (load baseline isSet).EndsUnder (.forwarding (pointNames points)) (maxCallDepth - depth)
          f.name args o) ∧
    ∀ o, (load mutated isSet).Ends f.name args depth o →
      (load baseline isSet).Ends f.name args depth (o.rename (readBack points)) ∨
        (o.rename (readBack points)).MissesParameter (pointNames points) := by
  have hredirects := h.redirects_unmutated hnone
  constructor
  · refine forall_congr' fun o => iff_congr Iff.rfl ?_
    exact (hredirects.endsUnder_forwarding_iff (h.exists_body hf) hover).symm
  · intro o ho
    exact hredirects.ends_or_misses (h.exists_body hf) ho (hover o ho)

end Synthesis.Succeeds

/-! ### A parameter that is never read -/

namespace Unread

open Synthesis

/-- Declares a parameter and does not read it. -/
def main : Function where
  name := "main"
  params := 1
  blocks := [⟨[⟨.binary 0 .sub (.constant 1) (.constant 1), none⟩, ⟨.ret (.register 0), none⟩]⟩]

def unit : Module where
  name := "unread"
  sourceFile := "unread.c"
  functions := [main]

/-- The point at which it adds instead. -/
def point : Point where
  mutator := "cxx_sub_to_add"
  function := ⟨0, "main"⟩
  address := ⟨0, 0⟩
  replacement := "Replaced - with +"

/-- The function that adds instead. -/
def sum : Function :=
  main.setInstruction ⟨0, 0⟩ ⟨.binary 0 .add (.constant 1) (.constant 1), none⟩

def unitWithMutants : Module where
  name := "unread"
  sourceFile := "unread.c"
  functions := [main.stub, main.rename (Point.unmutatedName "main"), sum.rename point.mutantName]
  trampolines := [⟨"main", Point.unmutatedName "main", [⟨point.selector, point.mutantName⟩]⟩]
  mutations := [point]

def program : Image where
  functions := unit.functions

def programWithMutants : Image where
  functions := unitWithMutants.functions
  trampolines := unitWithMutants.trampolines

theorem succeeds : Succeeds Catalogue.mutators [unit] [] [unitWithMutants] [point] program
    programWithMutants where
  plain := Catalogue.point_not_mem_id
  distinct := by simp
  fresh := by simp [unit]
  verified := by
    rw [List.forall_mem_singleton]
    rfl
  linked := rfl
  noTrampolines := rfl
  builds := ⟨"", "", "", "", 1, 1, 1, _, _, _, _, ⟨_, rfl, rfl, rfl⟩, ⟨_, rfl, rfl, rfl⟩,
    ⟨_, rfl, rfl, rfl⟩, ⟨_, rfl, rfl, rfl⟩⟩
  builtVerified := by
    rw [List.forall_mem_singleton]
    rfl
  builtLinked := rfl

theorem ends : (load program fun _ => false).Ends "main" [] 0 ⟨.ok 0, []⟩ :=
  ⟨by simp, 1, rfl⟩

/-- The stub wants to pass the parameter on, and it is not there. -/
theorem misses : (load programWithMutants fun _ => false).Ends "main" [] 0
    ⟨.error (.trap (.missingParameter "main" 0)), []⟩ :=
  ⟨by simp, 1, rfl⟩

theorem eq_of_ends {o : Outcome} (h : (load programWithMutants fun _ => false).Ends "main" [] 0 o) :
    o = ⟨.error (.trap (.missingParameter "main" 0)), []⟩ :=
  Machine.EndsUnder.unique (Machine.ends_iff.mp h) (Machine.ends_iff.mp misses)

end Unread

namespace Synthesis.Succeeds

/-- A run without arguments can be lost: the main function ends with a value, and with its mutants
built in it misses a parameter although no point is selected and nothing overflows. -/
theorem unread_not_transparent :
    Succeeds Catalogue.mutators [Unread.unit] [] [Unread.unitWithMutants] [Unread.point]
      Unread.program Unread.programWithMutants ∧
    (∀ o, (load Unread.programWithMutants fun _ => false).Ends "main" [] 0 o → ¬ o.Overflows) ∧
    (load Unread.program fun _ => false).Ends "main" [] 0 ⟨.ok 0, []⟩ ∧
    ¬ ∃ o, (load Unread.programWithMutants fun _ => false).Ends "main" [] 0 o ∧
      o.rename (readBack [Unread.point]) = ⟨.ok 0, []⟩ := by
  refine ⟨Unread.succeeds, fun o ho => ?_, Unread.ends, ?_⟩
  · rw [Unread.eq_of_ends ho]
    simp [Outcome.Overflows]
  · rintro ⟨o, ho, hback⟩
    rw [Unread.eq_of_ends ho] at hback
    cases hback

theorem transparent_iff_unread :
    Succeeds Catalogue.mutators [Unread.unit] [] [Unread.unitWithMutants] [Unread.point]
      Unread.program Unread.programWithMutants ∧
    Unread.main ∈ Unread.program.functions ∧
    (∀ o, (load Unread.programWithMutants fun _ => false).Ends "main" [] 0 o → ¬ o.Overflows) ∧
    ¬ ∀ o, (load Unread.program fun _ => false).Ends "main" [] 0 o ↔
      (load Unread.program fun _ => false).EndsUnder (.forwarding (pointNames [Unread.point]))
        (maxCallDepth - 0) "main" [] o := by
  have hmem : Unread.main ∈ Unread.program.functions := by simp [Unread.program, Unread.unit]
  have hover : ∀ o, (load Unread.programWithMutants fun _ => false).Ends "main" [] 0 o →
      ¬ o.Overflows := by
    intro o ho
    rw [Unread.eq_of_ends ho]
    simp [Outcome.Overflows]
  refine ⟨Unread.succeeds, hmem, hover, fun hforwarding => ?_⟩
  obtain ⟨hiff, -⟩ := transparent_iff Unread.succeeds (fun _ => false) (fun _ _ => rfl) hmem
    [] 0 hover
  obtain ⟨o, ho, hback⟩ := (hiff.mpr hforwarding _).mp Unread.ends
  rw [Unread.eq_of_ends ho] at hback
  cases hback

end Synthesis.Succeeds

end MutationTesting
