import MutationTesting.Campaign.Result
import MutationTesting.Proofs.Checks
import MutationTesting.Proofs.Machine.Ending
import MutationTesting.Proofs.Toolchain.Stored

/-!
# What a verdict tells of the main function

The main function of an image ends with a value or a trap. The runner makes an exit of that, the
system reports the exit to the parent, the parent classifies what is reported as an execution, and
the execution gives the verdict on a mutant. On the way nothing is lost that the verdict depends on:
a value other than zero never becomes the code zero, though only its low byte is reported.

* `exitStatus_eq_zero_iff` — only zero has the exit status zero
* `Execution.Shows` — an execution shows how the main function ended
* `Runner.shows_ofEnded` — it does, if it was not stopped at the time limit
* `Machine.runMain_of_ends` — runs of the main function, however many blocks they may enter
* `Runner.Executes`, `Runner.exists_execute` — executions of an image by the runner
* `Runner.verdict_shows_main` — **the verdict shows how the main function ended**
-/

namespace MutationTesting

open Checks

/-! ## Exit statuses -/

/-- An exit status fits in the byte that reaches the parent. -/
theorem exitStatus_mod (value : Int64) : exitStatus value % 256 = exitStatus value := by
  unfold exitStatus
  dsimp only
  split <;> omega

/-- **Only zero has the exit status zero.** -/
theorem exitStatus_eq_zero_iff {value : Int64} : exitStatus value = 0 ↔ value = 0 := by
  constructor
  · intro h
    by_contra hne
    unfold exitStatus at h
    dsimp only at h
    split at h
    · cases h
    · next hlow => exact hlow ⟨h, hne⟩
  · rintro rfl
    rfl

/-! ## Executions -/

theorem Execution.classify_code (n : Nat) :
    (classify (.code n)).1 = (if n = 0 then .passed else .failed) ∧
      (classify (.code n)).2 = some (n : Int) := by
  cases n with
  | zero => exact ⟨rfl, rfl⟩
  | succ n => exact ⟨rfl, rfl⟩

/-- An execution shows how the main function ended: with zero, with another value, or by a trap. -/
structure Execution.Shows (e : Execution) (ending : Except Stop Int64) : Prop where
  /-- It is not the placeholder of a mutant that was not run. -/
  run : e.status ≠ .dryRun
  /-- It passed exactly if the value is zero. -/
  passed : e.status = .passed ↔ ending = .ok 0
  /-- It failed, with a code that tells so, exactly if there is another value. -/
  failed : (e.status = .failed ∧ ∃ n : Nat, 1 ≤ n ∧ n ≤ 255 ∧ e.exitCode = some n) ↔
    ∃ value, value ≠ 0 ∧ ending = .ok value
  /-- It never failed with a code that tells otherwise. -/
  code : e.status = .failed → ∃ n : Nat, 1 ≤ n ∧ n ≤ 255 ∧ e.exitCode = some n
  /-- It crashed exactly if there is no value. -/
  crashed : e.status = .crashed ↔ ∃ t, ending = .error (.trap t)

namespace Execution.Shows

variable {e : Execution} {ending : Except Stop Int64}

theorem of_value {value : Int64} (hstatus : e.status = if value = 0 then .passed else .failed)
    (hcode : e.exitCode = some (exitStatus value % 256 : Nat)) : e.Shows (.ok value) := by
  by_cases hzero : value = 0
  · subst hzero
    rw [if_pos rfl] at hstatus
    constructor <;> simp [hstatus]
  · rw [if_neg hzero] at hstatus
    have hpos : exitStatus value ≠ 0 := fun h => hzero (exitStatus_eq_zero_iff.mp h)
    rw [← exitStatus_mod] at hpos
    have hcodes : ∃ n : Nat, 1 ≤ n ∧ n ≤ 255 ∧ e.exitCode = some n :=
      ⟨_, Nat.one_le_iff_ne_zero.mpr hpos, Nat.le_of_lt_succ (Nat.mod_lt _ (by decide)), hcode⟩
    exact {
      run := by simp [hstatus]
      passed := by simp [hstatus, hzero]
      failed := ⟨fun _ => ⟨value, hzero, rfl⟩, fun _ => ⟨hstatus, hcodes⟩⟩
      code := fun _ => hcodes
      crashed := by simp [hstatus] }

theorem of_trap {t : Trap} (hstatus : e.status = .crashed) : e.Shows (.error (.trap t)) := by
  constructor <;> simp [hstatus]

/-- A mutant survives exactly if its main function gives zero. -/
theorem survived_iff (h : e.Shows ending) (p : Point) :
    MutationResult.verdict ⟨p, e⟩ = .survived ↔ ending = .ok 0 := by
  rw [← h.passed, MutationResult.verdict]
  cases e.status <;> simp [Verdict.ofStatus]

/-- A mutant whose main function has ended in any other way is killed. -/
theorem killed_iff (h : e.Shows ending) (p : Point) :
    MutationResult.verdict ⟨p, e⟩ = .killed ↔ ending ≠ .ok 0 := by
  have hrun := h.run
  rw [ne_eq, ← h.passed, MutationResult.verdict]
  cases hstatus : e.status <;> simp_all [Verdict.ofStatus]

end Execution.Shows

/-! ## Runs of the main function -/

namespace Machine

variable {m : Machine} {args : List Int64} {o : Outcome}

/-- A run of the main function that ends comes to its outcome when it may enter enough blocks, and
is unfinished before. -/
theorem runMain_of_ends (h : m.Ends "main" args 0 o) :
    (∃ enough, ∀ blocks, enough ≤ blocks → m.runMain blocks args = o) ∧
      ∀ blocks, m.runMain blocks args = o ∨
        (m.runMain blocks args).ending = .error .unfinished := by
  have hrun : ∀ blocks, m.runMain blocks args
      = (m.callUnder .direct blocks maxCallDepth "main" args).outcome := by
    intro blocks
    rw [callUnder_direct]
    rfl
  have hends := ends_iff.mp h
  constructor
  · obtain ⟨hfin, enough, rfl⟩ := hends
    exact ⟨enough, fun blocks hle => (hrun blocks).trans (outcome_of_le hle hfin)⟩
  · intro blocks
    by_cases hfin : (m.runMain blocks args).ending = .error .unfinished
    · exact Or.inr hfin
    · exact Or.inl (EndsUnder.unique ⟨hfin, blocks, (hrun blocks).symm⟩ hends)

end Machine

/-! ## Executions of images -/

namespace Runner

/-- Only a run that is unfinished is stopped at the time limit. -/
theorem timedOut_iff {o : Outcome} {capture : Bool} {limit : Nat} :
    (Execution.ofEnded (ended o) capture limit).status = .timedOut ↔
      o.ending = .error .unfinished := by
  obtain ⟨ending, printed⟩ := o
  cases ending with
  | ok value =>
    have hstatus : (Execution.ofEnded (ended ⟨.ok value, printed⟩) capture limit).status
        = if exitStatus value = 0 then .passed else .failed :=
      (Execution.classify_code (exitStatus value)).1
    rw [hstatus]
    split <;> simp
  | error stop =>
    cases stop with
    | trap t => simp [Execution.ofEnded, ended, Execution.classify]
    | unfinished => exact iff_of_true rfl rfl

/-- **An execution that was not stopped at the time limit shows how the main function ended.** -/
theorem shows_ofEnded {o : Outcome} {capture : Bool} {limit : Nat}
    (h : (Execution.ofEnded (ended o) capture limit).status ≠ .timedOut) :
    (Execution.ofEnded (ended o) capture limit).Shows o.ending := by
  obtain ⟨ending, printed⟩ := o
  cases ending with
  | ok value =>
    obtain ⟨hstatus, hcode⟩ := Execution.classify_code (exitStatus value)
    refine .of_value ?_ ?_
    · exact hstatus.trans (if_congr exitStatus_eq_zero_iff rfl rfl)
    · rw [exitStatus_mod]
      exact hcode
  | error stop =>
    cases stop with
    | trap t => exact .of_trap rfl
    | unfinished => exact absurd rfl h

/-- An execution of the main function of an image by the runner, in a process that finds some
variables set; it was not stopped at the time limit. -/
def Executes (image : Image) (isSet : String → Bool) (args : List Int64) (e : Execution) : Prop :=
  e.status ≠ .timedOut ∧ ∃ blocks capture limit,
    e = .ofEnded (ended ((Machine.load image isSet).runMain blocks args)) capture limit

/-- The environment that a program is launched with in a sandbox when variables are set for it. -/
def launchEnvironment (around : Surroundings) (sandbox : Sandbox) (env : Environment) :
    Environment :=
  env.foldl (fun env v => env.set v.1 v.2) (sandbox.prepare around).2

/-- In a sandbox, a program with some variables set for it is the runner, and words ask it for an
image with some arguments. -/
structure CalledFor (around : Surroundings) (sandbox : Sandbox) (program : String)
    (words : List String) (env : Environment) (image : Image) (args : List Int64) : Prop where
  /-- The program is given by its path. -/
  path : program.toList.contains '/' = true
  /-- The path leads to the runner. -/
  runner : (sandbox.prepare around).1.withSystem.find program = .ok .runner
  /-- The words give the path of the image and the arguments. -/
  asks : ∃ file, CommandLine.execRequest? words = some (.execImage file args) ∧
    Image.load (sandbox.prepare around).1 file = .ok image
  /-- No word can be mistaken for the end of a text. -/
  noNul : (program :: words).any Launch.hasNul = false
  /-- Neither can a variable. -/
  noNulSet : ((launchEnvironment around sandbox env).any fun v =>
    Launch.hasNul v.1 || Launch.hasNul v.2) = false

/-- **A launch of the runner executes the image that it is called for**, unless it is stopped at the
time limit. -/
theorem exists_execute {around : Surroundings} {sandbox : Sandbox} {program : String}
    {words : List String} {env : Environment} {image : Image} {args : List Int64}
    (h : CalledFor around sandbox program words env image args) (timeout : UInt64)
    (capture : Bool) :
    ∃ e said, execute around sandbox program ("exec-image" :: words) env timeout capture
      = .ok (e, said) ∧ e = .ofEnded (ended ((Machine.load image (Launch.receivedAll
        (launchEnvironment around sandbox env)).has).runMain blockLimit args)) capture
          (timeout.toNat * 1000000) := by
  obtain ⟨file, hwords, himage⟩ := h.asks
  have hlaunch : Launch.run (sandbox.prepare around).1 {
      program, args := "exec-image" :: words, env := launchEnvironment around sandbox env
      limit := timeout.toNat } = .ok (ended ((Machine.load image (Launch.receivedAll
        (launchEnvironment around sandbox env)).has).runMain blockLimit args)) := by
    have hnul := h.noNul
    rw [List.any_cons, Bool.or_eq_false_iff] at hnul
    have hword : Launch.hasNul "exec-image" = false := by decide
    unfold Launch.run
    simp only [hnul.1, List.any_cons, hword, hnul.2, h.noNulSet, Bool.or_self, Bool.false_eq_true,
      if_false, h.path, Bool.not_true, h.runner, run, hwords, execImage, himage]
    rfl
  have hexecute : execute around sandbox program ("exec-image" :: words) env timeout capture
      = Launch.run (sandbox.prepare around).1 {
          program, args := "exec-image" :: words, env := launchEnvironment around sandbox env
          limit := timeout.toNat } >>= fun left =>
        let e := Execution.ofEnded left capture (timeout.toNat * 1000000)
        return (e, if e.status = .timedOut then [program ++ " timed out"] else []) := rfl
  rw [hexecute, hlaunch]
  exact ⟨_, _, rfl, rfl⟩

/-- **The verdict shows how the main function ended.** Where the main function of an image ends, the
runner executes it whenever it may enter enough blocks; what the execution shows is how the main
function ended, and so does the verdict on a mutant. Whoever launches the runner for the image gets
such an execution, unless the run needs too many blocks. -/
theorem verdict_shows_main {image : Image} {isSet : String → Bool} {args : List Int64} {o : Outcome}
    (h : (Machine.load image isSet).Ends "main" args 0 o) :
    (∃ enough, ∀ blocks, enough ≤ blocks → ∀ capture limit, Executes image isSet args
      (.ofEnded (ended ((Machine.load image isSet).runMain blocks args)) capture limit)) ∧
    (∀ e, Executes image isSet args e → e.Shows o.ending ∧ ∀ p : Point,
      (MutationResult.verdict ⟨p, e⟩ = .survived ↔ o.ending = .ok 0) ∧
      (MutationResult.verdict ⟨p, e⟩ = .killed ↔ o.ending ≠ .ok 0)) ∧
    ∀ around sandbox program words env timeout capture,
      CalledFor around sandbox program words env image args →
      (Launch.receivedAll (launchEnvironment around sandbox env)).has = isSet →
      ∃ e said, execute around sandbox program ("exec-image" :: words) env timeout capture
        = .ok (e, said) ∧ (Executes image isSet args e ∨
          ((Machine.load image isSet).runMain blockLimit args).ending = .error .unfinished) := by
  obtain ⟨⟨enough, henough⟩, hruns⟩ := Machine.runMain_of_ends h
  refine ⟨⟨enough, fun blocks hle capture limit => ?_⟩, ?_, ?_⟩
  · rw [henough blocks hle]
    exact ⟨timedOut_iff.not.mpr h.1, blocks, capture, limit, by rw [henough blocks hle]⟩
  · rintro e ⟨htime, blocks, capture, limit, rfl⟩
    obtain hrun | hrun := hruns blocks
    · rw [hrun] at htime ⊢
      exact ⟨shows_ofEnded htime, fun p => ⟨(shows_ofEnded htime).survived_iff p,
        (shows_ofEnded htime).killed_iff p⟩⟩
    · exact absurd (timedOut_iff.mpr hrun) htime
  · rintro around sandbox program words env timeout capture hcalled rfl
    obtain ⟨e, said, hexecute, rfl⟩ := exists_execute hcalled timeout capture
    refine ⟨_, said, hexecute, ?_⟩
    rw [or_iff_not_imp_right]
    exact fun hfin => ⟨timedOut_iff.not.mpr hfin, blockLimit, capture, _, rfl⟩

/-! ### A value whose low byte is zero -/

/-- The main function gives 256. -/
def wide : Image where
  functions := [{ name := "main", params := 0, blocks := [⟨[⟨.ret (.constant 256), none⟩]⟩] }]

/-- A disk with the runner and the image. -/
def wideAround : Surroundings where
  disk := { nodes := [(["runner"], .runner), (["image"], .file wide.encode false)] }
  env := []
  sandboxDirectory := []

theorem calledFor_wide : CalledFor wideAround .none "/runner" ["image"] [] wide [] where
  path := rfl
  runner := by decide +kernel
  asks := ⟨"image", by decide +kernel, Disk.load_of_read (by decide +kernel) wide.decode?_encode⟩
  noNul := by decide
  noNulSet := rfl

theorem verdict_shows_wide :
    (Machine.load wide fun _ => false).Ends "main" [] 0 ⟨.ok 256, []⟩ ∧
      ∃ e said, execute wideAround .none "/runner" ["exec-image", "image"] [] 1000 false
        = .ok (e, said) ∧ e.Shows (.ok 256) ∧
          ∀ p, MutationResult.verdict ⟨p, e⟩ = .killed := by
  have hends : (Machine.load wide fun _ => false).Ends "main" [] 0 ⟨.ok 256, []⟩ :=
    ⟨by simp, 1, rfl⟩
  obtain ⟨-, hshows, hlaunch⟩ := verdict_shows_main hends
  obtain ⟨e, said, hexecute, hor⟩ :=
    hlaunch wideAround .none "/runner" ["image"] [] 1000 false calledFor_wide rfl
  have hfin : ((Machine.load wide fun _ => false).runMain blockLimit []).ending
      ≠ .error .unfinished := by decide +kernel
  obtain ⟨hmain, hverdict⟩ := hshows e (hor.resolve_right hfin)
  exact ⟨hends, e, said, hexecute, hmain, fun p => (hverdict p).2.mpr (by decide)⟩

end Runner

end MutationTesting
