import MutationTesting.Proofs.Campaign.Results

/-!
# Dry runs

A dry run shows which mutants a run would build, without building them. What comes before the two
part is the same in both, however many workers each of them has, and what the other run does then to
modules and files does not come back to the points that it reports.

* `Campaign.inMode` — a campaign as a dry run or not, with some numbers of workers
* `Campaign.dry_run_previews` — **a dry run leaves everything as it is and reports the points of the
  other run**
-/

namespace MutationTesting.Campaign

/-- A campaign as a dry run or not, with these numbers of workers. -/
def inMode (c : Campaign) (dryRun : Bool) (workers : UInt64) (mutantWorkers : Option UInt64) :
    Campaign :=
  { c with config := { c.config with dryRun, workers, mutantWorkers } }

/-- What is listed depends neither on the mode nor on the workers. -/
theorem listedPoints_inMode (c : Campaign) (dryRun : Bool) (workers : UInt64)
    (mutantWorkers : Option UInt64) (modules : List Module) (disk : Disk) :
    (c.inMode dryRun workers mutantWorkers).listedPoints modules disk
      = c.listedPoints modules disk := rfl

/-- **A dry run is a preview.** However it ends, it leaves all modules of the program and all files
as they are. If neither it nor the other run is given up, both have the same tests and report the
same points in the same order, but for the marks of mutations that have been carried out; how many
workers each of them has does not matter, nor what has been said before. -/
theorem dry_run_previews (c : Campaign) (w : World) (workers : UInt64)
    (mutantWorkers : Option UInt64) :
    (∀ result w', (c.inMode true workers mutantWorkers).run.run w = (result, w') →
      w'.modules = w.modules ∧ w'.disk = w.disk) ∧
    ∀ workers' mutantWorkers' said r r' w₁ w₂,
      (c.inMode true workers mutantWorkers).run.run w = (.ok r, w₁) →
      (c.inMode false workers' mutantWorkers').run.run { w with diagnostics := said }
        = (.ok r', w₂) →
      r.tests.map (·.name) = r'.tests.map (·.name) ∧
        r'.points = r.points.map Point.markApplied ∧ ∀ p ∈ r.points, p.applied = false := by
  refine ⟨fun result w' h => (looks_run _ rfl).of_run h, ?_⟩
  intro workers' mutantWorkers' said r r' w₁ w₂ hdry hnormal
  have hpreview := reports_of_run hdry
  have hreports := reports_of_run hnormal
  obtain ⟨hlisted, -⟩ := hpreview.dry rfl
  obtain ⟨hmarked, -⟩ := hreports.normal rfl
  rw [listedPoints_inMode] at hlisted hmarked
  refine ⟨hpreview.tests.trans hreports.tests.symm, ?_, fun p hp => ?_⟩
  · rw [hmarked, hlisted]
  · rw [hlisted] at hp
    exact (admits_of_mem_listedPoints hp).2

/-- A preview by one worker of a run by two, and three that run mutants. -/
theorem figures_preview : ∃ r r' w₁ w₂,
    (figuresRun.inMode true 1 none).run.run figuresWorld = (.ok r, w₁) ∧
    w₁.modules = figuresWorld.modules ∧ w₁.disk = figuresWorld.disk ∧ r.points = figuresListed ∧
    (figuresRun.inMode false 2 (some 3)).run.run figuresWorld = (.ok r', w₂) ∧
    r'.points = r.points.map Point.markApplied := by
  have hroom : (figuresRun.inMode true 1 none).HasRoom := by
    unfold HasRoom
    decide
  obtain ⟨r, w₁, hdry⟩ := exists_run (w := figuresWorld) rfl hroom fun said =>
    exists_runPoints_dry rfl hroom _ said
  obtain ⟨r', w₂, hnormal⟩ := figures_finish
  obtain ⟨hframe, hsame⟩ := dry_run_previews figuresRun figuresWorld 1 none
  obtain ⟨hmodules, hdisk⟩ := hframe _ _ hdry
  obtain ⟨-, hpoints, -⟩ := hsame 2 (some 3) .silent r r' w₁ w₂ hdry hnormal
  have hlisted : r.points = figuresListed :=
    ((reports_of_run hdry).dry rfl).1.trans listed_figures
  exact ⟨r, r', w₁, w₂, hdry, hmodules, hdisk, hlisted, hnormal, hpoints⟩

end MutationTesting.Campaign
