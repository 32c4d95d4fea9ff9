import TileBench.Proofs.Suite.Counts
import TileBench.Proofs.Suite.Readiness
import Mathlib.Algebra.BigOperators.Group.List.Basic
import Mathlib.Data.List.Forall2

/-!
# Equal numbers of writers and readers

When there are as many readers as writers, every reader takes the block of a writer, whatever the
grid. So a box that the writers tile is valid for every grid of the readers. In the suite of block
grids the writers do tile their boxes, and the tests can be counted beforehand.
-/

namespace TileBench

namespace Case

variable {c : Case} {config : Config} {grids : List Extent}

lemma blockFor_of_equal (hequal : c.writers = c.readers) (grid : Extent) :
    c.blockFor grid = c.block :=
  if_pos hequal

/-- The readers' blocks tile a box that the writers' blocks tile. -/
lemma accepts_of_equal (hequal : c.writers = c.readers)
    (htiled : c.box.tiledBy c.block c.writers = true) (grid : Extent) : c.accepts grid = true := by
  rw [accepts, blockFor_of_equal hequal, ← hequal]
  exact htiled

end Case

/-- At equal counts a box that the writers tile is read back with every grid of the readers, in the
blocks of the writers. -/
lemma CaseOutcome.Reports.valid_of_equal {config : Config} {launcherArgs : List String}
    {o : CaseOutcome} {made : List Launch} (h : o.Reports config launcherArgs made)
    (hequal : o.case.writers = o.case.readers)
    (htiled : o.case.box.tiledBy o.case.block o.case.writers = true) :
    o.invalid = none ∧ o.grids.map (fun run => (run.grid, run.readBlock)) =
      (o.case.candidates config).map fun grid => (grid, o.case.block) := by
  have haccepts := Case.accepts_of_equal hequal htiled
  constructor
  · rw [h.invalid_eq, Case.firstRejection, Option.map_eq_none_iff, List.find?_eq_none]
    intro grid _
    simp [haccepts grid]
  · have hall : o.case.acceptedGrids config = o.case.candidates config :=
      List.takeWhile_eq_self_iff.mpr fun grid _ => haccepts grid
    have hplans := congrArg (List.map fun q : GridPlan => (q.grid, q.readBlock)) h.plan_eq
    rw [Case.plan, hall, List.map_map, List.map_map] at hplans
    refine hplans.trans (List.map_congr_left fun grid _ => ?_)
    simp only [Function.comp_apply, Case.gridPlan, Case.blockFor_of_equal hequal]

/-- If the cases of a suite have equally many tests, they are multiplied. -/
lemma SuiteOutcome.tests_toNat_of_forall {suite : SuiteOutcome} {n : Nat}
    (hcases : ∀ o ∈ suite.cases, o.testCount = n) (hfits : suite.cases.length * n < 2 ^ 32) :
    suite.tests.toNat = suite.cases.length * n := by
  have htests : ∀ m ∈ (suite.cases.map CaseOutcome.tests).map UInt32.toNat, m = n := by
    intro m hm
    rw [List.map_map] at hm
    obtain ⟨o, ho, rfl⟩ := List.mem_map.mp hm
    have hle : n ≤ suite.cases.length * n :=
      Nat.le_mul_of_pos_left _ (List.length_pos_of_mem ho)
    have hcount : o.testCount < 2 ^ 32 := by
      rw [hcases o ho]
      exact hle.trans_lt hfits
    rw [Function.comp_apply, o.tests_toNat hcount, hcases o ho]
  have hall : (suite.cases.map CaseOutcome.tests).map UInt32.toNat =
      List.replicate suite.cases.length n :=
    List.eq_replicate_iff.mpr ⟨by simp, htests⟩
  have hsum : ((suite.cases.map CaseOutcome.tests).map UInt32.toNat).sum =
      suite.cases.length * n := by
    rw [hall, List.sum_const_nat]
  rw [SuiteOutcome.tests, total_toNat (hsum ▸ hfits), hsum]

/-- The outcomes of a suite of block grids belong to the grids in turn. -/
lemma SuitePlan.forall₂_of_cases_eq {p : SuitePlan} {config : Config} {grids : List Extent}
    {outcomes : List CaseOutcome} (hgrids : config.procs.grids p.writers = .ok grids)
    (hcases : p.cases config .blockGrids = outcomes.map fun o => .ok o.case) :
    List.Forall₂ (fun grid o => p.blockGridCase config.patch grid = .ok o.case) grids outcomes := by
  simp only [SuitePlan.cases, hgrids] at hcases
  rw [← List.forall₂_eq_eq_eq, List.forall₂_map_left_iff, List.forall₂_map_right_iff] at hcases
  exact hcases

/-- What comes of the case of a grid of block grids at equal counts, where `grids` are all of them:
it is valid, it is read back with every grid in the writers' blocks, and the number of samples does
not depend on the grid. -/
structure SuitePlan.ValidOutcome (p : SuitePlan) (config : Config) (grids : List Extent)
    (grid : Extent) (o : CaseOutcome) : Prop where
  case : ∃ box, grid.times? config.patch = some box ∧
    o.case = p.case box config.patch config.patch none
  invalid : o.invalid = none
  runs : o.grids.map (fun run => (run.grid, run.readBlock)) =
    grids.map fun other => (other, config.patch)
  samples : ∃ samples, o.case.expectedSamples = .ok samples ∧
    samples.toNat = p.writers.toNat * config.patch.cells * p.varType.components.toNat

namespace Harness

variable {h : Harness} {good : Store → Array Launch → Prop}

/-- The report of a case of block grids at equal counts is one of a valid case. -/
lemma validOutcome_of_reports {p : SuitePlan} {grids : List Extent} {grid : Extent}
    {o : CaseOutcome} {made : List Launch} (hposed : p.WellPosed h.config)
    (hequal : p.readers = p.writers) (hgrids : h.config.procs.grids p.writers = .ok grids)
    (hfits : p.blockGridSamples h.config < 2 ^ 64) (hgrid : grid ∈ grids)
    (hcase : p.blockGridCase h.config.patch grid = .ok o.case)
    (hreports : o.Reports h.config h.launcherArgs made) :
    p.ValidOutcome h.config grids grid o := by
  obtain ⟨box, hbox, hcase⟩ := SuitePlan.blockGridCase_eq_ok_iff.mp hcase
  obtain ⟨hpositive, hcount⟩ := hposed.arranges grid ⟨grids, hgrids, hgrid⟩
  have htiled : o.case.box.tiledBy o.case.block o.case.writers = true := by
    rw [hcase]
    exact (Extent.tiledBy_of_times? hpositive hposed.patch hbox).mpr hcount
  obtain ⟨hvalid, hruns⟩ := hreports.valid_of_equal (by rw [hcase]; exact hequal.symm) htiled
  obtain ⟨other, samples, hother, hsamples, hn⟩ :=
    hposed.exists_samples hfits ⟨grids, hgrids, hgrid⟩
  rw [hbox] at hother
  cases hother
  refine ⟨⟨box, hbox, hcase⟩, hvalid, ?_, samples, by rw [hcase]; exact hsamples, hn⟩
  rw [hruns, hcase]
  simp only [Case.candidates, SuitePlan.case, hequal, hgrids]

lemma testCount_of_validOutcome {p : SuitePlan} {grids : List Extent} {grid : Extent}
    {o : CaseOutcome} {made : List Launch} (hequal : p.readers = p.writers)
    (hgrids : h.config.procs.grids p.writers = .ok grids)
    (hvalid : p.ValidOutcome h.config grids grid o)
    (hreports : o.Reports h.config h.launcherArgs made) :
    o.testCount = grids.length * p.timesteps.toNat * p.vars.toNat := by
  obtain ⟨box, -, hcase⟩ := hvalid.case
  rw [CaseOutcome.testCount, hvalid.invalid, if_neg (by decide),
    hreports.length_reads hvalid.invalid, hcase]
  simp only [Case.candidates, SuitePlan.case, hequal, hgrids]

/-- At equal counts the suite of block grids is valid: if what it is run with makes sense and the
samples fit, there is one case for each grid, and each of them is read back with every grid. The
tests are the pairs of grids, times the reads of a grid. -/
theorem blockGrids_valid_at_equal_counts (hsmooth : h.Smooth good) (p : SuitePlan)
    (hequal : p.readers = p.writers) (hposed : p.WellPosed h.config) (grids : List Extent)
    (hgrids : h.config.procs.grids p.writers = .ok grids)
    (hfits : p.writers.toNat * h.config.patch.cells * p.varType.components.toNat < 2 ^ 64)
    (s : Session) (hs : good s.store s.launches) :
    ∃ suite, ((h.runSuite p .blockGrids).run s).1 = .ok suite ∧
      List.Forall₂ (p.ValidOutcome h.config grids) grids suite.cases ∧
      (grids.length ^ 2 * p.timesteps.toNat * p.vars.toNat < 2 ^ 32 →
        suite.tests.toNat = grids.length ^ 2 * p.timesteps.toNat * p.vars.toNat) := by
  have hready := hposed.blockGrids_ready hgrids (hequal ▸ hgrids) hfits
  obtain ⟨suite, t, hrun, -⟩ := hsmooth.runSuite hready s hs
  obtain ⟨hcases, hreports⟩ :=
    (((h.runSuite_follows p .blockGrids).trace s).2.2 suite (by rw [hrun])).2
  have hmade := SuitePlan.forall₂_of_cases_eq hgrids hcases
  have hreported := (List.forall₂_and_left _ _).mpr
    ⟨fun (o : CaseOutcome) ho => hreports.exists_of_mem ho, hmade.flip⟩
  -- Each grid has a case, and each case has a report.
  have hboth : List.Forall₂ (fun grid o => p.ValidOutcome h.config grids grid o ∧
      o.testCount = grids.length * p.timesteps.toNat * p.vars.toNat) grids suite.cases := by
    refine ((List.forall₂_and_left _ _).mpr ⟨fun grid hgrid => hgrid, hreported.flip⟩).imp ?_
    rintro grid o ⟨hgrid, ⟨part, hpart⟩, hcase⟩
    have hvalid := validOutcome_of_reports hposed hequal hgrids hfits hgrid hcase hpart
    exact ⟨hvalid, testCount_of_validOutcome hequal hgrids hvalid hpart⟩
  refine ⟨suite, by rw [hrun], hboth.imp fun _ _ h => h.1, fun hcount => ?_⟩
  have htests := ((List.forall₂_and_left suite.cases grids).mp
    (hboth.flip.imp fun o grid h => ⟨h.2, h.1⟩)).1
  have hsquare : grids.length ^ 2 * p.timesteps.toNat * p.vars.toNat =
      suite.cases.length * (grids.length * p.timesteps.toNat * p.vars.toNat) := by
    rw [← hboth.length_eq]
    ring
  rw [hsquare] at hcount ⊢
  exact suite.tests_toNat_of_forall htests hcount

/-- Eight processes have two grids, so a rehearsal with one read for each grid has four tests. -/
theorem rehearsal_of_eight_has_four_tests :
    ∃ suite, (((rehearsal 0 "").runSuite ⟨8, 8, ⟨1, "float32"⟩, 1, 1⟩ .blockGrids).run
        (.start .empty)).1 = .ok suite ∧ suite.tests.toNat = 4 := by
  obtain ⟨suite, hrun, -, htests⟩ :=
    blockGrids_valid_at_equal_counts (rehearsal_steady 0 "").smooth ⟨8, 8, ⟨1, "float32"⟩, 1, 1⟩
      rfl ⟨ProcessTable.standard_arranges 8, by decide, by decide⟩ [⟨2, 2, 2⟩, ⟨4, 2, 1⟩] rfl
      (by decide) (.start .empty) steadyRun_start
  exact ⟨suite, hrun, htests (by decide)⟩

end Harness

end TileBench
