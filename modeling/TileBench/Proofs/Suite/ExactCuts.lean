import TileBench.Proofs.Suite.EqualCounts

/-!
# Exact cuts

A grid of readers is accepted if the blocks that it cuts a box into tile the box. These blocks are
rounded down, and then counted by dividing once more, so one could fear that rounding off one side
is made up for by another side. It never is: a grid with a place for each process is accepted
exactly if it *cuts* the box, side by side. The suite of the fixed box depends on the same condition
when there are as many readers as writers.
-/

namespace TileBench

namespace Extent

variable {box block grid writeBlock found : Extent} {writers readers procs : UInt32}

/-- A box is tiled by the blocks that a grid cuts it into exactly if the grid divides it. -/
lemma tiledBy_iff_cuts (hbox : box.Positive) (hblock : box.quotient? grid = some block)
    (hcount : grid.cells = procs.toNat) : box.tiledBy block procs = true ↔ grid.Cuts box := by
  rw [tiledBy_quotient_iff hbox hblock hcount]
  exact isMultipleOf_iff_cuts (quotient?_eq_some_iff.mp hblock).1

/-- At different counts the block of a reader is cut by the grid. -/
lemma readBlock_of_ne (hne : writers ≠ readers) (hblock : box.quotient? grid = some block) :
    box.readBlock writeBlock writers readers grid = block := by
  rw [readBlock, if_neg hne, hblock, Option.getD_some]

/-- A block that does not tile the box is reported with all that it comes from. -/
lemma checkReadBlock_of_not_tiledBy (h : box.readBlock writeBlock writers readers grid = block)
    (htiled : ¬ box.tiledBy block readers = true) :
    box.checkReadBlock writeBlock writers readers grid = .error ⟨box, block, grid, readers⟩ := by
  rw [checkReadBlock, h]
  exact if_neg htiled

end Extent

namespace SuitePlan

variable {p : SuitePlan} {config : Config} {grid : Extent} {cases : List Case}

/-- The fixed box has three cases. -/
lemma length_fixedBoxCases (h : p.fixedBoxCases grid = .ok cases) : cases.length = 3 := by
  obtain ⟨block, double, -, rfl⟩ := exists_of_fixedBoxCases h
  rfl

end SuitePlan

/-- At equal counts a box that the writers do not tile is rejected with the first grid of the
readers, and nothing is read back. -/
lemma CaseOutcome.Reports.invalid_of_equal {config : Config} {launcherArgs : List String}
    {o : CaseOutcome} {made : List Launch} (h : o.Reports config launcherArgs made)
    (hequal : o.case.writers = o.case.readers)
    (htiled : ¬ o.case.box.tiledBy o.case.block o.case.writers = true) {grid : Extent}
    {others : List Extent} (hgrids : config.procs.grids o.case.readers = .ok (grid :: others)) :
    o.invalid = some ⟨o.case.box, o.case.block, grid, o.case.readers⟩ ∧ o.grids = [] := by
  have haccepts : o.case.accepts grid = false := by
    rw [Case.accepts, Case.blockFor_of_equal hequal, ← hequal]
    exact Bool.not_eq_true _ ▸ htiled
  have hcandidates : o.case.candidates config = grid :: others := by
    rw [Case.candidates, hgrids]
  constructor
  · rw [h.invalid_eq, Case.firstRejection, hcandidates, List.find?_cons, haccepts]
    simp [Case.rejection, Case.blockFor_of_equal hequal]
  · have hplan := h.plan_eq
    rw [Case.plan, Case.acceptedGrids, hcandidates, List.takeWhile_cons, haccepts] at hplan
    simpa using hplan

namespace Harness

open Extent

variable {h : Harness} {p : SuitePlan} {s : Session} {suite : SuiteOutcome} {grid : Extent}

/-- What comes of the cases of the fixed box at equal counts, where `grid` is the default grid: they
are valid if the grid cuts the box, and else they are rejected with that grid. -/
lemma fixedBox_outcomes (hgrid : grid.Positive) (hcount : grid.cells = p.writers.toNat)
    (hequal : p.readers = p.writers) (hdefault : h.config.procs.defaultGrid p.writers = .ok grid)
    (hrun : ((h.runSuite p .fixedBox).run s).1 = .ok suite) :
    suite.cases.length = 3 ∧ ∀ o ∈ suite.cases,
      o.case.box = SuitePlan.fixedBox ∧ SuitePlan.fixedBox.quotient? grid = some o.case.block ∧
      (grid.Cuts SuitePlan.fixedBox → o.invalid = none) ∧
      (¬ grid.Cuts SuitePlan.fixedBox →
        o.invalid = some ⟨SuitePlan.fixedBox, o.case.block, grid, p.readers⟩ ∧ o.grids = []) := by
  obtain ⟨hcases, hreports⟩ := (((h.runSuite_follows p .fixedBox).trace s).2.2 suite hrun).2
  obtain ⟨first, more, hmade⟩ := SuitePlan.exists_fixedBoxCases (p := p) hgrid
  have hplanned : p.cases h.config .fixedBox = (first :: more).map .ok := by
    simp only [SuitePlan.cases, hdefault, bind, Except.bind, hmade]
  refine ⟨?_, fun o ho => ?_⟩
  · have hlength := congrArg List.length (hplanned.symm.trans hcases)
    rw [List.length_map, List.length_map, SuitePlan.length_fixedBoxCases hmade] at hlength
    exact hlength.symm
  · have hmem : (.ok o.case : Except Fault Case) ∈ p.cases h.config .fixedBox := by
      rw [hcases]
      exact List.mem_map_of_mem ho
    obtain ⟨other, block, box, label, hother, hblock, hcase⟩ :=
      SuitePlan.exists_of_mem_fixedBox hmem
    rw [hdefault] at hother
    cases hother
    obtain ⟨part, hpart⟩ := hreports.exists_of_mem ho
    have hwriters : o.case.writers = o.case.readers := by
      rw [hcase]
      exact hequal.symm
    have htiled : o.case.box.tiledBy o.case.block o.case.writers = true ↔
        grid.Cuts SuitePlan.fixedBox := by
      rw [hcase]
      exact tiledBy_iff_cuts SuitePlan.fixedBox_positive hblock hcount
    obtain ⟨others, hgrids⟩ := ProcessTable.defaultGrid_eq_ok_iff.mp hdefault
    have hreaders : h.config.procs.grids o.case.readers = .ok (grid :: others) := by
      rw [hcase, ← hgrids, ← hequal]
      rfl
    refine ⟨by rw [hcase]; rfl, by rw [hcase]; exact hblock, fun hcuts => ?_, fun hcuts => ?_⟩
    · exact (hpart.valid_of_equal hwriters (htiled.mpr hcuts)).1
    · obtain ⟨hinvalid, hnone⟩ :=
        hpart.invalid_of_equal hwriters (fun htrue => hcuts (htiled.mp htrue)) hreaders
      refine ⟨?_, hnone⟩
      rw [hinvalid, hcase]
      rfl

/-- A grid with a place for each process is accepted exactly if it cuts the box. If the readers
differ in number from the writers, they take the rounded blocks of such a grid, which together are
the box; a grid that does not cut the box is reported with the box, the rounded block and the number
of readers. At equal counts the cases of the fixed box are valid exactly if its default grid cuts
it. -/
theorem accepted_exactly_if_cut (box grid : Extent) (procs : UInt32) (hbox : box.Positive)
    (hgrid : grid.Positive) (hcount : grid.cells = procs.toNat) :
    ∃ block, box.quotient? grid = some block ∧
      block.x.toNat = box.x.toNat / grid.x.toNat ∧ block.y.toNat = box.y.toNat / grid.y.toNat ∧
      block.z.toNat = box.z.toNat / grid.z.toNat ∧
      (box.tiledBy block procs = true ↔ grid.Cuts box) ∧
      (∀ (writers : UInt32) (writeBlock : Extent), writers ≠ procs →
        (∀ found, box.checkReadBlock writeBlock writers procs grid = .ok found ↔
          grid.Cuts box ∧ found = block) ∧
        (grid.Cuts box → grid.times? block = some box) ∧
        (¬ grid.Cuts box →
          box.checkReadBlock writeBlock writers procs grid = .error ⟨box, block, grid, procs⟩)) ∧
      ∀ (h : Harness) (p : SuitePlan) (s : Session) (suite : SuiteOutcome),
        p.writers = procs → p.readers = procs → h.config.procs.defaultGrid procs = .ok grid →
        ((h.runSuite p .fixedBox).run s).1 = .ok suite →
        suite.cases.length = 3 ∧ ∀ o ∈ suite.cases,
          o.case.box = SuitePlan.fixedBox ∧
          SuitePlan.fixedBox.quotient? grid = some o.case.block ∧
          (grid.Cuts SuitePlan.fixedBox → o.invalid = none) ∧
          (¬ grid.Cuts SuitePlan.fixedBox →
            o.invalid = some ⟨SuitePlan.fixedBox, o.case.block, grid, procs⟩ ∧ o.grids = []) := by
  obtain ⟨block, hblock⟩ := exists_quotient? hgrid box
  obtain ⟨-, hx, hy, hz⟩ := quotient?_eq_some_iff.mp hblock
  have htiled := tiledBy_iff_cuts hbox hblock hcount
  refine ⟨block, hblock, hx, hy, hz, htiled, fun writers writeBlock hne => ?_, ?_⟩
  · have hread : box.readBlock writeBlock writers procs grid = block := readBlock_of_ne hne hblock
    refine ⟨fun found => ?_, fun hcuts => ?_, fun hcuts => ?_⟩
    · rw [checkReadBlock_eq_ok_iff, hread, and_comm]
      refine and_congr_left ?_
      rintro rfl
      exact htiled
    · exact times?_of_quotient? hblock ((isMultipleOf_iff_cuts hgrid).mpr hcuts)
    · exact checkReadBlock_of_not_tiledBy hread fun htrue => hcuts (htiled.mp htrue)
  · rintro h p s suite rfl hequal hdefault hrun
    have houtcomes := fixedBox_outcomes hgrid hcount hequal hdefault hrun
    rwa [hequal] at houtcomes

/-- Ten processes on each side of the fixed box. -/
def tenOnEachSide : SuitePlan := ⟨10, 10, ⟨1, "float32"⟩, 1, 1⟩

/-- Ten processes do not cut the fixed box: 124 cells cannot be shared by five. -/
theorem fixedBox_not_cut_by_ten :
    Extent.checkReadBlock ⟨124, 48, 36⟩ ⟨62, 24, 18⟩ 8 10 ⟨5, 2, 1⟩ =
        .error ⟨⟨124, 48, 36⟩, ⟨24, 24, 36⟩, ⟨5, 2, 1⟩, 10⟩ ∧
      ∃ suite, (((rehearsal 0 "").runSuite tenOnEachSide .fixedBox).run (.start .empty)).1 =
          .ok suite ∧
        suite.cases.length = 3 ∧ ∀ o ∈ suite.cases,
          o.invalid = some ⟨⟨124, 48, 36⟩, ⟨24, 24, 36⟩, ⟨5, 2, 1⟩, 10⟩ ∧ o.grids = [] := by
  have hnot : ¬ Extent.Cuts ⟨5, 2, 1⟩ ⟨124, 48, 36⟩ := fun hcuts => absurd hcuts.x (by decide)
  have hten : ProcessTable.standard.grids 10 = .ok [⟨5, 2, 1⟩] := rfl
  have hposed : tenOnEachSide.WellPosed .standard :=
    ⟨ProcessTable.standard_arranges 10, by decide, by decide⟩
  obtain ⟨suite, hrun, -, -⟩ := (rehearsal_steady 0 "").exists_run
    ((rehearsal 0 "").runSuite_follows tenOnEachSide .fixedBox)
    fun hsmooth => hsmooth.runSuite (hposed.fixedBox_ready hten hten)
  obtain ⟨block, hblock, -, -, -, -, hcheck, hsuite⟩ := accepted_exactly_if_cut ⟨124, 48, 36⟩
    ⟨5, 2, 1⟩ 10 (by decide) (by decide) (by decide)
  cases hblock
  obtain ⟨hlength, houtcomes⟩ := hsuite _ tenOnEachSide _ suite rfl rfl rfl hrun
  refine ⟨(hcheck 8 ⟨62, 24, 18⟩ (by decide)).2.2 hnot, suite, hrun, hlength, fun o ho => ?_⟩
  obtain ⟨-, hblock, -, hinvalid⟩ := houtcomes o ho
  obtain ⟨hreported, hnone⟩ := hinvalid hnot
  have hsame : (⟨24, 24, 36⟩ : Extent) = o.case.block := Option.some.inj hblock
  rw [← hsame] at hreported
  exact ⟨hreported, hnone⟩

end Harness

end TileBench
