import TileBench.Proofs.Config.Accepted
import TileBench.Proofs.Suite.EqualCounts
import Mathlib

/-!
# What is written

Only the blocks of the readers are checked before a box is written. If there are as many writers as
readers, the check is one of the writers' blocks too. If not, the blocks of the writers tile the box
as far as the grid that they come from lets them: a grid of blocks is tiled if it has as many places
as there are writers, and a box that is cut is tiled if no side is rounded down.
-/

namespace TileBench

namespace Harness

variable {h : Harness} {p : SuitePlan} {kind : SuiteKind} {s : Session} {command : Command}

/-- A write that is launched is planned by a case with a grid that tiles the box. -/
lemma exists_case_of_write
    (hlaunched : (⟨.write, command⟩ : Request) ∈
      ((h.runSuite p kind).trace s).map Launch.request) :
    ∃ c : Case, .ok c ∈ p.cases h.config kind ∧
      command = c.plannedWrite h.config h.launcherArgs ∧
      ∃ grid ∈ c.candidates h.config, c.accepts grid = true := by
  have hplanned := ((h.runSuite_follows p kind).trace s).2.1.subset hlaunched
  obtain ⟨c, hc, hrequest⟩ := List.mem_flatMap.mp hplanned
  obtain ⟨hcommand, haccepted⟩ := c.exists_of_write_mem_requests _ _ hrequest
  exact ⟨c, mem_of_mem_plannedCases hc, hcommand, haccepted⟩

/-- A write of a suite has blocks that tile the box if there are as many writers as readers.
Otherwise the box is made of blocks, and tiled if there is one for each writer; or it is cut by the
default grid, and tiled if every side can be divided, provided that the grid has a place for each
writer. The grids of the built-in table have. -/
theorem launched_writes (haccepted : h.config.Accepted)
    (hlaunched : (⟨.write, command⟩ : Request) ∈
      ((h.runSuite p kind).trace s).map Launch.request) :
    ∃ c : Case, command = c.plannedWrite h.config h.launcherArgs ∧ c.writers = p.writers ∧
      (p.writers = p.readers → c.box.tiledBy c.block p.writers = true) ∧
      match kind with
      | .blockGrids => ∃ grid, h.config.procs.HasGrid p.writers grid ∧
          (h.config.procs = .standard → grid.cells = p.writers.toNat) ∧
          c.block = h.config.patch ∧ grid.times? c.block = some c.box ∧
          c.box.isMultipleOf c.block = true ∧
          (c.box.tiledBy c.block p.writers = true ↔ grid.cells = p.writers.toNat)
      | .fixedBox => ∃ grid, h.config.procs.defaultGrid p.writers = .ok grid ∧
          (h.config.procs = .standard → grid.cells = p.writers.toNat) ∧
          c.box = SuitePlan.fixedBox ∧ c.box.quotient? grid = some c.block ∧
          (grid.cells = p.writers.toNat →
            (c.box.tiledBy c.block p.writers = true ↔ c.box.isMultipleOf grid = true)) := by
  obtain ⟨c, hc, hcommand, grid, -, haccepts⟩ := exists_case_of_write hlaunched
  obtain ⟨hwriters, hreaders⟩ := SuitePlan.counts_of_mem_cases hc
  have hpositive := haccepted.positive
  have hstandard : ∀ grid, h.config.procs.HasGrid p.writers grid →
      h.config.procs = .standard → grid.cells = p.writers.toNat := by
    intro grid hgrid hprocs
    rw [hprocs] at hgrid
    exact (ProcessTable.standard_arranges _ grid hgrid).2
  refine ⟨c, hcommand, hwriters, fun hequal => ?_, ?_⟩
  · -- The accepted grid is one of the readers, who take the writers' blocks.
    have hsame : c.writers = c.readers := by rw [hwriters, hreaders, hequal]
    rw [Case.accepts, Case.blockFor_of_equal hsame, hreaders, ← hequal] at haccepts
    exact haccepts
  · cases kind with
    | blockGrids =>
      obtain ⟨grid, box, hgrid, hbox, rfl⟩ := SuitePlan.exists_of_mem_blockGrids hc
      exact ⟨grid, hgrid, hstandard grid hgrid, rfl, hbox,
        Extent.isMultipleOf_of_times? hpositive.patch hbox,
        Extent.tiledBy_of_times? (hpositive.grids _ grid hgrid) hpositive.patch hbox⟩
    | fixedBox =>
      obtain ⟨grid, block, box, label, hgrid, hblock, rfl⟩ := SuitePlan.exists_of_mem_fixedBox hc
      exact ⟨grid, hgrid, hstandard grid (ProcessTable.hasGrid_defaultGrid hgrid), rfl, hblock,
        Extent.tiledBy_quotient_iff SuitePlan.fixedBox_positive hblock⟩

/-! ### Writes that do not tile -/

/-- A steady harness launches all that is planned for a suite. -/
lemma Steady.launches_planned {output : Phase → Output} (hsteady : h.Steady output)
    (hready : p.Ready h.config kind) {r : Request}
    (hplanned : r ∈ caseRequests h.config h.launcherArgs (p.cases h.config kind)) :
    r ∈ ((h.runSuite p kind).trace (.start .empty)).map Launch.request := by
  obtain ⟨suite, -, -, htrace⟩ := hsteady.exists_run (h.runSuite_follows p kind)
    fun hsmooth => hsmooth.runSuite hready
  rw [htrace, List.map_map]
  exact List.mem_map.mpr ⟨r, hplanned, rfl⟩

/-- Ten writers of the fixed box, which cannot be divided by five. -/
def roundedPlan : SuitePlan := ⟨10, 8, ⟨1, "float32"⟩, 1, 1⟩

/-- What they are started with. -/
def roundedWrite : Command :=
  ⟨"mpirun", [], 10, "../../build/examples/idx_write",
    ["-g", "124x48x36", "-l", "24x24x36", "-t", "1", "-v", "VARS", "-f", "data"]⟩

lemma roundedWrite_launched : (⟨.write, roundedWrite⟩ : Request) ∈
    (((rehearsal 0 "").runSuite roundedPlan .fixedBox).trace (.start .empty)).map
      Launch.request := by
  have hwriters : ProcessTable.standard.grids 10 = .ok [⟨5, 2, 1⟩] := rfl
  have hreaders : ProcessTable.standard.grids 8 = .ok [⟨2, 2, 2⟩, ⟨4, 2, 1⟩] := rfl
  refine (rehearsal_steady 0 "").launches_planned ?_ (.head _)
  have hposed : roundedPlan.WellPosed .standard :=
    ⟨ProcessTable.standard_arranges 10, by decide, by decide⟩
  exact hposed.fixedBox_ready hwriters hreaders

/-- Nothing is rounded for a grid that divides the box, but this one does not. -/
theorem roundedWrite_not_tiled :
    ∃ c : Case, roundedWrite = c.plannedWrite .standard [] ∧
      c.box.tiledBy c.block c.writers = false := by
  obtain ⟨c, hcommand, hwriters, -, grid, hgrid, hcount, hbox, -, htiled⟩ :=
    launched_writes (h := rehearsal 0 "") .standard roundedWrite_launched
  cases hgrid
  refine ⟨c, hcommand, ?_⟩
  rw [hwriters, ← Bool.not_eq_true, htiled (hcount rfl), hbox]
  decide

/-- A configuration in which two grids have two places, one of them for four processes. -/
def crowdedText : String :=
  "\x7b\"procs\":\x7b\"2\":[\"2x1x1\"],\"4\":[\"2x1x1\"]\x7d\x7d"

def crowdedConfig : Config :=
  { Config.standard with procs := .ofList [(2, [⟨2, 1, 1⟩]), (4, [⟨2, 1, 1⟩])] }

def crowdedStore : Store := .ofText "crowded.json" crowdedText

lemma ofFile_crowdedStore : Config.ofFile crowdedStore "crowded.json" = .ok crowdedConfig := by
  have hplain : Store.IsPlain "crowded.json" := by constructor <;> decide
  have hdecoded : Json.decodeText Config.decode crowdedText = .ok crowdedConfig := by cbv
  have hread : crowdedStore.readText "crowded.json" = .ok crowdedText := hplain.readText_ofText _
  simp only [Config.ofFile, hread, hdecoded]
  rfl

/-- Four writers with a grid of two places. -/
def crowdedPlan : SuitePlan := ⟨4, 2, ⟨1, "float32"⟩, 1, 1⟩

/-- What they are started with. -/
def crowdedWrite : Command :=
  ⟨"mpirun", [], 4, "../../build/examples/idx_write",
    ["-g", "24x12x12", "-l", "12x12x12", "-t", "1", "-v", "VARS", "-f", "data"]⟩

def crowdedCase : Case := crowdedPlan.case ⟨24, 12, 12⟩ ⟨12, 12, 12⟩ ⟨12, 12, 12⟩ none

def crowdedRehearsal : Harness := { rehearsal 0 "" with config := crowdedConfig }

lemma crowdedWrite_launched : (⟨.write, crowdedWrite⟩ : Request) ∈
    ((crowdedRehearsal.runSuite crowdedPlan .blockGrids).trace (.start .empty)).map
      Launch.request := by
  have hsteady : crowdedRehearsal.Steady (rehearsedOutput 0 "") :=
    ⟨(rehearsal_steady 0 "").answer, rfl, Config.standard_varsFile_isPlain⟩
  have hcases : crowdedPlan.cases crowdedRehearsal.config .blockGrids = [.ok crowdedCase] := rfl
  have hready : crowdedPlan.Ready crowdedRehearsal.config .blockGrids := by
    refine ⟨⟨[⟨2, 1, 1⟩], rfl⟩, nofun, fun made hmade => ?_⟩
    rw [hcases, List.mem_singleton] at hmade
    exact ⟨crowdedCase, hmade, ⟨[⟨2, 1, 1⟩], rfl⟩, 3456, rfl⟩
  refine hsteady.launches_planned hready ?_
  rw [hcases]
  exact .head _

/-- Not every write that is launched tiles its box: a side may be rounded down, and a file may list
a grid with too few places. -/
theorem untiled_writes_are_launched :
    ((rehearsal 0 "").config.Accepted ∧
      (⟨.write, roundedWrite⟩ : Request) ∈
        (((rehearsal 0 "").runSuite roundedPlan .fixedBox).trace (.start .empty)).map
          Launch.request ∧
      Extent.tiledBy ⟨124, 48, 36⟩ ⟨24, 24, 36⟩ 10 = false) ∧
    (crowdedRehearsal.config.Accepted ∧
      (⟨.write, crowdedWrite⟩ : Request) ∈
        ((crowdedRehearsal.runSuite crowdedPlan .blockGrids).trace (.start .empty)).map
          Launch.request ∧
      Extent.tiledBy ⟨24, 12, 12⟩ ⟨12, 12, 12⟩ 4 = false) :=
  ⟨⟨.standard, roundedWrite_launched, by decide⟩,
    ⟨.ofFile ofFile_crowdedStore, crowdedWrite_launched, by decide⟩⟩

end Harness

end TileBench
