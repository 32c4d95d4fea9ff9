import TileBench.Proofs.Session.Trace
import TileBench.Suite.Outcome
import Mathlib.Data.List.Range
import Mathlib.Data.List.TakeWhile

/-!
# Plans

What a case asks of the launcher is known before anything is launched: for each grid in front of the
first one that does not tile the box, a write and then a read of every variable at every timestep,
the timesteps in turn and the variables in turn within each. The commands are written down here
option by option; `Case.writeCommand_eq` and `Case.map_readCommand` say that they are the commands
of the case.
-/

namespace TileBench

structure PlannedRead where
  /-- Counted from one. -/
  timestep : Nat
  varIndex : Nat
  command : Command
  deriving DecidableEq

/-- What is planned for one grid. -/
structure GridPlan where
  grid : Extent
  readBlock : Extent
  writeCommand : Command
  reads : List PlannedRead
  deriving DecidableEq

def PlannedRead.request (r : PlannedRead) : Request := ⟨.read, r.command⟩

def GridPlan.requests (p : GridPlan) : List Request :=
  ⟨.write, p.writeCommand⟩ :: p.reads.map PlannedRead.request

/-- The plan that a read carried out. -/
def ReadOutcome.plan (r : ReadOutcome) : PlannedRead := ⟨r.timestep, r.varIndex, r.command⟩

def GridRun.plan (g : GridRun) : GridPlan :=
  ⟨g.grid, g.readBlock, g.writeCommand, g.reads.map ReadOutcome.plan⟩

/-- A command without options of the executable. -/
def Config.bareCommand (config : Config) (launcherArgs : List String) (procs : UInt32)
    (executable : String) : Command :=
  ⟨config.launcher, launcherArgs, procs, executable, []⟩

namespace Case

variable (c : Case) (config : Config) (launcherArgs : List String)

/-! ### Commands -/

/-- The command of a write, option by option. -/
def plannedWrite : Command :=
  let boxes := ((config.bareCommand launcherArgs c.writers config.writeExecutable).withOption
    "-g" c.box.text).withOption "-l" c.block.text
  let boxes := if config.restructure then boxes.withOption "-r" c.restructureBox.text else boxes
  ((boxes.withOption "-t" (toString c.timesteps.toNat)).withOption "-v" config.varsFile).withOption
    "-f" config.dataFile

/-- The read of a variable at a timestep, option by option. The executable counts the timesteps
from zero. -/
def plannedRead (readBlock : Extent) (timestep varIndex : Nat) : PlannedRead where
  timestep := timestep
  varIndex := varIndex
  command :=
    (((((config.bareCommand launcherArgs c.readers config.readExecutable).withOption
      "-g" c.box.text).withOption "-l" readBlock.text).withOption
      "-t" (toString (timestep - 1))).withOption "-v" (toString varIndex)).withOption
      "-f" config.dataFile

/-- The reads for one grid: the timesteps in turn, and the variables in turn within each. -/
def plannedReads (readBlock : Extent) : List PlannedRead :=
  (List.range' 1 c.timesteps.toNat).flatMap fun t =>
    (List.range c.vars.toNat).map fun v => c.plannedRead config launcherArgs readBlock t v

lemma writeCommand_eq :
    c.writeCommand config launcherArgs = c.plannedWrite config launcherArgs := by
  unfold writeCommand plannedWrite
  cases config.restructure <;> rfl

/-- Counting through two loops is counting once, with quotient and remainder. -/
private lemma map_range_mul {α : Type} (f : Nat → Nat → α) (m n : Nat) :
    (List.range (m * n)).map (fun k => f (k / n + 1) (k % n)) =
      (List.range' 1 m).flatMap fun i => (List.range n).map (f i) := by
  induction m with
  | zero => simp
  | succ m ih =>
    have hlast : ((List.range n).map (m * n + ·)).map (fun k => f (k / n + 1) (k % n)) =
        (List.range n).map (f (1 + m)) := by
      rw [List.map_map]
      refine List.map_congr_left fun v hv => ?_
      have hlt : v < n := List.mem_range.mp hv
      have hdiv : (m * n + v) / n = m := by
        rw [Nat.add_comm, Nat.add_mul_div_right _ _ (by omega), Nat.div_eq_of_lt hlt, Nat.zero_add]
      have hmod : (m * n + v) % n = v := by
        rw [Nat.add_comm, Nat.add_mul_mod_self_right, Nat.mod_eq_of_lt hlt]
      simp only [Function.comp_apply, hdiv, hmod, Nat.add_comm 1 m]
    rw [Nat.succ_mul, List.range_add, List.map_append, ih, hlast, List.range'_concat,
      List.flatMap_append]
    simp

/-- The reads of a case, counted once, are the planned ones. -/
lemma map_readCommand (readBlock : Extent) :
    (List.range' 0 c.readCount).map (fun k =>
      (⟨c.timestep k, c.varIndex k, c.readCommand config launcherArgs readBlock k⟩ : PlannedRead)) =
      c.plannedReads config launcherArgs readBlock := by
  rw [← List.range_eq_range']
  exact map_range_mul (c.plannedRead config launcherArgs readBlock) _ _

/-! ### Grids -/

/-- The grids that the readers may be arranged in. -/
def candidates : List Extent :=
  match config.procs.grids c.readers with
  | .ok grids => grids
  | .error _ => []

/-- The block of one reader for a grid, whether the blocks tile the box or not. -/
def blockFor (grid : Extent) : Extent := c.box.readBlock c.block c.writers c.readers grid

/-- Do the blocks for a grid tile the box? -/
def accepts (grid : Extent) : Bool := c.box.tiledBy (c.blockFor grid) c.readers

/-- What is wrong with a grid whose blocks do not tile the box. -/
def rejection (grid : Extent) : InvalidDecomposition := ⟨c.box, c.blockFor grid, grid, c.readers⟩

lemma readBlock_eq (grid : Extent) :
    c.readBlock grid =
      if c.accepts grid then .ok (c.blockFor grid) else .error (c.rejection grid) := rfl

/-- The grids in front of the first one that does not tile the box. -/
def acceptedGrids : List Extent := (c.candidates config).takeWhile c.accepts

/-- What is wrong with the first grid that does not tile the box. -/
def firstRejection : Option InvalidDecomposition :=
  ((c.candidates config).find? fun grid => !c.accepts grid).map c.rejection

def gridPlan (grid : Extent) : GridPlan where
  grid := grid
  readBlock := c.blockFor grid
  writeCommand := c.plannedWrite config launcherArgs
  reads := c.plannedReads config launcherArgs (c.blockFor grid)

lemma requests_gridPlan (grid : Extent) :
    (c.gridPlan config launcherArgs grid).requests =
      ⟨.write, c.writeCommand config launcherArgs⟩ :: (List.range' 0 c.readCount).map fun k =>
        ⟨.read, c.readCommand config launcherArgs (c.blockFor grid) k⟩ := by
  simp only [gridPlan, GridPlan.requests, ← map_readCommand, ← writeCommand_eq, List.map_map]
  rfl

def plan : List GridPlan := (c.acceptedGrids config).map (c.gridPlan config launcherArgs)

def requests : List Request := (c.plan config launcherArgs).flatMap GridPlan.requests

/-- A planned read belongs to a grid that tiles the box, a timestep and a variable. -/
lemma exists_of_read_mem_requests {command : Command}
    (h : (⟨.read, command⟩ : Request) ∈ c.requests config launcherArgs) :
    ∃ grid ∈ c.candidates config, c.accepts grid = true ∧
      ∃ t v, 1 ≤ t ∧ t ≤ c.timesteps.toNat ∧ v < c.vars.toNat ∧
        command = (c.plannedRead config launcherArgs (c.blockFor grid) t v).command := by
  obtain ⟨p, hp, hr⟩ := List.mem_flatMap.mp h
  obtain ⟨grid, hgrid, rfl⟩ := List.mem_map.mp hp
  refine ⟨grid, (List.takeWhile_prefix _).subset hgrid, List.mem_takeWhile_imp hgrid, ?_⟩
  rcases List.mem_cons.mp hr with hwrite | hread
  · cases hwrite
  · obtain ⟨read, hmem, heq⟩ := List.mem_map.mp hread
    obtain ⟨t, ht, hmem⟩ := List.mem_flatMap.mp hmem
    obtain ⟨v, hv, rfl⟩ := List.mem_map.mp hmem
    obtain ⟨hlow, hhigh⟩ := List.mem_range'_1.mp ht
    cases heq
    exact ⟨t, v, hlow, by omega, List.mem_range.mp hv, rfl⟩

/-- The write is planned only if a grid tiles the box. -/
lemma exists_of_write_mem_requests {command : Command}
    (h : (⟨.write, command⟩ : Request) ∈ c.requests config launcherArgs) :
    command = c.plannedWrite config launcherArgs ∧
      ∃ grid ∈ c.candidates config, c.accepts grid = true := by
  obtain ⟨p, hp, hr⟩ := List.mem_flatMap.mp h
  obtain ⟨grid, hgrid, rfl⟩ := List.mem_map.mp hp
  refine ⟨?_, grid, (List.takeWhile_prefix _).subset hgrid, List.mem_takeWhile_imp hgrid⟩
  rcases List.mem_cons.mp hr with hwrite | hread
  · cases hwrite
    rfl
  · obtain ⟨read, -, heq⟩ := List.mem_map.mp hread
    cases heq

/-- A case has a rejection exactly if one of its grids does not tile the box. -/
lemma firstRejection_isSome_iff :
    (c.firstRejection config).isSome ↔ ∃ grid ∈ c.candidates config, c.accepts grid = false := by
  simp [firstRejection, List.find?_isSome]

end Case

end TileBench
