import TileBench.Suite.Harness

/-!
# The two suites

The suite of *block grids* takes each grid of the writers and lets every writer own one block of the
configured size; the box is the grid of those blocks. The suite of the *fixed box* cuts one box by
the first grid of the writers, under restructuring boxes that are as large as, smaller than and
larger than the blocks.
-/

namespace TileBench

/-- What a suite is run with. -/
structure SuitePlan where
  writers : UInt32
  readers : UInt32
  varType : VarType
  vars : UInt32
  timesteps : UInt32
  deriving DecidableEq

namespace SuitePlan

def case (p : SuitePlan) (box block restructureBox : Extent) (label : Option String) : Case where
  writers := p.writers
  readers := p.readers
  box := box
  block := block
  restructureBox := restructureBox
  timesteps := p.timesteps
  vars := p.vars
  varType := p.varType
  label := label

/-! ### Block grids -/

/-- The case of one grid of blocks. -/
def blockGridCase (p : SuitePlan) (patch grid : Extent) : Except Fault Case :=
  match grid.times? patch with
  | some box => .ok (p.case box patch patch none)
  | none => .error (.extentOverflow (grid.text ++ " * " ++ patch.text))

/-! ### The fixed box -/

def fixedBox : Extent := ⟨124, 48, 36⟩

/-- The block of one writer. -/
def fixedBoxBlock (grid : Extent) : Except Fault Extent :=
  match fixedBox.quotient? grid with
  | some block => .ok block
  | none => .error (.invalidExtent grid.text)

/-- The restructuring boxes and how they compare with the block of one of eight writers. -/
def restructureBoxes (block : Extent) : Except Fault (List (String × Extent)) :=
  match block.scale? 2 with
  | some double => .ok [("r == l", ⟨64, 32, 32⟩), ("r < l", ⟨64, 32, 16⟩), ("r > l", double)]
  | none => .error (.extentOverflow ("2 * " ++ block.text))

def fixedBoxCases (p : SuitePlan) (grid : Extent) : Except Fault (List Case) := do
  let block ← fixedBoxBlock grid
  let boxes ← restructureBoxes block
  return boxes.map fun box => p.case fixedBox block box.2 (some box.1)

end SuitePlan

namespace Harness

/-- The line that tells that every test of a suite passed. -/
def passedLine : String := "TEST PASSED"

/-- Runs the suite of block grids. It is announced as passed only if the commands are run. -/
def runBlockGrids (h : Harness) (p : SuitePlan) : Step SuiteOutcome := do
  h.say ["---RUN TESTS---"]
  let grids ← Step.ofExcept (h.config.procs.grids p.writers)
  let cases ← h.runCases (grids.map (p.blockGridCase h.config.patch))
  let suite : SuiteOutcome := ⟨"pow2", p.varType, cases⟩
  if suite.failures = 0 && h.launcher.executes then
    h.say [passedLine]
  return suite

def runFixedBox (h : Harness) (p : SuitePlan) : Step SuiteOutcome := do
  h.say ["---NON-POW 2 TESTS---"]
  let grid ← Step.ofExcept (h.config.procs.defaultGrid p.writers)
  let cases ← Step.ofExcept (p.fixedBoxCases grid)
  let outcomes ← h.runCases (cases.map .ok)
  let suite : SuiteOutcome := ⟨"non-pow2", p.varType, outcomes⟩
  if suite.failures = 0 then
    h.say [passedLine]
  return suite

end Harness

end TileBench
