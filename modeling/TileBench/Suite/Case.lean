import TileBench.Config
import TileBench.Decomposition
import TileBench.Launch.Command

/-!
# Test cases

A case has a box of cells written by some processes in blocks, and read back by others. Every
variable is read back at every timestep: read number `k` takes variable `k % vars` at timestep
`k / vars + 1`, so the timesteps are taken in turn, and the variables in turn within each.
-/

namespace TileBench

/-- A decomposition of the writers, to be read back with every grid of the readers. -/
structure Case where
  writers : UInt32
  readers : UInt32
  box : Extent
  /-- The block of one writer. -/
  block : Extent
  /-- The box that the writers restructure their blocks to. -/
  restructureBox : Extent
  timesteps : UInt32
  vars : UInt32
  varType : VarType
  /-- How the restructuring box compares with the block, where that is what is tested. -/
  label : Option String
  deriving DecidableEq

namespace Case

/-- The samples that a read must report as correct, if their number fits in 64 bits. -/
def samples? (c : Case) : Option UInt64 := do
  Extent.product? (← c.box.volume?) c.varType.samplesPerCell

def expectedSamples (c : Case) : Except Fault UInt64 :=
  match c.samples? with
  | some n => .ok n
  | none => .error (.extentOverflow (c.box.text ++ " * " ++ c.varType.text))

def readCount (c : Case) : Nat := c.timesteps.toNat * c.vars.toNat

/-- The timestep of a read, counted from one. -/
def timestep (c : Case) (k : Nat) : Nat := k / c.vars.toNat + 1

/-- The variable of a read, counted from zero. -/
def varIndex (c : Case) (k : Nat) : Nat := k % c.vars.toNat

def writeCommand (c : Case) (config : Config) (launcherArgs : List String) : Command where
  launcher := config.launcher
  launcherArgs := launcherArgs
  procs := c.writers
  executable := config.writeExecutable
  args :=
    ["-g", c.box.text, "-l", c.block.text]
      ++ (if config.restructure then ["-r", c.restructureBox.text] else [])
      ++ ["-t", toString c.timesteps.toNat, "-v", config.varsFile, "-f", config.dataFile]

/-- The command of a read, where each reader takes a block of the given size. The executable counts
the timesteps from zero. -/
def readCommand (c : Case) (config : Config) (launcherArgs : List String) (readBlock : Extent)
    (k : Nat) : Command where
  launcher := config.launcher
  launcherArgs := launcherArgs
  procs := c.readers
  executable := config.readExecutable
  args := ["-g", c.box.text, "-l", readBlock.text, "-t", toString (c.timestep k - 1),
    "-v", toString (c.varIndex k), "-f", config.dataFile]

/-- The block of one reader for a grid, if the blocks tile the box. -/
def readBlock (c : Case) (grid : Extent) : Except InvalidDecomposition Extent :=
  c.box.checkReadBlock c.block c.writers c.readers grid

end Case

end TileBench
