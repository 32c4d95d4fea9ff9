import TileBench.ProcessTable
import TileBench.Store
import TileBench.VarType

/-!
# Configurations

A configuration says which programs to run, what to test with them and which files to use. The
defaults fit a run in the build tree of the tested library.
-/

namespace TileBench

structure Config where
  writeExecutable : String
  readExecutable : String
  /-- The launcher program. -/
  launcher : String
  /-- The types to be tested, one after the other. -/
  varTypes : List VarType
  /-- The block of one writer in the suite of block grids. -/
  patch : Extent
  procs : ProcessTable
  /-- The number of variables. -/
  vars : UInt32
  timesteps : UInt32
  /-- Is the suite with the fixed box run too? -/
  fixedBox : Bool
  /-- Is the restructuring box handed to the write executable? -/
  restructure : Bool
  /-- The file with the list of variables. -/
  varsFile : String
  /-- The name of the dataset. -/
  dataFile : String
  /-- The file for the output of the writers. -/
  writeLog : String
  /-- The file for the output of the readers. -/
  readLog : String
  /-- The file for recorded commands. -/
  scriptPath : String
  deriving DecidableEq

namespace Config

/-- The settings that hold unless others are given. -/
def standard : Config where
  writeExecutable := "../../build/examples/idx_write"
  readExecutable := "../../build/examples/idx_read"
  launcher := "mpirun"
  varTypes := [⟨1, "float32"⟩]
  patch := ⟨12, 12, 12⟩
  procs := .standard
  vars := 1
  timesteps := 1
  fixedBox := false
  restructure := false
  varsFile := "VARS"
  dataFile := "data"
  writeLog := "_out_write.txt"
  readLog := "_out_read.txt"
  scriptPath := "travis_tests.sh"

def executable (c : Config) : Phase → String
  | .write => c.writeExecutable
  | .read => c.readExecutable

/-- The file for the output of a phase. -/
def logFile (c : Config) : Phase → String
  | .write => c.writeLog
  | .read => c.readLog

def checkExecutable (c : Config) (store : Store) (phase : Phase) : Except Fault Unit :=
  if store.isFile (c.executable phase) then .ok ()
  else .error (.executableNotFound phase (c.executable phase))

def checkExecutables (c : Config) (store : Store) : Except Fault Unit := do
  c.checkExecutable store .write
  c.checkExecutable store .read

end Config

end TileBench
