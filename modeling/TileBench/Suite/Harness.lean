import TileBench.Profile
import TileBench.Session
import TileBench.Suite.Outcome

/-!
# Running a case

The grids of the readers are tried in turn. For each one the box is written anew and every variable
is read back at every timestep. The first grid that does not tile the box ends the case.
-/

namespace TileBench

open Text

/-- What stays the same during a run. -/
structure Harness where
  config : Config
  launcher : Launcher
  /-- The launcher's options. -/
  launcherArgs : List String
  /-- The files for profiling data, if that is collected. -/
  profile : Option Profile
  /-- Are results printed as text? -/
  printsText : Bool

namespace Harness

/-- Prints lines, if results are printed. -/
def say (h : Harness) (lines : List String) : Step Unit :=
  if h.printsText then Step.printLines lines else pure ()

/-- Collects the profiling data of an output. -/
def capture (h : Harness) (phase : Phase) (output : Output) : Step Unit :=
  match h.profile with
  | some profile =>
    Step.changeStore fun store => Profile.capture store (profile.path phase) output.text
  | none => pure ()

def writeVars (h : Harness) (c : Case) : Step Unit :=
  Step.changeStore fun store =>
    (store.write h.config.varsFile (bytesOf (varList c.vars c.varType c.varType))).mapError
      (.file h.config.varsFile)

/-- Launches a command and collects its profiling data. `judge` sees the output in between. -/
def perform (h : Harness) (phase : Phase) (command : Command) (judge : Output → Step Unit) :
    Step Output := do
  Step.tell (.executing phase command.text)
  let output ← Step.launch h.launcher phase command
  judge output
  h.capture phase output
  return output

/-- Warns if a write was run and failed. -/
def judgeWrite (output : Output) : Step Unit :=
  if output.executed && output.exitCode != some 0 then
    Step.tell (.uncleanWrite output.exitCode)
  else pure ()

/-- The verdict on a read, if it was run. -/
def verdictOf (expected : UInt64) (output : Output) : Option Verdict :=
  if output.executed then some ⟨expected, SampleCounts.ofOutput output.text⟩ else none

/-- The lines that tell about a read that failed. -/
def readFailure (varType : VarType) (r : ReadOutcome) : List String :=
  (r.verdict.map Verdict.failureLine).toList ++
    ["Test t=" ++ toString r.timestep ++ " v=" ++ toString r.varIndex ++ " type=" ++ varType.text
      ++ " FAILED"]

/-- Read number `k` of a case. -/
def readBack (h : Harness) (c : Case) (expected : UInt64) (readBlock : Extent) (k : Nat) :
    Step ReadOutcome := do
  let command := c.readCommand h.config h.launcherArgs readBlock k
  let output ← h.perform .read command fun _ => pure ()
  let outcome : ReadOutcome := ⟨c.timestep k, c.varIndex k, command, verdictOf expected output⟩
  if !outcome.passed then
    h.say (readFailure c.varType outcome)
  return outcome

/-- The next `n` reads of a case, from read number `k` on. -/
def readsFrom (h : Harness) (c : Case) (expected : UInt64) (readBlock : Extent) :
    Nat → Nat → Step (List ReadOutcome)
  | 0, _ => pure []
  | n + 1, k => do
    let outcome ← h.readBack c expected readBlock k
    return outcome :: (← h.readsFrom c expected readBlock n (k + 1))

/-- Writes the box of a case, and reads it back with one grid. -/
def runGrid (h : Harness) (c : Case) (expected : UInt64) (grid readBlock : Extent) :
    Step GridRun := do
  if c.varType.smallDomainOnly then
    Step.tell (.smallDomain c.varType)
  h.writeVars c
  let command := c.writeCommand h.config h.launcherArgs
  let output ← h.perform .write command judgeWrite
  let reads ← h.readsFrom c expected readBlock c.readCount 0
  return ⟨grid, readBlock, command, output.exitCode, reads⟩

/-- Tries grids in turn. -/
def runGrids (h : Harness) (c : Case) (expected : UInt64) :
    List Extent → Step (Option InvalidDecomposition × List GridRun)
  | [] => pure (none, [])
  | grid :: rest =>
    match c.readBlock grid with
    | .error invalid => do
      h.say invalid.lines
      return (some invalid, [])
    | .ok readBlock => do
      let first ← h.runGrid c expected grid readBlock
      let (invalid, others) ← h.runGrids c expected rest
      return (invalid, first :: others)

def successLine (c : CaseOutcome) : String :=
  "Success " ++ toString c.successes.toNat ++ "/" ++ toString c.tests.toNat

/-- Runs a case with every grid of its readers. -/
def runCase (h : Harness) (c : Case) : Step CaseOutcome := do
  let grids ← Step.ofExcept (h.config.procs.grids c.readers)
  let expected ← Step.ofExcept c.expectedSamples
  let (invalid, runs) ← h.runGrids c expected grids
  let outcome : CaseOutcome := ⟨c, invalid, runs⟩
  if invalid.isNone && h.launcher.executes then
    h.say [successLine outcome]
  return outcome

/-- The line in front of a case with a label. -/
def announcement (c : Case) : List String :=
  (c.label.map fun label => label ++ " " ++ c.restructureBox.text).toList

/-- Runs cases in turn. A case that cannot be made ends the run when its turn comes. -/
def runCases (h : Harness) : List (Except Fault Case) → Step (List CaseOutcome)
  | [] => pure []
  | made :: rest => do
    let c ← Step.ofExcept made
    h.say (announcement c)
    let outcome ← h.runCase c
    return outcome :: (← h.runCases rest)

end Harness

end TileBench
