import TileBench.Bench.Arguments
import TileBench.Program
import TileBench.Suite.Console
import TileBench.Suite.Report
import TileBench.Suite.Suites

/-!
# The test program

Before anything is launched the configuration is loaded, both executables are looked for, and the
process table is asked for both counts. Then the suites are run for each variable type, and the
reports are written. The exit code is the number of failed tests, or 2 if the run could not be
finished.
-/

namespace TileBench.Bench

open CommandLine Text

def programName : String := "pidx-test"

/-- The parts of the program that write to the log. -/
def logParts : List String := ["pidx_test", "pidx_core"]

/-- The exit code of a run that could not be finished. -/
def setupExitCode : UInt8 := 2

/-- The configuration in effect, once all that it names is there. -/
def readyConfig (a : Arguments) (store : Store) : Except Fault Config := do
  let c ← a.effectiveConfig store
  c.checkExecutables store
  let _ ← c.procs.grids a.writers
  let _ ← c.procs.grids a.readers
  return c

/-- Prints lines, unless the report is printed instead. -/
def say (a : Arguments) (lines : List String) : Step Unit :=
  if a.json then pure () else Step.printLines lines

def readyLauncher (programs : Launcher.Programs) (a : Arguments) (c : Config) : Step Launcher := do
  if a.scriptMode then
    say a ["----RUNNING IN TRAVIS TEST MODE----"]
    Step.changeStore fun store => Launcher.startScript store c.scriptPath
    return .recording c.scriptPath
  else return .process programs c.logFile

/-- Removes the profile of an earlier run. -/
def readyProfile (a : Arguments) : Step (Option Profile) :=
  match a.profile with
  | some stem => do
    let profile := Profile.ofPrefix stem
    Step.changeStoreKeeping profile.reset
    return some profile
  | none => pure none

def runSuites (h : Harness) (a : Arguments) : List VarType → Step (List SuiteOutcome)
  | [] => pure []
  | varType :: rest => do
    let plan : SuitePlan := ⟨a.writers, a.readers, varType, h.config.vars, h.config.timesteps⟩
    let first ← h.runBlockGrids plan
    let second ← if h.config.fixedBox then do pure [← h.runFixedBox plan] else pure []
    return first :: second ++ (← runSuites h a rest)

/-- Writes the report where it is asked for. A file that cannot be written is complained about. -/
def writeReport (a : Arguments) (text : String) : Step (List String) := do
  if a.json then Step.printLine text
  match a.jsonFile with
  | none => return []
  | some path =>
    let s ← get
    match s.store.write path (bytesOf text) with
    | .ok store =>
      set { s with store }
      return []
    | .error cause => return ["ERROR: failed to write JSON file: " ++ cause.message]

/-- Runs everything. The result is the number of failed tests, and what there is to complain
about. -/
def run (e : Surroundings) (stamp : Stamp) (a : Arguments) (launcherArgs : List String) :
    Step (UInt32 × List String) := do
  let s ← get
  let c ← Step.ofExcept (readyConfig a s.store)
  let launcher ← readyLauncher e.programs a c
  let profile ← readyProfile a
  say a (c.lines a.writers a.readers launcher.name)
  let harness : Harness := ⟨c, launcher, launcherArgs, profile, !a.json⟩
  let suites ← runSuites harness a c.varTypes
  say a (Totals.lines suites launcher.executes)
  let parameters : RunParameters := ⟨c, a.writers, a.readers, a.scriptMode⟩
  let complaints ← writeReport a (parameters.report stamp suites).pretty
  return ((Totals.ofSuites suites).failures, complaints)

def runProgram (e : Surroundings) (args : List String) (store : Store) :
    Except UsageError Completion := do
  let (a, options) ← Arguments.parseAll args
  let filter := LogFilter.choose e.logRules logParts a.verbosity
  let (result, s) :=
    (run e (e.stamp programName args) a options.launcherArgs).run (.start store)
  return match result with
    | .ok (failures, complaints) =>
      .ofSession filter s (Totals.exitCode failures) complaints
    | .error fault => .ofSession filter s setupExitCode fault.complaints

end TileBench.Bench
