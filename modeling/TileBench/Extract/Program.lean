import TileBench.BenchLog.Report
import TileBench.Extract.Arguments
import TileBench.Program

/-!
# The extraction program

The logs of a directory are collected in one table. The table is written only if every log could be
read or left out, so a run that fails before it is written leaves the file as it was.
-/

namespace TileBench.Extract

open CommandLine Text

def programName : String := "pidx-extract"

/-- The parts of the program that write to the log. -/
def logParts : List String := ["pidx_extract", "pidx_core"]

/-- The exit code of a run that failed. -/
def failureExitCode : UInt8 := 1

def collect (a : Arguments) : Step Collection := do
  let s ← get
  let (collected, events) := Collection.collect s.store a.input a.skips
  Step.tellAll events
  Step.ofExcept collected

def writeReport (device : Store.Device) (a : Arguments) (report : Json) : Step Unit :=
  match a.jsonFile with
  | some path =>
    Step.changeStoreKeeping fun store =>
      let (result, after) := store.overwrite device path (bytesOf report.pretty)
      (result.mapError (.file path), after)
  | none => pure ()

def run (device : Store.Device) (stamp : Stamp) (a : Arguments) : Step Unit := do
  let s ← get
  if s.store.isFile a.output then
    Step.tell (.overwriting a.output)
  let c ← collect a
  Step.changeStoreKeeping fun store => c.writeTable device store a.output
  if a.summary then
    Step.printLines c.summaryLines
  writeReport device a (c.report stamp a.input)

def runProgram (device : Store.Device) (e : Surroundings) (args : List String) (store : Store) :
    Except UsageError Completion := do
  let a ← Arguments.parse args
  let filter := LogFilter.choose e.logRules logParts a.verbosity
  let (result, s) := (run device (e.stamp programName args) a).run (.start store)
  return match result with
    | .ok () => .ofSession filter s 0 []
    | .error fault => .ofSession filter s failureExitCode fault.complaints

end TileBench.Extract
