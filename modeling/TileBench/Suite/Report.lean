import TileBench.Json.Basic
import TileBench.Stamp
import TileBench.Suite.Outcome

/-!
# The report of a run

The report is a JSON document with the parameters of a run, every case with its reads, and the
totals of the counts.
-/

namespace TileBench

/-- A member that is left out if there is no value. -/
def Json.member {α : Type} (key : String) (f : α → Json) : Option α → List (String × Json)
  | some a => [(key, f a)]
  | none => []

def Json.word (n : UInt32) : Json := .nat n.toNat

/-- A read with its counts, which are `null` if it was not executed. -/
def ReadOutcome.json (r : ReadOutcome) : Json :=
  .obj [
    ("timestep", .nat r.timestep),
    ("variable", .nat r.varIndex),
    ("command", .str r.command.text),
    ("executed", .bool r.verdict.isSome),
    ("correct", .optional (fun v => .int v.counts.correct) r.verdict),
    ("incorrect", .optional (fun v => .int v.counts.incorrect) r.verdict),
    ("passed", .bool r.passed)]

def GridRun.json (g : GridRun) : Json :=
  .obj [
    ("readGrid", .str g.grid.text),
    ("readLocal", .str g.readBlock.text),
    ("writeCommand", .str g.writeCommand.text),
    ("writeExitCode", .optional .int g.writeExitCode),
    ("reads", .arr (g.reads.map ReadOutcome.json))]

def CaseOutcome.json (c : CaseOutcome) : Json :=
  .obj ([
      ("global", .str c.case.box.text),
      ("local", .str c.case.block.text),
      ("restructure", .str c.case.restructureBox.text)]
    ++ Json.member "label" .str c.case.label
    ++ Json.member "expectedSamples" (fun n => .nat n.toNat) c.case.samples?
    ++ [("valid", .bool c.invalid.isNone)]
    ++ Json.member "invalidReason" (fun d => .str d.message) c.invalid
    ++ [("tests", .word c.tests),
      ("successes", .word c.successes),
      ("grids", .arr (c.grids.map GridRun.json))])

def SuiteOutcome.json (s : SuiteOutcome) : Json :=
  .obj [
    ("name", .str s.name),
    ("varType", .str s.varType.text),
    ("failures", .word s.failures),
    ("cases", .arr (s.cases.map CaseOutcome.json))]

def Totals.json (t : Totals) : Json :=
  .obj [("tests", .word t.tests), ("successes", .word t.successes), ("failures", .word t.failures)]

/-- What was run. -/
structure RunParameters where
  config : Config
  writers : UInt32
  readers : UInt32
  /-- Are commands recorded in a script? -/
  scriptMode : Bool
  deriving DecidableEq

def RunParameters.json (p : RunParameters) : Json :=
  .obj [
    ("mpirun", .str p.config.launcher),
    ("writeExecutable", .str p.config.writeExecutable),
    ("readExecutable", .str p.config.readExecutable),
    ("wcores", .word p.writers),
    ("rcores", .word p.readers),
    ("patchSize", .str p.config.patch.text),
    ("varTypes", .arr (p.config.varTypes.map fun v => .str v.text)),
    ("nVars", .word p.config.vars),
    ("timesteps", .word p.config.timesteps),
    ("restructure", .bool p.config.restructure),
    ("scriptMode", .bool p.scriptMode)]

def RunParameters.report (p : RunParameters) (stamp : Stamp) (suites : List SuiteOutcome) : Json :=
  .obj [
    ("version", .str version),
    ("began", .str stamp.began),
    ("command_line", .str stamp.commandLine),
    ("machine", .str stamp.machine),
    ("parameters", p.json),
    ("suites", .arr (suites.map SuiteOutcome.json)),
    ("summary", (Totals.ofSuites suites).json),
    ("finished", .str stamp.finished)]

end TileBench
