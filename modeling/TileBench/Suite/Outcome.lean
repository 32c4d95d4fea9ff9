import TileBench.SampleCount
import TileBench.Suite.Case

/-!
# Outcomes

A read that was executed has a verdict; one that was only recorded passes. The counts of a case are
the sums over its reads, except that a case with a decomposition that does not tile its box counts
as one failed test. Counts are 32-bit words.
-/

namespace TileBench

/-- What came of one read. -/
structure ReadOutcome where
  /-- Counted from one. -/
  timestep : Nat
  varIndex : Nat
  command : Command
  /-- The verdict, if the command was executed. -/
  verdict : Option Verdict
  deriving DecidableEq

namespace ReadOutcome

def passed (r : ReadOutcome) : Bool := r.verdict.all Verdict.passed

end ReadOutcome

/-- One write, and the reads of what it wrote with one grid of readers. -/
structure GridRun where
  grid : Extent
  readBlock : Extent
  writeCommand : Command
  writeExitCode : Option Int
  reads : List ReadOutcome
  deriving DecidableEq

structure CaseOutcome where
  case : Case
  /-- The first decomposition that does not tile the box. The grids after it are not tried. -/
  invalid : Option InvalidDecomposition
  grids : List GridRun
  deriving DecidableEq

/-- A number of things as a word. -/
def count32 {α : Type} (items : List α) : UInt32 := UInt32.ofNat items.length

def total : List UInt32 → UInt32
  | [] => 0
  | n :: counts => n + total counts

namespace CaseOutcome

def reads (c : CaseOutcome) : List ReadOutcome := c.grids.flatMap GridRun.reads

def tests (c : CaseOutcome) : UInt32 := if c.invalid.isSome then 1 else count32 c.reads

def successes (c : CaseOutcome) : UInt32 :=
  if c.invalid.isSome then 0 else count32 (c.reads.filter ReadOutcome.passed)

def failures (c : CaseOutcome) : UInt32 := c.tests - c.successes

end CaseOutcome

/-- What came of the cases of a suite, which all have one variable type. -/
structure SuiteOutcome where
  name : String
  varType : VarType
  cases : List CaseOutcome
  deriving DecidableEq

namespace SuiteOutcome

def tests (s : SuiteOutcome) : UInt32 := total (s.cases.map CaseOutcome.tests)

def successes (s : SuiteOutcome) : UInt32 := total (s.cases.map CaseOutcome.successes)

def failures (s : SuiteOutcome) : UInt32 := total (s.cases.map CaseOutcome.failures)

end SuiteOutcome

/-- The counts of some suites. -/
structure Totals where
  tests : UInt32
  successes : UInt32
  failures : UInt32
  deriving DecidableEq

namespace Totals

def ofSuites (suites : List SuiteOutcome) : Totals where
  tests := total (suites.map SuiteOutcome.tests)
  successes := total (suites.map SuiteOutcome.successes)
  failures := total (suites.map SuiteOutcome.failures)

/-- The exit code of a run: the number of failures, or 255 if there are more. -/
def exitCode (failures : UInt32) : UInt8 :=
  if failures ≤ 255 then failures.toUInt8 else 255

end Totals

end TileBench
