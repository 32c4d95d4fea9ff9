import TileBench.Suite.Outcome
import TileBench.Text.Split

/-!
# What a run prints around its suites

Before the suites the configuration in effect is printed, and after them a table of their counts.
-/

namespace TileBench

open Text

def truthText (b : Bool) : String := if b then "true" else "false"

/-- The lines that show a configuration. -/
def Config.lines (c : Config) (writers readers : UInt32) (launcherName : String) : List String :=
  ["pidx-test",
    "  launcher       = " ++ c.launcher ++ " (" ++ launcherName ++ ")",
    "  write_exe      = " ++ c.writeExecutable,
    "  read_exe       = " ++ c.readExecutable,
    "  wcores         = " ++ toString writers.toNat,
    "  rcores         = " ++ toString readers.toNat,
    "  patch_size     = " ++ c.patch.text,
    "  n_vars         = " ++ toString c.vars.toNat,
    "  timesteps      = " ++ toString c.timesteps.toNat,
    "  var_types      = " ++ ", ".intercalate (c.varTypes.map VarType.text),
    "  non_pow2       = " ++ truthText c.fixedBox,
    "  restructure    = " ++ truthText c.restructure,
    ""]

namespace SuiteOutcome

/-- One line of the table. -/
def tableLine (name varType cases tests successes failures : String) : String :=
  alignLeft 10 name ++ " " ++ alignLeft 12 varType ++ " " ++ alignRight 7 cases ++ " "
    ++ alignRight 7 tests ++ " " ++ alignRight 9 successes ++ " " ++ alignRight 9 failures

def line (s : SuiteOutcome) : String :=
  tableLine s.name s.varType.text (toString s.cases.length) (toString s.tests.toNat)
    (toString s.successes.toNat) (toString s.failures.toNat)

end SuiteOutcome

namespace Totals

def closingLine (totals : Totals) (executed : Bool) : String :=
  if !executed then "Commands recorded, nothing executed"
  else if totals.failures = 0 then "ALL TESTS PASSED"
  else toString totals.failures.toNat ++ " test(s) FAILED"

/-- The table of some suites. Without a suite there is none. -/
def lines (suites : List SuiteOutcome) (executed : Bool) : List String :=
  if suites.isEmpty then []
  else
    ["", "Summary of all suites:",
      SuiteOutcome.tableLine "suite" "type" "cases" "tests" "success" "failures",
      SuiteOutcome.tableLine "-----" "----" "-----" "-----" "-------" "--------"]
      ++ suites.map SuiteOutcome.line ++ [(ofSuites suites).closingLine executed]

end Totals

end TileBench
