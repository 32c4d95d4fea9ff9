/-!
# The stamp of a report

A report tells when a run began and ended, on which machine, and by which command line.
-/

namespace TileBench

def version : String := "0.1.0"

/-- When, where and how a run took place. -/
structure Stamp where
  began : String
  finished : String
  machine : String
  commandLine : String
  deriving DecidableEq

end TileBench
