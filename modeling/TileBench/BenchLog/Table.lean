import TileBench.BenchLog.Basic
import TileBench.Decimal.Fixed
import TileBench.Statistics

/-!
# The table of benchmark logs

Each log is one row under a header, with its iterations, the words that describe its problem, and
the mean timings with six places. A statistic that does not exist is written `nan`.
-/

namespace TileBench

open Text

/-- The statistics of each series of a log. -/
structure LogSummary where
  time : Statistics
  throughput : Statistics
  fileCreate : Statistics
  restructure : Statistics
  blockRestructure : Statistics
  hz : Statistics
  aggregation : Statistics
  io : Statistics

def Timings.summary (t : Timings) : LogSummary where
  time := .of t.time
  throughput := .of t.throughput
  fileCreate := .of t.fileCreate
  restructure := .of t.restructure
  blockRestructure := .of t.blockRestructure
  hz := .of t.hz
  aggregation := .of t.aggregation
  io := .of t.io

namespace BenchLog

def summary (log : BenchLog) : LogSummary := log.timings.summary

/-- A statistic with six places. -/
def cell (x : Float) : String := if x.isNaN then "nan" else Decimal.fixed 6 x

/-- The statistics of a row, in the order of the header. -/
def rowStatistics (s : LogSummary) : List Float :=
  [s.time.mean, s.throughput.mean, s.throughput.maximum, s.fileCreate.mean, s.restructure.mean,
    s.blockRestructure.mean, s.hz.mean, s.aggregation.mean, s.io.mean]

def tableHeader : String :=
  "#       core    g_x_g_y_g_z_v#  Bx*By*Bz      BPF_BPB     FC      AF      AC      x*y*z    "
    ++ "Time(m)        Thpt(m)       Thpt(max)        Create(m)      rst(m)   brst(m)  hz(m)   "
    ++ "agg(m)  io(m)"

def tableRow (log : BenchLog) : String :=
  toString log.iterations ++ "  " ++ log.problem.cores ++ "  " ++ log.problem.extent.text ++ "x"
    ++ log.problem.vars ++ " " ++ log.restructureBox.text ++ "   " ++ log.layout.blocksPerFile
    ++ "x" ++ log.layout.bitsPerBlock ++ "      " ++ log.layout.fileCount ++ "      "
    ++ log.layout.aggregatorFactor ++ "      " ++ log.layout.aggregatorCount ++ " "
    ++ log.problem.idxBox.text ++ "        "
    ++ "      ".intercalate ((rowStatistics log.summary).map cell)

def table (logs : List BenchLog) : String :=
  String.join ((tableHeader :: logs.map tableRow).map fun line => line ++ "\n")

def fileName (log : BenchLog) : String :=
  match (Store.names log.path).filter (· ≠ ".") with
  | [] => ""
  | names => if names.getLastD "" = ".." then "" else names.getLastD ""

def summaryLine (name iterations time throughput peak : String) : String :=
  alignLeft 32 name ++ " " ++ alignRight 6 iterations ++ " " ++ alignRight 14 time ++ " "
    ++ alignRight 14 throughput ++ " " ++ alignRight 14 peak

/-- The lines that tell about each log, and how many were skipped. -/
def summaryLines (logs : List BenchLog) (skipped : Nat) : List String :=
  ["", summaryLine "file" "iters" "time(mean)" "thpt(mean)" "thpt(max)"]
    ++ logs.map (fun log =>
      summaryLine log.fileName (toString log.iterations) (cell log.summary.time.mean)
        (cell log.summary.throughput.mean) (cell log.summary.throughput.maximum))
    ++ if skipped > 0 then [toString skipped ++ " file(s) skipped"] else []

end BenchLog

end TileBench
