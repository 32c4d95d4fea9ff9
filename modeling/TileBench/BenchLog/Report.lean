import TileBench.BenchLog.Collection
import TileBench.Json.Basic
import TileBench.Stamp

/-!
# The report of a collection

The report is a JSON document with the words and the statistics of each log and the reason for each
log that was skipped.
-/

namespace TileBench

def Statistics.json (s : Statistics) : Json :=
  .obj [("mean", .real s.mean), ("stddev", .real s.deviation), ("max", .real s.maximum)]

def LogSummary.json (s : LogSummary) : Json :=
  .obj [
    ("time", s.time.json),
    ("throughput", s.throughput.json),
    ("fileCreate", s.fileCreate.json),
    ("restructure", s.restructure.json),
    ("blockRestructure", s.blockRestructure.json),
    ("hz", s.hz.json),
    ("aggregation", s.aggregation.json),
    ("io", s.io.json)]

def BenchLog.json (log : BenchLog) : Json :=
  .obj [
    ("file", .str log.path),
    ("iterations", .nat log.iterations),
    ("cores", .str log.problem.cores),
    ("global", .str log.problem.extent.text),
    ("variables", .str log.problem.vars),
    ("restructureBox", .str log.restructureBox.text),
    ("blocksPerFile", .str log.layout.blocksPerFile),
    ("bitsPerBlock", .str log.layout.bitsPerBlock),
    ("fileCount", .str log.layout.fileCount),
    ("aggregatorFactor", .str log.layout.aggregatorFactor),
    ("aggregatorCount", .str log.layout.aggregatorCount),
    ("idxCount", .str log.problem.idxCount),
    ("idxBox", .str log.problem.idxBox.text),
    ("stats", log.summary.json)]

/-- The report of a collection from a directory. -/
def Collection.report (c : Collection) (stamp : Stamp) (dir : String) : Json :=
  .obj [
    ("version", .str version),
    ("began", .str stamp.began),
    ("command_line", .str stamp.commandLine),
    ("machine", .str stamp.machine),
    ("input_dir", .str dir),
    ("logs", .arr (c.logs.map BenchLog.json)),
    ("skipped", .arr (c.skipped.map fun s =>
      .obj [("file", .str s.1), ("error", .str s.2.message)])),
    ("finished", .str stamp.finished)]

end TileBench
