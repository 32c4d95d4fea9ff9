import TileBench.BenchLog.Table
import TileBench.Logging

/-!
# Collecting the logs of a directory

The inputs are the files directly in a directory whose names do not start with a dot, in the order
of their names. They are read in turn. The first log that cannot be read ends the collection,
unless such logs are skipped.
-/

namespace TileBench

open Text

/-- The logs of a directory, and those left out with the reason. -/
structure Collection where
  logs : List BenchLog
  skipped : List (String × Fault)

namespace Collection

/-- The path of a name in a directory. -/
def join (dir name : String) : String :=
  if dir.toList.getLast? = some '/' then dir ++ name else dir ++ "/" ++ name

def isHidden (name : String) : Bool := name.toList.head? = some '.'

/-- The logs to be read, in the order of their names. -/
def inputs (store : Store) (dir : String) : Except Fault (List String) :=
  match store.list dir with
  | .error cause => .error (.file dir cause)
  | .ok names =>
    let shown := (names.filter fun name => !isHidden name).mergeSort
    .ok ((shown.map (join dir)).filter store.isFile)

def readLog (store : Store) (path : String) : Except Fault BenchLog :=
  match store.read path with
  | .ok bytes => BenchLog.parse path bytes
  | .error cause => .error (.file path cause)

/-- What reading a log tells. -/
def readEvents (store : Store) (path : String) : List Event :=
  let kept := match store.read path with
    | .ok bytes => (BenchLog.keptLines bytes).map .keptSample
    | .error _ => []
  let done := match readLog store path with
    | .ok log => [.logRead path log.iterations]
    | .error _ => []
  .reading path :: kept ++ done

def readAll (store : Store) (skip : Bool) :
    List String → Except Fault Collection × List Event
  | [] => (.ok ⟨[], []⟩, [])
  | path :: rest =>
    let told := readEvents store path
    match readLog store path with
    | .ok log =>
      let (others, events) := readAll store skip rest
      (others.map fun c => { c with logs := log :: c.logs }, told ++ events)
    | .error fault =>
      if skip then
        let (others, events) := readAll store skip rest
        (others.map fun c => { c with skipped := (path, fault) :: c.skipped },
          told ++ .skipping path fault.message :: events)
      else (.error fault, told)

def collect (store : Store) (dir : String) (skip : Bool) : Except Fault Collection × List Event :=
  match inputs store dir with
  | .ok paths => readAll store skip paths
  | .error fault => (.error fault, [])

/-- Writes the table of the logs. A file that was opened is emptied even if there is no room for the
table. -/
def writeTable (c : Collection) (device : Store.Device) (store : Store) (path : String) :
    Except Fault Unit × Store :=
  let (result, after) := store.overwrite device path (bytesOf (BenchLog.table c.logs))
  (result.mapError (.file path), after)

def summaryLines (c : Collection) : List String := BenchLog.summaryLines c.logs c.skipped.length

end Collection

end TileBench
