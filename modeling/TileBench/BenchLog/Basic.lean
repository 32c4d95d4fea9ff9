import TileBench.Store
import TileBench.Decimal.Read
import TileBench.Text.Split

/-!
# Benchmark logs

A benchmark log is read line by line. Six markers tag the lines that matter, and a line may carry
several. The layout of the files, the restructuring box and the size of the problem are taken from
the last line with their marker, the timings from every line with theirs but the first, which
belongs to the warm-up iteration. The values are words of the line, counted from zero.

A log that lacks a line of the layout or of the problem is refused.
-/

namespace TileBench

open Text

/-- Three words that stand for a box. -/
structure WordBox where
  x : String
  y : String
  z : String
  deriving DecidableEq

def WordBox.text (b : WordBox) : String := b.x ++ "x" ++ b.y ++ "x" ++ b.z

/-- How the data lie in files, as written in the log. -/
structure FileLayout where
  blocksPerFile : String
  bitsPerBlock : String
  fileCount : String
  aggregatorFactor : String
  aggregatorCount : String
  deriving DecidableEq

/-- The size of the problem, as written in the log. -/
structure Problem where
  cores : String
  extent : WordBox
  vars : String
  idxCount : String
  idxBox : WordBox
  deriving DecidableEq

/-- The timings of the iterations after the first. -/
structure Timings where
  time : List Float
  throughput : List Float
  fileCreate : List Float
  restructure : List Float
  blockRestructure : List Float
  hz : List Float
  aggregation : List Float
  io : List Float

def Timings.none : Timings := ⟨[], [], [], [], [], [], [], []⟩

/-- What a benchmark log says. -/
structure BenchLog where
  path : String
  layout : FileLayout
  restructureBox : WordBox
  problem : Problem
  timings : Timings
  /-- The number of iterations whose time is kept. -/
  iterations : Nat

/-! ### Words of a line -/

def wordAt (marker : LogMarker) (line : List Char) (index : Nat) : Except LineError String :=
  match (words line)[index]? with
  | some word => .ok (String.ofList word)
  | none => .error (.tooShort marker (words line).length index)

def numberAt (marker : LogMarker) (line : List Char) (index : Nat) : Except LineError Float := do
  let word ← wordAt marker line index
  match Decimal.float? word.toList with
  | some x => .ok x
  | none => .error (.notNumber marker index word)

def FileLayout.ofLine (line : List Char) : Except LineError FileLayout := do
  let word := wordAt .blocksPerFile line
  return ⟨← word 3, ← word 7, ← word 10, ← word 13, ← word 16⟩

/-- The restructuring box on a line. -/
def WordBox.ofLine (line : List Char) : Except LineError WordBox := do
  let word := wordAt .restructuringSize line
  return ⟨← word 3, ← word 4, ← word 5⟩

def Problem.ofLine (line : List Char) : Except LineError Problem := do
  let word := wordAt .globalData line
  return ⟨← word 1, ⟨← word 4, ← word 5, ← word 6⟩, ← word 8, ← word 11,
    ⟨← word 13, ← word 15, ← word 17⟩⟩

/-! ### Reading -/

/-- What the lines so far have said. -/
structure Reading where
  layout : Option FileLayout
  restructureBox : WordBox
  problem : Option Problem
  /-- Has the warm-up line of each timing gone by? -/
  createWarm : Bool
  writeWarm : Bool
  takenWarm : Bool
  timings : Timings

namespace Reading

/-- Before the first line. -/
def start : Reading := ⟨none, ⟨"1", "1", "1"⟩, none, false, false, false, .none⟩

def tagged (marker : LogMarker) (line : List Char) : Bool := occursIn marker.text.toList line

def addLayout (r : Reading) (line : List Char) : Except LineError Reading := do
  if tagged .blocksPerFile line then return { r with layout := some (← FileLayout.ofLine line) }
  else return r

def addBox (r : Reading) (line : List Char) : Except LineError Reading := do
  if tagged .restructuringSize line then return { r with restructureBox := ← WordBox.ofLine line }
  else return r

def addProblem (r : Reading) (line : List Char) : Except LineError Reading := do
  if tagged .globalData line then return { r with problem := some (← Problem.ofLine line) }
  else return r

/-- Takes the time of creating files from a line. -/
def addCreate (r : Reading) (line : List Char) : Except LineError Reading := do
  if tagged .fileCreate line then
    if r.createWarm then
      let x ← numberAt .fileCreate line 6
      return { r with timings := { r.timings with fileCreate := r.timings.fileCreate ++ [x] } }
    else return { r with createWarm := true }
  else return r

/-- Takes the times of the steps of a write from a line. -/
def addWrite (r : Reading) (line : List Char) : Except LineError Reading := do
  if tagged .writeTime line then
    if r.writeWarm then
      let number := numberAt .writeTime line
      let restructure ← number 11
      let blockRestructure ← number 13
      let hz ← number 15
      let aggregation ← number 17
      let io ← number 19
      let t := r.timings
      return { r with
        timings := { t with
          restructure := t.restructure ++ [restructure]
          blockRestructure := t.blockRestructure ++ [blockRestructure]
          hz := t.hz ++ [hz]
          aggregation := t.aggregation ++ [aggregation]
          io := t.io ++ [io] } }
    else return { r with writeWarm := true }
  else return r

/-- Takes the time and the throughput of an iteration from a line. -/
def addTaken (r : Reading) (line : List Char) : Except LineError Reading := do
  if tagged .timeTaken line then
    if r.takenWarm then
      let time ← numberAt .timeTaken line 2
      let throughput ← numberAt .timeTaken line 5
      let t := r.timings
      return { r with
        timings := { t with time := t.time ++ [time], throughput := t.throughput ++ [throughput] } }
    else return { r with takenWarm := true }
  else return r

/-- Takes everything from a line, in the order of the markers. -/
def addLine (r : Reading) (line : List Char) : Except LineError Reading := do
  (← (← (← (← (← r.addLayout line).addBox line).addProblem line).addCreate line).addWrite
    line).addTaken line

end Reading

/-- What can be wrong with a line. -/
inductive RowError where
  | notUtf8
  | line (cause : LineError)
  deriving DecidableEq

/-- The rows of a log, decoded; `none` for a row that is not UTF-8. -/
def logLines (bytes : Bytes) : List (Option (List Char)) :=
  let (ended, rest) := rows 0x0a bytes
  ended.map (fun row => (decode? row).map dropReturn) ++ if rest.isEmpty then [] else [decode? rest]

namespace Reading

/-- Takes everything from a row. -/
def addRow (r : Reading) : Option (List Char) → Except RowError Reading
  | some line => (r.addLine line).mapError .line
  | none => .error .notUtf8

/-- Reads rows up to the first bad one, of which the number is given; rows are counted from
`number`. -/
def addRows (r : Reading) (number : Nat) :
    List (Option (List Char)) → Except (Nat × RowError) Reading
  | [] => .ok r
  | row :: rest =>
    match r.addRow row with
    | .ok r => r.addRows (number + 1) rest
    | .error e => .error (number, e)

/-- The numbers of the rows that add a time, up to the first bad row. -/
def keptRows (r : Reading) (number : Nat) : List (Option (List Char)) → List Nat
  | [] => []
  | row :: rest =>
    match r.addRow row with
    | .ok next =>
      (if r.timings.time.length < next.timings.time.length then [number] else [])
        ++ next.keptRows (number + 1) rest
    | .error _ => []

/-- The log, if it has a layout and a problem. -/
def finish (r : Reading) (path : String) : Except Fault BenchLog :=
  match r.layout, r.problem with
  | none, _ => .error (.missingMarker path .blocksPerFile)
  | some _, none => .error (.missingMarker path .globalData)
  | some layout, some problem =>
    .ok ⟨path, layout, r.restructureBox, problem, r.timings, r.timings.time.length⟩

end Reading

def RowError.fault (path : String) (number : Nat) : RowError → Fault
  | .notUtf8 => .file path .notUtf8
  | .line cause => .logLine path number cause

namespace BenchLog

/-- Reads a log. The path is used in faults only. -/
def parse (path : String) (bytes : Bytes) : Except Fault BenchLog :=
  match Reading.start.addRows 1 (logLines bytes) with
  | .ok r => r.finish path
  | .error (number, e) => .error (e.fault path number)

/-- The numbers of the lines whose times are kept while a log is read. -/
def keptLines (bytes : Bytes) : List Nat := Reading.start.keptRows 1 (logLines bytes)

end BenchLog

end TileBench
