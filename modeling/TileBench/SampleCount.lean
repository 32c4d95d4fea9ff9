import TileBench.Store
import TileBench.Text.Split
import TileBench.Text.Numeral

/-!
# Sample counts and verdicts

A read executable reports how many samples it found correct and how many incorrect, on a line with
the words `Correct Sample Count`. The last such line that can be decoded counts. A read passes if
every expected sample was correct and none was incorrect.
-/

namespace TileBench

open Text

/-- What a read executable reports. Without a report nothing is correct, and the number of
incorrect samples is -1. -/
structure SampleCounts where
  correct : Int
  incorrect : Int
  deriving DecidableEq

namespace SampleCounts

/-- The counts of a read that reports nothing. -/
def unreported : SampleCounts := ⟨0, -1⟩

instance : Inhabited SampleCounts := ⟨unreported⟩

def marker : List Char := "Correct Sample Count".toList

/-- Decodes a line of output: the counts are its fourth and eighth word. -/
def ofLine? (line : List Char) : Option SampleCounts :=
  if occursIn marker line then do
    return ⟨← signed64? (← (words line)[3]?), ← signed64? (← (words line)[7]?)⟩
  else none

/-- The last report among some lines. -/
def ofLines (lines : List (List Char)) : SampleCounts :=
  (lines.filterMap ofLine?).getLastD unreported

def ofOutput (output : String) : SampleCounts := ofLines (lines output.toList)

/-- The last report so far, after one more row of bytes. -/
def scanRow (counts : SampleCounts) (row : Bytes) : Except FileError SampleCounts :=
  match decode? row with
  | some text => .ok ((ofLine? (dropReturn text)).getD counts)
  | none => .error .notUtf8

/-- Reads a stream row by row, up to the first row that is not UTF-8. -/
def scanBytes (bytes : Bytes) : Except FileError SampleCounts := do
  let (ended, rest) := rows 0x0a bytes
  let counts ← ended.foldlM scanRow unreported
  if rest.isEmpty then .ok counts
  else
    match decode? rest with
    | some text => .ok ((ofLine? text).getD counts)
    | none => .error .notUtf8

def ofStream (bytes : Bytes) : Except Fault SampleCounts := (scanBytes bytes).mapError .stream

def ofFile (store : Store) (path : String) : Except Fault SampleCounts :=
  (do scanBytes (← store.read path)).mapError (.file path)

/-- Is every expected sample correct and none incorrect? -/
def passes (counts : SampleCounts) (expected : UInt64) : Bool :=
  counts.correct == (expected.toNat : Int) && counts.incorrect == 0

end SampleCounts

/-- The judgement of one read. -/
structure Verdict where
  expected : UInt64
  counts : SampleCounts
  deriving DecidableEq

namespace Verdict

def passed (v : Verdict) : Bool := v.counts.passes v.expected

def failureLine (v : Verdict) : String :=
  "Test FAILED: count " ++ toString v.expected.toNat ++ " correct " ++ toString v.counts.correct
    ++ " incorrect " ++ toString v.counts.incorrect

end Verdict

end TileBench
