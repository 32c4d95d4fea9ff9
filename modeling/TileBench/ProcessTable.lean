import TileBench.Extent
import TileBench.OrderedMap

/-!
# Process tables

A process table gives, for a number of processes, the grids in which they may be arranged. The
first grid is the default. A count with an empty list of grids is as good as absent.
-/

namespace TileBench

/-- The candidate grids of each process count. -/
structure ProcessTable where
  /-- The lists as they were given, empty ones included. -/
  bindings : OrderedMap UInt32 (List Extent)
  deriving DecidableEq

namespace ProcessTable

def empty : ProcessTable := ⟨.empty⟩

/-- Gives the grids of a count, in place of earlier ones. -/
def insert (table : ProcessTable) (count : UInt32) (grids : List Extent) : ProcessTable :=
  ⟨table.bindings.insert count grids⟩

/-- The table of a list of counts and grids, of which the last entry for a count holds. -/
def ofList (entries : List (UInt32 × List Extent)) : ProcessTable := ⟨.ofList entries⟩

/-- The built-in table. Each grid is a factorisation of its count. -/
def standard : ProcessTable :=
  ofList [
    (4, [⟨2, 2, 1⟩]),
    (6, [⟨3, 2, 1⟩]),
    (8, [⟨2, 2, 2⟩, ⟨4, 2, 1⟩]),
    (9, [⟨1, 3, 3⟩]),
    (10, [⟨5, 2, 1⟩]),
    (12, [⟨3, 2, 2⟩, ⟨4, 3, 1⟩]),
    (14, [⟨7, 2, 1⟩]),
    (16, [⟨2, 2, 4⟩, ⟨4, 4, 1⟩]),
    (32, [⟨2, 4, 4⟩, ⟨8, 4, 1⟩]),
    (64, [⟨4, 4, 4⟩, ⟨8, 4, 2⟩]),
    (128, [⟨4, 4, 8⟩, ⟨8, 8, 2⟩, ⟨16, 4, 2⟩])]

def contains (table : ProcessTable) (count : UInt32) : Bool :=
  match table.bindings.get? count with
  | some grids => !grids.isEmpty
  | none => false

/-- The counts that have a grid, ascending. -/
def counts (table : ProcessTable) : List UInt32 :=
  (table.bindings.entries.filter fun entry => !entry.2.isEmpty).map (·.1)

/-- The grids of a count, the default one in front, or a fault that names the known counts. -/
def gridsOf (table : ProcessTable) (count : UInt32) : Except Fault (Extent × List Extent) :=
  match table.bindings.get? count with
  | some (first :: others) => .ok (first, others)
  | _ => .error (.unknownProcessCount count table.counts)

def grids (table : ProcessTable) (count : UInt32) : Except Fault (List Extent) :=
  (table.gridsOf count).map fun g => g.1 :: g.2

def defaultGrid (table : ProcessTable) (count : UInt32) : Except Fault Extent :=
  (table.gridsOf count).map (·.1)

end ProcessTable

end TileBench
