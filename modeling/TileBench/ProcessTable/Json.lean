import TileBench.Json.Basic
import TileBench.Json.Decode
import TileBench.ProcessTable

/-!
# Process tables in JSON

A table is an object with a member for each count, in ascending order, whose value lists the grids.
-/

namespace TileBench.ProcessTable

def json (table : ProcessTable) : Json :=
  .obj (table.bindings.entries.map fun entry =>
    (toString entry.1.toNat, .arr (entry.2.map fun grid => .str grid.text)))

/-- Decodes a table. The last member for a count holds. -/
def decode (d : Json.Draft) : Except DecodeError ProcessTable :=
  return .ofList (← d.map32 fun grids => grids.list fun grid => grid.parsed Extent.parse)

end TileBench.ProcessTable
