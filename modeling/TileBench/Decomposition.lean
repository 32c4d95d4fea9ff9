import TileBench.Extent

/-!
# Decompositions

A box is cut into equal blocks, one for each process. The blocks *tile* the box for a number of
processes when every side of the box is a multiple of the block's side and the blocks are as many
as the processes.

The reading side uses the writers' block when the process counts are equal, and otherwise the box
cut by a candidate grid, rounded down.
-/

namespace TileBench

/-- A box and a block that does not tile it for the readers. -/
structure InvalidDecomposition where
  box : Extent
  block : Extent
  grid : Extent
  procs : UInt32
  deriving DecidableEq

def InvalidDecomposition.lines (d : InvalidDecomposition) : List String :=
  ["INVALID test configuration g_box " ++ d.box.text ++ " read l_box " ++ d.block.text
      ++ " g_box/l_box != " ++ d.grid.text,
    "Try to change the patch size to get an integer value for g_box/l_box"]

def InvalidDecomposition.message (d : InvalidDecomposition) : String :=
  "\n".intercalate d.lines

namespace Extent

/-- Is the box cut into exactly `procs` blocks? -/
def tiledBy (box block : Extent) (procs : UInt32) : Bool :=
  match box.exactQuotient? block with
  | some blocks => blocks.volume? == some procs.toUInt64
  | none => false

def readBlock (box writeBlock : Extent) (writers readers : UInt32) (grid : Extent) : Extent :=
  if writers = readers then writeBlock else (box.quotient? grid).getD ⟨0, 0, 0⟩

/-- The block of one reader, if it tiles the box. -/
def checkReadBlock (box writeBlock : Extent) (writers readers : UInt32) (grid : Extent) :
    Except InvalidDecomposition Extent :=
  let block := box.readBlock writeBlock writers readers grid
  if box.tiledBy block readers then .ok block else .error ⟨box, block, grid, readers⟩

theorem checkReadBlock_eq_ok_iff {box writeBlock grid block : Extent} {writers readers : UInt32} :
    box.checkReadBlock writeBlock writers readers grid = .ok block ↔
      block = box.readBlock writeBlock writers readers grid ∧ box.tiledBy block readers = true := by
  unfold checkReadBlock
  dsimp only
  split
  · constructor
    · rintro ⟨⟩; exact ⟨rfl, ‹_›⟩
    · rintro ⟨rfl, -⟩; rfl
  · constructor
    · nofun
    · rintro ⟨rfl, h⟩; exact absurd h ‹_›

end Extent

end TileBench
