import TileBench.Proofs.Extent.Products
import Mathlib.Data.Finset.Prod

/-!
# Tilings

Whether a block tiles a box for some processes is computed with words, and a product of words may
not fit. It is still a statement about numbers of any size: the block has no side of zero and
divides the box side by side, and the three quotients make up the number of processes.

It is a statement about cells, too. The blocks that start at the multiples of a block's sides are
as many as the processes, and each cell of the box lies in one of them, and no other cell does.
-/

namespace TileBench

/-- A place, counted from zero along each side. -/
structure Cell where
  x : Nat
  y : Nat
  z : Nat
  deriving DecidableEq

namespace Extent

variable {box block : Extent} {procs : UInt32} {corner cell : Cell}

/-- The cell lies in the box. -/
structure Holds (box : Extent) (cell : Cell) : Prop where
  x : cell.x < box.x.toNat
  y : cell.y < box.y.toNat
  z : cell.z < box.z.toNat

/-- The cell lies in the block that starts at a corner. -/
structure HoldsAt (block : Extent) (corner cell : Cell) : Prop where
  x : corner.x ≤ cell.x ∧ cell.x < corner.x + block.x.toNat
  y : corner.y ≤ cell.y ∧ cell.y < corner.y + block.y.toNat
  z : corner.z ≤ cell.z ∧ cell.z < corner.z + block.z.toNat

/-- Where a block starts, in a row of blocks along each side. -/
def cornerAt (block : Extent) (i j k : Nat) : Cell :=
  ⟨i * block.x.toNat, j * block.y.toNat, k * block.z.toNat⟩

/-- The corners of the blocks that a box is cut into. -/
def corners (box block : Extent) : Finset Cell :=
  (Finset.range (box.x.toNat / block.x.toNat) ×ˢ Finset.range (box.y.toNat / block.y.toNat) ×ˢ
    Finset.range (box.z.toNat / block.z.toNat)).image fun p => block.cornerAt p.1 p.2.1 p.2.2

/-! ### Numbers -/

/-- A block tiles a box exactly if it divides it into as many parts as there are processes. -/
lemma tiledBy_iff_quotients (hbox : box.Positive) : box.tiledBy block procs = true ↔
    block.Positive ∧ block.Cuts box ∧ box.x.toNat / block.x.toNat *
      (box.y.toNat / block.y.toNat) * (box.z.toNat / block.z.toNat) = procs.toNat := by
  constructor
  · intro h
    obtain ⟨hblock, blocks, htimes, hvolume⟩ := tiledBy_iff.mp h
    have hcuts := (isMultipleOf_iff_cuts hblock).mp (isMultipleOf_of_times? hblock htimes)
    obtain ⟨hx, hy, hz⟩ := times?_eq_some_iff.mp htimes
    refine ⟨hblock, hcuts, ?_⟩
    rw [hx, hy, hz, Nat.mul_div_cancel _ hblock.x, Nat.mul_div_cancel _ hblock.y,
      Nat.mul_div_cancel _ hblock.z, ← UInt32.toNat_toUInt64]
    exact (cells_of_volume? hvolume).symm
  · rintro ⟨hblock, hcuts, hcount⟩
    obtain ⟨blocks, hblocks⟩ := exists_quotient? hblock box
    obtain ⟨-, hx, hy, hz⟩ := quotient?_eq_some_iff.mp hblocks
    have hexact : box.exactQuotient? block = some blocks := by
      rw [exactQuotient?, if_pos ((isMultipleOf_iff_cuts hblock).mpr hcuts), hblocks]
    have htimes := (exactQuotient?_eq_some_iff.mp hexact).2
    have hpos := hbox.of_quotient? hblocks hcuts
    rw [tiledBy_of_times? hpos hblock htimes, cells, hx, hy, hz]
    exact hcount

/-- The cells of the blocks together are as many as those of the box. -/
lemma cells_of_tiledBy (h : box.tiledBy block procs = true) :
    box.cells = procs.toNat * block.cells := by
  obtain ⟨-, blocks, htimes, hvolume⟩ := tiledBy_iff.mp h
  rw [cells_of_times? htimes, ← cells_of_volume? hvolume, UInt32.toNat_toUInt64]

/-! ### Cells -/

/-- In a row of parts of one width a place lies in one part. -/
lemma part_iff {width i c : Nat} (hwidth : 0 < width) :
    i * width ≤ c ∧ c < i * width + width ↔ i = c / width := by
  rw [eq_comm, Nat.div_eq_iff hwidth]
  omega

/-- No part of a row reaches beyond the length that is cut. -/
lemma lt_of_part {length width i c : Nat} (hi : i < length / width) (hc : c < i * width + width) :
    c < length := by
  calc c < (i + 1) * width := by rwa [Nat.succ_mul]
    _ ≤ length / width * width := Nat.mul_le_mul_right _ hi
    _ ≤ length := Nat.div_mul_le_self _ _

lemma mem_corners_iff : corner ∈ box.corners block ↔ ∃ i j k, i < box.x.toNat / block.x.toNat ∧
    j < box.y.toNat / block.y.toNat ∧ k < box.z.toNat / block.z.toNat ∧
      block.cornerAt i j k = corner := by
  simp only [corners, Finset.mem_image, Finset.mem_product, Finset.mem_range, Prod.exists,
    and_assoc]

lemma holdsAt_cornerAt_iff (hblock : block.Positive) {i j k : Nat} :
    block.HoldsAt (block.cornerAt i j k) cell ↔
      i = cell.x / block.x.toNat ∧ j = cell.y / block.y.toNat ∧ k = cell.z / block.z.toNat := by
  rw [← part_iff hblock.x, ← part_iff hblock.y, ← part_iff hblock.z]
  exact ⟨fun h => ⟨h.x, h.y, h.z⟩, fun h => ⟨h.1, h.2.1, h.2.2⟩⟩

/-- Different places in the rows are different corners. -/
lemma card_corners (hblock : block.Positive) : (box.corners block).card =
    box.x.toNat / block.x.toNat * (box.y.toNat / block.y.toNat) *
      (box.z.toNat / block.z.toNat) := by
  have hinj : Function.Injective fun p : Nat × Nat × Nat => block.cornerAt p.1 p.2.1 p.2.2 := by
    rintro ⟨i, j, k⟩ ⟨i', j', k'⟩ h
    simp only [cornerAt, Cell.mk.injEq] at h
    obtain ⟨hx, hy, hz⟩ := h
    rw [Nat.eq_of_mul_eq_mul_right hblock.x hx, Nat.eq_of_mul_eq_mul_right hblock.y hy,
      Nat.eq_of_mul_eq_mul_right hblock.z hz]
  rw [corners, Finset.card_image_of_injective _ hinj, Finset.card_product, Finset.card_product,
    Finset.card_range, Finset.card_range, Finset.card_range, Nat.mul_assoc]

lemma existsUnique_corner (hblock : block.Positive) (hcuts : block.Cuts box)
    (hcell : box.Holds cell) :
    ∃! corner, corner ∈ box.corners block ∧ block.HoldsAt corner cell := by
  -- Division finds the block of a cell, and it stays in the box because nothing is rounded off.
  refine ⟨block.cornerAt (cell.x / block.x.toNat) (cell.y / block.y.toNat)
    (cell.z / block.z.toNat), ⟨?_, (holdsAt_cornerAt_iff hblock).mpr ⟨rfl, rfl, rfl⟩⟩, ?_⟩
  · exact mem_corners_iff.mpr ⟨_, _, _, Nat.div_lt_div_of_lt_of_dvd hcuts.x hcell.x,
      Nat.div_lt_div_of_lt_of_dvd hcuts.y hcell.y, Nat.div_lt_div_of_lt_of_dvd hcuts.z hcell.z, rfl⟩
  · rintro other ⟨hother, hholds⟩
    obtain ⟨i, j, k, -, -, -, rfl⟩ := mem_corners_iff.mp hother
    obtain ⟨rfl, rfl, rfl⟩ := (holdsAt_cornerAt_iff hblock).mp hholds
    rfl

lemma holds_of_mem_corners (hcorner : corner ∈ box.corners block)
    (hcell : block.HoldsAt corner cell) : box.Holds cell := by
  obtain ⟨i, j, k, hi, hj, hk, rfl⟩ := mem_corners_iff.mp hcorner
  exact ⟨lt_of_part hi hcell.x.2, lt_of_part hj hcell.y.2, lt_of_part hk hcell.z.2⟩

/-- A block is accepted for a box without a side of zero exactly if it has no such side either and
divides the box into as many parts as there are processes, where no number is too large. Then the
parts have as many cells as the box, and starting at the multiples of the block's sides they hold
every cell of the box once and no cell outside. -/
theorem tiled_exactly (box block : Extent) (procs : UInt32) (hbox : box.Positive) :
    (box.tiledBy block procs = true ↔ block.Positive ∧ block.Cuts box ∧
      box.x.toNat / block.x.toNat * (box.y.toNat / block.y.toNat) *
        (box.z.toNat / block.z.toNat) = procs.toNat) ∧
    (box.tiledBy block procs = true →
      box.cells = procs.toNat * block.cells ∧
      (box.corners block).card = procs.toNat ∧
      (∀ cell, box.Holds cell →
        ∃! corner, corner ∈ box.corners block ∧ block.HoldsAt corner cell) ∧
      ∀ corner ∈ box.corners block, ∀ cell, block.HoldsAt corner cell → box.Holds cell) := by
  refine ⟨tiledBy_iff_quotients hbox, fun h => ?_⟩
  obtain ⟨hblock, hcuts, hcount⟩ := (tiledBy_iff_quotients hbox).mp h
  exact ⟨cells_of_tiledBy h, (card_corners hblock).trans hcount,
    fun cell hcell => existsUnique_corner hblock hcuts hcell,
    fun corner hcorner cell hcell => holds_of_mem_corners hcorner hcell⟩

/-- Eight blocks of the fixed box hold each of its cells once, and two cells do not tile a box whose
number of cells would be two if it were cut off at 64 bits. -/
theorem eight_blocks_tile_fixedBox :
    Positive ⟨124, 48, 36⟩ ∧ tiledBy ⟨124, 48, 36⟩ ⟨62, 24, 18⟩ 8 = true ∧
      (corners ⟨124, 48, 36⟩ ⟨62, 24, 18⟩).card = 8 ∧
      (∀ cell, Holds ⟨124, 48, 36⟩ cell → ∃! corner,
        corner ∈ corners ⟨124, 48, 36⟩ ⟨62, 24, 18⟩ ∧ HoldsAt ⟨62, 24, 18⟩ corner cell) ∧
      ¬ tiledBy ⟨9223372036854775809, 2, 1⟩ ⟨1, 1, 1⟩ 2 = true := by
  have hbox : Positive ⟨124, 48, 36⟩ := by decide
  have htiled : tiledBy ⟨124, 48, 36⟩ ⟨62, 24, 18⟩ 8 = true := by decide
  obtain ⟨-, hcard, hcells, -⟩ := (tiled_exactly _ _ 8 hbox).2 htiled
  refine ⟨hbox, htiled, hcard, hcells, fun hlarge => ?_⟩
  obtain ⟨-, -, hcount⟩ :=
    (tiled_exactly ⟨9223372036854775809, 2, 1⟩ ⟨1, 1, 1⟩ 2 (by decide)).1.mp hlarge
  exact absurd hcount (by decide)

end Extent

end TileBench
