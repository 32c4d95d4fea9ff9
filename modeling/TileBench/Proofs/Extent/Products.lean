import TileBench.Decomposition
import Mathlib.Algebra.Order.Monoid.Unbundled.Basic
import Mathlib.Tactic.Lemma
import Mathlib.Tactic.Ring

/-!
# Products of extents

An operation on extents gives `none` where a result does not fit in 64 bits, whichever factor is
multiplied first. For extents without a zero side this happens exactly if the whole product does not
fit, because no partial product is larger than the whole. So these operations can be taken for
operations on numbers: `cells` is the number of cells of an extent, however large.

The blocks of a grid tile the box that they make up, and a box cut by a grid is tiled by the blocks
exactly if nothing was rounded off.
-/

namespace TileBench.Extent

variable {a b c n : UInt64} {e f g box block grid : Extent} {procs : UInt32}

/-- No side is zero. -/
structure Positive (e : Extent) : Prop where
  x : 0 < e.x.toNat
  y : 0 < e.y.toNat
  z : 0 < e.z.toNat

/-- The number of cells, however large. -/
def cells (e : Extent) : Nat := e.x.toNat * e.y.toNat * e.z.toNat

lemma hasZero_eq_false_iff : e.hasZero = false ↔ e.Positive := by
  have hside : ∀ a : UInt64, (a == 0) = false ↔ 0 < a.toNat := fun a => by
    rw [beq_eq_false_iff_ne, Ne, ← UInt64.toNat_inj, Nat.pos_iff_ne_zero, UInt64.toNat_zero]
  simp only [hasZero, Bool.or_eq_false_iff, hside]
  exact ⟨fun h => ⟨h.1.1, h.1.2, h.2⟩, fun h => ⟨⟨h.x, h.y⟩, h.z⟩⟩

instance : Decidable e.Positive := decidable_of_iff _ hasZero_eq_false_iff

/-! ### Products -/

lemma exists_word {k : Nat} (h : k < 2 ^ 64) : ∃ n : UInt64, n.toNat = k :=
  ⟨UInt64.ofNat k, UInt64.toNat_ofNat_of_lt' h⟩

lemma cells_of_volume? (h : e.volume? = some n) : n.toNat = e.cells := by
  obtain ⟨a, ha, hn⟩ := Option.bind_eq_some_iff.mp h
  rw [product?_eq_some_iff] at ha hn
  rw [hn, ha, cells]

/-- There is a volume exactly if the number of cells fits. -/
lemma volume?_eq_some_iff (he : e.Positive) : e.volume? = some n ↔ n.toNat = e.cells := by
  refine ⟨cells_of_volume?, fun hn => ?_⟩
  have hle : e.x.toNat * e.y.toNat ≤ e.cells := Nat.le_mul_of_pos_right _ he.z
  obtain ⟨a, ha⟩ := exists_word (hle.trans_lt (hn ▸ n.toNat_lt))
  refine Option.bind_eq_some_iff.mpr ⟨a, product?_eq_some_iff.mpr ha, product?_eq_some_iff.mpr ?_⟩
  rw [hn, ha, cells]

lemma times?_eq_some_iff : e.times? f = some g ↔
    g.x.toNat = e.x.toNat * f.x.toNat ∧ g.y.toNat = e.y.toNat * f.y.toNat ∧
      g.z.toNat = e.z.toNat * f.z.toNat := by
  simp only [times?, bind, Option.bind_eq_some_iff, product?_eq_some_iff]
  constructor
  · rintro ⟨x, hx, y, hy, z, hz, ⟨⟩⟩
    exact ⟨hx, hy, hz⟩
  · rintro ⟨hx, hy, hz⟩
    exact ⟨g.x, hx, g.y, hy, g.z, hz, rfl⟩

lemma cells_of_times? (h : e.times? f = some g) : g.cells = e.cells * f.cells := by
  obtain ⟨hx, hy, hz⟩ := times?_eq_some_iff.mp h
  rw [cells, hx, hy, hz, cells, cells]
  ring

lemma Positive.of_times? (he : e.Positive) (hf : f.Positive) (h : e.times? f = some g) :
    g.Positive := by
  obtain ⟨hx, hy, hz⟩ := times?_eq_some_iff.mp h
  exact ⟨hx ▸ Nat.mul_pos he.x hf.x, hy ▸ Nat.mul_pos he.y hf.y, hz ▸ Nat.mul_pos he.z hf.z⟩

/-- Extents can be multiplied if the number of cells of the product fits. -/
lemma exists_times? (he : e.Positive) (hf : f.Positive) (h : e.cells * f.cells < 2 ^ 64) :
    ∃ g, e.times? f = some g := by
  have hcells : e.cells * f.cells = (e.x.toNat * f.x.toNat) * (e.y.toNat * f.y.toNat) *
      (e.z.toNat * f.z.toNat) := by
    rw [cells, cells]
    ring
  have hposx := Nat.mul_pos he.x hf.x
  have hposy := Nat.mul_pos he.y hf.y
  have hposz := Nat.mul_pos he.z hf.z
  rw [hcells] at h
  obtain ⟨z, hz⟩ := exists_word ((Nat.le_mul_of_pos_left _ (Nat.mul_pos hposx hposy)).trans_lt h)
  -- No side is longer than the whole product.
  have hxy := (Nat.le_mul_of_pos_right _ hposz).trans_lt h
  obtain ⟨x, hx⟩ := exists_word ((Nat.le_mul_of_pos_right _ hposy).trans_lt hxy)
  obtain ⟨y, hy⟩ := exists_word ((Nat.le_mul_of_pos_left _ hposx).trans_lt hxy)
  exact ⟨⟨x, y, z⟩, times?_eq_some_iff.mpr ⟨hx, hy, hz⟩⟩

/-! ### Blocks of a grid -/

lemma quotient?_eq_some_iff : e.quotient? f = some g ↔ f.Positive ∧
    g.x.toNat = e.x.toNat / f.x.toNat ∧ g.y.toNat = e.y.toNat / f.y.toNat ∧
      g.z.toNat = e.z.toNat / f.z.toNat := by
  rw [quotient?]
  cases hzero : f.hasZero with
  | true =>
    constructor
    · nofun
    · rintro ⟨hf, -⟩
      rw [hasZero_eq_false_iff.mpr hf] at hzero
      cases hzero
  | false =>
    simp only [Bool.false_eq_true, if_false, Option.some.injEq, hasZero_eq_false_iff.mp hzero,
      true_and, ← UInt64.toNat_div, UInt64.toNat_inj]
    constructor
    · rintro rfl
      exact ⟨rfl, rfl, rfl⟩
    · rintro ⟨hx, hy, hz⟩
      rw [← hx, ← hy, ← hz]

lemma isMultipleOf_iff : e.isMultipleOf f = true ↔ f.Positive ∧ f.x.toNat ∣ e.x.toNat ∧
    f.y.toNat ∣ e.y.toNat ∧ f.z.toNat ∣ e.z.toNat := by
  have hside : ∀ a b : UInt64, (a % b == 0) = true ↔ b.toNat ∣ a.toNat := fun a b => by
    rw [beq_iff_eq, ← UInt64.toNat_inj, UInt64.toNat_mod, Nat.dvd_iff_mod_eq_zero,
      UInt64.toNat_zero]
  simp only [isMultipleOf, Bool.and_eq_true, Bool.not_eq_true', hasZero_eq_false_iff, hside,
    and_assoc]

/-- Every side of the grid divides the side of the box. -/
structure Cuts (grid box : Extent) : Prop where
  x : grid.x.toNat ∣ box.x.toNat
  y : grid.y.toNat ∣ box.y.toNat
  z : grid.z.toNat ∣ box.z.toNat

lemma isMultipleOf_iff_cuts (hgrid : grid.Positive) :
    box.isMultipleOf grid = true ↔ grid.Cuts box := by
  rw [isMultipleOf_iff]
  constructor
  · rintro ⟨-, hx, hy, hz⟩
    exact ⟨hx, hy, hz⟩
  · intro hcuts
    exact ⟨hgrid, hcuts.x, hcuts.y, hcuts.z⟩

lemma isMultipleOf_of_times? (hf : f.Positive) (h : g.times? f = some e) :
    e.isMultipleOf f = true := by
  obtain ⟨hx, hy, hz⟩ := times?_eq_some_iff.mp h
  exact isMultipleOf_iff.mpr
    ⟨hf, hx ▸ Nat.dvd_mul_left _ _, hy ▸ Nat.dvd_mul_left _ _, hz ▸ Nat.dvd_mul_left _ _⟩

/-- An extent is a multiple of another one, with a certain quotient, exactly if it is the product
of both. -/
lemma exactQuotient?_eq_some_iff : e.exactQuotient? f = some g ↔
    f.Positive ∧ g.times? f = some e := by
  rw [exactQuotient?, times?_eq_some_iff]
  split
  · rename_i hmultiple
    obtain ⟨hf, hx, hy, hz⟩ := isMultipleOf_iff.mp hmultiple
    rw [quotient?_eq_some_iff]
    refine and_congr_right fun _ => ?_
    rw [Nat.eq_div_iff_mul_eq_left hf.x.ne' hx, Nat.eq_div_iff_mul_eq_left hf.y.ne' hy,
      Nat.eq_div_iff_mul_eq_left hf.z.ne' hz]
  · rename_i hmultiple
    constructor
    · nofun
    · rintro ⟨hf, hsides⟩
      exact absurd (isMultipleOf_of_times? hf (times?_eq_some_iff.mpr hsides)) hmultiple

/-- A box is tiled by a block if it is the product of the block and a grid with as many blocks. -/
lemma tiledBy_iff : box.tiledBy block procs = true ↔
    block.Positive ∧ ∃ blocks : Extent, blocks.times? block = some box ∧
      blocks.volume? = some procs.toUInt64 := by
  unfold tiledBy
  cases hblocks : box.exactQuotient? block with
  | none =>
    constructor
    · nofun
    · rintro ⟨hblock, blocks, htimes, -⟩
      rw [exactQuotient?_eq_some_iff.mpr ⟨hblock, htimes⟩] at hblocks
      cases hblocks
  | some blocks =>
    obtain ⟨hblock, htimes⟩ := exactQuotient?_eq_some_iff.mp hblocks
    rw [beq_iff_eq]
    constructor
    · intro hvolume
      exact ⟨hblock, blocks, htimes, hvolume⟩
    · rintro ⟨-, others, htimes', hvolume⟩
      rw [exactQuotient?_eq_some_iff.mpr ⟨hblock, htimes'⟩] at hblocks
      cases hblocks
      exact hvolume

/-- The blocks that make up a box tile it if they are as many as the processes. -/
lemma tiledBy_of_times? (hgrid : grid.Positive) (hblock : block.Positive)
    (h : grid.times? block = some box) :
    box.tiledBy block procs = true ↔ grid.cells = procs.toNat := by
  rw [tiledBy_iff, ← UInt32.toNat_toUInt64, eq_comm, ← volume?_eq_some_iff hgrid]
  constructor
  · rintro ⟨-, blocks, htimes, hvolume⟩
    have hsame := exactQuotient?_eq_some_iff.mpr ⟨hblock, htimes⟩
    rw [exactQuotient?_eq_some_iff.mpr ⟨hblock, h⟩] at hsame
    cases hsame
    exact hvolume
  · intro hvolume
    exact ⟨hblock, grid, h, hvolume⟩

/-- Numbers with one product are equal if none of them is larger than its partner. -/
private lemma eq_of_le_of_mul_eq {x y z x' y' z' : Nat} (hx : 0 < x) (hy : 0 < y) (hz : 0 < z)
    (hxle : x ≤ x') (hyle : y ≤ y') (hzle : z ≤ z') (h : x' * y' * z' = x * y * z) :
    x' = x ∧ y' = y ∧ z' = z := by
  have hxy : x * y ≤ x' * y' := Nat.mul_le_mul hxle hyle
  have hz' : z' = z := by
    refine Nat.le_antisymm (Nat.le_of_mul_le_mul_left ?_ (Nat.mul_pos hx hy)) hzle
    exact (Nat.mul_le_mul_right z' hxy).trans_eq h
  subst hz'
  have hprod : x' * y' = x * y := Nat.eq_of_mul_eq_mul_right hz h
  have hy' : y' = y := by
    refine Nat.le_antisymm (Nat.le_of_mul_le_mul_left ?_ hx) hyle
    exact (Nat.mul_le_mul_right y' hxle).trans_eq hprod
  subst hy'
  exact ⟨Nat.eq_of_mul_eq_mul_right hy hprod, rfl, rfl⟩

lemma exists_quotient? (hgrid : grid.Positive) (box : Extent) :
    ∃ block, box.quotient? grid = some block := by
  rw [quotient?, hasZero_eq_false_iff.mpr hgrid]
  exact ⟨_, rfl⟩

/-- The blocks of a grid make up a box that every side of the grid divides. -/
lemma times?_of_quotient? (hblock : box.quotient? grid = some block)
    (hmultiple : box.isMultipleOf grid = true) : grid.times? block = some box := by
  obtain ⟨-, hx, hy, hz⟩ := quotient?_eq_some_iff.mp hblock
  obtain ⟨-, hdvdx, hdvdy, hdvdz⟩ := isMultipleOf_iff.mp hmultiple
  refine times?_eq_some_iff.mpr ⟨?_, ?_, ?_⟩
  · rw [hx, Nat.mul_div_cancel' hdvdx]
  · rw [hy, Nat.mul_div_cancel' hdvdy]
  · rw [hz, Nat.mul_div_cancel' hdvdz]

/-- The blocks have no zero side if nothing was rounded off. -/
lemma Positive.of_quotient? (hbox : box.Positive) (hblock : box.quotient? grid = some block)
    (hcuts : grid.Cuts box) : block.Positive := by
  obtain ⟨hgrid, hx, hy, hz⟩ := quotient?_eq_some_iff.mp hblock
  refine ⟨?_, ?_, ?_⟩
  · rw [hx]
    exact Nat.div_pos (Nat.le_of_dvd hbox.x hcuts.x) hgrid.x
  · rw [hy]
    exact Nat.div_pos (Nat.le_of_dvd hbox.y hcuts.y) hgrid.y
  · rw [hz]
    exact Nat.div_pos (Nat.le_of_dvd hbox.z hcuts.z) hgrid.z

/-- A box that was cut by a grid is tiled exactly if nothing was rounded off. -/
lemma tiledBy_quotient_iff (hbox : box.Positive) (hblock : box.quotient? grid = some block)
    (hcount : grid.cells = procs.toNat) :
    box.tiledBy block procs = true ↔ box.isMultipleOf grid = true := by
  obtain ⟨hgrid, hx, hy, hz⟩ := quotient?_eq_some_iff.mp hblock
  constructor
  · intro htiled
    obtain ⟨hpos, blocks, htimes, hvolume⟩ := tiledBy_iff.mp htiled
    obtain ⟨hboxx, hboxy, hboxz⟩ := times?_eq_some_iff.mp htimes
    have hcells : blocks.cells = grid.cells := by
      rw [← cells_of_volume? hvolume, hcount, UInt32.toNat_toUInt64]
    -- Rounding off makes the blocks smaller, so there are at least as many as the grid has.
    have hside : ∀ {whole part count number : Nat}, 0 < part → part = whole / count →
        whole = number * part → count ≤ number := fun {whole part count number} hpart hdiv hwhole =>
      Nat.le_of_mul_le_mul_right (hwhole ▸ hdiv ▸ Nat.mul_div_le whole count) hpart
    obtain ⟨hx', hy', hz'⟩ := eq_of_le_of_mul_eq hgrid.x hgrid.y hgrid.z
      (hside hpos.x hx hboxx) (hside hpos.y hy hboxy) (hside hpos.z hz hboxz) hcells
    rw [hx'] at hboxx
    rw [hy'] at hboxy
    rw [hz'] at hboxz
    exact isMultipleOf_iff.mpr ⟨hgrid, hboxx ▸ Nat.dvd_mul_right _ _,
      hboxy ▸ Nat.dvd_mul_right _ _, hboxz ▸ Nat.dvd_mul_right _ _⟩
  · intro hmultiple
    have hpos := hbox.of_quotient? hblock ((isMultipleOf_iff_cuts hgrid).mp hmultiple)
    exact (tiledBy_of_times? hgrid hpos (times?_of_quotient? hblock hmultiple)).mpr hcount

end TileBench.Extent
