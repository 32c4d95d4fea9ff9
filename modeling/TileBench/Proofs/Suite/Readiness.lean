import TileBench.Proofs.Config.Tables
import TileBench.Proofs.Except
import TileBench.Proofs.Suite.Success

/-!
# When a suite is ready

Whether the cases of a suite can be made, and how many samples their reads must report, is decided
by numbers alone. In the suite of block grids every case has the same number of samples, whatever
the grid: the writers, the cells of a block and the components multiplied. So the first case
decides for all of them whether it fits in 64 bits. In the suite of the fixed box it always fits.
-/

namespace TileBench

open Extent

/-! ### Samples -/

namespace Case

variable {c : Case} {n : UInt64}

lemma samples?_eq_some_iff (hbox : c.box.Positive) (hcomponents : 0 < c.varType.components.toNat) :
    c.samples? = some n ↔ n.toNat = c.box.cells * c.varType.components.toNat := by
  have hword : c.varType.samplesPerCell.toNat = c.varType.components.toNat :=
    UInt32.toNat_toUInt64 _
  rw [samples?, Option.bind_eq_bind, Option.bind_eq_some_iff]
  simp only [product?_eq_some_iff, hword]
  constructor
  · rintro ⟨volume, hvolume, hn⟩
    rw [hn, cells_of_volume? hvolume]
  · intro hn
    have hle : c.box.cells ≤ n.toNat := hn ▸ Nat.le_mul_of_pos_right _ hcomponents
    obtain ⟨volume, hvolume⟩ := exists_word (hle.trans_lt n.toNat_lt)
    exact ⟨volume, (volume?_eq_some_iff hbox).mpr hvolume, by rw [hn, hvolume]⟩

lemma exists_expectedSamples (hbox : c.box.Positive)
    (hcomponents : 0 < c.varType.components.toNat)
    (hfits : c.box.cells * c.varType.components.toNat < 2 ^ 64) :
    ∃ n, c.expectedSamples = .ok n ∧ n.toNat = c.box.cells * c.varType.components.toNat := by
  obtain ⟨n, hn⟩ := exists_word hfits
  have hsamples := (samples?_eq_some_iff hbox hcomponents).mpr hn
  exact ⟨n, by rw [expectedSamples, hsamples], hn⟩

lemma expectedSamples_overflow (hbox : c.box.Positive)
    (hcomponents : 0 < c.varType.components.toNat)
    (hover : 2 ^ 64 ≤ c.box.cells * c.varType.components.toNat) :
    ∃ product, c.expectedSamples = .error (.extentOverflow product) := by
  unfold expectedSamples
  cases hsamples : c.samples? with
  | none => exact ⟨_, rfl⟩
  | some n =>
    rw [← (samples?_eq_some_iff hbox hcomponents).mp hsamples] at hover
    exact absurd n.toNat_lt (Nat.not_lt.mpr hover)

end Case

/-- What a suite is run with makes sense: every grid has a place for each writer, the blocks have no
zero side, and the variables have components. -/
structure SuitePlan.WellPosed (p : SuitePlan) (config : Config) : Prop where
  arranges : config.procs.Arranges p.writers
  patch : config.patch.Positive
  components : 0 < p.varType.components.toNat

namespace SuitePlan

variable {p : SuitePlan} {config : Config} {grid : Extent} {grids others : List Extent}

/-! ### Block grids -/

/-- The samples in the blocks of all writers, however many. -/
def blockGridSamples (p : SuitePlan) (config : Config) : Nat :=
  p.writers.toNat * config.patch.cells * p.varType.components.toNat

lemma blockGridCase_eq_ok_iff {patch : Extent} {c : Case} : p.blockGridCase patch grid = .ok c ↔
    ∃ box, grid.times? patch = some box ∧ c = p.case box patch patch none := by
  unfold blockGridCase
  cases grid.times? patch with
  | none => exact ⟨nofun, nofun⟩
  | some box =>
    constructor
    · rintro ⟨⟩
      exact ⟨box, rfl, rfl⟩
    · rintro ⟨_, ⟨⟩, rfl⟩
      rfl

section

variable (hposed : p.WellPosed config)

include hposed

/-- The box of a grid has the samples of all writers. -/
lemma WellPosed.samples_of_times? {box : Extent} (hgrid : config.procs.HasGrid p.writers grid)
    (hbox : grid.times? config.patch = some box) :
    box.Positive ∧ box.cells * p.varType.components.toNat = p.blockGridSamples config := by
  obtain ⟨hpositive, hcount⟩ := hposed.arranges grid hgrid
  exact ⟨hpositive.of_times? hposed.patch hbox, by rw [cells_of_times? hbox, hcount]; rfl⟩

/-- If the samples fit, every grid has a case, and its number of samples is known. -/
lemma WellPosed.exists_samples (hfits : p.blockGridSamples config < 2 ^ 64)
    (hgrid : config.procs.HasGrid p.writers grid) :
    ∃ box samples, grid.times? config.patch = some box ∧
      (p.case box config.patch config.patch none).expectedSamples = .ok samples ∧
      samples.toNat = p.blockGridSamples config := by
  obtain ⟨hpositive, hcount⟩ := hposed.arranges grid hgrid
  -- Components only make the product larger, so the cells of the box fit as well.
  have hcells : grid.cells * config.patch.cells < 2 ^ 64 := by
    rw [hcount]
    exact (Nat.le_mul_of_pos_right _ hposed.components).trans_lt hfits
  obtain ⟨box, hbox⟩ := exists_times? hpositive hposed.patch hcells
  obtain ⟨hboxPositive, hsamples⟩ := hposed.samples_of_times? hgrid hbox
  obtain ⟨samples, hknown, hn⟩ :=
    Case.exists_expectedSamples (c := p.case box config.patch config.patch none) hboxPositive
      hposed.components (hsamples.trans_lt hfits)
  exact ⟨box, samples, hbox, hknown, hn.trans hsamples⟩

/-- If the samples do not fit, the first product that does not fit is refused: the box, or else the
samples in it. -/
lemma WellPosed.overflow (hover : 2 ^ 64 ≤ p.blockGridSamples config)
    (hgrid : config.procs.HasGrid p.writers grid) :
    (∃ product, p.blockGridCase config.patch grid = .error (.extentOverflow product)) ∨
      ∃ c product, p.blockGridCase config.patch grid = .ok c ∧
        c.expectedSamples = .error (.extentOverflow product) := by
  cases hbox : grid.times? config.patch with
  | none => exact .inl ⟨_, by rw [blockGridCase, hbox]⟩
  | some box =>
    obtain ⟨hpositive, hsamples⟩ := hposed.samples_of_times? hgrid hbox
    obtain ⟨product, hrefused⟩ :=
      Case.expectedSamples_overflow (c := p.case box config.patch config.patch none) hpositive
        hposed.components (hover.trans_eq hsamples.symm)
    exact .inr ⟨_, product, blockGridCase_eq_ok_iff.mpr ⟨box, hbox, rfl⟩, hrefused⟩

/-- The suite of block grids is ready if the counts are known and the samples fit. -/
lemma WellPosed.blockGrids_ready (hwriters : config.procs.grids p.writers = .ok grids)
    (hreaders : config.procs.grids p.readers = .ok others)
    (hfits : p.blockGridSamples config < 2 ^ 64) : p.Ready config .blockGrids where
  grids := ⟨grids, hwriters⟩
  fixedBox := nofun
  cases := by
    intro made hmade
    simp only [SuitePlan.cases, hwriters] at hmade
    obtain ⟨grid, hmem, rfl⟩ := List.mem_map.mp hmade
    obtain ⟨box, samples, hbox, hsamples, -⟩ :=
      hposed.exists_samples hfits ⟨grids, hwriters, hmem⟩
    exact ⟨_, blockGridCase_eq_ok_iff.mpr ⟨box, hbox, rfl⟩, ⟨others, hreaders⟩, samples, hsamples⟩

end

/-! ### The fixed box -/

lemma fixedBox_positive : fixedBox.Positive := by decide

/-- The cases of the fixed box differ in the restructuring box and the label only. -/
lemma exists_of_fixedBoxCases {made : List Case} (hmade : p.fixedBoxCases grid = .ok made) :
    ∃ block double, fixedBox.quotient? grid = some block ∧ made =
      [p.case fixedBox block ⟨64, 32, 32⟩ (some "r == l"),
        p.case fixedBox block ⟨64, 32, 16⟩ (some "r < l"),
        p.case fixedBox block double (some "r > l")] := by
  obtain ⟨block, hblock, hmade⟩ := bind_eq_ok_iff.mp hmade
  obtain ⟨boxes, hboxes, hmade⟩ := bind_eq_ok_iff.mp hmade
  unfold fixedBoxBlock at hblock
  unfold restructureBoxes at hboxes
  cases hmade
  cases hquotient : fixedBox.quotient? grid with
  | none =>
    rw [hquotient] at hblock
    cases hblock
  | some quotient =>
    rw [hquotient] at hblock
    cases hblock
    cases hdouble : block.scale? 2 with
    | none =>
      rw [hdouble] at hboxes
      cases hboxes
    | some double =>
      rw [hdouble] at hboxes
      cases hboxes
      exact ⟨block, double, rfl, rfl⟩

lemma mem_fixedBoxCases {made : List Case} {c : Case} (hmade : p.fixedBoxCases grid = .ok made)
    (hc : c ∈ made) : ∃ block restructureBox label, fixedBox.quotient? grid = some block ∧
      c = p.case fixedBox block restructureBox (some label) := by
  obtain ⟨block, double, hblock, rfl⟩ := exists_of_fixedBoxCases hmade
  simp only [List.mem_cons, List.not_mem_nil, or_false] at hc
  obtain rfl | rfl | rfl := hc <;> exact ⟨block, _, _, hblock, rfl⟩

lemma exists_restructureBoxes (block : Extent) (hx : block.x.toNat ≤ 124)
    (hy : block.y.toNat ≤ 124) (hz : block.z.toNat ≤ 124) :
    ∃ box rest, restructureBoxes block = .ok (box :: rest) := by
  obtain ⟨x, hx⟩ := exists_word (show block.x.toNat * 2 < 2 ^ 64 by omega)
  obtain ⟨y, hy⟩ := exists_word (show block.y.toNat * 2 < 2 ^ 64 by omega)
  obtain ⟨z, hz⟩ := exists_word (show block.z.toNat * 2 < 2 ^ 64 by omega)
  have hdouble : block.scale? 2 = some ⟨x, y, z⟩ := times?_eq_some_iff.mpr ⟨hx, hy, hz⟩
  exact ⟨_, _, by rw [restructureBoxes, hdouble]⟩

/-- A grid without a zero side gives cases, because the fixed box is small. -/
lemma exists_fixedBoxCases (hgrid : grid.Positive) :
    ∃ c rest, p.fixedBoxCases grid = .ok (c :: rest) := by
  obtain ⟨block, hblock⟩ := exists_quotient? hgrid fixedBox
  obtain ⟨-, hx, hy, hz⟩ := quotient?_eq_some_iff.mp hblock
  obtain ⟨box, rest, hboxes⟩ := exists_restructureBoxes block
    (hx ▸ Nat.div_le_self 124 _) (hy ▸ (Nat.div_le_self 48 _).trans (by decide))
    (hz ▸ (Nat.div_le_self 36 _).trans (by decide))
  have hmade : fixedBoxBlock grid = .ok block := by rw [fixedBoxBlock, hblock]
  let caseOf (box : String × Extent) : Case := p.case fixedBox block box.2 (some box.1)
  refine ⟨caseOf box, rest.map caseOf, ?_⟩
  exact bind_eq_ok_iff.mpr ⟨block, hmade, bind_eq_ok_iff.mpr ⟨box :: rest, hboxes, rfl⟩⟩

/-- The samples of the fixed box fit, whatever the number of components. -/
lemma exists_fixedBoxSamples (hcomponents : 0 < p.varType.components.toNat)
    (block restructureBox : Extent) (label : Option String) :
    ∃ n, (p.case fixedBox block restructureBox label).expectedSamples = .ok n := by
  have hcells : fixedBox.cells = 214272 := rfl
  have hlt := p.varType.components.toNat_lt
  obtain ⟨n, hn, -⟩ := Case.exists_expectedSamples
    (c := p.case fixedBox block restructureBox label) fixedBox_positive hcomponents
    (by change fixedBox.cells * p.varType.components.toNat < _; rw [hcells]; omega)
  exact ⟨n, hn⟩

/-- The suite of the fixed box is ready if the counts are known. -/
lemma WellPosed.fixedBox_ready (hposed : p.WellPosed config)
    (hwriters : config.procs.grids p.writers = .ok grids)
    (hreaders : config.procs.grids p.readers = .ok others) : p.Ready config .fixedBox := by
  obtain ⟨grid, rest, rfl⟩ := ProcessTable.exists_cons_of_grids hwriters
  have hdefault := ProcessTable.defaultGrid_eq_ok_iff.mpr ⟨rest, hwriters⟩
  obtain ⟨hgrid, -⟩ := hposed.arranges grid (ProcessTable.hasGrid_defaultGrid hdefault)
  obtain ⟨first, more, hmade⟩ := exists_fixedBoxCases (p := p) hgrid
  have hcases : config.procs.defaultGrid p.writers >>= p.fixedBoxCases = .ok (first :: more) := by
    rw [hdefault]
    exact hmade
  refine ⟨⟨_, hwriters⟩, fun _ => ⟨_, hcases⟩, fun made hmem => ?_⟩
  simp only [SuitePlan.cases, hcases] at hmem
  obtain ⟨c, hc, rfl⟩ := List.mem_map.mp hmem
  obtain ⟨block, restructureBox, label, -, rfl⟩ := mem_fixedBoxCases hmade hc
  exact ⟨_, rfl, ⟨others, hreaders⟩, exists_fixedBoxSamples hposed.components _ _ _⟩

/-! ### Cases of a suite -/

section

variable {c : Case}

lemma exists_of_mem_blockGrids (h : .ok c ∈ p.cases config .blockGrids) :
    ∃ grid box, config.procs.HasGrid p.writers grid ∧ grid.times? config.patch = some box ∧
      c = p.case box config.patch config.patch none := by
  simp only [cases] at h
  split at h
  · rename_i grids hgrids
    obtain ⟨grid, hgrid, hmade⟩ := List.mem_map.mp h
    obtain ⟨box, hbox, hc⟩ := blockGridCase_eq_ok_iff.mp hmade
    exact ⟨grid, box, ⟨grids, hgrids, hgrid⟩, hbox, hc⟩
  · cases h

lemma exists_of_mem_fixedBox (h : .ok c ∈ p.cases config .fixedBox) :
    ∃ grid block restructureBox label, config.procs.defaultGrid p.writers = .ok grid ∧
      fixedBox.quotient? grid = some block ∧
      c = p.case fixedBox block restructureBox (some label) := by
  simp only [cases] at h
  split at h
  · rename_i made hmade
    obtain ⟨grid, hgrid, hmade⟩ := bind_eq_ok_iff.mp hmade
    obtain ⟨_, hc, ⟨⟩⟩ := List.mem_map.mp h
    obtain ⟨block, restructureBox, label, hblock, rfl⟩ := mem_fixedBoxCases hmade hc
    exact ⟨grid, block, restructureBox, label, hgrid, hblock, rfl⟩
  · cases h

/-- The cases of a suite have its counts. -/
lemma counts_of_mem_cases {kind : SuiteKind} (h : .ok c ∈ p.cases config kind) :
    c.writers = p.writers ∧ c.readers = p.readers := by
  cases kind with
  | blockGrids =>
    obtain ⟨_, _, -, -, rfl⟩ := exists_of_mem_blockGrids h
    exact ⟨rfl, rfl⟩
  | fixedBox =>
    obtain ⟨_, _, _, _, -, -, rfl⟩ := exists_of_mem_fixedBox h
    exact ⟨rfl, rfl⟩

/-- The cases of a suite have what the suite is run with, and one of three labels or none. -/
lemma exists_of_mem_cases {kind : SuiteKind} (h : .ok c ∈ p.cases config kind) :
    ∃ box block restructureBox label, c = p.case box block restructureBox label ∧
      ∀ text, label = some text → text ∈ ["r == l", "r < l", "r > l"] := by
  cases kind with
  | blockGrids =>
    obtain ⟨_, _, -, -, rfl⟩ := exists_of_mem_blockGrids h
    exact ⟨_, _, _, none, rfl, nofun⟩
  | fixedBox =>
    simp only [cases] at h
    split at h
    · rename_i made hmade
      obtain ⟨grid, -, hmade⟩ := bind_eq_ok_iff.mp hmade
      obtain ⟨_, hc, ⟨⟩⟩ := List.mem_map.mp h
      obtain ⟨block, double, -, rfl⟩ := exists_of_fixedBoxCases hmade
      simp only [List.mem_cons, List.not_mem_nil, or_false] at hc
      obtain rfl | rfl | rfl := hc <;> exact ⟨_, _, _, _, rfl, by rintro _ ⟨⟩; simp⟩
    · cases h

end

end SuitePlan

end TileBench
