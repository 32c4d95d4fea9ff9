import TileBench.ProcessTable
import TileBench.Proofs.Extent.Products
import TileBench.Proofs.OrderedMap

/-!
# Grids of a table

A table *has* a grid for a count if the grid is among those that the count may be arranged in. The
default grid is one of them. A table *arranges* a count if each of its grids has as many places as
the count has processes; nothing forces a table to, but the built-in one arranges every count.
-/

namespace TileBench

namespace ProcessTable

variable {table : ProcessTable} {count : UInt32} {grid : Extent} {grids : List Extent}

/-- The processes of a count may be arranged in the grid. -/
def HasGrid (table : ProcessTable) (count : UInt32) (grid : Extent) : Prop :=
  ∃ grids, table.grids count = .ok grids ∧ grid ∈ grids

/-- Every grid of the count has a place for each of its processes. -/
def Arranges (table : ProcessTable) (count : UInt32) : Prop :=
  ∀ grid, table.HasGrid count grid → grid.Positive ∧ grid.cells = count.toNat

lemma grids_eq_ok_iff :
    table.grids count = .ok grids ↔ grids ≠ [] ∧ table.bindings.get? count = some grids := by
  unfold ProcessTable.grids gridsOf
  split
  · rename_i first others hget
    rw [hget]
    constructor
    · rintro ⟨⟩
      exact ⟨List.cons_ne_nil _ _, rfl⟩
    · rintro ⟨-, ⟨⟩⟩
      rfl
  · rename_i hget
    constructor
    · intro h
      cases h
    · rintro ⟨hne, hsome⟩
      obtain ⟨first, others, rfl⟩ := List.exists_cons_of_ne_nil hne
      exact absurd hsome (hget first others)

lemma exists_cons_of_grids (h : table.grids count = .ok grids) :
    ∃ first others, grids = first :: others :=
  List.exists_cons_of_ne_nil (grids_eq_ok_iff.mp h).1

lemma contains_iff : table.contains count = true ↔ ∃ grids, table.grids count = .ok grids := by
  simp only [grids_eq_ok_iff]
  unfold contains
  cases table.bindings.get? count <;> simp

lemma defaultGrid_eq_ok_iff :
    table.defaultGrid count = .ok grid ↔ ∃ others, table.grids count = .ok (grid :: others) := by
  unfold defaultGrid ProcessTable.grids
  cases table.gridsOf count with
  | error fault => exact ⟨nofun, nofun⟩
  | ok found =>
    constructor
    · rintro ⟨⟩
      exact ⟨found.2, rfl⟩
    · rintro ⟨others, ⟨⟩⟩
      rfl

lemma defaultGrid_of_grids {fault : Fault} (h : table.grids count = .error fault) :
    table.defaultGrid count = .error fault := by
  unfold defaultGrid
  unfold ProcessTable.grids at h
  cases hgrids : table.gridsOf count with
  | error fault =>
    rw [hgrids] at h
    cases h
    rfl
  | ok found =>
    rw [hgrids] at h
    cases h

lemma hasGrid_defaultGrid (h : table.defaultGrid count = .ok grid) : table.HasGrid count grid := by
  obtain ⟨others, hgrids⟩ := defaultGrid_eq_ok_iff.mp h
  exact ⟨_, hgrids, List.mem_cons_self⟩

lemma hasGrid_of_mem_entries {entry : UInt32 × List Extent} (h : entry ∈ table.bindings.entries)
    (hgrid : grid ∈ entry.2) : table.HasGrid entry.1 grid :=
  ⟨entry.2, grids_eq_ok_iff.mpr ⟨List.ne_nil_of_mem hgrid, OrderedMap.mem_entries_iff.mp h⟩, hgrid⟩

lemma mem_of_hasGrid_ofList {entries : List (UInt32 × List Extent)}
    (h : (ofList entries).HasGrid count grid) :
    ∃ grids, (count, grids) ∈ entries ∧ grid ∈ grids := by
  obtain ⟨grids, hgrids, hmem⟩ := h
  exact ⟨grids, OrderedMap.mem_of_get?_ofList (grids_eq_ok_iff.mp hgrids).2, hmem⟩

lemma arranges_ofList {entries : List (UInt32 × List Extent)}
    (h : ∀ entry ∈ entries, ∀ grid ∈ entry.2, grid.Positive ∧ grid.cells = entry.1.toNat)
    (count : UInt32) : (ofList entries).Arranges count := by
  intro grid hgrid
  obtain ⟨grids, hentry, hmem⟩ := mem_of_hasGrid_ofList hgrid
  exact h _ hentry grid hmem

theorem standard_arranges (count : UInt32) : standard.Arranges count :=
  arranges_ofList (by decide) count

end ProcessTable

end TileBench
