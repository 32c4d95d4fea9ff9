import TileBench.Config.Json
import TileBench.Proofs.Config.Tables
import TileBench.Proofs.Extent.Text
import TileBench.Proofs.Json.Decoding
import TileBench.Proofs.VarType.Text

/-!
# Accepted configurations

The built-in configuration is accepted, and so is every configuration that is loaded from a file.
Neither an extent with a zero side nor a type without a component or a scalar can be read, so a file
changes a configuration only into one without such extents and types. That is all there is to say
about its grids: a file may list any grids for a count.
-/

namespace TileBench

lemma ProcessTable.positive_of_decode {d : Json.Draft} {table : ProcessTable}
    (h : decode d = .ok table) {count : UInt32} {grid : Extent} (hgrid : table.HasGrid count grid) :
    grid.Positive := by
  obtain ⟨entries, hentries, ⟨⟩⟩ := bind_eq_ok_iff.mp h
  obtain ⟨grids, hentry, hmem⟩ := mem_of_hasGrid_ofList hgrid
  have hlist : ∀ (d : Json.Draft) (grids : List Extent),
      d.list (fun item => item.parsed Extent.parse) = .ok grids →
      ∀ grid ∈ grids, grid.Positive := by
    intro d grids hgrids
    refine Json.Draft.forall_of_list hgrids fun item grid hgrid => ?_
    obtain ⟨text, htext⟩ := Json.Draft.exists_of_parsed hgrid
    exact Extent.positive_of_parse htext
  exact Json.Draft.forall_of_map32 hentries hlist _ hentry grid hmem

namespace Config

variable {c changed : Config}

/-- The block and the grids have no zero side. -/
structure Positive (c : Config) : Prop where
  patch : c.patch.Positive
  grids : ∀ count grid, c.procs.HasGrid count grid → grid.Positive

/-- The block and the grids have no zero side, and each type has a component and a scalar. -/
structure WellFormed (c : Config) : Prop extends c.Positive where
  varTypes : ∀ v ∈ c.varTypes, v.WellFormed

lemma standard_wellFormed : standard.WellFormed where
  patch := by decide
  grids count grid hgrid := (ProcessTable.standard_arranges count grid hgrid).1
  varTypes v hv := by
    rw [List.mem_singleton.mp hv]
    exact ⟨by decide, by decide⟩

lemma WellFormed.apply {d : Json.Draft} {setting : Setting} (hc : c.WellFormed)
    (h : setting.apply c d = .ok changed) : changed.WellFormed := by
  cases setting with
  | varTypes =>
    obtain ⟨types, htypes, ⟨⟩⟩ := bind_eq_ok_iff.mp h
    refine ⟨⟨hc.patch, hc.grids⟩, Json.Draft.forall_of_list htypes fun item v hv => ?_⟩
    obtain ⟨text, htext⟩ := Json.Draft.exists_of_parsed hv
    exact VarType.wellFormed_of_parse htext
  | patch =>
    obtain ⟨patch, hpatch, ⟨⟩⟩ := bind_eq_ok_iff.mp h
    obtain ⟨text, htext⟩ := Json.Draft.exists_of_parsed hpatch
    exact ⟨⟨Extent.positive_of_parse htext, hc.grids⟩, hc.varTypes⟩
  | procs =>
    obtain ⟨table, htable, ⟨⟩⟩ := bind_eq_ok_iff.mp h
    exact ⟨⟨hc.patch, fun _ _ => ProcessTable.positive_of_decode htable⟩, hc.varTypes⟩
  | _ =>
    -- No other setting is about extents or types.
    obtain ⟨value, -, ⟨⟩⟩ := bind_eq_ok_iff.mp h
    exact ⟨⟨hc.patch, hc.grids⟩, hc.varTypes⟩

lemma WellFormed.applyMembers {seen : List Setting} {members : List (Json.Token × Json.Draft)}
    (hc : c.WellFormed) (h : c.applyMembers seen members = .ok changed) : changed.WellFormed := by
  induction members generalizing c seen with
  | nil =>
    cases h
    exact hc
  | cons member rest ih =>
    obtain ⟨name, -, h⟩ := bind_eq_ok_iff.mp h
    obtain ⟨setting, -, h⟩ := bind_eq_ok_iff.mp h
    split at h
    · cases h
    · obtain ⟨next, hnext, h⟩ := bind_eq_ok_iff.mp h
      exact ih (hc.apply hnext) h

lemma WellFormed.applyItems {settings : List Setting} {items : List Json.Draft}
    (hc : c.WellFormed) (h : c.applyItems settings items = .ok changed) : changed.WellFormed := by
  induction items generalizing c settings with
  | nil =>
    rw [Config.applyItems] at h
    cases h
    exact hc
  | cons item rest ih =>
    cases settings with
    | nil => cases h
    | cons setting settings =>
      obtain ⟨next, hnext, h⟩ := bind_eq_ok_iff.mp h
      exact ih (hc.apply hnext) h

lemma WellFormed.decodeOver {d : Json.Draft} (hc : c.WellFormed)
    (h : c.decodeOver d = .ok changed) : changed.WellFormed := by
  cases d with
  | obj members closed =>
    obtain ⟨found, hfound, h⟩ := bind_eq_ok_iff.mp h
    obtain ⟨-, -, ⟨⟩⟩ := bind_eq_ok_iff.mp h
    exact hc.applyMembers hfound
  | arr items closed =>
    obtain ⟨found, hfound, h⟩ := bind_eq_ok_iff.mp h
    obtain ⟨-, -, ⟨⟩⟩ := bind_eq_ok_iff.mp h
    exact hc.applyItems hfound
  | _ => cases h

lemma wellFormed_of_decodeText {text : String} (h : Json.decodeText decode text = .ok c) :
    c.WellFormed := by
  obtain ⟨value, hvalue, h⟩ := bind_eq_ok_iff.mp h
  obtain ⟨-, -, ⟨⟩⟩ := bind_eq_ok_iff.mp h
  exact standard_wellFormed.decodeOver hvalue

lemma wellFormed_of_ofFile {store : Store} {path : String} (h : ofFile store path = .ok c) :
    c.WellFormed := by
  unfold ofFile at h
  split at h
  · cases h
  · exact wellFormed_of_decodeText (mapError_eq_ok_iff.mp h)

/-- The built-in configuration is accepted, and what can be loaded from a file is. -/
inductive Accepted : Config → Prop
  | standard : Accepted standard
  | ofFile {store : Store} {path : String} {c : Config} (h : Config.ofFile store path = .ok c) :
    Accepted c

/-- No accepted configuration has an extent with a zero side. -/
theorem Accepted.positive (h : c.Accepted) : c.Positive := by
  cases h with
  | standard => exact standard_wellFormed.toPositive
  | ofFile hfile => exact (wellFormed_of_ofFile hfile).toPositive

end Config

end TileBench
