import TileBench.Proofs.Config.Accepted
import TileBench.Proofs.Json.ReadingBack
import TileBench.Proofs.Store.Files

/-!
# Reading configurations back

A configuration is written as an object with all settings. If it is well formed, the object is
decoded to the configuration itself, whatever the defaults are: each member replaces one setting,
and there is a member for each. Only well-formed configurations can be loaded, so the loaded ones
are those that can be written and loaded again.
-/

namespace TileBench

open Json

/-! ### Files -/

/-- Every text can be read from some file. -/
lemma Store.exists_readText (text : String) : ∃ store path, readText store path = .ok text := by
  have hplain : IsPlain "config.json" := by constructor <;> decide
  exact ⟨_, _, hplain.readText_ofText text⟩

/-! ### Tables -/

namespace ProcessTable

lemma whole_json (table : ProcessTable) : Whole table.json := by
  refine wholeMembers_iff.mpr fun member hmember => ?_
  obtain ⟨entry, -, rfl⟩ := List.mem_map.mp hmember
  exact whole_arr_str Extent.text entry.2

/-- A table without zero sides is read back, with the counts that have no grids. -/
lemma decode_json {table : ProcessTable}
    (h : ∀ count grid, table.HasGrid count grid → grid.Positive) :
    decode (asDraft table.json) = .ok table := by
  have hentries : (asDraft table.json).map32
      (fun grids => grids.list fun grid => grid.parsed Extent.parse) =
        .ok table.bindings.entries := by
    refine map32_asDraft fun entry hentry => list_asDraft fun grid hgrid => ?_
    exact parsed_asDraft (Extent.parse_text (h _ grid (hasGrid_of_mem_entries hentry hgrid)))
  rw [decode, hentries]
  exact congrArg (fun m => Except.ok (ProcessTable.mk m)) (OrderedMap.ofList_entries _)

end ProcessTable

/-! ### Settings -/

namespace Setting

variable {c base : Config}

/-- A configuration with one setting of another one. -/
def copy (c base : Config) : Setting → Config
  | .writeExecutable => { base with writeExecutable := c.writeExecutable }
  | .readExecutable => { base with readExecutable := c.readExecutable }
  | .launcher => { base with launcher := c.launcher }
  | .varTypes => { base with varTypes := c.varTypes }
  | .patch => { base with patch := c.patch }
  | .procs => { base with procs := c.procs }
  | .vars => { base with vars := c.vars }
  | .timesteps => { base with timesteps := c.timesteps }
  | .fixedBox => { base with fixedBox := c.fixedBox }
  | .restructure => { base with restructure := c.restructure }
  | .varsFile => { base with varsFile := c.varsFile }
  | .dataFile => { base with dataFile := c.dataFile }
  | .writeLog => { base with writeLog := c.writeLog }
  | .readLog => { base with readLog := c.readLog }
  | .scriptPath => { base with scriptPath := c.scriptPath }

/-- A configuration consists of its settings. -/
lemma foldl_copy (c base : Config) :
    all.foldl (fun base setting => setting.copy c base) base = c := by
  simp only [all, List.foldl_cons, List.foldl_nil, copy]

lemma ofName_name (setting : Setting) : ofName setting.name = .ok setting := by
  cases setting <;> rfl

lemma whole_json (c : Config) (setting : Setting) : Whole (setting.json c) := by
  cases setting with
  | varTypes => exact whole_arr_str VarType.text c.varTypes
  | procs => exact c.procs.whole_json
  | vars | timesteps => exact whole_nat _
  | fixedBox | restructure => exact whole_bool _
  | _ => exact whole_str _

/-- The written value of a setting is put into a configuration as it was. -/
lemma apply_json (hc : c.WellFormed) (setting : Setting) :
    setting.apply base (asDraft (setting.json c)) = .ok (setting.copy c base) := by
  cases setting with
  | varTypes =>
    have htypes : (asDraft (.arr (c.varTypes.map fun v => .str v.text))).list
        (fun item => item.parsed VarType.parse) = .ok c.varTypes :=
      list_asDraft fun v hv => parsed_asDraft (VarType.parse_text (hc.varTypes v hv))
    exact bind_eq_ok_iff.mpr ⟨_, htypes, rfl⟩
  | patch => exact bind_eq_ok_iff.mpr ⟨_, parsed_asDraft (Extent.parse_text hc.patch), rfl⟩
  | procs => exact bind_eq_ok_iff.mpr ⟨_, ProcessTable.decode_json hc.grids, rfl⟩
  | vars | timesteps => exact bind_eq_ok_iff.mpr ⟨_, word32_asDraft _, rfl⟩
  | fixedBox | restructure => exact bind_eq_ok_iff.mpr ⟨_, truth_asDraft _, rfl⟩
  | _ => exact bind_eq_ok_iff.mpr ⟨_, text_asDraft _ _, rfl⟩

end Setting

/-! ### Configurations -/

namespace Config

variable {c : Config} {store : Store} {path : String}

lemma whole_json (c : Config) : Whole c.json := by
  refine wholeMembers_iff.mpr fun member hmember => ?_
  obtain ⟨setting, -, rfl⟩ := List.mem_map.mp hmember
  exact setting.whole_json c

/-- Written members are put into a configuration one after the other, if none is there twice. -/
lemma applyMembers_json (hc : c.WellFormed) {settings seen : List Setting} {base : Config}
    (hnodup : (seen.reverse ++ settings).Nodup) :
    base.applyMembers seen (memberDrafts (settings.map fun s => (s.name, s.json c))) =
      .ok (settings.foldl (fun base setting => setting.copy c base) base) := by
  induction settings generalizing base seen with
  | nil => rfl
  | cons setting rest ih =>
    have hnew : setting ∉ seen := by
      intro hseen
      exact (List.nodup_append.mp hnodup).2.2 setting (List.mem_reverse.mpr hseen) setting
        List.mem_cons_self rfl
    have hrest : ((setting :: seen).reverse ++ rest).Nodup := by
      rwa [List.reverse_cons, List.append_assoc, List.singleton_append]
    refine bind_eq_ok_iff.mpr ⟨_, Token.decode_ofText _, bind_eq_ok_iff.mpr ⟨_,
      setting.ofName_name, ?_⟩⟩
    rw [if_neg hnew]
    exact bind_eq_ok_iff.mpr ⟨_, setting.apply_json hc, ih hrest⟩

/-- A well-formed configuration is decoded from its object. -/
lemma decode_json (hc : c.WellFormed) : decode (asDraft c.json) = .ok c := by
  have hmembers : standard.applyMembers []
      (memberDrafts (Setting.all.map fun s => (s.name, s.json c))) = .ok c :=
    (applyMembers_json hc (by decide)).trans (congrArg _ (Setting.foldl_copy c standard))
  exact bind_eq_ok_iff.mpr ⟨c, hmembers, rfl⟩

/-- A well-formed configuration is decoded from each of its spellings. -/
lemma WellFormed.decodeText_of_spells {text : String} (hc : c.WellFormed)
    (h : Spells c.json text.toList) : decodeText decode text = .ok c :=
  (Json.decodeText_of_spells c.whole_json h).trans (decode_json hc)

lemma WellFormed.ofFile_of_spells {text : String} (hc : c.WellFormed)
    (h : Spells c.json text.toList) (hread : store.readText path = .ok text) :
    ofFile store path = .ok c := by
  simp only [ofFile, hread, hc.decodeText_of_spells h]
  rfl

lemma wellFormed_iff_of_spells {text : String} (h : Spells c.json text.toList) :
    c.WellFormed ↔ decodeText decode text = .ok c :=
  ⟨fun hc => hc.decodeText_of_spells h, wellFormed_of_decodeText⟩

/-- A well-formed configuration can be loaded from a file that holds its text. -/
lemma WellFormed.exists_ofFile (hc : c.WellFormed) : ∃ store path, ofFile store path = .ok c := by
  obtain ⟨store, path, hread⟩ := Store.exists_readText c.json.compact
  exact ⟨store, path, hc.ofFile_of_spells (spells_compact c.json) hread⟩

/-- The configurations that can be loaded are the well-formed ones, and they are just those that are
decoded from their own text, on one line or over several. A file with any spelling of such a
configuration is loaded as it, and so a configuration that was loaded can be written and loaded
again. -/
theorem loaded_iff_read_back (c : Config) :
    ((∃ store path, ofFile store path = .ok c) ↔ c.WellFormed) ∧
    (c.WellFormed ↔ decodeText decode c.json.compact = .ok c) ∧
    (c.WellFormed ↔ decodeText decode c.json.pretty = .ok c) ∧
    (c.WellFormed → ∀ text : String, Spells c.json text.toList →
      decodeText decode text = .ok c ∧
      ∀ (store : Store) (path : String), store.readText path = .ok text →
        ofFile store path = .ok c) := by
  refine ⟨⟨?_, WellFormed.exists_ofFile⟩, wellFormed_iff_of_spells (spells_compact _),
    wellFormed_iff_of_spells (spells_pretty _), fun hc text h => ?_⟩
  · rintro ⟨store, path, hfile⟩
    exact wellFormed_of_ofFile hfile
  · exact ⟨hc.decodeText_of_spells h, fun store path => hc.ofFile_of_spells h⟩

/-- A configuration with a count that has no grids. -/
def sparse : Config :=
  { standard with
    varTypes := [⟨3, "float64"⟩, ⟨1, "int32"⟩]
    procs := .ofList [(4, []), (2, [⟨2, 1, 1⟩, ⟨1, 2, 1⟩])] }

/-- The count without grids is read back too. -/
theorem sparse_read_back :
    sparse.WellFormed ∧ decodeText decode sparse.json.pretty = .ok sparse := by
  have hsparse : sparse.WellFormed := by
    refine ⟨⟨by decide, fun count grid hgrid => ?_⟩, ?_⟩
    · have hpositive : ∀ entry ∈ [((4 : UInt32), []), (2, [⟨2, 1, 1⟩, ⟨1, 2, 1⟩])],
          ∀ grid ∈ entry.2, Extent.Positive grid := by decide
      obtain ⟨grids, hentry, hmem⟩ := ProcessTable.mem_of_hasGrid_ofList hgrid
      exact hpositive _ hentry grid hmem
    · simp only [sparse, List.forall_mem_cons]
      exact ⟨⟨by decide, by decide⟩, ⟨by decide, by decide⟩, List.forall_mem_nil _⟩
  exact ⟨hsparse, (loaded_iff_read_back sparse).2.2.1.mp hsparse⟩

end Config

end TileBench
