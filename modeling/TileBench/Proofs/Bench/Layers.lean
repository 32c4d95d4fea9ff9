import TileBench.Bench.Arguments
import TileBench.Proofs.Config.Settings

/-!
# Layers of settings

A setting has the value that the command line gives, or else the one that the configuration file
sets, or else the default. A flag can only be given, so a setting that is a flag holds if it is
given or set. The process table and the names of the files other than the script come from the
configuration file alone.
-/

namespace TileBench.Bench.Arguments

open Config

variable {a : Arguments} {store : Store} {base c : Config} {entries : List SettingEntry}

/-- The values that the command line gives. -/
def given? (a : Arguments) : (s : Setting) → Option s.Value
  | .writeExecutable => a.writeExecutable
  | .readExecutable => a.readExecutable
  | .launcher => a.launcher
  | .varTypes => if a.varTypes.isEmpty then none else (a.varTypes.mapM VarType.parse).toOption
  | .patch => a.patch.bind fun text => (Extent.parse text).toOption
  | .vars => a.vars
  | .timesteps => a.timesteps
  | .fixedBox => if a.fixedBox then some true else none
  | .restructure => if a.restructure then some true else none
  | .scriptPath => a.script
  | .procs | .varsFile | .dataFile | .writeLog | .readLog => none

/-- The types and the block size that are given can be read. -/
structure Readable (a : Arguments) : Prop where
  varTypes : ∀ text ∈ a.varTypes, ∃ v, VarType.parse text = .ok v
  patch : ∀ text, a.patch = some text → ∃ e, Extent.parse text = .ok e

/-- The configuration file holds an object that sets some settings. Without a file none is set. -/
def FileSets (a : Arguments) (store : Store) (entries : List SettingEntry) : Prop :=
  match a.config with
  | some path => ∃ members, HoldsObject store path members ∧ Sets members entries
  | none => entries = []

/-! ### The command line over a configuration -/

lemma varTypesOver_eq_ok_iff {types found : List VarType} :
    a.varTypesOver types = .ok found ↔ (∀ text ∈ a.varTypes, ∃ v, VarType.parse text = .ok v) ∧
      found = (a.given? .varTypes).getD types := by
  unfold varTypesOver given?
  split <;> rename_i hempty
  · rw [List.isEmpty_iff.mp hempty]
    simp [eq_comm]
  · rw [← exists_mapM_eq_ok_iff]
    cases a.varTypes.mapM VarType.parse <;> simp [Except.toOption, eq_comm]

lemma patchOver_eq_ok_iff {patch found : Extent} :
    a.patchOver patch = .ok found ↔ (∀ text, a.patch = some text → ∃ e, Extent.parse text = .ok e) ∧
      found = (a.given? .patch).getD patch := by
  unfold patchOver given?
  cases a.patch with
  | none => simp [eq_comm]
  | some text => cases hparse : Extent.parse text <;> simp [hparse, Except.toOption, eq_comm]

/-- A flag that is given goes before what is set. -/
lemma getD_flag (given set : Bool) :
    (if given then some true else none).getD set = (given || set) := by
  cases given <;> rfl

lemma Readable.exists_applyTo (h : a.Readable) (base : Config) : ∃ c, a.applyTo base = .ok c :=
  ⟨_, bind_eq_ok_iff.mpr ⟨_, varTypesOver_eq_ok_iff.mpr ⟨h.varTypes, rfl⟩,
    bind_eq_ok_iff.mpr ⟨_, patchOver_eq_ok_iff.mpr ⟨h.patch, rfl⟩, rfl⟩⟩⟩

lemma get_of_applyTo (h : a.applyTo base = .ok c) :
    a.Readable ∧ ∀ s, c.get s = (a.given? s).getD (base.get s) := by
  obtain ⟨types, htypes, h⟩ := bind_eq_ok_iff.mp h
  obtain ⟨patch, hpatch, ⟨⟩⟩ := bind_eq_ok_iff.mp h
  obtain ⟨hreadTypes, rfl⟩ := varTypesOver_eq_ok_iff.mp htypes
  obtain ⟨hreadPatch, rfl⟩ := patchOver_eq_ok_iff.mp hpatch
  refine ⟨⟨hreadTypes, hreadPatch⟩, fun s => ?_⟩
  cases s with
  | fixedBox | restructure => exact (Bool.or_comm _ _).trans (getD_flag _ _).symm
  | _ => rfl

/-- What is given goes before what is in the configuration. -/
lemma applyTo_eq_ok_iff : a.applyTo base = .ok c ↔
    a.Readable ∧ ∀ s, c.get s = (a.given? s).getD (base.get s) := by
  refine ⟨get_of_applyTo, ?_⟩
  rintro ⟨hreadable, hget⟩
  obtain ⟨found, hfound⟩ := hreadable.exists_applyTo base
  have hsame : c = found := ext_get fun s => (hget s).trans ((get_of_applyTo hfound).2 s).symm
  rw [hsame, hfound]

/-- What is given once need not be given again. -/
lemma applyTo_again (h : a.applyTo base = .ok c) : a.applyTo c = .ok c := by
  obtain ⟨hreadable, hget⟩ := applyTo_eq_ok_iff.mp h
  refine applyTo_eq_ok_iff.mpr ⟨hreadable, fun s => ?_⟩
  cases hgiven : a.given? s with
  | none => rfl
  | some v => rw [hget, hgiven, Option.getD_some, Option.getD_some]

/-! ### The configuration in effect -/

lemma FileSets.exists_baseConfig (h : a.FileSets store entries) :
    ∃ base, a.baseConfig store = .ok base ∧
      ∀ s, base.get s = (entries.dlookup s).getD (standard.get s) := by
  unfold baseConfig
  cases hconfig : a.config with
  | some path =>
    rw [FileSets, hconfig] at h
    obtain ⟨members, hobject, hsets⟩ := h
    exact hobject.exists_ofFile hsets
  | none =>
    rw [FileSets, hconfig] at h
    subst h
    exact ⟨standard, rfl, fun s => rfl⟩

lemma effectiveConfig_of_base (h : a.baseConfig store = .ok base) :
    a.effectiveConfig store = a.applyTo base := by
  rw [effectiveConfig, h]
  rfl

lemma FileSets.effectiveConfig_eq_ok_iff (h : a.FileSets store entries) :
    a.effectiveConfig store = .ok c ↔ a.Readable ∧
      ∀ s, c.get s = ((a.given? s).or (entries.dlookup s)).getD (standard.get s) := by
  obtain ⟨base, hbase, hget⟩ := h.exists_baseConfig
  have hlayers : ∀ s, ((a.given? s).or (entries.dlookup s)).getD (standard.get s) =
      (a.given? s).getD (base.get s) := by
    intro s
    rw [hget]
    cases a.given? s <;> rfl
  rw [effectiveConfig_of_base hbase, applyTo_eq_ok_iff]
  simp only [hlayers]

lemma exists_baseConfig_error_iff : (∃ fault, a.baseConfig store = .error fault) ↔
    ∃ path, a.config = some path ∧ ∃ fault, ofFile store path = .error fault := by
  unfold baseConfig
  cases a.config <;> simp

lemma not_readable_iff : ¬ a.Readable ↔
    (∃ text ∈ a.varTypes, ∃ fault, VarType.parse text = .error fault) ∨
      ∃ text, a.patch = some text ∧ ∃ fault, Extent.parse text = .error fault := by
  have hreadable : a.Readable ↔ (∀ text ∈ a.varTypes, ∃ v, VarType.parse text = .ok v) ∧
      ∀ text, a.patch = some text → ∃ e, Extent.parse text = .ok e :=
    ⟨fun h => ⟨h.varTypes, h.patch⟩, fun h => ⟨h.1, h.2⟩⟩
  rw [hreadable, not_and_or]
  simp only [exists_error_iff, not_forall, exists_prop]

/-- There is no configuration in effect if the file fails, or a type or the block size. -/
lemma exists_effectiveConfig_error_iff : (∃ fault, a.effectiveConfig store = .error fault) ↔
    (∃ fault, a.baseConfig store = .error fault) ∨ ¬ a.Readable := by
  cases hbase : a.baseConfig store with
  | error fault => simp [effectiveConfig, hbase, bind, Except.bind]
  | ok base =>
    have hlayered : (∃ c, a.effectiveConfig store = .ok c) ↔ a.Readable := by
      rw [effectiveConfig_of_base hbase]
      constructor
      · rintro ⟨c, hc⟩
        exact (get_of_applyTo hc).1
      · exact fun hreadable => hreadable.exists_applyTo base
    rw [exists_error_iff, hlayered]
    simp

/-- A setting has the value that the command line gives, or else the one that the configuration file
sets, or else the default. An object in the file sets the settings that its keys name, in any order.
It is refused exactly if a key is unknown or there twice, or a value cannot be decoded. The flags
hold if they are given or set, and the settings that cannot be given stay as they are. There is no
configuration in effect exactly if the file is refused, or a type or the block size that is given
cannot be read. To give the same settings again changes nothing. -/
theorem settings_are_layered (a : Arguments) (store : Store) :
    (∀ (path : String) (members : Members), HoldsObject store path members →
      (∀ entries, Sets members entries → ∃ c, ofFile store path = .ok c ∧
        ∀ s, c.get s = (entries.dlookup s).getD (standard.get s)) ∧
      (∀ (store' : Store) (path' : String) (others : Members), HoldsObject store' path' others →
        members.Perm others → ∀ c, ofFile store path = .ok c ↔ ofFile store' path' = .ok c) ∧
      (Defective members ↔ ∃ cause, ofFile store path = .error (.config path cause)) ∧
      (Defective members ↔ ¬ ∃ entries, Sets members entries)) ∧
    (∀ entries, a.FileSets store entries → ∀ c, a.effectiveConfig store = .ok c ↔
      a.Readable ∧ ∀ s, c.get s = ((a.given? s).or (entries.dlookup s)).getD (standard.get s)) ∧
    (∀ base c, a.applyTo base = .ok c →
      c.fixedBox = (a.fixedBox || base.fixedBox) ∧
      c.restructure = (a.restructure || base.restructure) ∧
      (∀ s ∈ [Setting.procs, .varsFile, .dataFile, .writeLog, .readLog], c.get s = base.get s) ∧
      a.applyTo c = .ok c) ∧
    ((∃ fault, a.effectiveConfig store = .error fault) ↔
      (∃ path, a.config = some path ∧ ∃ fault, ofFile store path = .error fault) ∨
      (∃ text ∈ a.varTypes, ∃ fault, VarType.parse text = .error fault) ∨
      ∃ text, a.patch = some text ∧ ∃ fault, Extent.parse text = .error fault) := by
  refine ⟨fun path members hobject => ⟨fun entries => hobject.exists_ofFile, ?_,
    hobject.defective_iff, by rw [exists_sets_iff, not_not]⟩,
    fun entries hsets c => hsets.effectiveConfig_eq_ok_iff, fun base c h => ?_, ?_⟩
  · intro store' path' others hothers hperm c
    exact ⟨hobject.ofFile_of_perm hothers hperm, hothers.ofFile_of_perm hobject hperm.symm⟩
  · have hget := (get_of_applyTo h).2
    refine ⟨(hget .fixedBox).trans (getD_flag _ _), (hget .restructure).trans (getD_flag _ _), ?_,
      applyTo_again h⟩
    simp only [List.forall_mem_cons]
    exact ⟨hget _, hget _, hget _, hget _, hget _, List.forall_mem_nil _⟩
  · rw [exists_effectiveConfig_error_iff, exists_baseConfig_error_iff, not_readable_iff]

/-- An object with four settings, out of order. -/
def layeredObject : Json :=
  .obj [("timesteps", .nat 3), ("var_types", .arr [.str "3*float64"]), ("non_pow2", .bool true),
    ("data_file", .str "set")]

def layeredStore : Store := .ofText "layers.json" layeredObject.compact

def layeredArguments : Arguments :=
  { ofMatches ⟨[]⟩ with
    config := some "layers.json"
    varTypes := ["1*int32", "2*float32"]
    vars := some 5
    restructure := true }

/-- The types of the command line hold, and what it does not give is taken from the file. -/
theorem layeredArguments_effectiveConfig :
    layeredArguments.effectiveConfig layeredStore = .ok { Config.standard with
      varTypes := [⟨1, "int32"⟩, ⟨2, "float32"⟩]
      vars := 5
      timesteps := 3
      fixedBox := true
      restructure := true
      dataFile := "set" } := by
  have hplain : Store.IsPlain "layers.json" := by constructor <;> decide
  have hread := hplain.readText_ofText layeredObject.compact
  have hwhole : Json.Whole layeredObject :=
    ⟨Json.whole_nat 3, ⟨Json.whole_str _, trivial⟩, Json.whole_bool true, Json.whole_str _, trivial⟩
  have hobject : HoldsObject layeredStore "layers.json" _ :=
    ⟨_, hread, Json.draft_of_spells hwhole (Json.spells_compact layeredObject)⟩
  have hsets : layeredArguments.FileSets layeredStore
      [⟨.timesteps, (3 : UInt32)⟩, ⟨.varTypes, [⟨3, "float64"⟩]⟩, ⟨.fixedBox, true⟩,
        ⟨.dataFile, "set"⟩] := by
    refine ⟨_, hobject, ⟨?_, by unfold List.NodupKeys; decide⟩⟩
    exact .cons ⟨rfl, rfl⟩ (.cons ⟨rfl, rfl⟩ (.cons ⟨rfl, rfl⟩ (.cons ⟨rfl, rfl⟩ .nil)))
  have hreadable : layeredArguments.Readable := by
    have hint : ∃ v, VarType.parse "1*int32" = .ok v := ⟨⟨1, "int32"⟩, rfl⟩
    have hfloat : ∃ v, VarType.parse "2*float32" = .ok v := ⟨⟨2, "float32"⟩, rfl⟩
    refine ⟨?_, nofun⟩
    exact List.forall_mem_cons.mpr ⟨hint, List.forall_mem_singleton.mpr hfloat⟩
  obtain ⟨-, hlayers, -, -⟩ := settings_are_layered layeredArguments layeredStore
  refine (hlayers _ hsets _).mpr ⟨hreadable, fun s => ?_⟩
  cases s <;> rfl

end TileBench.Bench.Arguments
