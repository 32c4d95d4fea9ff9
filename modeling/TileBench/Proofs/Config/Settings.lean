import TileBench.Proofs.Config.RoundTrip
import Mathlib.Data.List.Sigma
import Mathlib.Data.List.Perm.Basic

/-!
# Settings one by one

A configuration has a value for each setting, and is known by them. A member of an object in a
configuration file assigns a value to the setting that its key names. The object is loaded exactly
if each of its members assigns a value, and no two of them to one setting. Then each setting has
the value that was assigned to it, or else the default, so the order of the members does not matter.
-/

namespace TileBench

/-! ### Values of settings -/

abbrev Setting.Value : Setting → Type
  | .writeExecutable | .readExecutable | .launcher => String
  | .varTypes => List VarType
  | .patch => Extent
  | .procs => ProcessTable
  | .vars | .timesteps => UInt32
  | .fixedBox | .restructure => Bool
  | .varsFile | .dataFile | .writeLog | .readLog | .scriptPath => String

/-- A setting and a value for it. -/
abbrev SettingEntry := (s : Setting) × s.Value

namespace Config

variable {c base : Config} {entries : List SettingEntry}

def get (c : Config) : (s : Setting) → s.Value
  | .writeExecutable => c.writeExecutable
  | .readExecutable => c.readExecutable
  | .launcher => c.launcher
  | .varTypes => c.varTypes
  | .patch => c.patch
  | .procs => c.procs
  | .vars => c.vars
  | .timesteps => c.timesteps
  | .fixedBox => c.fixedBox
  | .restructure => c.restructure
  | .varsFile => c.varsFile
  | .dataFile => c.dataFile
  | .writeLog => c.writeLog
  | .readLog => c.readLog
  | .scriptPath => c.scriptPath

/-- A configuration with another value of a setting. -/
def set (c : Config) : (s : Setting) → s.Value → Config
  | .writeExecutable, path => { c with writeExecutable := path }
  | .readExecutable, path => { c with readExecutable := path }
  | .launcher, program => { c with launcher := program }
  | .varTypes, types => { c with varTypes := types }
  | .patch, patch => { c with patch := patch }
  | .procs, table => { c with procs := table }
  | .vars, n => { c with vars := n }
  | .timesteps, n => { c with timesteps := n }
  | .fixedBox, b => { c with fixedBox := b }
  | .restructure, b => { c with restructure := b }
  | .varsFile, path => { c with varsFile := path }
  | .dataFile, name => { c with dataFile := name }
  | .writeLog, path => { c with writeLog := path }
  | .readLog, path => { c with readLog := path }
  | .scriptPath, path => { c with scriptPath := path }

lemma get_set_self (c : Config) (s : Setting) (v : s.Value) : (c.set s v).get s = v := by
  cases s <;> rfl

lemma get_set_of_ne (c : Config) {s t : Setting} (v : s.Value) (h : t ≠ s) :
    (c.set s v).get t = c.get t := by
  cases s <;> cases t <;> first | rfl | exact absurd rfl h

/-- Configurations with the same settings are the same. -/
lemma ext_get (h : ∀ s, c.get s = base.get s) : c = base := by
  cases c
  cases base
  rw [mk.injEq]
  exact ⟨h .writeExecutable, h .readExecutable, h .launcher, h .varTypes, h .patch, h .procs,
    h .vars, h .timesteps, h .fixedBox, h .restructure, h .varsFile, h .dataFile, h .writeLog,
    h .readLog, h .scriptPath⟩

/-- A configuration with some settings replaced. -/
def setAll (c : Config) (entries : List SettingEntry) : Config :=
  entries.foldl (fun c entry => c.set entry.1 entry.2) c

/-- A setting that is replaced once has its new value, and any other the old one. -/
lemma get_setAll (h : entries.NodupKeys) (c : Config) (s : Setting) :
    (c.setAll entries).get s = (entries.dlookup s).getD (c.get s) := by
  induction entries generalizing c with
  | nil => rfl
  | cons entry rest ih =>
    obtain ⟨hnew, hrest⟩ := List.nodupKeys_cons.mp h
    have hstep : (c.setAll (entry :: rest)).get s =
        (rest.dlookup s).getD ((c.set entry.1 entry.2).get s) := ih hrest _
    rw [hstep]
    by_cases hs : s = entry.1
    · subst hs
      rw [List.dlookup_eq_none.mpr hnew, get_set_self, List.dlookup_cons_eq]
      rfl
    · rw [get_set_of_ne c entry.2 hs, List.dlookup_cons_ne rest entry hs]

lemma eq_setAll_iff (h : entries.NodupKeys) :
    c = base.setAll entries ↔ ∀ s, c.get s = (entries.dlookup s).getD (base.get s) := by
  constructor
  · rintro rfl s
    exact get_setAll h base s
  · intro hget
    exact ext_get fun s => (hget s).trans (get_setAll h base s).symm

end Config

/-! ### Members of an object -/

namespace Setting

/-- Decodes a value of a setting. -/
def read (d : Json.Draft) : (s : Setting) → Except DecodeError s.Value
  | .writeExecutable | .readExecutable => d.text "path string"
  | .launcher => d.text "a string"
  | .varTypes => d.list fun item => item.parsed VarType.parse
  | .patch => d.parsed Extent.parse
  | .procs => ProcessTable.decode d
  | .vars | .timesteps => d.word32
  | .fixedBox | .restructure => d.truth
  | .dataFile => d.text "a string"
  | .varsFile | .writeLog | .readLog | .scriptPath => d.text "path string"

/-- A value is decoded, and then put into the configuration. -/
lemma apply_eq (c : Config) (d : Json.Draft) (s : Setting) :
    s.apply c d = s.read d >>= fun v => .ok (c.set s v) := by
  cases s <;> rfl

lemma name_of_ofName {name : String} {s : Setting} (h : ofName name = .ok s) : name = s.name := by
  unfold ofName at h
  split at h
  · rename_i found hfound
    cases h
    have hname := List.find?_some hfound
    exact (of_decide_eq_true hname).symm
  · cases h

lemma name_injective : Function.Injective name := by
  intro s t h
  have hname := ofName_name s
  rw [h, ofName_name] at hname
  exact (Except.ok.inj hname).symm

end Setting

namespace Config

/-- What stands between the braces of an object. -/
abbrev Members := List (Json.Token × Json.Draft)

/-- A member assigns a value to the setting that its key names. -/
structure Assigns (member : Json.Token × Json.Draft) (entry : SettingEntry) : Prop where
  key : member.1.decode = .ok entry.1.name
  value : entry.1.read member.2 = .ok entry.2

/-- Every member assigns a value, and no two of them to one setting. -/
structure Sets (members : Members) (entries : List SettingEntry) : Prop where
  assigned : List.Forall₂ Assigns members entries
  distinct : entries.NodupKeys

/-- What is wrong with the members of an object that is not loaded: a key that is not the name of a
setting, a value that cannot be decoded, or a key that is there twice. -/
inductive Defective (members : Members) : Prop
  | unknown {member : Json.Token × Json.Draft} : member ∈ members →
    (∀ s : Setting, member.1.decode ≠ .ok s.name) → Defective members
  | undecodable {member : Json.Token × Json.Draft} {s : Setting} {cause : DecodeError} :
    member ∈ members → member.1.decode = .ok s.name → s.read member.2 = .error cause →
    Defective members
  | repeated : ¬ (members.map fun member => member.1.decode).Nodup → Defective members

section

variable {members others : Members} {entries : List SettingEntry}

/-- The keys of the members name the settings. -/
lemma map_decode_of_assigned (h : List.Forall₂ Assigns members entries) :
    members.map (fun member => member.1.decode) =
      entries.keys.map fun s => (.ok s.name : Except DecodeError String) := by
  induction h with
  | nil => rfl
  | cons hfirst _ ih => rw [List.map_cons, ih, hfirst.key, List.keys_cons, List.map_cons]

lemma nodup_keys_iff (h : List.Forall₂ Assigns members entries) :
    (members.map fun member => member.1.decode).Nodup ↔ entries.NodupKeys := by
  have hinjective : Function.Injective fun s : Setting =>
      (.ok s.name : Except DecodeError String) :=
    fun s t heq => Setting.name_injective (Except.ok.inj heq)
  rw [map_decode_of_assigned h, List.nodup_map_iff hinjective]
  rfl

lemma exists_assigned (h : List.Forall₂ Assigns members entries) {member : Json.Token × Json.Draft}
    (hmember : member ∈ members) : ∃ entry, Assigns member entry := by
  induction h with
  | nil => cases hmember
  | cons hfirst _ ih =>
    rcases List.mem_cons.mp hmember with rfl | hrest
    · exact ⟨_, hfirst⟩
    · exact ih hrest

lemma exists_entries (h : ∀ member ∈ members, ∃ entry, Assigns member entry) :
    ∃ entries, List.Forall₂ Assigns members entries := by
  induction members with
  | nil => exact ⟨[], .nil⟩
  | cons member rest ih =>
    obtain ⟨⟨entry, hfirst⟩, hrest⟩ := List.forall_mem_cons.mp h
    obtain ⟨entries, hentries⟩ := ih hrest
    exact ⟨entry :: entries, .cons hfirst hentries⟩

/-- Members that are not defective set settings, and the others do not. -/
lemma exists_sets_iff : (∃ entries, Sets members entries) ↔ ¬ Defective members := by
  constructor
  · rintro ⟨entries, hassigned, hdistinct⟩ hdefective
    cases hdefective with
    | unknown hmember hunknown =>
      obtain ⟨entry, hentry⟩ := exists_assigned hassigned hmember
      exact hunknown entry.1 hentry.key
    | undecodable hmember hname hcause =>
      obtain ⟨entry, hentry⟩ := exists_assigned hassigned hmember
      have hsame := Setting.name_injective (Except.ok.inj (hname.symm.trans hentry.key))
      subst hsame
      cases hcause.symm.trans hentry.value
    | repeated htwice => exact htwice ((nodup_keys_iff hassigned).mpr hdistinct)
  · intro hsound
    have hall : ∀ member ∈ members, ∃ entry, Assigns member entry := by
      intro member hmember
      by_contra hnone
      refine hsound (.unknown hmember fun s hname => ?_)
      cases hvalue : s.read member.2 with
      | error cause => exact hsound (.undecodable hmember hname hvalue)
      | ok v => exact hnone ⟨⟨s, v⟩, hname, hvalue⟩
    obtain ⟨entries, hassigned⟩ := exists_entries hall
    refine ⟨entries, hassigned, (nodup_keys_iff hassigned).mp ?_⟩
    by_contra htwice
    exact hsound (.repeated htwice)

/-- The order of the members is that of the entries. -/
lemma Sets.perm (h : Sets members entries) (hperm : members.Perm others) :
    ∃ moved, Sets others moved ∧ entries.Perm moved := by
  obtain ⟨moved, hassigned, hmoved⟩ := List.perm_comp_forall₂ hperm.symm h.assigned
  exact ⟨moved, ⟨hassigned, (List.perm_nodupKeys hmoved).mpr h.distinct⟩, hmoved.symm⟩

end

/-! ### Objects in configuration files -/

variable {c base : Config} {members others : Members} {entries : List SettingEntry}

/-- Members are put into a configuration exactly if each assigns a value to a setting that is not
met before. -/
lemma applyMembers_eq_ok_iff {seen : List Setting} :
    base.applyMembers seen members = .ok c ↔
      ∃ entries, Sets members entries ∧ entries.keys.Disjoint seen ∧ c = base.setAll entries := by
  induction members generalizing base seen with
  | nil =>
    constructor
    · rintro ⟨⟩
      exact ⟨[], ⟨.nil, List.nodupKeys_nil⟩, List.disjoint_nil_left _, rfl⟩
    · rintro ⟨_, ⟨⟨⟩, -⟩, -, rfl⟩
      rfl
  | cons member rest ih =>
    constructor
    · intro h
      obtain ⟨name, hkey, h⟩ := bind_eq_ok_iff.mp h
      obtain ⟨s, hname, h⟩ := bind_eq_ok_iff.mp h
      split at h
      · cases h
      · rename_i hnew
        obtain ⟨next, hnext, h⟩ := bind_eq_ok_iff.mp h
        rw [Setting.apply_eq] at hnext
        obtain ⟨v, hvalue, ⟨⟩⟩ := bind_eq_ok_iff.mp hnext
        obtain ⟨entries, ⟨hassigned, hdistinct⟩, hdisjoint, rfl⟩ := ih.mp h
        rw [List.disjoint_cons_right] at hdisjoint
        refine ⟨⟨s, v⟩ :: entries, ⟨.cons ⟨?_, hvalue⟩ hassigned, ?_⟩, ?_, rfl⟩
        · rw [hkey, Setting.name_of_ofName hname]
        · exact List.nodupKeys_cons.mpr ⟨hdisjoint.1, hdistinct⟩
        · exact List.disjoint_cons_left.mpr ⟨hnew, hdisjoint.2⟩
    · rintro ⟨_, ⟨_ | ⟨hfirst, hassigned⟩, hdistinct⟩, hdisjoint, rfl⟩
      rename_i entry entries
      obtain ⟨hfresh, hdistinct⟩ := List.nodupKeys_cons.mp hdistinct
      obtain ⟨hnew, hdisjoint⟩ := List.disjoint_cons_left.mp hdisjoint
      refine bind_eq_ok_iff.mpr ⟨_, hfirst.key, bind_eq_ok_iff.mpr ⟨_, entry.1.ofName_name, ?_⟩⟩
      rw [if_neg hnew, Setting.apply_eq, hfirst.value]
      exact ih.mpr ⟨entries, ⟨hassigned, hdistinct⟩,
        List.disjoint_cons_right.mpr ⟨hfresh, hdisjoint⟩, rfl⟩

variable {store : Store} {path text : String}

/-- The file holds an object with some members. -/
def HoldsObject (store : Store) (path : String) (members : Members) : Prop :=
  ∃ text, store.readText path = .ok text ∧ Json.draft text = (.obj members true, true)

lemma HoldsObject.ofFile_eq (h : HoldsObject store path members) :
    ofFile store path = (standard.applyMembers [] members).mapError (.config path) := by
  obtain ⟨text, hread, hobject⟩ := h
  simp only [ofFile, hread, Json.decodeText, hobject, decode, decodeOver]
  cases standard.applyMembers [] members <;> rfl

/-- An object is loaded as the defaults with the settings that its members set. -/
lemma HoldsObject.ofFile_eq_ok_iff (h : HoldsObject store path members) :
    ofFile store path = .ok c ↔ ∃ entries, Sets members entries ∧
      ∀ s, c.get s = (entries.dlookup s).getD (standard.get s) := by
  rw [h.ofFile_eq, mapError_eq_ok_iff, applyMembers_eq_ok_iff]
  refine exists_congr fun entries => and_congr_right fun hsets => ?_
  rw [eq_setAll_iff hsets.distinct]
  simp

lemma HoldsObject.exists_ofFile (h : HoldsObject store path members)
    (hsets : Sets members entries) :
    ∃ c, ofFile store path = .ok c ∧ ∀ s, c.get s = (entries.dlookup s).getD (standard.get s) := by
  have hget := fun s => get_setAll hsets.distinct standard s
  exact ⟨_, h.ofFile_eq_ok_iff.mpr ⟨entries, hsets, hget⟩, hget⟩

/-- It is not loaded exactly if its members are defective, and then the file is to blame. -/
lemma HoldsObject.defective_iff (h : HoldsObject store path members) :
    Defective members ↔ ∃ cause, ofFile store path = .error (.config path cause) := by
  constructor
  · intro hdefective
    rw [h.ofFile_eq]
    cases hmembers : standard.applyMembers [] members with
    | error cause => exact ⟨cause, rfl⟩
    | ok c =>
      obtain ⟨entries, hsets, -⟩ := applyMembers_eq_ok_iff.mp hmembers
      exact absurd hdefective (exists_sets_iff.mp ⟨entries, hsets⟩)
  · rintro ⟨cause, hcause⟩
    by_contra hsound
    obtain ⟨entries, hsets⟩ := exists_sets_iff.mpr hsound
    obtain ⟨c, hfile, -⟩ := h.exists_ofFile hsets
    cases hcause.symm.trans hfile

/-- The order of its members does not matter. -/
lemma HoldsObject.ofFile_of_perm {store' : Store} {path' : String}
    (h : HoldsObject store path members) (h' : HoldsObject store' path' others)
    (hperm : members.Perm others) (hfile : ofFile store path = .ok c) :
    ofFile store' path' = .ok c := by
  obtain ⟨entries, hsets, hget⟩ := h.ofFile_eq_ok_iff.mp hfile
  obtain ⟨moved, hmoved, hentries⟩ := hsets.perm hperm
  refine h'.ofFile_eq_ok_iff.mpr ⟨moved, hmoved, fun s => ?_⟩
  rw [hget, List.perm_dlookup s hsets.distinct hentries]

end Config

end TileBench
