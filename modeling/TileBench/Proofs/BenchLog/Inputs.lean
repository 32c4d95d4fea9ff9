import TileBench.BenchLog.Collection
import TileBench.Proofs.Store.Listing
import Mathlib.Data.List.Sort
import Mathlib.Data.String.Basic

/-!
# The logs of a directory

The inputs are the shown names of a directory that lead to files, in order. Reading them in turn
parts them into logs and those left out, or stops at the first one that is no log.
-/

namespace TileBench.Collection

variable {s t : Store} {dir : String} {listed : List String} {paths : List String}

/-! ### Names in order -/

lemma mergeSort_pairwise (names : List String) : names.mergeSort.Pairwise (· ≤ ·) := by
  refine (List.pairwise_mergeSort (fun a b c hab hbc => ?_) (fun a b => ?_) names).imp
    fun h => of_decide_eq_true h
  · simp only [decide_eq_true_eq] at *
    exact le_trans hab hbc
  · simpa using le_total a b

lemma mergeSort_pairwise_lt {names : List String} (h : names.Nodup) :
    names.mergeSort.Pairwise (· < ·) :=
  ((mergeSort_pairwise names).and (names.mergeSort_perm _ |>.nodup_iff.mpr h)).imp
    fun h => lt_of_le_of_ne h.1 h.2

/-- Names are in order in one way only. -/
lemma mergeSort_eq_of_perm {names sorted : List String} (hperm : names.Perm sorted)
    (hsorted : sorted.Pairwise (· ≤ ·)) : names.mergeSort = sorted :=
  ((names.mergeSort_perm _).trans hperm).eq_of_pairwise
    (fun _ _ _ _ hab hba => le_antisymm hab hba) (mergeSort_pairwise names) hsorted

lemma filter_mergeSort (p : String → Bool) (names : List String) :
    names.mergeSort.filter p = (names.filter p).mergeSort :=
  (mergeSort_eq_of_perm ((names.mergeSort_perm _).filter p).symm
    ((mergeSort_pairwise names).filter p)).symm

/-! ### Inputs -/

/-- Is the name in the directory that of a log to be read? -/
def isInput (s : Store) (dir name : String) : Bool :=
  !isHidden name && s.isFile (join dir name)

/-- The names of the logs to be read, out of those that the directory lists. -/
def inputNames (s : Store) (dir : String) (listed : List String) : List String :=
  (listed.filter (isInput s dir)).mergeSort

lemma inputs_eq (h : s.list dir = .ok listed) :
    inputs s dir = .ok ((inputNames s dir listed).map (join dir)) := by
  have hnames : ((listed.filter fun name => !isHidden name).mergeSort.map (join dir)).filter
      s.isFile = (inputNames s dir listed).map (join dir) := by
    rw [List.filter_map, filter_mergeSort, List.filter_filter]
    simp only [Function.comp_def, Bool.and_comm]
    rfl
  rw [← hnames, inputs, h]

lemma mem_inputNames {name : String} : name ∈ inputNames s dir listed ↔
    name ∈ listed ∧ isHidden name = false ∧ s.isFile (join dir name) = true := by
  simp only [inputNames, (List.mergeSort_perm _ _).mem_iff, List.mem_filter, isInput,
    Bool.and_eq_true, Bool.not_eq_true']

lemma inputNames_pairwise (h : listed.Nodup) :
    (inputNames s dir listed).Pairwise (· < ·) :=
  mergeSort_pairwise_lt (h.filter _)

/-- The order in which a directory lists its names makes no difference. -/
lemma inputNames_perm {listed' : List String} (h : listed.Perm listed') :
    inputNames s dir listed = inputNames s dir listed' :=
  mergeSort_eq_of_perm ((h.filter _).trans (List.mergeSort_perm _ _).symm) (mergeSort_pairwise _)

lemma inputs_perm (hperm : s.entries.Perm t.entries) (hcwd : s.cwd = t.cwd)
    (hlist : s.list dir = .ok listed) : inputs t dir = inputs s dir := by
  obtain ⟨listed', hlist', hlisted⟩ := Store.exists_list_perm hperm hcwd hlist
  have hfile : s.isFile = t.isFile := funext (Store.isFile_perm hperm hcwd)
  have hinput : isInput s dir = isInput t dir := by
    funext name
    simp only [isInput, hfile]
  rw [inputs_eq hlist, inputs_eq hlist', inputNames_perm hlisted]
  simp only [inputNames, hinput]

/-! ### Reading the inputs -/

/-- The file is a log. -/
def Parses (s : Store) (path : String) : Prop := ∃ log, readLog s path = .ok log

/-- The logs among some files and, with the reason, the files that are no logs. -/
def parted (s : Store) (paths : List String) : Collection where
  logs := paths.filterMap fun path => (readLog s path).toOption
  skipped := paths.filterMap fun path =>
    match readLog s path with
    | .ok _ => none
    | .error fault => some (path, fault)

lemma parted_cons_of_log {path : String} {log : BenchLog} (h : readLog s path = .ok log)
    (rest : List String) : parted s (path :: rest) =
      ⟨log :: (parted s rest).logs, (parted s rest).skipped⟩ := by
  simp [parted, h, Except.toOption]

lemma parted_cons_of_fault {path : String} {fault : Fault} (h : readLog s path = .error fault)
    (rest : List String) : parted s (path :: rest) =
      ⟨(parted s rest).logs, (path, fault) :: (parted s rest).skipped⟩ := by
  simp [parted, h, Except.toOption]

lemma length_parted (s : Store) (paths : List String) :
    (parted s paths).logs.length + (parted s paths).skipped.length = paths.length := by
  induction paths with
  | nil => rfl
  | cons path rest ih =>
    cases hread : readLog s path with
    | ok log =>
      simp only [parted_cons_of_log hread, List.length_cons]
      omega
    | error fault =>
      simp only [parted_cons_of_fault hread, List.length_cons]
      omega

/-- Every file is accounted for if files that are no logs are skipped. -/
lemma readAll_skip (s : Store) (paths : List String) :
    (readAll s true paths).1 = .ok (parted s paths) := by
  induction paths with
  | nil => rfl
  | cons path rest ih =>
    unfold readAll
    cases hread : readLog s path with
    | ok log => simp [ih, parted_cons_of_log hread, Except.map]
    | error fault => simp [ih, parted_cons_of_fault hread, Except.map]

/-- Nothing is skipped if every file is a log. -/
lemma readAll_of_forall_parses {skip : Bool} (h : ∀ path ∈ paths, Parses s path) :
    (readAll s skip paths).1 = .ok (parted s paths) ∧ (parted s paths).skipped = [] := by
  induction paths with
  | nil => exact ⟨rfl, rfl⟩
  | cons path rest ih =>
    obtain ⟨⟨log, hlog⟩, hrest⟩ := List.forall_mem_cons.mp h
    obtain ⟨hread, hskipped⟩ := ih hrest
    unfold readAll
    simp [hlog, hread, hskipped, parted_cons_of_log hlog, Except.map]

/-- The first file that is no log ends the reading, unless it is skipped. -/
lemma readAll_of_fault {before after : List String} {path : String} {fault : Fault}
    (hbefore : ∀ path ∈ before, Parses s path) (hpath : readLog s path = .error fault) :
    (readAll s false (before ++ path :: after)).1 = .error fault := by
  induction before with
  | nil =>
    rw [List.nil_append, readAll, hpath]
    rfl
  | cons first rest ih =>
    obtain ⟨⟨log, hlog⟩, hrest⟩ := List.forall_mem_cons.mp hbefore
    rw [List.cons_append, readAll, hlog]
    simp only [ih hrest]
    rfl

/-- Files that are not all logs have a first one that is none. -/
lemma exists_first_fault (h : ¬ ∀ path ∈ paths, Parses s path) :
    ∃ before path after fault, paths = before ++ path :: after ∧
      (∀ path ∈ before, Parses s path) ∧ readLog s path = .error fault := by
  induction paths with
  | nil => exact absurd (List.forall_mem_nil _) h
  | cons path rest ih =>
    cases hread : readLog s path with
    | error fault => exact ⟨[], path, rest, fault, rfl, List.forall_mem_nil _, hread⟩
    | ok log =>
      have hrest : ¬ ∀ path ∈ rest, Parses s path :=
        fun hrest => h (List.forall_mem_cons.mpr ⟨⟨log, hread⟩, hrest⟩)
      obtain ⟨before, bad, after, fault, rfl, hbefore, hbad⟩ := ih hrest
      exact ⟨path :: before, bad, after, fault, rfl,
        List.forall_mem_cons.mpr ⟨⟨log, hread⟩, hbefore⟩, hbad⟩

lemma exists_readAll_iff :
    (∃ c, (readAll s false paths).1 = .ok c) ↔ ∀ path ∈ paths, Parses s path := by
  constructor
  · rintro ⟨c, hc⟩
    by_contra hbad
    obtain ⟨before, path, after, fault, rfl, hbefore, hpath⟩ := exists_first_fault hbad
    rw [readAll_of_fault hbefore hpath] at hc
    cases hc
  · exact fun h => ⟨_, (readAll_of_forall_parses h).1⟩

/-! ### Collecting -/

lemma collect_of_list (h : s.list dir = .ok listed) (skip : Bool) :
    collect s dir skip = readAll s skip ((inputNames s dir listed).map (join dir)) := by
  rw [collect, inputs_eq h]

lemma collect_perm (hperm : s.entries.Perm t.entries) (hcwd : s.cwd = t.cwd)
    (hlist : s.list dir = .ok listed) (skip : Bool) : collect t dir skip = collect s dir skip := by
  have hread : readLog t = readLog s := by
    funext path
    simp only [readLog, Store.read_perm hperm hcwd]
  have hevents : readEvents t = readEvents s := by
    funext path
    simp only [readEvents, hread, Store.read_perm hperm hcwd]
  have hall : ∀ paths, readAll t skip paths = readAll s skip paths := by
    intro paths
    induction paths with
    | nil => rfl
    | cons path rest ih => rw [readAll, readAll, ih, hread, hevents]
  rw [collect, collect, inputs_perm hperm hcwd hlist, inputs_eq hlist]
  exact hall _

/-- Of a directory that can be listed, the inputs are the names that are shown and lead to files,
each once and in order, in whatever order the directory lists them. If files that are no logs are
skipped, the inputs are parted into logs and skipped files, each read on its own. If not, there is a
result exactly if all inputs are logs, the same one; otherwise the first file that is none is
blamed. -/
theorem collect_parts_inputs (hlist : s.list dir = .ok listed) :
    ∃ names : List String, names.Pairwise (· < ·) ∧
      (∀ name, name ∈ names ↔
        name ∈ listed ∧ isHidden name = false ∧ s.isFile (join dir name) = true) ∧
      (∀ here, s.find dir = .ok (.taken here .directory) →
        ∀ name, name ∈ listed ↔ ∃ entry, s.entryAt? (here ++ [name]) = some entry) ∧
      inputs s dir = .ok (names.map (join dir)) ∧
      (∀ t : Store, s.entries.Perm t.entries → s.cwd = t.cwd →
        inputs t dir = inputs s dir ∧ ∀ skip, collect t dir skip = collect s dir skip) ∧
      ∃ c, (collect s dir true).1 = .ok c ∧
        c.logs = (names.map (join dir)).filterMap (fun path => (readLog s path).toOption) ∧
        c.skipped = (names.map (join dir)).filterMap (fun path =>
          match readLog s path with
          | .ok _ => none
          | .error fault => some (path, fault)) ∧
        c.logs.length + c.skipped.length = names.length ∧
        ((∃ c', (collect s dir false).1 = .ok c') ↔
          ∀ path ∈ names.map (join dir), ∃ log, readLog s path = .ok log) ∧
        (∀ c', (collect s dir false).1 = .ok c' → c' = c ∧ c.skipped = []) ∧
        ((¬ ∃ c', (collect s dir false).1 = .ok c') → ∃ before path after fault,
          names.map (join dir) = before ++ path :: after ∧
          (∀ path ∈ before, ∃ log, readLog s path = .ok log) ∧ readLog s path = .error fault ∧
          (collect s dir false).1 = .error fault) := by
  obtain ⟨there, hfind, hlisted⟩ := Store.list_eq_ok_iff.mp hlist
  refine ⟨inputNames s dir listed, inputNames_pairwise (hlisted ▸ s.nodup_namesIn there),
    fun name => mem_inputNames, fun here hhere name => ?_, inputs_eq hlist,
    fun t hperm hcwd => ⟨inputs_perm hperm hcwd hlist, collect_perm hperm hcwd hlist⟩,
    parted s _, ?_, rfl, rfl, ?_, ?_, fun c' hc' => ?_, fun hfails => ?_⟩
  · cases hhere.symm.trans hfind
    rw [← hlisted, Store.mem_namesIn]
  · rw [collect_of_list hlist]
    exact readAll_skip s _
  · rw [length_parted, List.length_map]
  · rw [collect_of_list hlist]
    exact exists_readAll_iff
  · rw [collect_of_list hlist] at hc'
    obtain ⟨hread, hskipped⟩ := readAll_of_forall_parses (exists_readAll_iff.mp ⟨c', hc'⟩)
    exact ⟨Except.ok.inj (hc'.symm.trans hread), hskipped⟩
  · rw [collect_of_list hlist, exists_readAll_iff] at hfails
    obtain ⟨before, path, after, fault, hpaths, hbefore, hpath⟩ := exists_first_fault hfails
    refine ⟨before, path, after, fault, hpaths, hbefore, hpath, ?_⟩
    rw [collect_of_list hlist, hpaths]
    exact readAll_of_fault hbefore hpath

/-- A log without timings. -/
def keptText : String :=
  "a a a 8 Blocks Per File 15 a a 4 a a 1 a a 64\na 64 Global Data 2 2 2 a 1 a a 4 a 2 a 2 a 2\n"

/-- A directory above the working directory, with a link to a log, a file that is no log, one that may
not be opened, and names that are no inputs. -/
def mixedLogs : Store where
  entries := [
    (["work"], .directory),
    (["logs"], .directory),
    (["logs", "run2"], .link "../work/kept"),
    (["logs", "run3"], .sealed true),
    (["logs", "run1"], .file [] false),
    (["work", "kept"], .file (Text.bytesOf keptText) false),
    (["logs", ".run0"], .file (Text.bytesOf keptText) false),
    (["logs", "nested"], .directory),
    (["logs", "socket"], .sealed false)]
  cwd := ["work"]

/-- The names that the directory lists. -/
def mixedNames : List String := ["run2", "run3", "run1", ".run0", "nested", "socket"]

/-- A name in the directory is walked to from there. -/
lemma find_mixedLogs (name : String) (hfollow : mixedLogs.find ("../logs/" ++ name) =
      mixedLogs.walk 40 ["work"] ["..", "logs", name]) :
    mixedLogs.find ("../logs/" ++ name) = mixedLogs.walk 40 ["logs"] [name] := by
  have hlogs : Store.IsPlain "logs" := by constructor <;> decide
  rw [hfollow, Store.walk]
  exact hlogs.walk_directory mixedLogs 40 [name] rfl

lemma find_run1 : mixedLogs.find "../logs/run1" = .ok (.taken ["logs", "run1"] (.file [] false)) := by
  have hname : Store.IsPlain "run1" := by constructor <;> decide
  exact (find_mixedLogs "run1" rfl).trans (hname.walk_file mixedLogs 40 rfl)

lemma find_run2 : mixedLogs.find "../logs/run2" =
    .ok (.taken ["work", "kept"] (.file (Text.bytesOf keptText) false)) := by
  have hname : Store.IsPlain "run2" := by constructor <;> decide
  have hwork : Store.IsPlain "work" := by constructor <;> decide
  have hkept : Store.IsPlain "kept" := by constructor <;> decide
  have hentry : mixedLogs.entryAt? (["logs"] ++ ["run2"]) = some (.link "../work/kept") := rfl
  calc mixedLogs.find "../logs/run2"
    _ = mixedLogs.walk 40 ["logs"] ["run2"] := find_mixedLogs "run2" rfl
    _ = mixedLogs.walk 39 ["logs"] ["..", "work", "kept"] :=
      hname.walk_link mixedLogs 39 [] hentry
    _ = mixedLogs.walk 39 [] ["work", "kept"] := by rw [Store.walk]; rfl
    _ = mixedLogs.walk 39 ["work"] ["kept"] := hwork.walk_directory mixedLogs 39 ["kept"] rfl
    _ = .ok (.taken ["work", "kept"] (.file (Text.bytesOf keptText) false)) :=
      hkept.walk_file mixedLogs 39 rfl

lemma find_run3 :
    mixedLogs.find "../logs/run3" = .ok (.taken ["logs", "run3"] (.sealed true)) := by
  have hname : Store.IsPlain "run3" := by constructor <;> decide
  exact (find_mixedLogs "run3" rfl).trans (hname.walk_sealed mixedLogs 40 rfl)

lemma find_nested : mixedLogs.find "../logs/nested" = .ok (.taken ["logs", "nested"] .directory) := by
  have hname : Store.IsPlain "nested" := by constructor <;> decide
  have hwalk : mixedLogs.walk 40 ["logs"] ["nested"] = mixedLogs.walk 40 ["logs", "nested"] [] :=
    hname.walk_directory mixedLogs 40 [] rfl
  rw [Store.walk] at hwalk
  exact (find_mixedLogs "nested" rfl).trans hwalk

lemma find_socket :
    mixedLogs.find "../logs/socket" = .ok (.taken ["logs", "socket"] (.sealed false)) := by
  have hname : Store.IsPlain "socket" := by constructor <;> decide
  exact (find_mixedLogs "socket" rfl).trans (hname.walk_sealed mixedLogs 40 rfl)

lemma list_mixedLogs : mixedLogs.list "../logs" = .ok mixedNames := by
  have hlogs : Store.IsPlain "logs" := by constructor <;> decide
  refine Store.list_eq_ok_iff.mpr ⟨["logs"], ?_, by decide⟩
  have hfollow : mixedLogs.find "../logs" = mixedLogs.walk 40 ["work"] ["..", "logs"] := rfl
  have hwalk : mixedLogs.walk 40 [] ["logs"] = mixedLogs.walk 40 ["logs"] [] :=
    hlogs.walk_directory mixedLogs 40 [] rfl
  rw [Store.walk] at hwalk
  rw [hfollow, Store.walk]
  exact hwalk

/-- The names in the directory that are shown and lead to files. -/
lemma names_mixedLogs {names : List String} (hlt : names.Pairwise (· < ·))
    (hmem : ∀ name, name ∈ names ↔ name ∈ mixedNames ∧ isHidden name = false ∧
      mixedLogs.isFile (join "../logs" name) = true) : names = ["run1", "run2", "run3"] := by
  have hsame : ∀ name, name ∈ names ↔ name ∈ ["run1", "run2", "run3"] := by
    intro name
    rw [hmem]
    constructor
    · rintro ⟨hlisted, hshown, hfile⟩
      simp only [mixedNames, List.mem_cons, List.not_mem_nil, or_false] at hlisted
      obtain rfl | rfl | rfl | rfl | rfl | rfl := hlisted
      · decide
      · decide
      · decide
      · cases hshown
      · change mixedLogs.isFile "../logs/nested" = true at hfile
        rw [Store.isFile, find_nested] at hfile
        cases hfile
      · change mixedLogs.isFile "../logs/socket" = true at hfile
        rw [Store.isFile, find_socket] at hfile
        cases hfile
    · intro hname
      simp only [List.mem_cons, List.not_mem_nil, or_false] at hname
      obtain rfl | rfl | rfl := hname
      · have hfile : mixedLogs.isFile "../logs/run1" = true := by rw [Store.isFile, find_run1]
        exact ⟨by decide, by decide, hfile⟩
      · have hfile : mixedLogs.isFile "../logs/run2" = true := by rw [Store.isFile, find_run2]
        exact ⟨by decide, by decide, hfile⟩
      · have hfile : mixedLogs.isFile "../logs/run3" = true := by rw [Store.isFile, find_run3]
        exact ⟨by decide, by decide, hfile⟩
  have hperm := (List.perm_ext_iff_of_nodup (hlt.imp ne_of_lt) (by decide)).mpr hsame
  exact hperm.eq_of_pairwise (fun _ _ _ _ hab hba => absurd hba hab.not_gt) hlt (by decide)

lemma readLog_run1 : readLog mixedLogs "../logs/run1" =
    .error (.missingMarker "../logs/run1" .blocksPerFile) := by
  rw [readLog, Store.read, find_run1]
  rfl

lemma readLog_run3 : readLog mixedLogs "../logs/run3" =
    .error (.file "../logs/run3" .permissionDenied) := by
  rw [readLog, Store.read, find_run3]
  rfl

/-- Three of the six names are inputs. One of them is a log, and the first of the others is blamed. -/
theorem mixedLogs_parted :
    mixedLogs.list "../logs" = .ok mixedNames ∧
    inputs mixedLogs "../logs" = .ok ["../logs/run1", "../logs/run2", "../logs/run3"] ∧
    (∃ c, (collect mixedLogs "../logs" true).1 = .ok c ∧ c.logs.length = 1 ∧
      c.skipped = [("../logs/run1", .missingMarker "../logs/run1" .blocksPerFile),
        ("../logs/run3", .file "../logs/run3" .permissionDenied)]) ∧
    (collect mixedLogs "../logs" false).1 =
      .error (.missingMarker "../logs/run1" .blocksPerFile) := by
  obtain ⟨names, hlt, hmem, -, hinputs, -, c, hc, hlogs, hskipped, -, hgood, -, hbad⟩ :=
    collect_parts_inputs list_mixedLogs
  obtain rfl := names_mixedLogs hlt hmem
  have hrun1 := readLog_run1
  have hrun3 := readLog_run3
  obtain ⟨log, hrun2⟩ : ∃ log, readLog mixedLogs "../logs/run2" = .ok log := by
    rw [readLog, Store.read, find_run2]
    exact ⟨_, rfl⟩
  have hpaths : ["run1", "run2", "run3"].map (join "../logs") =
      ["../logs/run1", "../logs/run2", "../logs/run3"] := by decide
  rw [hpaths] at hinputs hlogs hskipped hgood hbad
  refine ⟨list_mixedLogs, hinputs, ⟨c, hc, ?_, ?_⟩, ?_⟩
  · rw [hlogs]
    simp [hrun1, hrun2, hrun3, Except.toOption]
  · rw [hskipped]
    simp [hrun1, hrun2, hrun3]
  · obtain ⟨before, path, after, fault, hsplit, hbefore, hpath, hfault⟩ := hbad fun hok => by
      obtain ⟨log, hlog⟩ := hgood.mp hok "../logs/run1" List.mem_cons_self
      cases hrun1.symm.trans hlog
    -- The first path is no log, so nothing stands before the one that is blamed.
    obtain rfl : before = [] := by
      cases before with
      | nil => rfl
      | cons first rest =>
        obtain ⟨log, hlog⟩ := hbefore first List.mem_cons_self
        cases (List.cons.inj hsplit).1
        cases hrun1.symm.trans hlog
    cases (List.cons.inj hsplit).1
    cases hrun1.symm.trans hpath
    exact hfault

end TileBench.Collection
