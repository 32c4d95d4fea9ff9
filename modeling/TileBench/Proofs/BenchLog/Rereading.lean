import TileBench.Proofs.BenchLog.Columns
import TileBench.Proofs.BenchLog.Inputs
import TileBench.Proofs.Store.Rewriting

/-!
# Reading the logs of a directory again

A table that is written changes no other file, and adds one name to a directory at most. So when the
directory is read again, the same logs are found, less those that were read from the file with the
table.
-/

namespace TileBench.Collection

open Text

variable {s t : Store} {dir name path output : String} {listed : List String} {there : Place}
  {logs : List BenchLog} {log : BenchLog} {c : Collection} {skip : Bool}

/-! ### Paths of names in a directory -/

lemma names_join (dir : String) (hname : Store.IsEnding name) :
    Store.names (join dir name) = Store.parts dir.toList ++ [name] := by
  have hsplit : ∃ front, (join dir name).toList = front ++ '/' :: name.toList ∧
      Store.parts dir.toList = Store.parts front := by
    unfold join
    split
    · rename_i hlast
      obtain ⟨front, hfront⟩ := List.getLast?_eq_some_iff.mp hlast
      refine ⟨front, by simp [hfront], ?_⟩
      rw [hfront, Store.parts, List.splitOn_append_cons_self]
      simp [Store.parts]
    · exact ⟨dir.toList, by simp, rfl⟩
  obtain ⟨front, hpath, hparts⟩ := hsplit
  rw [Store.names_eq_of_slash hpath hname.ne_nil hname.no_slash, hparts, String.ofList_toList]

lemma isAbsolute_join (hne : dir ≠ "") (name : String) :
    Store.isAbsolute (join dir name) = Store.isAbsolute dir := by
  have hhead : (join dir name).toList.head? = dir.toList.head? := by
    obtain ⟨c, rest, hdir⟩ := List.exists_cons_of_ne_nil (mt String.toList_eq_nil_iff.mp hne)
    unfold join
    split <;> simp [hdir]
  rw [Store.isAbsolute, hhead, Store.isAbsolute]

lemma follow_parts (hdir : s.find dir = .ok (.taken there .directory)) :
    s.follow dir (Store.parts dir.toList) = .ok (.taken there .directory) := by
  rw [Store.find] at hdir
  obtain hnames | hnames := Store.names_eq_parts dir
  · rwa [hnames] at hdir
  · rw [hnames] at hdir
    obtain ⟨left, here, hfollow, hlast⟩ | ⟨cause, hfault⟩ :=
      s.follow_concat dir (Store.parts dir.toList) "."
    · have hdot : s.walk left here ["."] = .ok (.taken here .directory) := by
        rw [Store.walk, Store.walk]
      rw [hfollow, ← hdir, hlast, hdot]
    · cases hfault.symm.trans hdir

/-- A name in a directory is walked to from the directory, if it is walked to at all. -/
lemma find_join (hdir : s.find dir = .ok (.taken there .directory)) (hname : Store.IsEnding name) :
    (∃ left, s.find (join dir name) = s.walk left there [name]) ∨
      ∃ cause, s.find (join dir name) = .error cause := by
  have hne : dir ≠ "" := by
    rintro rfl
    cases hdir
  rw [Store.find, names_join dir hname]
  obtain ⟨left, here, hfollow, hlast⟩ | hfault :=
    s.follow_concat (join dir name) (Store.parts dir.toList) name
  · cases Store.eq_of_follow (isAbsolute_join hne name) hfollow (follow_parts hdir)
    exact .inl ⟨left, hlast⟩
  · exact .inr hfault

/-- A name at which nothing stands is that of no file. -/
lemma isFile_join (hdir : s.find dir = .ok (.taken there .directory)) (hname : Store.IsEnding name)
    (hnone : s.entryAt? (there ++ [name]) = none) : s.isFile (join dir name) = false := by
  obtain ⟨left, hfind⟩ | ⟨cause, hfault⟩ := find_join hdir hname
  · rw [Store.isFile, hfind]
    by_cases hdot : name = "."
    · rw [hdot, Store.walk, Store.walk]
    · by_cases hdots : name = ".."
      · rw [hdots, Store.walk, Store.walk]
      · by_cases hlong : name.utf8ByteSize > Store.maxNameBytes
        · rw [Store.walk, if_pos hlong] <;> assumption
        · rw [Store.walk.eq_def]
          simp [hlong, hnone]
  · rw [Store.isFile, hfault]

/-- A directory lists the same names after a file was written, or one more, that was the name of no
file. -/
lemma list_of_write {contents : Bytes} (h : s.write output contents = .ok t)
    (hlist : s.list dir = .ok listed) : ∃ listed', t.list dir = .ok listed' ∧
      (listed' = listed ∨ ∃ name, listed' = listed ++ [name] ∧ s.isFile (join dir name) = false) := by
  obtain ⟨here, hfind, rfl⟩ := Store.list_eq_ok_iff.mp hlist
  have hfind' : t.find dir = .ok (.taken here .directory) := by
    rw [← Store.landing?_eq_directory_iff, Store.landing?_of_modify h dir,
      Store.landing?_eq_directory_iff, hfind]
  refine ⟨_, Store.list_eq_ok_iff.mpr ⟨here, hfind', rfl⟩, ?_⟩
  obtain hsame | ⟨name, hfree, hname, hnames⟩ := Store.namesIn_of_write h here
  · exact .inl hsame
  · exact .inr ⟨name, hnames, isFile_join hfind hname (Store.find_free hfree)⟩

/-! ### Logs that are read again -/

lemma toOption_readLog (s : Store) (path : String) : (readLog s path).toOption =
    (s.contents? path).bind fun bytes => (BenchLog.parse path bytes).toOption := by
  unfold readLog Store.contents?
  cases s.read path <;> rfl

lemma parses_iff : Parses s path ↔ ∃ log, (readLog s path).toOption = some log := by
  rw [Parses]
  cases readLog s path <;> simp [Except.toOption]

lemma path_of_readLog (h : readLog s path = .ok log) : log.path = path := by
  unfold readLog at h
  split at h
  · exact (BenchLog.parse_eq_ok_iff.mp h).1
  · cases h

lemma isWorded_of_readLog (h : readLog s path = .ok log) : log.IsWorded := by
  unfold readLog at h
  split at h
  · exact BenchLog.isWorded_of_parse h
  · cases h

/-- Does the path lead where the output does? -/
def leadsTo (s : Store) (output path : String) : Bool := s.target? path = s.target? output

lemma leadsTo_of_write {contents : Bytes} (h : s.write output contents = .ok t) (path : String) :
    leadsTo t output path = leadsTo s output path := by
  rw [leadsTo, leadsTo, Store.target?_of_modify h, Store.target?_of_modify h]

section Written

variable (h : s.write output (bytesOf (BenchLog.table logs)) = .ok t)

include h

lemma contents?_of_write_of_not_leadsTo (hpath : leadsTo s output path = false) :
    t.contents? path = s.contents? path := by
  refine Store.contents?_of_modify_of_apart h fun place hplace houtput => ?_
  exact absurd (hplace.trans houtput.symm) (by simpa [leadsTo] using hpath)

lemma contents?_of_write_of_leadsTo (hpath : leadsTo s output path = true) :
    t.contents? path = some (bytesOf (BenchLog.table logs)) := by
  have htargets : t.target? path = t.target? output := by
    rw [← leadsTo_of_write h] at hpath
    simpa [leadsTo] using hpath
  rw [Store.contents?_eq, htargets, ← Store.contents?_eq]
  exact Store.contents?_of_modify h

/-- The table is not read as a log, and the other files are read as before. -/
lemma toOption_readLog_of_write (hworded : ∀ log ∈ logs, log.IsWorded) (path : String) :
    (readLog t path).toOption =
      if leadsTo s output path then none else (readLog s path).toOption := by
  rw [toOption_readLog, toOption_readLog]
  cases hpath : leadsTo s output path with
  | true =>
    rw [contents?_of_write_of_leadsTo h hpath, if_pos rfl, Option.bind_some]
    cases hparse : BenchLog.parse path (bytesOf (BenchLog.table logs)) with
    | error fault => rfl
    | ok log => exact absurd hparse (BenchLog.parse_table_ne_ok hworded path log)
  | false => rw [contents?_of_write_of_not_leadsTo h hpath, if_neg Bool.false_ne_true]

lemma parses_of_write (hworded : ∀ log ∈ logs, log.IsWorded) (path : String) :
    Parses t path ↔ leadsTo s output path = false ∧ Parses s path := by
  rw [parses_iff, parses_iff, toOption_readLog_of_write h hworded]
  cases leadsTo s output path <;> simp

lemma isInput_of_write (hname : leadsTo s output (join dir name) = false) :
    isInput t dir name = isInput s dir name := by
  rw [isInput, isInput, Bool.eq_iff_iff]
  simp only [Bool.and_eq_true, Store.isFile_iff, contents?_of_write_of_not_leadsTo h hname,
    Store.isSealed_of_modify h]

/-- The inputs other than the output are the same. -/
lemma inputNames_of_write {listed' : List String} (hlist : s.list dir = .ok listed)
    (hlist' : t.list dir = .ok listed') :
    (inputNames t dir listed').filter (fun name => !leadsTo s output (join dir name)) =
      (inputNames s dir listed).filter fun name => !leadsTo s output (join dir name) := by
  have hinput : ∀ name, (!leadsTo s output (join dir name) && isInput t dir name) =
      (!leadsTo s output (join dir name) && isInput s dir name) := by
    intro name
    cases hname : leadsTo s output (join dir name) with
    | true => rfl
    | false => rw [isInput_of_write h hname]
  simp only [inputNames, filter_mergeSort, List.filter_filter, hinput]
  obtain ⟨listed'', hlist'', hlisted⟩ := list_of_write h hlist
  cases hlist''.symm.trans hlist'
  obtain rfl | ⟨name, rfl, hname⟩ := hlisted
  · rfl
  · have hnone : [name].filter (fun name =>
        !leadsTo s output (join dir name) && isInput s dir name) = [] := by
      rw [List.filter_eq_nil_iff, List.forall_mem_singleton, isInput, hname]
      simp
    rw [List.filter_append, hnone, List.append_nil]

/-- What does not lead to the output is an input if it was one. -/
lemma mem_inputNames_of_write {listed' : List String} {name : String}
    (hlist : s.list dir = .ok listed) (hlist' : t.list dir = .ok listed')
    (hname : leadsTo s output (join dir name) = false) :
    name ∈ inputNames t dir listed' ↔ name ∈ inputNames s dir listed := by
  have hsame := congrArg (name ∈ ·) (inputNames_of_write h hlist hlist')
  simpa [List.mem_filter, hname] using hsame

/-- What was an input is one still. -/
lemma inputNames_subset_of_write {listed' : List String} (hlist : s.list dir = .ok listed)
    (hlist' : t.list dir = .ok listed') :
    inputNames s dir listed ⊆ inputNames t dir listed' := by
  intro name hname
  cases hleads : leadsTo s output (join dir name) with
  | false => exact (mem_inputNames_of_write h hlist hlist' hleads).mpr hname
  | true =>
    obtain ⟨hmem, hshown, -⟩ := mem_inputNames.mp hname
    have hfile := Store.isFile_iff.mpr (.inl ⟨_, contents?_of_write_of_leadsTo h hleads⟩)
    refine mem_inputNames.mpr ⟨?_, hshown, hfile⟩
    obtain ⟨listed'', hlist'', hlisted⟩ := list_of_write h hlist
    cases hlist''.symm.trans hlist'
    obtain rfl | ⟨_, rfl, -⟩ := hlisted
    · exact hmem
    · exact List.mem_append_left _ hmem

/-- The logs that are read again are those that were not read from the output. -/
lemma logs_parted_of_write (hworded : ∀ log ∈ logs, log.IsWorded) {listed' : List String}
    (hlist : s.list dir = .ok listed) (hlist' : t.list dir = .ok listed') :
    (parted t ((inputNames t dir listed').map (join dir))).logs =
      (parted s ((inputNames s dir listed).map (join dir))).logs.filter
        fun log => !leadsTo s output log.path := by
  -- The files that do not lead to the output, read as they were before.
  have hothers : ∀ names : List String, names.filterMap (fun name =>
      if leadsTo s output (join dir name) then none else (readLog s (join dir name)).toOption) =
        (names.filter fun name => !leadsTo s output (join dir name)).filterMap fun name =>
          (readLog s (join dir name)).toOption := by
    intro names
    rw [List.filterMap_filter]
    congr 1
    funext name
    cases leadsTo s output (join dir name) <;> rfl
  have hpath : ∀ path, (readLog s path).toOption.filter (fun log => !leadsTo s output log.path) =
      if leadsTo s output path then none else (readLog s path).toOption := by
    intro path
    cases hread : readLog s path with
    | error fault => simp [Except.toOption]
    | ok log => cases hleads : leadsTo s output path <;>
        simp [Except.toOption, Option.filter, path_of_readLog hread, hleads]
  simp only [parted, List.filterMap_map, List.filter_filterMap, Function.comp_def, hpath,
    toOption_readLog_of_write h hworded, hothers, inputNames_of_write h hlist hlist']

end Written

/-! ### Collecting -/

lemma exists_of_mem_parted {paths : List String} (h : log ∈ (parted s paths).logs) :
    ∃ path ∈ paths, readLog s path = .ok log := by
  obtain ⟨path, hpath, hread⟩ := List.mem_filterMap.mp h
  refine ⟨path, hpath, ?_⟩
  cases hok : readLog s path <;> simp_all [Except.toOption]

/-- There is a collection if the directory can be listed and every input is a log, or is skipped. -/
lemma collect_eq_ok_iff : (collect s dir skip).1 = .ok c ↔ ∃ listed, s.list dir = .ok listed ∧
    c = parted s ((inputNames s dir listed).map (join dir)) ∧
    (skip = true ∨ ∀ path ∈ (inputNames s dir listed).map (join dir), Parses s path) := by
  cases hlist : s.list dir with
  | error cause => simp [collect, inputs, hlist]
  | ok listed =>
    rw [collect_of_list hlist]
    simp only [Except.ok.injEq, exists_eq_left']
    cases skip with
    | true => simp [readAll_skip, eq_comm]
    | false =>
      simp only [Bool.false_eq_true, false_or]
      constructor
      · intro hc
        have hparses := exists_readAll_iff.mp ⟨c, hc⟩
        exact ⟨Except.ok.inj (hc.symm.trans (readAll_of_forall_parses hparses).1), hparses⟩
      · rintro ⟨rfl, hparses⟩
        exact (readAll_of_forall_parses hparses).1

lemma isWorded_of_collect (h : (collect s dir skip).1 = .ok c) : ∀ log ∈ c.logs, log.IsWorded := by
  obtain ⟨listed, -, rfl, -⟩ := collect_eq_ok_iff.mp h
  intro log hlog
  obtain ⟨path, -, hread⟩ := exists_of_mem_parted hlog
  exact isWorded_of_readLog hread

/-- What is collected after a table was written: the logs that were not read from the file with the
table. Unless files that are no logs are skipped, there is nothing if the table is among the
inputs. -/
lemma collect_of_write (hcollect : (collect s dir skip).1 = .ok c)
    (hwrite : s.write output (bytesOf (BenchLog.table c.logs)) = .ok t) :
    (∀ log ∈ c.logs, log.IsWorded) ∧ ∃ paths, inputs t dir = .ok paths ∧
      (skip = true ∨ (∀ path ∈ paths, leadsTo s output path = false) →
        ∃ c', (collect t dir skip).1 = .ok c' ∧
          c'.logs = c.logs.filter fun log => !leadsTo s output log.path) ∧
      (skip = false → (∃ path ∈ paths, leadsTo s output path = true) →
        ∃ fault, (collect t dir skip).1 = .error fault) ∧
      ((∀ path ∈ paths, leadsTo s output path = false) →
        ∀ log ∈ c.logs, leadsTo s output log.path = false) := by
  have hworded := isWorded_of_collect hcollect
  obtain ⟨listed, hlist, rfl, hparses⟩ := collect_eq_ok_iff.mp hcollect
  obtain ⟨listed', hlist', -⟩ := list_of_write hwrite hlist
  have hlogs := logs_parted_of_write hwrite hworded hlist hlist'
  refine ⟨hworded, _, inputs_eq hlist', fun hskip => ?_, fun hskip hleads => ?_,
    fun hnone log hlog => ?_⟩
  · refine ⟨_, collect_eq_ok_iff.mpr ⟨listed', hlist', rfl, ?_⟩, hlogs⟩
    obtain hskip | hnone := hskip
    · exact .inl hskip
    · refine hparses.imp_right fun hparses path hpath => ?_
      have hleads := hnone path hpath
      obtain ⟨name, hname, rfl⟩ := List.mem_map.mp hpath
      have hbefore := (mem_inputNames_of_write hwrite hlist hlist' hleads).mp hname
      exact (parses_of_write hwrite hworded _).mpr
        ⟨hleads, hparses _ (List.mem_map_of_mem hbefore)⟩
  · obtain ⟨path, hpath, hleads⟩ := hleads
    cases hagain : (collect t dir skip).1 with
    | error fault => exact ⟨fault, rfl⟩
    | ok c' =>
      obtain ⟨listed'', hlist'', -, hskip' | hall⟩ := collect_eq_ok_iff.mp hagain
      · cases hskip.symm.trans hskip'
      · cases hlist''.symm.trans hlist'
        have hnot := ((parses_of_write hwrite hworded path).mp (hall path hpath)).1
        cases hleads.symm.trans hnot
  · -- A log that was read from the output makes the output an input.
    obtain ⟨path, hpath, hread⟩ := exists_of_mem_parted hlog
    rw [path_of_readLog hread]
    obtain ⟨name, hname, rfl⟩ := List.mem_map.mp hpath
    exact hnone _ (List.mem_map_of_mem (inputNames_subset_of_write hwrite hlist hlist' hname))

end TileBench.Collection
