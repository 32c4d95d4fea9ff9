import Mathlib.Data.List.Flatten
import TileBench.Extract.Program
import TileBench.Proofs.BenchLog.Rereading
import TileBench.Proofs.Session.Runs

/-!
# Running the extraction twice

A run without a report that fails before the table is written changes no file, and a run that
succeeds changes one. The table that it leaves is read by the next run if it stands among the inputs.
It is no log, so the next run fails or skips it. Otherwise there is room for the table of the next run
if there was room for that of the first, since it is not longer.
-/

namespace TileBench.Extract

open Text Collection

variable {device : Store.Device} {a : Arguments} {s t : Store} {c : Collection}

/-! ### What a run does to the files -/

/-- How the writing of the table ends, and the files after it. -/
def tabulate (device : Store.Device) (a : Arguments) (s : Store) : Except Fault Unit × Store :=
  match (Collection.collect s a.input a.skips).1 with
  | .ok c => c.writeTable device s a.output
  | .error fault => (.error fault, s)

lemma run_collect (a : Arguments) (r : Session) :
    ((Extract.collect a).run r).1 = (Collection.collect r.store a.input a.skips).1 ∧
    ((Extract.collect a).run r).2.store = r.store := by
  unfold Extract.collect
  rw [Step.run_bind, Step.run_get]
  simp [Step.run_bind, Step.tellAll]

/-- The table is written, and what comes after changes no file. -/
lemma run_table (device : Store.Device) (a : Arguments) {after : Collection → Step Unit}
    (hafter : ∀ c r, ((after c).run r).1 = .ok () ∧ ((after c).run r).2.store = r.store)
    (r : Session) :
    let step := Extract.collect a >>= fun c =>
      Step.changeStoreKeeping (fun store => c.writeTable device store a.output) >>= fun _ => after c
    (step.run r).1 = (tabulate device a r.store).1 ∧
    (step.run r).2.store = (tabulate device a r.store).2 := by
  obtain ⟨hresult, hstore⟩ := run_collect a r
  rcases hrun : (Extract.collect a).run r with ⟨outcome, r'⟩
  rw [hrun] at hresult hstore
  simp only [tabulate, Step.run_bind, Step.run_changeStoreKeeping, hrun, ← hresult]
  rcases outcome with fault | c
  · exact ⟨rfl, hstore⟩
  · simp only at hstore
    simp only [hstore]
    rcases c.writeTable device r.store a.output with ⟨fault | _, store⟩
    · exact ⟨rfl, rfl⟩
    · exact hafter c _

/-- A run without a report ends as the writing of the table does, and leaves the files as this
does. -/
lemma run_eq_tabulate (hjson : a.jsonFile = none) (device : Store.Device) (stamp : Stamp)
    (r : Session) :
    ((run device stamp a).run r).1 = (tabulate device a r.store).1 ∧
    ((run device stamp a).run r).2.store = (tabulate device a r.store).2 := by
  have hafter : ∀ (c : Collection) (r : Session), ∀ step : Step Unit,
      step = (if a.summary then do Step.printLines c.summaryLines; pure () else pure ()) →
      (step.run r).1 = .ok () ∧ (step.run r).2.store = r.store := by
    rintro c r _ rfl
    split <;> simp
  unfold run writeReport
  rw [hjson]
  simp only [Step.run_bind, Step.run_get]
  split
  · rw [Step.run_bind, Step.run_tell]
    exact run_table device a (fun c r => hafter c r _ rfl) _
  · exact run_table device a (fun c r => hafter c r _ rfl) _

lemma tabulate_eq_ok_iff : tabulate device a s = (.ok (), t) ↔
    ∃ c, (Collection.collect s a.input a.skips).1 = .ok c ∧
      s.overwrite device a.output (bytesOf (BenchLog.table c.logs)) = (.ok (), t) := by
  unfold tabulate writeTable
  cases (Collection.collect s a.input a.skips).1 with
  | error fault => simp
  | ok c =>
    generalize hwrite : s.overwrite device a.output (bytesOf (BenchLog.table c.logs)) = written
    obtain ⟨result, store⟩ := written
    simp [hwrite, mapError_eq_ok_iff]

lemma tabulate_of_fault {fault : Fault}
    (h : (Collection.collect s a.input a.skips).1 = .error fault) :
    tabulate device a s = (.error fault, s) := by
  rw [tabulate, h]

/-! ### The next run -/

lemma length_table_le {logs : List BenchLog} (h : logs.Sublist c.logs) :
    (bytesOf (BenchLog.table logs)).length ≤ (bytesOf (BenchLog.table c.logs)).length := by
  have hlines := (((h.map BenchLog.tableRow).cons_cons BenchLog.tableHeader).map (· ++ "\n")).flatMap
    bytesOf
  rw [BenchLog.table, BenchLog.table, bytesOf_join, bytesOf_join]
  exact hlines.length_le

/-- A table of some of the logs takes the place of the table of all of them, and has the same
contents only if it is of all of them too. -/
lemma exists_tabulate_again {c' : Collection}
    (hwrite : s.overwrite device a.output (bytesOf (BenchLog.table c.logs)) = (.ok (), t))
    (hcollect : (Collection.collect t a.input a.skips).1 = .ok c')
    (hworded : ∀ log ∈ c.logs, log.IsWorded) (hsome : c'.logs.Sublist c.logs) :
    ∃ u, tabulate device a t = (.ok (), u) ∧
      u.read a.output = .ok (bytesOf (BenchLog.table c'.logs)) ∧
      (u.read a.output = t.read a.output ↔ c'.logs = c.logs) ∧ (c'.logs = c.logs → u = t) := by
  obtain ⟨u, hagain, hwritten⟩ := Store.overwrite_again hwrite (length_table_le hsome)
  have hfirst := (Store.overwrite_eq_ok_iff.mp hwrite).1
  have hread := Store.read_eq_ok_iff.mpr (Store.contents?_of_modify hfirst)
  have hread' := Store.read_eq_ok_iff.mpr (Store.contents?_of_modify hwritten)
  refine ⟨u, tabulate_eq_ok_iff.mpr ⟨c', hcollect, hagain⟩, hread', ?_, fun hsame => ?_⟩
  · rw [hread, hread', Except.ok.injEq]
    refine ⟨fun hbytes => ?_, fun hsame => by rw [hsame]⟩
    have hworded' : ∀ log ∈ c'.logs, log.IsWorded := fun log hlog => hworded log (hsome.mem hlog)
    exact hsome.eq_of_length (BenchLog.length_eq_of_table hworded' hworded hbytes)
  · rw [Store.write_write hfirst, hsame, hfirst] at hwritten
    exact (Except.ok.inj hwritten).symm

/-- A run without a report that cannot collect its logs leaves the files as they are. After one that
succeeds, the next run fails and leaves the files as they are if one of its inputs leads to the file
with the table, unless files that are no logs are skipped. Otherwise it succeeds, and the table that it
writes is that of the logs that were not read from this file by the first run. So the file has the same
contents if there was no such log, and only then; no other file changes. -/
theorem run_again (hjson : a.jsonFile = none) (device : Store.Device) (stamp stamp' : Stamp)
    (r : Session) :
    (∀ fault, (Collection.collect r.store a.input a.skips).1 = .error fault →
      ((run device stamp a).run r).1 = .error fault ∧
      ((run device stamp a).run r).2.store = r.store) ∧
    (((run device stamp a).run r).1 = .ok () → ∃ c t paths,
      ((run device stamp a).run r).2.store = t ∧
      (Collection.collect r.store a.input a.skips).1 = .ok c ∧
      t.read a.output = .ok (bytesOf (BenchLog.table c.logs)) ∧
      Collection.inputs t a.input = .ok paths ∧
      ∀ r' : Session, r'.store = t →
        (a.skips = false → (∃ path ∈ paths, t.target? path = t.target? a.output) → ∃ fault,
          (Collection.collect t a.input a.skips).1 = .error fault ∧
          ((run device stamp' a).run r').1 = .error fault ∧
          ((run device stamp' a).run r').2.store = t) ∧
        (a.skips = true ∨ (∀ path ∈ paths, t.target? path ≠ t.target? a.output) →
          ((run device stamp' a).run r').1 = .ok () ∧
          ((run device stamp' a).run r').2.store.read a.output = .ok (bytesOf (BenchLog.table
            (c.logs.filter fun log => t.target? log.path ≠ t.target? a.output))) ∧
          (((run device stamp' a).run r').2.store.read a.output = t.read a.output ↔
            ∀ log ∈ c.logs, t.target? log.path ≠ t.target? a.output) ∧
          ((∀ log ∈ c.logs, t.target? log.path ≠ t.target? a.output) →
            ((run device stamp' a).run r').2.store = t)) ∧
        ((∀ path ∈ paths, t.target? path ≠ t.target? a.output) →
          ∀ log ∈ c.logs, t.target? log.path ≠ t.target? a.output)) := by
  obtain ⟨hresult, hstore⟩ := run_eq_tabulate hjson device stamp r
  refine ⟨fun fault hfault => ?_, fun hok => ?_⟩
  · rw [hresult, hstore, tabulate_of_fault hfault]
    exact ⟨rfl, rfl⟩
  obtain ⟨t, htable⟩ : ∃ t, tabulate device a r.store = (.ok (), t) :=
    ⟨_, Prod.ext (hresult.symm.trans hok) rfl⟩
  obtain ⟨c, hcollect, hwrite⟩ := tabulate_eq_ok_iff.mp htable
  have hwritten := (Store.overwrite_eq_ok_iff.mp hwrite).1
  obtain ⟨hworded, paths, hpaths, hagain, hblamed, hnone⟩ := collect_of_write hcollect hwritten
  have hleads : leadsTo t a.output = leadsTo r.store a.output :=
    funext (leadsTo_of_write hwritten)
  rw [← hleads] at hagain hblamed hnone
  simp only [leadsTo, decide_eq_false_iff_not, decide_eq_true_eq, ← decide_not]
    at hagain hblamed hnone
  have hread := Store.read_eq_ok_iff.mpr (Store.contents?_of_modify hwritten)
  refine ⟨c, t, paths, by rw [hstore, htable], hcollect, hread, hpaths, fun r' hr' => ?_⟩
  obtain ⟨hresult', hstore'⟩ := run_eq_tabulate hjson device stamp' r'
  rw [hr'] at hresult' hstore'
  refine ⟨fun hskips hleads => ?_, fun hreadable => ?_, hnone⟩
  · obtain ⟨fault, hfault⟩ := hblamed hskips hleads
    rw [hresult', hstore', tabulate_of_fault hfault]
    exact ⟨fault, hfault, rfl, rfl⟩
  · obtain ⟨c', hcollect', hlogs⟩ := hagain hreadable
    have hall : c'.logs = c.logs ↔ ∀ log ∈ c.logs, t.target? log.path ≠ t.target? a.output := by
      rw [hlogs, List.filter_eq_self]
      simp only [decide_eq_true_eq, ne_eq]
    obtain ⟨u, htable', hread', hsame, hkept⟩ := exists_tabulate_again hwrite hcollect' hworded
      (hlogs ▸ List.filter_sublist)
    rw [hresult', hstore', htable']
    refine ⟨rfl, ?_, hsame.trans hall, fun hothers => hkept (hall.mpr hothers)⟩
    rw [← hlogs]
    exact hread'

/-- A directory for logs in the working directory, with nothing in it. -/
def bareLogs : Store where
  entries := [(["work"], .directory), (["work", "logs"], .directory)]
  cwd := ["work"]

/-- The directory, and a table of no logs. -/
def logsWithTable (place : Place) : Store :=
  bareLogs.put place (.file (bytesOf (BenchLog.table [])) false)

/-- The command line that writes the table of the directory to a file. -/
def tableTo (output : String) : Arguments := ⟨"logs", output, false, 0, false, none⟩

/-- A device with room for a table of no logs. -/
def smallDevice : Store.Device := ⟨fun _ _ => some 300⟩

lemma isPlain_logs : Store.IsPlain "logs" := by constructor <;> decide

lemma isPlain_table : Store.IsPlain "table" := by constructor <;> decide

/-- What the directory lists. -/
lemma list_logs (hcwd : s.cwd = ["work"]) (h : s.entryAt? ["work", "logs"] = some .directory) :
    s.list "logs" = .ok (s.namesIn ["work", "logs"]) := by
  refine Store.list_eq_ok_iff.mpr ⟨["work", "logs"], ?_, rfl⟩
  have hwalk : s.walk 40 ["work"] ["logs"] = s.walk 40 ["work", "logs"] [] :=
    isPlain_logs.walk_directory s 40 [] h
  rw [isPlain_logs.find_eq, hcwd, Store.maxLinks, hwalk, Store.walk]

lemma find_logs_table (hcwd : s.cwd = ["work"]) (h : s.entryAt? ["work", "logs"] = some .directory) :
    s.find "logs/table" = s.walk 40 ["work", "logs"] ["table"] := by
  have hfollow : s.find "logs/table" = s.walk 40 s.cwd ["logs", "table"] := rfl
  rw [hfollow, hcwd]
  exact isPlain_logs.walk_directory s 40 ["table"] h

/-- The first run writes a table of no logs. -/
lemma tabulate_bareLogs {output : String} {place : Place}
    (hslash : Store.endsInSlash output = false) (hfind : bareLogs.find output = .ok (.free place)) :
    tabulate smallDevice (tableTo output) bareLogs = (.ok (), logsWithTable place) := by
  have hcollect : (Collection.collect bareLogs "logs" false).1 = .ok ⟨[], []⟩ := by
    have hlist : bareLogs.list "logs" = .ok [] := list_logs rfl rfl
    rw [collect_of_list hlist, inputNames, List.filter_nil, List.mergeSort_nil]
    rfl
  have hwrite : ∀ contents, bareLogs.write output contents =
      .ok (bareLogs.put place (.file contents false)) := by
    intro contents
    have hfindFile : bareLogs.findFile output = bareLogs.find output := by
      rw [Store.findFile, hslash]
      rfl
    rw [Store.write, Store.modify, hfindFile, hfind]
    rfl
  have hroom : (bytesOf (BenchLog.table [])).length ≤ 300 := by decide +kernel
  exact tabulate_eq_ok_iff.mpr ⟨_, hcollect, Store.overwrite_eq_ok_iff.mpr
    ⟨hwrite _, _, hwrite _, hroom⟩⟩

/-- A table that is written above the working directory is not read by the next run. -/
theorem rerun_keeps_table : (tableTo "../table").jsonFile = none ∧
    ((run smallDevice ⟨"", "", "", ""⟩ (tableTo "../table")).run (.start bareLogs)).2.store =
      logsWithTable ["table"] ∧
    ((run smallDevice ⟨"", "", "", ""⟩ (tableTo "../table")).run
      (.start (logsWithTable ["table"]))).1 = .ok () ∧
    ((run smallDevice ⟨"", "", "", ""⟩ (tableTo "../table")).run
      (.start (logsWithTable ["table"]))).2.store = logsWithTable ["table"] := by
  have hjson : (tableTo "../table").jsonFile = none := rfl
  have hfind : bareLogs.find "../table" = .ok (.free ["table"]) := by
    have hfollow : bareLogs.find "../table" = bareLogs.walk 40 ["work"] ["..", "table"] := rfl
    rw [hfollow, Store.walk]
    exact isPlain_table.walk_none bareLogs 40 rfl
  have htable := tabulate_bareLogs rfl hfind
  obtain ⟨hresult, hstore⟩ := run_eq_tabulate hjson smallDevice ⟨"", "", "", ""⟩ (.start bareLogs)
  rw [Session.start, htable] at hresult hstore
  obtain ⟨-, hagain⟩ := run_again hjson smallDevice ⟨"", "", "", ""⟩ ⟨"", "", "", ""⟩
    (.start bareLogs)
  obtain ⟨c, t, paths, hleft, -, -, hpaths, hnext⟩ := hagain hresult
  obtain rfl : t = logsWithTable ["table"] := hleft.symm.trans hstore
  obtain rfl : paths = [] := by
    have hlist : (logsWithTable ["table"]).list "logs" = .ok [] := list_logs rfl rfl
    have hinputs := inputs_eq hlist
    rw [inputNames, List.filter_nil, List.mergeSort_nil] at hinputs
    exact Except.ok.inj (hpaths.symm.trans hinputs)
  obtain ⟨-, hkept, hothers⟩ := hnext (.start (logsWithTable ["table"])) rfl
  obtain ⟨hok, -, -, hsame⟩ := hkept (.inr (List.forall_mem_nil _))
  exact ⟨hjson, hstore, hok, hsame (hothers (List.forall_mem_nil _))⟩

/-- A table in the directory of the logs is an input, and no log. -/
lemma exists_fault_of_inside : ∃ fault,
    (Collection.collect (logsWithTable ["work", "logs", "table"]) "logs" false).1 = .error fault := by
  generalize hs : logsWithTable ["work", "logs", "table"] = s
  have hdirectory : s.entryAt? ["work", "logs"] = some .directory := by rw [← hs]; rfl
  have hcwd : s.cwd = ["work"] := by rw [← hs]; rfl
  have hentry : s.entryAt? (["work", "logs"] ++ ["table"]) =
      some (.file (bytesOf (BenchLog.table [])) false) := by rw [← hs]; rfl
  have hnames : s.namesIn ["work", "logs"] = ["table"] := by rw [← hs]; rfl
  have hfind := (find_logs_table hcwd hdirectory).trans (isPlain_table.walk_file s 40 hentry)
  cases hcollect : (Collection.collect s "logs" false).1 with
  | error fault => exact ⟨fault, rfl⟩
  | ok c =>
    obtain ⟨listed, hlist, -, hskip | hparses⟩ := collect_eq_ok_iff.mp hcollect
    · cases hskip
    · obtain rfl : listed = ["table"] :=
        Except.ok.inj (hlist.symm.trans ((list_logs hcwd hdirectory).trans (congrArg _ hnames)))
      have hpath : join "logs" "table" = "logs/table" := by decide
      have hinput : "table" ∈ inputNames s "logs" ["table"] := by
        refine mem_inputNames.mpr ⟨by decide, by decide, ?_⟩
        rw [hpath, Store.isFile, hfind]
      obtain ⟨log, hlog⟩ := hparses _ (List.mem_map_of_mem hinput)
      have hread : s.read "logs/table" = .ok (bytesOf (BenchLog.table [])) := by
        rw [Store.read, hfind]
        rfl
      rw [hpath, readLog, hread] at hlog
      exact absurd hlog (BenchLog.parse_table_ne_ok (List.forall_mem_nil _) _ log)

/-- A table that is written into the directory of the logs is among the inputs of the next run,
which fails. -/
theorem rerun_blames_table :
    ((run smallDevice ⟨"", "", "", ""⟩ (tableTo "logs/table")).run (.start bareLogs)).1 = .ok () ∧
    ((run smallDevice ⟨"", "", "", ""⟩ (tableTo "logs/table")).run (.start bareLogs)).2.store =
      logsWithTable ["work", "logs", "table"] ∧
    ∃ fault, ((run smallDevice ⟨"", "", "", ""⟩ (tableTo "logs/table")).run
      (.start (logsWithTable ["work", "logs", "table"]))).1 = .error fault := by
  have hfind : bareLogs.find "logs/table" = .ok (.free ["work", "logs", "table"]) := by
    rw [find_logs_table rfl rfl]
    exact isPlain_table.walk_none bareLogs 40 rfl
  have htable := tabulate_bareLogs rfl hfind
  have hrun := fun store => run_eq_tabulate (rfl : (tableTo "logs/table").jsonFile = none)
    smallDevice ⟨"", "", "", ""⟩ (.start store)
  obtain ⟨fault, hfault⟩ := exists_fault_of_inside
  refine ⟨?_, ?_, fault, ?_⟩
  · rw [(hrun bareLogs).1, Session.start, htable]
  · rw [(hrun bareLogs).2, Session.start, htable]
  · rw [(hrun _).1, Session.start, tabulate_of_fault (a := tableTo "logs/table") hfault]

end TileBench.Extract
