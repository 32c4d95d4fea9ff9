import TileBench.Config
import TileBench.Proofs.SampleCount.Joining
import TileBench.Proofs.SampleCount.Scanners
import TileBench.Proofs.Session.Runs
import TileBench.Proofs.Session.Trace
import TileBench.Proofs.Store.Destinations

/-!
# Logs of launches

A launcher that runs processes appends every output that it answers to the log of the phase. After
launches in turn a log that was empty holds these outputs, and the report that is found in it is
that of the last output with a report.
-/

namespace TileBench

open Text Launcher SampleCounts

variable {programs : Programs} {log : Phase → String} {path : String} {phase : Phase}
  {command : Command} {made more : List Launch} {outputs outputs' : List String} {s t u : Store}

/-- The outputs in the answers to launches of the phases that have a log. -/
def loggedTo (log : Phase → String) (path : String) (made : List Launch) : List String :=
  (made.filterMap fun l => if log l.phase = path then l.outcome.toOption else none).map Output.text

/-- Launches commands in turn, whatever comes of each. -/
def Launcher.launchAll (launcher : Launcher) : List Request → Session → Session
  | [], s => s
  | r :: rest, s =>
    launcher.launchAll rest ((Step.launch launcher r.phase r.command).run s).2

lemma loggedTo_append (log : Phase → String) (path : String) (made more : List Launch) :
    loggedTo log path (made ++ more) = loggedTo log path made ++ loggedTo log path more := by
  rw [loggedTo, List.filterMap_append, List.map_append, loggedTo, loggedTo]

lemma loggedTo_of_error (fault : Fault) :
    loggedTo log path [⟨phase, command, .error fault⟩] = [] := by
  simp [loggedTo, Except.toOption]

lemma loggedTo_of_ok (output : Output) :
    loggedTo log path [⟨phase, command, .ok output⟩] =
      if log phase = path then [output.text] else [] := by
  unfold loggedTo
  split_ifs with h <;> simp [h, Except.toOption]

/-- A text on the standard output comes back as it is. -/
lemma Launcher.Ending.text_of_out (status : ExitStatus) (text : String) (s : Store) :
    (Ending.mk status [(.out, bytesOf text)] s).text = text := by
  have hout : (Ending.mk status [(.out, bytesOf text)] s).bytesOn .out = bytesOf text := by
    simp [Ending.bytesOn]
  have herr : (Ending.mk status [(.out, bytesOf text)] s).bytesOn .err = [] := by
    simp [Ending.bytesOn]
  rw [Ending.text, hout, herr, bytesOf, decodeLossy_encode]
  simp [decodeLossy, Utf8.decodeLossyFrom]

/-! ### One launch -/

/-- The logs of other phases lead to other files. -/
def Store.LogsApart (s : Store) (log : Phase → String) (path : String) : Prop :=
  ∀ phase, log phase ≠ path → s.Apart path (log phase)

/-- The programs neither write to a log nor lead the other logs to it. -/
def Launcher.SparesLog (programs : Programs) (log : Phase → String) (path : String) : Prop :=
  ∀ name args s ending, programs name args s = .ok ending →
    ending.store.contents? path = s.contents? path ∧
    (s.LogsApart log path → ending.store.LogsApart log path)

namespace Store

/-- Some outputs were appended to a file, which then exists. -/
structure Appended (path : String) (outputs : List String) (s t : Store) : Prop where
  contents : (t.contents? path).getD [] = (s.contents? path).getD [] ++ outputs.flatMap bytesOf
  isSome : (s.contents? path).isSome ∨ outputs ≠ [] → (t.contents? path).isSome

lemma appended_of_contents?_eq (h : t.contents? path = s.contents? path) :
    Appended path [] s t where
  contents := by rw [h, List.flatMap_nil, List.append_nil]
  isSome := by
    rintro (hfile | hne)
    · rwa [h]
    · exact absurd rfl hne

lemma appended_of_append {output : String} (h : s.append path (bytesOf output) = .ok t) :
    Appended path [output] s t where
  contents := by
    rw [contents?_of_modify h, List.flatMap_singleton]
    rfl
  isSome _ := by rw [contents?_of_modify h, Option.isSome_some]

lemma Appended.trans (h : Appended path outputs s t) (h' : Appended path outputs' t u) :
    Appended path (outputs ++ outputs') s u where
  contents := by rw [h'.contents, h.contents, List.append_assoc, List.flatMap_append]
  isSome := by
    rintro (hfile | hne)
    · exact h'.isSome (.inl (h.isSome (.inl hfile)))
    · by_cases hnil : outputs = []
      · rw [hnil, List.nil_append] at hne
        exact h'.isSome (.inr hne)
      · exact h'.isSome (.inl (h.isSome (.inr hnil)))

/-- A file that was empty holds the outputs. -/
lemma Appended.read_eq (h : Appended path outputs s t)
    (hempty : s.contents? path = some [] ∨ s.contents? path = none ∧ outputs ≠ []) :
    t.read path = .ok (bytesOf (String.join outputs)) := by
  have hstart : (s.contents? path).getD [] = [] := by
    obtain hsome | ⟨hnone, -⟩ := hempty
    · rw [hsome, Option.getD_some]
    · rw [hnone, Option.getD_none]
  have hfile : (t.contents? path).isSome := by
    refine h.isSome ?_
    obtain hsome | ⟨-, hne⟩ := hempty
    · rw [hsome]
      exact .inl rfl
    · exact .inr hne
  obtain ⟨contents, hcontents⟩ := Option.isSome_iff_exists.mp hfile
  have hbytes := h.contents
  rw [hcontents, hstart, Option.getD_some, List.nil_append, ← bytesOf_join] at hbytes
  rw [read_eq_ok_iff, hcontents, hbytes]

end Store

/-- A launch appends its output to the log of its phase, if it has one. -/
lemma process_appends (hspare : SparesLog programs log path) (hlogs : s.LogsApart log path)
    (history : Array Launch) (phase : Phase) (command : Command) :
    ((process programs log).answer history phase command s).store.LogsApart log path ∧
    Store.Appended path (loggedTo log path
        [⟨phase, command, ((process programs log).answer history phase command s).outcome⟩])
      s ((process programs log).answer history phase command s).store := by
  simp only [process]
  cases hending : programs command.launcher command.argv s with
  | error cause =>
    dsimp only
    rw [loggedTo_of_error]
    exact ⟨hlogs, Store.appended_of_contents?_eq rfl⟩
  | ok ending =>
    obtain ⟨hcontents, hkept⟩ := hspare _ _ _ _ hending
    dsimp only
    cases happend : ending.store.append (log phase) (bytesOf ending.text) with
    | error cause =>
      dsimp only
      rw [loggedTo_of_error]
      exact ⟨hkept hlogs, Store.appended_of_contents?_eq hcontents⟩
    | ok t =>
      dsimp only
      refine ⟨fun other hother => (Store.apart_of_modify happend).mpr (hkept hlogs other hother), ?_⟩
      rw [loggedTo_of_ok]
      by_cases hphase : log phase = path
      · rw [if_pos hphase]
        rw [hphase] at happend
        exact (Store.appended_of_contents?_eq hcontents).trans (Store.appended_of_append happend)
      · rw [if_neg hphase]
        refine Store.appended_of_contents?_eq ?_
        rw [Store.contents?_of_modify_of_apart happend (hkept hlogs phase hphase), hcontents]

lemma launch_appends (hspare : SparesLog programs log path) (r : Request) {s t : Session}
    (hlogs : s.store.LogsApart log path)
    (ht : ((Step.launch (process programs log) r.phase r.command).run s).2 = t) :
    ∃ l : Launch, t.launches.toList = s.launches.toList ++ [l] ∧ l.request = r ∧
      t.store.LogsApart log path ∧
      Store.Appended path (loggedTo log path [l]) s.store t.store := by
  obtain ⟨hlogs', happended⟩ := process_appends hspare hlogs s.launches r.phase r.command
  rw [Step.run_launch] at ht
  subst ht
  exact ⟨_, Array.toList_push, rfl, hlogs', happended⟩

/-! ### Launches in turn -/

/-- All requests are launched, and the outputs are appended in the same order. -/
lemma launchAll_appends (hspare : SparesLog programs log path) (requests : List Request)
    {s : Session} (hlogs : s.store.LogsApart log path) :
    ∃ made, ((process programs log).launchAll requests s).launches.toList =
        s.launches.toList ++ made ∧
      made.map Launch.request = requests ∧
      Store.Appended path (loggedTo log path made) s.store
        ((process programs log).launchAll requests s).store := by
  induction requests generalizing s with
  | nil => exact ⟨[], (List.append_nil _).symm, rfl, Store.appended_of_contents?_eq rfl⟩
  | cons r rest ih =>
    obtain ⟨l, hlaunch, hrequest, hlogs', happended⟩ := launch_appends hspare r hlogs rfl
    obtain ⟨made, hmade, hrequests, hmore⟩ := ih hlogs'
    rw [launchAll]
    refine ⟨l :: made, ?_, ?_, ?_⟩
    · rw [hmade, hlaunch, List.append_assoc, List.singleton_append]
    · rw [List.map_cons, hrequest, hrequests]
    · rw [← List.singleton_append, loggedTo_append]
      exact happended.trans hmore

/-- What is found in a log that was empty before the launches. -/
lemma ofFile_of_appended (h : Store.Appended path outputs s t)
    (hempty : s.contents? path = some [] ∨ s.contents? path = none ∧ outputs ≠ []) :
    ofFile t path = .ok (ofOutput (String.join outputs)) := by
  rw [ofFile_of_read (h.read_eq hempty), bytesOf_eq, scanBytes_toUTF8]
  rfl

/-- Of two outputs joined at a line end the second one decides if it has a report, and the first one
if not. So after launches in turn the log of a phase, which was empty, holds the outputs of the
phase in their order, and the report that is found in it is that of the last output with a report,
or none.

The programs leave the log alone, and every output is empty or ends with a newline. -/
theorem last_reporting_output_decides :
    (∀ a b : String, Ended a.toList →
      (HasReport b → ofOutput (a ++ b) = ofOutput b) ∧
      (¬ HasReport b → ofOutput (a ++ b) = ofOutput a)) ∧
    ∀ (programs : Programs) (log : Phase → String) (path : String) (requests : List Request)
      (store : Store) (t : Session) (outputs : List String),
      SparesLog programs log path → store.LogsApart log path →
      (process programs log).launchAll requests (.start store) = t →
      loggedTo log path t.launches.toList = outputs →
      (store.contents? path = some [] ∨ store.contents? path = none ∧ outputs ≠ []) →
      (∀ o ∈ outputs, Ended o.toList) →
      t.launches.toList.map Launch.request = requests ∧
      t.store.read path = .ok (bytesOf (String.join outputs)) ∧
      (∀ front o back, outputs = front ++ o :: back → HasReport o →
        (∀ later ∈ back, ¬ HasReport later) → ofFile t.store path = .ok (ofOutput o)) ∧
      ((∀ o ∈ outputs, ¬ HasReport o) → ofFile t.store path = .ok ⟨0, -1⟩) := by
  refine ⟨fun a b ha => ⟨ofOutput_append_of_report ha, ofOutput_append_of_no_report ha⟩, ?_⟩
  rintro programs log path requests store _ _ hspare hlogs rfl rfl hempty hended
  obtain ⟨made, hmade, hrequests, happended⟩ :=
    launchAll_appends (s := .start store) hspare requests hlogs
  obtain rfl : _ = made := hmade
  refine ⟨hrequests, happended.read_eq hempty, fun front o back houtputs ho hback => ?_,
    fun hnone => ?_⟩
  · rw [ofFile_of_appended happended hempty, houtputs]
    rw [houtputs] at hended
    rw [ofOutput_join_of_report hended ho hback]
  · rw [ofFile_of_appended happended hempty, ofOutput_join_of_no_report hended hnone]
    rfl

/-! ### Two reads and a write -/

/-- What a read executable prints if all of its 64 samples are correct. -/
def allCorrectText : String := "Correct Sample Count 64 Incorrect Sample Count 0\n"

/-- What comes of a command of that name: the first one prints a report. -/
def talkOf (name : String) : String := if name = "first" then allCorrectText else "done\n"

/-- Programs that print and do nothing else. -/
def talkers : Programs := fun name _ s => .ok ⟨.code 0, [(.out, bytesOf (talkOf name))], s⟩

/-- A read with a report, and a write and a read without one. -/
def talks : List Request :=
  [⟨.read, ⟨"first", [], 4, "idx_read", []⟩⟩, ⟨.write, ⟨"second", [], 4, "idx_write", []⟩⟩,
    ⟨.read, ⟨"third", [], 4, "idx_read", []⟩⟩]

lemma logFile_isPlain (phase : Phase) : Store.IsPlain (Config.standard.logFile phase) := by
  cases phase <;>
    exact ⟨by decide, by decide, by decide, by decide, by decide, by decide⟩

/-- What is printed is answered as long as the logs can be written. -/
lemma launches_talkers (requests : List Request) {s : Session}
    (hwritable : ∀ phase, s.store.Writable (Config.standard.logFile phase)) :
    ((process talkers Config.standard.logFile).launchAll requests s).launches.toList =
      s.launches.toList ++ requests.map fun r =>
        ⟨r.phase, r.command, .ok ⟨true, some 0, talkOf r.command.launcher⟩⟩ := by
  induction requests generalizing s with
  | nil => exact (List.append_nil _).symm
  | cons r rest ih =>
    obtain ⟨next, happend, hkept⟩ := (logFile_isPlain r.phase).exists_modify (hwritable r.phase)
      fun old => old ++ bytesOf (talkOf r.command.launcher)
    have hanswer : (process talkers Config.standard.logFile).answer s.launches r.phase r.command
        s.store = ⟨.ok ⟨true, some 0, talkOf r.command.launcher⟩, next,
          [.launched r.phase (.code 0) (Config.standard.logFile r.phase)]⟩ := by
      simp only [process, talkers, Ending.text_of_out, Store.append, happend]
      rfl
    rw [launchAll, Step.run_launch, hanswer, ih fun phase => hkept _ (hwritable phase)]
    simp

/-- A read without a report does not hide the report of the read before it, and what a write prints
is in another log. -/
theorem silent_read_hides_no_report :
    ofFile ((process talkers Config.standard.logFile).launchAll talks (.start .empty)).store
      "_out_read.txt" = .ok ⟨64, 0⟩ := by
  have hwritable : ∀ phase, Store.empty.Writable (Config.standard.logFile phase) :=
    fun phase => Store.writable_empty _
  have houtputs : loggedTo Config.standard.logFile "_out_read.txt"
      ((process talkers Config.standard.logFile).launchAll talks (.start .empty)).launches.toList =
        [allCorrectText, "done\n"] := by
    rw [launches_talkers talks hwritable]
    decide +kernel
  have hspare : SparesLog talkers Config.standard.logFile "_out_read.txt" := by
    rintro name args s _ ⟨⟩
    exact ⟨rfl, id⟩
  have hapart : Store.empty.LogsApart Config.standard.logFile "_out_read.txt" := by
    intro phase hne
    exact (logFile_isPlain .read).apart (logFile_isPlain phase) (hwritable .read) (hwritable phase)
      hne.symm
  have hmissing : Store.empty.contents? "_out_read.txt" = none :=
    (logFile_isPlain .read).contents?_empty
  have hended : ∀ o ∈ [allCorrectText, "done\n"], Ended o.toList := by
    refine List.forall_mem_cons.mpr ⟨?_, List.forall_mem_singleton.mpr ?_⟩
    · exact .inr ⟨allCorrectText.toList.dropLast, by decide +kernel⟩
    · exact .inr ⟨"done".toList, by decide⟩
  have hreport : HasReport allCorrectText :=
    ⟨allCorrectText.toList.dropLast, by decide +kernel, ⟨64, 0⟩, by decide +kernel⟩
  have hsilent : ∀ later ∈ ["done\n"], ¬ HasReport later :=
    List.forall_mem_singleton.mpr (not_hasReport_iff.mpr (by decide +kernel))
  obtain ⟨-, -, hdecides, -⟩ := last_reporting_output_decides.2 talkers Config.standard.logFile
    "_out_read.txt" talks .empty _ _ hspare hapart rfl houtputs (.inr ⟨hmissing, nofun⟩) hended
  exact (hdecides [] allCorrectText ["done\n"] rfl hreport hsilent).trans (by decide +kernel)

end TileBench
