import TileBench.Proofs.Store.Destinations
import TileBench.Proofs.Suite.DryRuns
import TileBench.Proofs.Suite.SameRequests
import TileBench.Proofs.Suite.Success
import TileBench.Proofs.Text.Encoding

/-!
# Scripts

A harness that records its commands leaves a script with the commands that the same calls launch
with any other launcher. Apart from the script and the list of variables it changes no file.
-/

namespace TileBench

open Text

/-! ### What a script grows by -/

def scriptLines (requests : List Request) : Bytes :=
  requests.flatMap fun r => bytesOf (r.command.text ++ "\n")

namespace Store

variable {script vars : String} {added more : Bytes} {s t u : Store}

/-- The script has some bytes more at its end, and only the script and the list of variables may
have changed. -/
structure Grown (script vars : String) (added : Bytes) (s t : Store) : Prop where
  apart_iff : ∀ path₁ path₂, t.Apart path₁ path₂ ↔ s.Apart path₁ path₂
  script_eq : ∀ contents, s.contents? script = some contents →
    t.contents? script = some (contents ++ added)
  kept : ∀ path, s.Apart path script → s.Apart path vars → t.contents? path = s.contents? path

lemma Grown.refl (s : Store) : Grown script vars [] s s where
  apart_iff _ _ := Iff.rfl
  script_eq contents h := by rw [h, List.append_nil]
  kept _ _ _ := rfl

lemma Grown.trans (h : Grown script vars added s t) (hmore : Grown script vars more t u) :
    Grown script vars (added ++ more) s u where
  apart_iff path₁ path₂ := (hmore.apart_iff path₁ path₂).trans (h.apart_iff path₁ path₂)
  script_eq contents hcontents := by
    rw [hmore.script_eq _ (h.script_eq contents hcontents), List.append_assoc]
  kept path hscript hvars := by
    rw [hmore.kept path ((h.apart_iff _ _).mpr hscript) ((h.apart_iff _ _).mpr hvars)]
    exact h.kept path hscript hvars

lemma grown_of_append (h : s.append script added = .ok t) : Grown script vars added s t where
  apart_iff _ _ := apart_of_modify h
  script_eq contents hcontents := by
    rw [contents?_of_modify h, hcontents]
    rfl
  kept _ hscript _ := contents?_of_modify_of_apart h hscript

lemma grown_of_write {contents : Bytes} (h : s.write vars contents = .ok t)
    (hapart : s.Apart script vars) : Grown script vars [] s t where
  apart_iff _ _ := apart_of_modify h
  script_eq before hbefore := by
    rw [contents?_of_modify_of_apart h hapart, hbefore, List.append_nil]
  kept _ _ hvars := contents?_of_modify_of_apart h hvars

end Store

/-! ### Steps that record -/

namespace Step

variable {α β : Type} {script vars : String} {x : Step α} {f : α → Step β} {s t : Session}

/-- The step leaves the files and the launches as they are. -/
def Still (x : Step α) : Prop :=
  ∀ s : Session, (x.run s).2.store = s.store ∧ (x.run s).2.launches = s.launches

lemma Still.quiet (h : Still x) : Quiet x := fun s => (h s).2

/-- Unless a file gives trouble, every command is recorded, and the script grows by its line. -/
structure Records (script vars : String) (x : Step α) : Prop where
  grows : Grows x
  recorded : ∀ s : Session, s.store.Apart script vars → Undisturbed (x.run s).1 →
    (∀ l ∈ x.trace s, l.outcome = .ok .recorded) ∧
    Store.Grown script vars (scriptLines ((x.trace s).map Launch.request)) s.store
      (x.run s).2.store

lemma Still.records (h : Still x) : Records script vars x where
  grows := h.quiet.grows
  recorded s _ _ := by
    rw [h.quiet.trace_eq, (h s).1]
    exact ⟨List.forall_mem_nil _, .refl _⟩

/-- What comes after must record only for the values that the first step can end with. -/
lemma Records.bind_of {post : α → Prop} (hx : Records script vars x)
    (hpost : ∀ s a, (x.run s).1 = .ok a → post a) (hgrows : ∀ a, Grows (f a))
    (hf : ∀ a, post a → Records script vars (f a)) : Records script vars (x >>= f) := by
  refine ⟨hx.grows.bind hgrows, fun s hapart hundisturbed => ?_⟩
  have hhead := hx.recorded s hapart
  have hvalue := hpost s
  rcases hrun : x.run s with ⟨fault | a, t⟩ <;> rw [hrun] at hhead hvalue <;>
    rw [run_bind, hrun] at hundisturbed ⊢
  · rw [trace_bind_of_error hrun]
    refine hhead ?_
    rintro path cause ⟨⟩
    exact hundisturbed path cause rfl
  · obtain ⟨hmade, hgrown⟩ := hhead nofun
    obtain ⟨hmore, hgrown'⟩ :=
      (hf a (hvalue a rfl)).recorded t ((hgrown.apart_iff _ _).mpr hapart) hundisturbed
    rw [trace_bind_of_ok hx.grows hgrows hrun, List.map_append, scriptLines, List.flatMap_append]
    exact ⟨List.forall_mem_append.mpr ⟨hmade, hmore⟩, hgrown.trans hgrown'⟩

lemma Records.bind (hx : Records script vars x) (hf : ∀ a, Records script vars (f a)) :
    Records script vars (x >>= f) :=
  hx.bind_of (fun _ _ _ => trivial) (fun a => (hf a).grows) fun a _ => hf a

lemma Records.after_ofExcept {e : Except Fault α} (h : ∀ a, e = .ok a → Records script vars (f a)) :
    Records script vars (ofExcept e >>= f) := by
  rcases e with fault | a
  · have hstill : Still (ofExcept (.error fault) >>= f) := fun s => by
      rw [run_error_bind]
      exact ⟨rfl, rfl⟩
    exact hstill.records
  · exact h a rfl

lemma records_launch (phase : Phase) (command : Command) :
    Records script vars (launch (.recording script) phase command) := by
  refine ⟨(follows_launch (.recording script) phase command).grows, fun s _ hundisturbed => ?_⟩
  rw [run_launch] at hundisturbed ⊢
  rw [trace_launch]
  simp only [Launcher.recording] at hundisturbed ⊢
  cases happend : s.store.append script (bytesOf (command.text ++ "\n")) with
  | ok changed =>
    refine ⟨by simp, ?_⟩
    have hline : scriptLines [⟨phase, command⟩] = bytesOf (command.text ++ "\n") := by
      rw [scriptLines, List.flatMap_singleton]
    rw [List.map_singleton, Launch.request, hline]
    exact Store.grown_of_append happend
  | error cause =>
    rw [happend] at hundisturbed
    exact absurd rfl (hundisturbed script cause)

lemma eq_recorded_of_launch {phase : Phase} {command : Command} (s : Session) (output : Output)
    (h : ((launch (.recording script) phase command).run s).1 = .ok output) :
    output = .recorded := by
  rw [run_launch] at h
  exact Launcher.eq_recorded_of_recording h

end Step

namespace Harness

open Step

variable {h h' : Harness} {script : String}

lemma still_say (p : Prop) [Decidable p] (lines : List String) :
    Still (if p then h.say lines else pure ()) := by
  unfold say
  split_ifs
  · intro s
    rw [run_printLines]
    exact ⟨rfl, rfl⟩
  · exact fun _ => ⟨rfl, rfl⟩
  · exact fun _ => ⟨rfl, rfl⟩

/-- A recorded command has no profiling data. -/
lemma still_capture (phase : Phase) : Still (h.capture phase .recorded) := by
  intro s
  unfold capture
  split
  · rw [run_changeStore]
    exact ⟨rfl, rfl⟩
  · exact ⟨rfl, rfl⟩

lemma records_perform (hscript : h.launcher = .recording script) (phase : Phase)
    (command : Command) {judge : Output → Step Unit} (hquiet : ∀ output, Quiet (judge output))
    (hjudge : Still (judge .recorded)) :
    Records script h.config.varsFile (h.perform phase command judge) := by
  unfold perform
  rw [hscript]
  have htell : ∀ event, Still (Step.tell event) := fun _ _ => ⟨rfl, rfl⟩
  have hpure : ∀ output : Output, Still (pure output) := fun _ _ => ⟨rfl, rfl⟩
  refine (htell _).records.bind fun _ => ?_
  refine (records_launch phase command).bind_of eq_recorded_of_launch (fun output => ?_) ?_
  · refine (hquiet output).grows.bind fun _ => ?_
    exact (h.quiet_capture phase output).grows.bind fun _ => (hpure output).quiet.grows
  · rintro _ rfl
    refine hjudge.records.bind fun _ => ?_
    exact (still_capture phase).records.bind fun _ => (hpure _).records

lemma records_writeVars (c : Case) : Records script h.config.varsFile (h.writeVars c) := by
  refine ⟨(h.quiet_writeVars c).grows, fun s hapart hundisturbed => ?_⟩
  rw [(h.quiet_writeVars c).trace_eq]
  refine ⟨List.forall_mem_nil _, ?_⟩
  unfold writeVars at hundisturbed ⊢
  rw [run_changeStore] at hundisturbed ⊢
  cases hwrite : s.store.write h.config.varsFile (bytesOf (varList c.vars c.varType c.varType)) with
  | ok changed => exact Store.grown_of_write hwrite hapart
  | error cause =>
    rw [hwrite] at hundisturbed
    exact absurd rfl (hundisturbed _ cause)

/-- Every step of a harness with a recording launcher records. -/
lemma paired_records (hscript : h.launcher = .recording script) :
    Paired (fun x _ => Records script h.config.varsFile x) h h where
  config := rfl
  launcherArgs := rfl
  pure _ _ := Still.records fun _ => ⟨rfl, rfl⟩
  bind hx hf := hx.bind fun a => hf a a
  after_ofExcept hf := Records.after_ofExcept hf
  say p _ _ _ lines _ := (still_say p lines).records
  tell _ := Still.records fun _ => ⟨rfl, rfl⟩
  writeVars c := records_writeVars c
  write command := records_perform hscript .write command quiet_judgeWrite fun _ => ⟨rfl, rfl⟩
  read command := records_perform hscript .read command (fun _ => quiet_pure ()) fun _ => ⟨rfl, rfl⟩

/-! ### Scripts -/

/-- A call that is recorded leaves a line for every launch of the other harness. -/
lemma runCall_recorded (hscript : h.launcher = .recording script)
    (hconfig : h'.config = h.config) (hargs : h'.launcherArgs = h.launcherArgs) (call : Call)
    {s t : Session} (hapart : s.store.Apart script h.config.varsFile)
    (hfiles : Undisturbed ((h.runCall call).run s).1) (hcalm : Calm (h'.runCall call) t) :
    Store.Grown script h.config.varsFile
      (scriptLines (((h'.runCall call).trace t).map Launch.request)) s.store
      ((h.runCall call).run s).2.store ∧
    SameEnding CallOutcome.DryRunOf ((h.runCall call).run s).1 ((h'.runCall call).run t).1 := by
  obtain ⟨hrecorded, hgrown⟩ :=
    ((paired_records hscript).runCall call).recorded s hapart hfiles
  obtain ⟨hrequests, hending⟩ := (runCall_mirrors hconfig hargs call).alike s t
    ⟨fun l hl => ⟨_, hrecorded l hl⟩, hfiles⟩ hcalm
  refine ⟨hrequests ▸ hgrown, hending.imp fun o o' hrun hrun' _ => ?_⟩
  exact runCall_dryRunOf hconfig hargs hrun hrun' hrecorded

lemma runCalls_recorded (hscript : h.launcher = .recording script)
    (hconfig : h'.config = h.config) (hargs : h'.launcherArgs = h.launcherArgs) (calls : List Call)
    {s t : Session} (hapart : s.store.Apart script h.config.varsFile)
    (hfiles : ∀ r ∈ (h.runCalls calls s).1, Undisturbed r)
    (hfiles' : ∀ r ∈ (h'.runCalls calls t).1, Undisturbed r)
    (hanswered : ∀ l ∈ h'.callsTrace calls t, ∃ output, l.outcome = .ok output) :
    Store.Grown script h.config.varsFile
      (scriptLines ((h'.callsTrace calls t).map Launch.request)) s.store
      (h.runCalls calls s).2.store ∧
    List.Forall₂ (SameEnding CallOutcome.DryRunOf) (h.runCalls calls s).1
      (h'.runCalls calls t).1 := by
  induction calls generalizing s t with
  | nil =>
    rw [callsTrace_nil]
    exact ⟨.refl _, .nil⟩
  | cons call rest ih =>
    rw [callsTrace_cons] at hanswered ⊢
    obtain ⟨hhead, htail⟩ := List.forall_mem_append.mp hanswered
    obtain ⟨hfile, hfiles⟩ := List.forall_mem_cons.mp hfiles
    obtain ⟨hfile', hfiles'⟩ := List.forall_mem_cons.mp hfiles'
    obtain ⟨hgrown, hending⟩ :=
      runCall_recorded hscript hconfig hargs call hapart hfile ⟨hhead, hfile'⟩
    obtain ⟨hmore, hendings⟩ :=
      ih ((hgrown.apart_iff _ _).mpr hapart) hfiles hfiles' htail
    rw [List.map_append, scriptLines, List.flatMap_append]
    exact ⟨hgrown.trans hmore, .cons hending hendings⟩

/-- Calls that are recorded leave a script that begins as a shell script does, and then has one line
for every command that the same calls launch with another launcher, in the same order. They end as
the others do, each case with as many tests, all of which passed if the case is valid. No file is
changed but the script and the list of variables, so no profiling data is collected.

Both runs meet no trouble with files, and the other launcher answers every launch. -/
theorem script_holds_launched_commands (h h' : Harness) (script : String) (calls : List Call)
    (store started : Store) (t : Session) (hscript : h.launcher = .recording script)
    (hconfig : h'.config = h.config) (hargs : h'.launcherArgs = h.launcherArgs)
    (hstart : Launcher.startScript store script = .ok started)
    (hapart : store.Apart script h.config.varsFile)
    (hfiles : ∀ r ∈ (h.runCalls calls (.start started)).1, Undisturbed r)
    (hfiles' : ∀ r ∈ (h'.runCalls calls t).1, Undisturbed r)
    (hanswered : ∀ l ∈ h'.callsTrace calls t, ∃ output, l.outcome = .ok output) :
    (h.runCalls calls (.start started)).2.store.read script =
      .ok (bytesOf ("#!/bin/sh\n\n" ++
        String.join ((h'.callsTrace calls t).map fun l => l.command.text ++ "\n"))) ∧
    List.Forall₂ (SameEnding CallOutcome.DryRunOf) (h.runCalls calls (.start started)).1
      (h'.runCalls calls t).1 ∧
    ∀ path, store.Apart path script → store.Apart path h.config.varsFile →
      (h.runCalls calls (.start started)).2.store.contents? path = store.contents? path := by
  have hwrite : store.write script (bytesOf Launcher.scriptHead) = .ok started :=
    mapError_eq_ok_iff.mp hstart
  have hapart' : started.Apart script h.config.varsFile := (Store.apart_of_modify hwrite).mpr hapart
  obtain ⟨hgrown, hendings⟩ := runCalls_recorded (s := .start started) hscript hconfig hargs calls
    hapart' hfiles hfiles' hanswered
  refine ⟨?_, hendings, fun path hpath hvars => ?_⟩
  · have hlines : scriptLines ((h'.callsTrace calls t).map Launch.request) =
        bytesOf (String.join ((h'.callsTrace calls t).map fun l => l.command.text ++ "\n")) := by
      rw [bytesOf_join, scriptLines, List.flatMap_map, List.flatMap_map]
      rfl
    rw [Store.read_eq_ok_iff, hgrown.script_eq _ (Store.contents?_of_modify hwrite), hlines,
      bytesOf_append]
    rfl
  · rw [hgrown.kept path ((Store.apart_of_modify hwrite).mpr hpath)
      ((Store.apart_of_modify hwrite).mpr hvars)]
    exact Store.contents?_of_modify_of_apart hwrite hpath

/-! ### A recorded rehearsal -/

/-- A harness with the standard configuration that records its commands. -/
def recorder : Harness where
  config := .standard
  launcher := .recording Config.standard.scriptPath
  launcherArgs := []
  profile := none
  printsText := false

lemma standard_scriptPath_isPlain : Store.IsPlain Config.standard.scriptPath where
  ne_nil := by decide
  no_slash := by decide
  no_nul := by decide
  ne_dot := by decide
  ne_dots := by decide
  short := by decide

/-- The script and the list of variables can be written. -/
def RecorderRun (store : Store) (_ : Array Launch) : Prop :=
  store.Writable Config.standard.scriptPath ∧ store.Writable Config.standard.varsFile

lemma recorder_smooth : recorder.Smooth RecorderRun where
  launch phase command store launches hgood := by
    obtain ⟨changed, happend, hkept⟩ := standard_scriptPath_isPlain.exists_modify hgood.1
      fun old => old ++ bytesOf (command.text ++ "\n")
    refine ⟨.recorded, changed, [], ?_, hkept _ hgood.1, hkept _ hgood.2⟩
    simp only [recorder, Launcher.recording, Store.append, happend]
  vars contents store launches hgood := by
    obtain ⟨changed, hwrite, hkept⟩ :=
      Config.standard_varsFile_isPlain.exists_modify hgood.2 fun _ => contents
    exact ⟨changed, hwrite, hkept _ hgood.1, hkept _ hgood.2⟩
  profile _ hprofile := by cases hprofile

lemma undisturbed_of_ok {α : Type} {results : List (Except Fault α)}
    (h : ∀ r ∈ results, ∃ a, r = .ok a) : ∀ r ∈ results, Undisturbed r := by
  rintro r hr path cause rfl
  obtain ⟨a, ⟨⟩⟩ := h _ hr

/-- A recorded case leaves a script of its write and its two reads. -/
theorem script_of_rehearsedCase :
    ∃ started, Launcher.startScript .empty Config.standard.scriptPath = .ok started ∧
      (recorder.runCalls [.case rehearsedCase] (.start started)).2.store.read
          Config.standard.scriptPath = .ok (bytesOf ("#!/bin/sh\n\n" ++
        "mpirun -np 4 ../../build/examples/idx_write -g 24x24x12 -l 12x12x12 -t 2 -v VARS -f data\n"
        ++ "mpirun -np 4 ../../build/examples/idx_read -g 24x24x12 -l 12x12x12 -t 0 -v 0 -f data\n"
        ++
        "mpirun -np 4 ../../build/examples/idx_read -g 24x24x12 -l 12x12x12 -t 1 -v 0 -f data\n")) := by
  have hempty : ∀ name, Store.empty.Writable name := Store.writable_empty
  obtain ⟨started, hwrite, hkept⟩ := standard_scriptPath_isPlain.exists_modify
    (hempty _) fun _ => bytesOf Launcher.scriptHead
  have hapart : Store.empty.Apart Config.standard.scriptPath Config.standard.varsFile := by
    intro place
    rw [standard_scriptPath_isPlain.target?_eq (hempty _),
      Config.standard_varsFile_isPlain.target?_eq (hempty _)]
    rintro ⟨⟩
    decide
  have hready : ∀ call ∈ [Call.case rehearsedCase], call.Ready Config.standard :=
    List.forall_mem_singleton.mpr rehearsedCase_ready
  obtain ⟨hresults, -⟩ := recorder_smooth.runCalls hready (.start started)
    ⟨hkept _ (hempty _), hkept _ (hempty _)⟩
  obtain ⟨hresults', -⟩ :=
    (rehearsal_steady 0 "").smooth.runCalls hready (.start .empty) steadyRun_start
  have hlaunched : (rehearsal 0 "").callsTrace [.case rehearsedCase] (.start .empty) =
      (rehearsedCase.requests .standard []).map fun r =>
        ⟨r.phase, r.command, .ok (rehearsedOutput 0 "" r.phase)⟩ := by
    obtain ⟨o, -, -, htrace⟩ := (rehearsal_steady 0 "").exists_run
      ((rehearsal 0 "").runCall_follows (.case rehearsedCase))
      fun hsmooth => hsmooth.runCall rehearsedCase_ready
    rw [callsTrace_cons, callsTrace_nil, List.append_nil, htrace]
    rfl
  have hanswered : ∀ l ∈ (rehearsal 0 "").callsTrace [.case rehearsedCase] (.start .empty),
      ∃ output, l.outcome = .ok output := by
    rw [hlaunched]
    exact List.forall_mem_map.mpr fun r _ => ⟨_, rfl⟩
  obtain ⟨hscript, -, -⟩ := script_holds_launched_commands recorder (rehearsal 0 "")
    Config.standard.scriptPath [.case rehearsedCase] .empty started (.start .empty) rfl rfl rfl
    (mapError_eq_ok_iff.mpr hwrite) hapart (undisturbed_of_ok hresults)
    (undisturbed_of_ok hresults') hanswered
  refine ⟨started, mapError_eq_ok_iff.mpr hwrite, hscript.trans ?_⟩
  rw [hlaunched]
  rfl

end Harness

end TileBench
