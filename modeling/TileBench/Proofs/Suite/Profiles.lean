import TileBench.Proofs.Launch.Capture
import TileBench.Proofs.Suite.SameRequests

/-!
# Collected profiles

What the executables tag as profiling data is collected as the launches are answered: the file of a
phase has the tagged lines of the outputs of that phase, in the order in which they came. Nothing
else is in it, and a phase without tagged lines has no file.
-/

namespace TileBench

open Text

/-- The result is no fault of a file of the profile. -/
def Profile.Untroubled {α : Type} (p : Profile) (result : Except Fault α) : Prop :=
  ∀ phase cause, result ≠ .error (.file (p.path phase) cause)

/-! ### Files of lines -/

/-- The file holds some lines, each with one newline. There is no file if there are no lines. -/
def Store.HoldsLines (s : Store) (path : String) (collected : List (List Char)) : Prop :=
  (s.isFile path = true ↔ collected ≠ []) ∧
    (collected ≠ [] → s.read path = .ok (encode (collected.flatMap fun line => line ++ ['\n'])))

lemma Profile.Separate.holdsLines {p : Profile} {others : List String} {s : Store} {phase : Phase}
    {collected : List (List Char)} (hs : p.Separate others s)
    (hcontents : s.contents? (p.path phase) = linesAdded none collected) :
    s.HoldsLines (p.path phase) collected := by
  refine ⟨?_, fun hsome => ?_⟩
  · rw [Store.isFile_iff, or_iff_left (hs.unsealed phase), hcontents, linesAdded]
    split_ifs with hempty <;> simp [hempty]
  · rw [Store.read_eq_ok_iff, hcontents, linesAdded, if_neg hsome]
    rfl

/-! ### Steps that collect -/

namespace Step

variable {α β : Type} {p : Profile} {others : List String} {owed : Phase → List (List Char)}
  {x : Step α} {f : α → Step β}

/-- Unless a file of the profile gives trouble, the step adds to each of them what is owed to it, and
then what its own launches bring. Between a launch and the end of its collection its lines are
owed. -/
structure Collects (p : Profile) (others : List String) (owed : Phase → List (List Char))
    (x : Step α) : Prop where
  grows : Grows x
  collected : ∀ s : Session, p.Separate others s.store → p.Untroubled (x.run s).1 →
    p.Separate others (x.run s).2.store ∧
    ∀ phase, (x.run s).2.store.contents? (p.path phase) =
      linesAdded (s.store.contents? (p.path phase)) (owed phase ++ profileLines phase (x.trace s))

/-- Nothing is owed to any phase. -/
def settled : Phase → List (List Char) := fun _ => []

lemma quiet_of_idle (hx : ∀ good, Succeeds good x) : Quiet x := by
  intro s
  obtain ⟨a, t, hrun, -, hlaunches⟩ := exists_run_of_idle hx s
  rw [hrun, hlaunches]

/-- What is owed may be added later. -/
lemma Collects.after_idle (hx : ∀ good, Succeeds good x) (hf : ∀ a, Collects p others owed (f a)) :
    Collects p others owed (x >>= f) := by
  have hquiet := quiet_of_idle hx
  refine ⟨hquiet.grows.bind fun a => (hf a).grows, fun s hs htrouble => ?_⟩
  obtain ⟨a, t, hrun, hstore, -⟩ := exists_run_of_idle hx s
  rw [run_bind, hrun] at htrouble ⊢
  rw [trace_bind_of_ok hquiet.grows (fun a => (hf a).grows) hrun, hquiet.trace_eq, ← hstore]
  exact (hf a).collected t (hstore ▸ hs) htrouble

lemma collects_idle (hx : ∀ good, Succeeds good x) : Collects p others settled x := by
  have hquiet := quiet_of_idle hx
  refine ⟨hquiet.grows, fun s hs _ => ?_⟩
  obtain ⟨a, t, hrun, hstore, -⟩ := exists_run_of_idle hx s
  rw [hrun, hquiet.trace_eq, hstore]
  exact ⟨hs, fun _ => rfl⟩

/-- What is owed is added by the first of two steps. -/
lemma Collects.bind (hx : Collects p others owed x) (hf : ∀ a, Collects p others settled (f a)) :
    Collects p others owed (x >>= f) := by
  refine ⟨hx.grows.bind fun a => (hf a).grows, fun s hs htrouble => ?_⟩
  have hhead := hx.collected s hs
  rcases hrun : x.run s with ⟨fault | a, t⟩ <;> rw [hrun] at hhead <;>
    rw [run_bind, hrun] at htrouble ⊢
  · rw [trace_bind_of_error hrun]
    refine hhead ?_
    rintro phase cause ⟨⟩
    exact htrouble phase cause rfl
  · obtain ⟨ht, hcontents⟩ := hhead nofun
    obtain ⟨hlast, hmore⟩ := (hf a).collected t ht htrouble
    refine ⟨hlast, fun phase => ?_⟩
    rw [trace_bind_of_ok hx.grows (fun a => (hf a).grows) hrun, hmore, hcontents,
      ← linesAdded_append, profileLines_append, List.append_assoc]
    rfl

lemma Collects.after_ofExcept {e : Except Fault α}
    (hf : ∀ a, e = .ok a → Collects p others settled (f a)) :
    Collects p others settled (ofExcept e >>= f) := by
  rcases e with fault | a
  · have hquiet := quiet_error_bind fault f
    refine ⟨hquiet.grows, fun s hs _ => ?_⟩
    rw [hquiet.trace_eq, run_error_bind]
    exact ⟨hs, fun _ => rfl⟩
  · exact hf a rfl

/-- After a launch its profiling data is owed. -/
lemma collects_launch {launcher : Launcher} (hspares : launcher.Spares p others) (phase : Phase)
    (command : Command) {f : Output → Step β}
    (hf : ∀ output, Collects p others (output.brings phase) (f output)) :
    Collects p others settled (launch launcher phase command >>= f) := by
  have hgrows := (follows_launch launcher phase command).grows
  refine ⟨hgrows.bind fun output => (hf output).grows, fun s hs htrouble => ?_⟩
  obtain ⟨hleft, hcontents⟩ := hspares s.launches phase command s.store hs
  have htrace := trace_launch launcher phase command s
  obtain ⟨t, hrun, hstore⟩ : ∃ t, (launch launcher phase command).run s =
        ((launcher.answer s.launches phase command s.store).outcome, t) ∧
      t.store = (launcher.answer s.launches phase command s.store).store :=
    ⟨_, run_launch launcher phase command s, rfl⟩
  rw [← hstore] at hleft hcontents
  cases houtcome : (launcher.answer s.launches phase command s.store).outcome <;>
    rw [houtcome] at hrun htrace <;> rw [run_bind, hrun] at htrouble ⊢
  case error fault =>
    rw [trace_bind_of_error hrun, htrace]
    refine ⟨hleft, fun other => ?_⟩
    rw [hcontents, profileLines_of_error]
    rfl
  case ok output =>
    obtain ⟨hlast, hmore⟩ := (hf output).collected t hleft htrouble
    refine ⟨hlast, fun other => ?_⟩
    rw [trace_bind_of_ok hgrows (fun output => (hf output).grows) hrun, htrace, hmore, hcontents,
      profileLines_append, profileLines_of_ok]
    rfl

end Step

namespace Harness

open Step

variable {h : Harness} {p : Profile} {others : List String}

lemma collects_capture (hprofile : h.profile = some p) (phase : Phase) (output : Output) :
    Collects p others (output.brings phase) (h.capture phase output) := by
  have hquiet := h.quiet_capture phase output
  refine ⟨hquiet.grows, fun s hs htrouble => ?_⟩
  rw [hquiet.trace_eq]
  simp only [capture, hprofile, run_changeStore] at htrouble ⊢
  cases hcapture : Profile.capture s.store (p.path phase) output.text with
  | ok t =>
    obtain ⟨ht, hcontents⟩ := hs.of_capture hcapture
    refine ⟨ht, fun other => (hcontents other).trans ?_⟩
    rw [profileLines, List.filterMap_nil, List.flatMap_nil, List.append_nil]
  | error fault =>
    rw [hcapture] at htrouble
    obtain ⟨cause, rfl⟩ := exists_cause_of_capture hcapture
    exact absurd rfl (htrouble phase cause)

lemma collects_perform (hprofile : h.profile = some p) (hspares : h.launcher.Spares p others)
    (phase : Phase) (command : Command) {judge : Output → Step Unit}
    (hjudge : ∀ good output, Succeeds good (judge output)) :
    Collects p others settled (h.perform phase command judge) := by
  unfold perform
  refine Collects.after_idle (fun _ => succeeds_tell _) fun _ => ?_
  refine collects_launch hspares phase command fun output => ?_
  refine Collects.after_idle (fun good => hjudge good output) fun _ => ?_
  exact (collects_capture hprofile phase output).bind fun _ => collects_idle fun _ => succeeds_pure _

lemma collects_writeVars (hvars : h.config.varsFile ∈ others) (c : Case) :
    Collects p others settled (h.writeVars c) := by
  have hquiet := h.quiet_writeVars c
  refine ⟨hquiet.grows, fun s hs _ => ?_⟩
  rw [hquiet.trace_eq, writeVars, run_changeStore]
  cases hwrite : s.store.write h.config.varsFile (bytesOf (varList c.vars c.varType c.varType)) with
  | ok t => exact ⟨hs.of_modify hwrite, fun phase => hs.contents?_eq hvars hwrite phase⟩
  | error cause => exact ⟨hs, fun _ => rfl⟩

/-- Every step of a harness that collects profiling data does so. -/
lemma paired_collects (hprofile : h.profile = some p) (hspares : h.launcher.Spares p others)
    (hvars : h.config.varsFile ∈ others) :
    Paired (fun x _ => Collects p others settled x) h h where
  config := rfl
  launcherArgs := rfl
  pure _ _ := collects_idle fun _ => succeeds_pure _
  bind hx hf := hx.bind fun a => hf a a
  after_ofExcept hf := Collects.after_ofExcept hf
  say p _ _ _ lines _ := by
    split
    · exact collects_idle fun _ => say_succeeds lines
    · exact collects_idle fun _ => succeeds_pure ()
  tell _ := collects_idle fun _ => succeeds_tell _
  writeVars c := collects_writeVars hvars c
  write command := collects_perform hprofile hspares .write command fun _ => judgeWrite_succeeds
  read command := collects_perform hprofile hspares .read command fun _ _ => succeeds_pure ()

/-! ### Calls and series -/

lemma runCalls_collected (hprofile : h.profile = some p) (hspares : h.launcher.Spares p others)
    (hvars : h.config.varsFile ∈ others) (calls : List Call) {s : Session}
    (hs : p.Separate others s.store) (htrouble : ∀ r ∈ (h.runCalls calls s).1, p.Untroubled r) :
    p.Separate others (h.runCalls calls s).2.store ∧
    ∀ phase, (h.runCalls calls s).2.store.contents? (p.path phase) =
      linesAdded (s.store.contents? (p.path phase)) (profileLines phase (h.callsTrace calls s)) := by
  induction calls generalizing s with
  | nil =>
    rw [callsTrace_nil]
    exact ⟨hs, fun _ => rfl⟩
  | cons call rest ih =>
    obtain ⟨hhead, hrest⟩ := List.forall_mem_cons.mp htrouble
    obtain ⟨ht, hcontents⟩ :=
      ((paired_collects hprofile hspares hvars).runCall call).collected s hs hhead
    obtain ⟨hlast, hmore⟩ := ih ht hrest
    refine ⟨hlast, fun phase => ?_⟩
    rw [callsTrace_cons, profileLines_append, linesAdded_append]
    refine (hmore phase).trans ?_
    rw [hcontents]
    rfl

/-- After a reset, the file of a phase has the tagged lines of the outputs that answered the launches
of the phase, each with one newline, in the order of the launches and of the lines in each output.
There is no such file if there are no such lines.

The list of variables and the files of the launcher are kept apart from those of the profile, the
launcher leaves the latter alone, and they give no trouble; what else ends a call does not matter. -/
theorem profile_holds_tagged_lines (h : Harness) (stem : String) (others : List String)
    (calls : List Call) (s t : Session) (hprofile : h.profile = some (.ofPrefix stem))
    (hreset : (Step.changeStoreKeeping (Profile.ofPrefix stem).reset).run s = (.ok (), t))
    (hvars : h.config.varsFile ∈ others)
    (hapart : ∀ phase, ∀ path ∈ others, t.store.Apart ((Profile.ofPrefix stem).path phase) path)
    (hspares : h.launcher.Spares (.ofPrefix stem) others)
    (hfiles : ∀ r ∈ (h.runCalls calls t).1, (Profile.ofPrefix stem).Untroubled r) (phase : Phase) :
    let path := stem ++ (match phase with | .write => "_write.prof" | .read => "_read.prof")
    let collected := profileLines phase (h.callsTrace calls t)
    let text := collected.flatMap fun line => line ++ ['\n']
    let store := (h.runCalls calls t).2.store
    (store.isFile path = true ↔ collected ≠ []) ∧
      (collected ≠ [] → store.read path = .ok (encode text)) ∧ rows '\n' text = (collected, []) := by
  intro path collected text store
  rw [Step.run_changeStoreKeeping] at hreset
  obtain ⟨hresult, rfl⟩ := Prod.mk.inj hreset
  obtain ⟨hphases, hvacant⟩ := Profile.of_reset (Prod.ext hresult rfl)
  obtain ⟨hseparate, hadded⟩ := runCalls_collected hprofile hspares hvars calls
    ⟨hphases, hapart, fun other => (hvacant other).2⟩ hfiles
  have hpath : path = (Profile.ofPrefix stem).path phase := by cases phase <;> rfl
  obtain ⟨hfile, hread⟩ : store.HoldsLines path collected := by
    rw [hpath]
    refine hseparate.holdsLines ?_
    rw [← (hvacant phase).1]
    exact hadded phase
  refine ⟨hfile, hread, rows_flatMap_newline fun line hline => ?_⟩
  exact newline_not_mem_of_mem_profileLines hline

/-- After a reset, a series leaves the tagged lines of its own outputs. -/
theorem holdsLines_runSeries {stem : String} {before : Store} {s : Session}
    (hprofile : h.profile = some (.ofPrefix stem))
    (hreset : (Profile.ofPrefix stem).reset before = (.ok (), s.store))
    (hvars : h.config.varsFile ∈ others)
    (hapart : ∀ phase, ∀ path ∈ others, s.store.Apart ((Profile.ofPrefix stem).path phase) path)
    (hspares : h.launcher.Spares (.ofPrefix stem) others) (series : List (SuiteKind × SuitePlan))
    (hfiles : (Profile.ofPrefix stem).Untroubled ((h.runSeries series).run s).1) (phase : Phase) :
    ((h.runSeries series).run s).2.store.HoldsLines ((Profile.ofPrefix stem).path phase)
      (profileLines phase ((h.runSeries series).trace s)) := by
  obtain ⟨hphases, hvacant⟩ := Profile.of_reset hreset
  obtain ⟨hseparate, hadded⟩ :=
    ((paired_collects hprofile hspares hvars).runSeries series).collected s
      ⟨hphases, hapart, fun other => (hvacant other).2⟩ hfiles
  refine hseparate.holdsLines ?_
  rw [hadded phase, (hvacant phase).1]
  rfl

/-! ### A collecting rehearsal -/

/-- Two tagged lines. The first one ends with a carriage return and a newline, the last one with
nothing. -/
def taggedReport : String := "IRPIWCCHHAI 1\r\nnoise\nIRPIWCCHHAI 2"

/-- A rehearsal that collects what its reads are tagged with. -/
def profiler : Harness := { rehearsal 0 taggedReport with profile := some (.ofPrefix "run") }

lemma profiler_path_isPlain (phase : Phase) :
    Store.IsPlain ((Profile.ofPrefix "run").path phase) := by
  cases phase <;> constructor <;> decide

/-- The list of variables and the files of the profile can be written. -/
def ProfilerRun (store : Store) (launches : Array Launch) : Prop :=
  (rehearsal 0 taggedReport).SteadyRun (rehearsedOutput 0 taggedReport) store launches ∧
    ∀ phase, store.Writable ((Profile.ofPrefix "run").path phase)

lemma profiler_smooth : profiler.Smooth ProfilerRun where
  launch phase command store launches hgood := by
    have hanswer := (rehearsal_steady 0 taggedReport).answer launches phase command store
    obtain ⟨output, changed, events, hsame, hchanged⟩ :=
      (rehearsal_steady 0 taggedReport).smooth.launch phase command store launches hgood.1
    cases hanswer.symm.trans hsame
    exact ⟨_, _, _, hanswer, hchanged, hgood.2⟩
  vars contents store launches hgood := by
    obtain ⟨changed, hwrite, hkept⟩ :=
      Config.standard_varsFile_isPlain.exists_modify hgood.1.1 fun _ => contents
    exact ⟨changed, hwrite, ⟨hkept _ hgood.1.1, hgood.1.2⟩, fun phase => hkept _ (hgood.2 phase)⟩
  profile profile hprofile phase output store launches hgood := by
    cases hprofile
    unfold Profile.capture
    split
    · exact ⟨store, rfl, hgood⟩
    · obtain ⟨changed, happend, hkept⟩ := (profiler_path_isPlain phase).exists_modify
        (hgood.2 phase) fun old => old ++ encode (Profile.excerpt output)
      exact ⟨changed, mapError_eq_ok_iff.mpr happend, ⟨hkept _ hgood.1.1, hgood.1.2⟩,
        fun phase => hkept _ (hgood.2 phase)⟩

lemma profilerRun_start : ProfilerRun .empty #[] :=
  ⟨steadyRun_start, fun _ => Store.writable_empty _⟩

/-- Without files there is nothing to be reset. -/
lemma run_reset_start :
    (Step.changeStoreKeeping (Profile.ofPrefix "run").reset).run (.start .empty) =
      (.ok (), .start .empty) := by
  have hdiscard : ∀ phase, Profile.discard .empty ((Profile.ofPrefix "run").path phase) =
      .ok .empty := by
    intro phase
    rw [Profile.discard, (profiler_path_isPlain phase).delete_of_missing
      rfl]
  have hwrite := hdiscard .write
  have hread := hdiscard .read
  simp only [Profile.path] at hwrite hread
  simp only [Step.run_changeStoreKeeping, Profile.reset, Session.start, hwrite, hread]

lemma profiler_trace : profiler.callsTrace [.case rehearsedCase] (.start .empty) =
    (rehearsedCase.requests .standard []).map fun r =>
      ⟨r.phase, r.command, .ok (rehearsedOutput 0 taggedReport r.phase)⟩ := by
  have hready : (Call.case rehearsedCase).Ready profiler.config := rehearsedCase_ready
  obtain ⟨o, -, -, htrace⟩ := (profiler_smooth.runCall hready).exists_run
    (fun _ _ hgood => hgood.1.2) profilerRun_start (profiler.runCall_follows (.case rehearsedCase))
  rw [callsTrace_cons, callsTrace_nil, List.append_nil, htrace]
  rfl

/-- The reads of a case leave their tagged lines, and its write leaves none. -/
theorem profile_of_rehearsedCase :
    let store := (profiler.runCalls [.case rehearsedCase] (.start .empty)).2.store
    store.read "run_read.prof" = .ok (bytesOf
      "IRPIWCCHHAI 1\nIRPIWCCHHAI 2\nIRPIWCCHHAI 1\nIRPIWCCHHAI 2\n") ∧
      store.isFile "run_write.prof" = false := by
  have hready : ∀ call ∈ [Call.case rehearsedCase], call.Ready Config.standard :=
    List.forall_mem_singleton.mpr rehearsedCase_ready
  obtain ⟨hresults, -⟩ := profiler_smooth.runCalls hready (.start .empty) profilerRun_start
  have hapart : ∀ phase, ∀ path ∈ [Config.standard.varsFile],
      Store.empty.Apart ((Profile.ofPrefix "run").path phase) path := by
    intro phase path hpath
    rw [List.mem_singleton.mp hpath]
    exact (profiler_path_isPlain phase).apart Config.standard_varsFile_isPlain
      (Store.writable_empty _) (Store.writable_empty _) (by cases phase <;> decide)
  have hfiles : ∀ r ∈ (profiler.runCalls [.case rehearsedCase] (.start .empty)).1,
      (Profile.ofPrefix "run").Untroubled r := by
    rintro r hr phase cause rfl
    obtain ⟨o, ⟨⟩⟩ := hresults _ hr
  have hholds := profile_holds_tagged_lines profiler "run" [Config.standard.varsFile]
    [.case rehearsedCase] (.start .empty) (.start .empty) rfl run_reset_start List.mem_cons_self
    hapart (Launcher.rehearsed_spares _ _ _) hfiles
  rw [profiler_trace] at hholds
  obtain ⟨-, hread, -⟩ := hholds .read
  obtain ⟨hwrite, -, -⟩ := hholds .write
  refine ⟨(hread (by decide)).trans rfl, ?_⟩
  rw [← Bool.not_eq_true]
  exact hwrite.not.mpr (by decide)

end Harness

end TileBench
