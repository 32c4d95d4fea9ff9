import TileBench.Proofs.Bench.Conclusion
import TileBench.Proofs.Suite.Answers
import TileBench.Proofs.Suite.EarlyFaults
import TileBench.Proofs.Suite.Profiles

/-!
# The test program

The test program has two launchers: one records commands and one runs them. What holds of a harness
with any launcher holds of the program with its own, once what it asks of a launcher is known of
both: so the configuration is blamed in time, and the profile has the tagged lines of the outputs.
The exit code of the program is found from the reads of its series of suites.
-/

namespace TileBench.Bench

open Text

def launcherOf (e : Surroundings) (a : Arguments) (c : Config) : Launcher :=
  if a.scriptMode then .recording c.scriptPath else .process e.programs c.logFile

lemma launcherOf_neutral (e : Surroundings) (a : Arguments) (c : Config) :
    (launcherOf e a c).Neutral := by
  unfold launcherOf
  split
  · exact Launcher.recording_neutral _
  · exact Launcher.process_neutral _ _

variable {e : Surroundings} {a : Arguments} {launcherArgs : List String} {h : Harness}
  {suites : List SuiteOutcome} {r t : Session}

lemma readyLauncher_eq_ok {c : Config} {launcher : Launcher}
    (h : (readyLauncher e.programs a c).run r = (.ok launcher, t)) : launcher = launcherOf e a c := by
  unfold readyLauncher at h
  unfold launcherOf
  split at h
  · rename_i hscript
    obtain ⟨_, _, -, h⟩ := Step.run_bind_eq_ok_iff.mp h
    obtain ⟨_, _, -, ⟨⟩⟩ := Step.run_bind_eq_ok_iff.mp h
    rw [if_pos hscript]
  · rename_i hscript
    cases h
    rw [if_neg hscript]

lemma readyProfile_eq_ok {found : Option Profile}
    (h : (readyProfile a).run r = (.ok found, t)) :
    found = a.profile.map Profile.ofPrefix ∧
      ∀ stem, a.profile = some stem → (Profile.ofPrefix stem).reset r.store = (.ok (), t.store) := by
  unfold readyProfile at h
  cases hstem : a.profile with
  | none =>
    rw [hstem] at h
    cases h
    exact ⟨rfl, nofun⟩
  | some stem =>
    rw [hstem] at h
    obtain ⟨_, _, hreset, ⟨⟩⟩ := Step.run_bind_eq_ok_iff.mp h
    rw [Step.run_changeStoreKeeping] at hreset
    obtain ⟨hresult, rfl⟩ := Prod.mk.inj hreset
    refine ⟨rfl, ?_⟩
    rintro _ ⟨⟩
    exact Prod.ext hresult rfl

/-- What the program conducts is its series, with its launcher, once its profile is reset. -/
lemma exists_runSeries_of_conduct (hrun : (conduct e a launcherArgs).run r = (.ok (h, suites), t)) :
    h.launcher = launcherOf e a h.config ∧ h.launcherArgs = launcherArgs ∧
    h.profile = a.profile.map Profile.ofPrefix ∧
    ∃ before s, (h.runSeries (series h.config a h.config.varTypes)).run s = (.ok suites, t) ∧
      ∀ stem, a.profile = some stem → (Profile.ofPrefix stem).reset before = (.ok (), s.store) := by
  unfold conduct at hrun
  obtain ⟨_, _, ⟨⟩, hrun⟩ := Step.run_bind_eq_ok_iff.mp hrun
  obtain ⟨c, _, -, hrun⟩ := Step.run_bind_eq_ok_iff.mp hrun
  obtain ⟨launcher, u, hlauncher, hrun⟩ := Step.run_bind_eq_ok_iff.mp hrun
  obtain ⟨profile, v, hprofile, hrun⟩ := Step.run_bind_eq_ok_iff.mp hrun
  obtain ⟨_, s, hsay, hrun⟩ := Step.run_bind_eq_ok_iff.mp hrun
  obtain ⟨found, _, hsuites, ⟨⟩⟩ := Step.run_bind_eq_ok_iff.mp hrun
  rw [runSuites_eq_runSeries] at hsuites
  rw [run_say] at hsay
  obtain ⟨-, rfl⟩ := Prod.mk.inj hsay
  obtain ⟨hfound, hreset⟩ := readyProfile_eq_ok hprofile
  exact ⟨readyLauncher_eq_ok hlauncher, rfl, hfound, u.store, _, hsuites, hreset⟩

/-! ### Faults of the configuration -/

/-- If the program blames the configuration while it runs its series, it stopped between two suites:
nothing was launched or written since the last one ended. -/
theorem series_blames_configuration (hlauncher : h.launcher = launcherOf e a h.config)
    (harranges : h.config.procs.Arranges a.writers) (hpatch : h.config.patch.Positive)
    (hcomponents : ∀ varType ∈ h.config.varTypes, 0 < varType.components.toNat) {fault : Fault}
    (hrun : (h.runSeries (series h.config a h.config.varTypes)).run r = (.error fault, t))
    (hfault : fault.IsConfiguration) :
    ∃ front entry back suites u,
      series h.config a h.config.varTypes = front ++ entry :: back ∧
      (h.runSeries front).run r = (.ok suites, u) ∧ t.launches = u.launches ∧
      t.store = u.store := by
  refine Harness.runSeries_blames (hlauncher ▸ launcherOf_neutral e a h.config) ?_ hrun hfault
  rintro ⟨kind, p⟩ hentry
  obtain ⟨varType, hvarType, hplan⟩ := List.mem_flatMap.mp hentry
  obtain rfl : p = ⟨a.writers, a.readers, varType, h.config.vars, h.config.timesteps⟩ := by
    rcases List.mem_cons.mp hplan with hfirst | hsecond
    · exact congrArg Prod.snd hfirst
    · split at hsecond
      · exact congrArg Prod.snd (List.mem_singleton.mp hsecond)
      · cases hsecond
  exact ⟨harranges, hpatch, hcomponents varType hvarType⟩

/-! ### Profiles -/

/-- What the program writes while it runs its series, besides its profile. -/
def ownFiles (a : Arguments) (c : Config) : List String :=
  c.varsFile :: if a.scriptMode then [c.scriptPath] else [c.logFile .write, c.logFile .read]

/-- The launcher of the program spares a profile, provided that the programs that it starts do. -/
lemma launcherOf_spares {c : Config} {p : Profile}
    (hprograms : a.scriptMode = false → e.programs.Spare p (ownFiles a c)) :
    (launcherOf e a c).Spares p (ownFiles a c) := by
  unfold launcherOf
  split
  · rename_i hscript
    refine Launcher.recording_spares ?_
    simp [ownFiles, hscript]
  · rename_i hscript
    refine Launcher.process_spares (fun phase => ?_) (hprograms (by simpa using hscript))
    cases phase <;> simp [ownFiles, hscript]

/-- At the end of its series the program has left the tagged lines of its own outputs in its profile,
and nothing else. -/
theorem profile_of_conduct {stem : String} (hstem : a.profile = some stem)
    (hrun : (conduct e a launcherArgs).run r = (.ok (h, suites), t))
    (hprograms : a.scriptMode = false → e.programs.Spare (.ofPrefix stem) (ownFiles a h.config)) :
    ∃ s, (h.runSeries (series h.config a h.config.varTypes)).run s = (.ok suites, t) ∧
      ((∀ phase, ∀ path ∈ ownFiles a h.config,
        s.store.Apart ((Profile.ofPrefix stem).path phase) path) →
      ∀ phase, t.store.HoldsLines ((Profile.ofPrefix stem).path phase)
        (profileLines phase ((h.runSeries (series h.config a h.config.varTypes)).trace s))) := by
  obtain ⟨hlauncher, -, hprofile, before, s, hseries, hreset⟩ := exists_runSeries_of_conduct hrun
  refine ⟨s, hseries, fun hapart phase => ?_⟩
  have hspares : h.launcher.Spares (.ofPrefix stem) (ownFiles a h.config) :=
    hlauncher ▸ launcherOf_spares hprograms
  have hholds := Harness.holdsLines_runSeries (hprofile.trans (by rw [hstem]; rfl))
    (hreset stem hstem) List.mem_cons_self hapart hspares
    (series h.config a h.config.varTypes) (by rw [hseries]; nofun) phase
  rwa [hseries] at hholds

/-- A script is recorded without any output. -/
lemma profileLines_of_scriptMode (hscript : a.scriptMode = true)
    (hlauncher : h.launcher = launcherOf e a h.config) (plan : List (SuiteKind × SuitePlan))
    (s : Session) (phase : Phase) : profileLines phase ((h.runSeries plan).trace s) = [] := by
  refine List.flatMap_eq_nil_iff.mpr fun output houtput => ?_
  obtain ⟨l, hl, hanswer⟩ := List.mem_filterMap.mp houtput
  obtain ⟨-, houtcome⟩ := Option.ite_none_right_eq_some.mp hanswer
  obtain ⟨history, store, hlaunched⟩ := (h.runSeries_answered plan).answered s l hl
  rw [hlauncher, launcherOf, if_pos hscript] at hlaunched
  cases hok : l.outcome with
  | error fault =>
    rw [hok] at houtcome
    cases houtcome
  | ok found =>
    rw [hok] at houtcome
    cases houtcome
    obtain rfl := Launcher.eq_recorded_of_recording (hlaunched.symm.trans hok)
    rfl

/-- In script mode the program leaves no profile. -/
theorem no_profile_of_scriptMode {stem : String} (hscript : a.scriptMode = true)
    (hstem : a.profile = some stem)
    (hrun : (conduct e a launcherArgs).run r = (.ok (h, suites), t)) :
    ∃ s, (h.runSeries (series h.config a h.config.varTypes)).run s = (.ok suites, t) ∧
      ((∀ phase, ∀ path ∈ [h.config.varsFile, h.config.scriptPath],
        s.store.Apart ((Profile.ofPrefix stem).path phase) path) →
      ∀ phase, t.store.isFile ((Profile.ofPrefix stem).path phase) = false) := by
  have hfiles : ownFiles a h.config = [h.config.varsFile, h.config.scriptPath] := by
    rw [ownFiles, if_pos hscript]
  obtain ⟨s, hseries, hholds⟩ := profile_of_conduct hstem hrun (by simp [hscript])
  refine ⟨s, hseries, fun hapart phase => ?_⟩
  obtain ⟨hfile, -⟩ := hholds (hfiles ▸ hapart) phase
  obtain ⟨hlauncher, -⟩ := exists_runSeries_of_conduct hrun
  rw [profileLines_of_scriptMode hscript hlauncher] at hfile
  rw [← Bool.not_eq_true]
  exact hfile.not.mpr (by simp)

/-! ### The exit code -/

/-- The program ends with 2 and a complaint if its run meets a fault. Otherwise its series was run to
the end, and as long as there are fewer than 2³² reads and invalid cases the exit code tells how many
tests failed: it is zero exactly if no case is invalid and every executed read passed. -/
theorem exitCode_of_runProgram {args : List String} {store : Store} {done : Completion}
    (hdone : runProgram e args store = .ok done) :
    ∃ a options, Arguments.parseAll args = .ok (a, options) ∧
      ((∃ fault t, (run e (e.stamp programName args) a options.launcherArgs).run (.start store) =
          (.error fault, t) ∧ done.exitCode = 2 ∧ done.complaints = fault.complaints) ∨
      ∃ (h : Harness) (suites : List SuiteOutcome) (s t : Session),
        h.launcher = launcherOf e a h.config ∧ h.launcherArgs = options.launcherArgs ∧
        (h.runSeries (series h.config a h.config.varTypes)).run s = (.ok suites, t) ∧
        (((h.runSeries (series h.config a h.config.varTypes)).trace s).countP
            (fun l => l.phase = .read) +
          (suites.flatMap SuiteOutcome.cases).countP (fun o => o.invalid.isSome) < 2 ^ 32 →
        done.exitCode.toNat =
          min (((suites.flatMap SuiteOutcome.cases).map fun o => o.failures.toNat).sum) 255 ∧
        (done.exitCode = 0 ↔ ∀ suite ∈ suites, ∀ o ∈ suite.cases, o.invalid = none ∧
          ∀ g ∈ o.grids, ∀ r ∈ g.reads, ∀ v, r.verdict = some v → v.passed = true))) := by
  obtain ⟨⟨a, options⟩, hargs, hdone⟩ := bind_eq_ok_iff.mp hdone
  refine ⟨a, options, hargs, ?_⟩
  generalize hstamp : e.stamp programName args = stamp at hdone ⊢
  rcases hrun : (run e stamp a options.launcherArgs).run (.start store) with
    ⟨fault | ⟨failures, complaints⟩, u⟩ <;> simp only [hrun] at hdone <;> cases hdone
  · exact .inl ⟨fault, u, rfl, rfl, rfl⟩
  · rw [run_eq, Step.run_bind_eq_ok_iff] at hrun
    obtain ⟨⟨h, suites⟩, t, hconduct, hconclude⟩ := hrun
    obtain ⟨hlauncher, hlauncherArgs, -, -, s, hseries, -⟩ :=
      exists_runSeries_of_conduct hconduct
    refine .inr ⟨h, suites, s, t, hlauncher, hlauncherArgs, hseries, fun hcount => ?_⟩
    obtain ⟨_, _, hlast, -⟩ := exists_run_conclude stamp a h suites t
    obtain ⟨⟨rfl, -⟩, -⟩ := Prod.mk.inj (hconclude.symm.trans hlast) |>.imp_left
      fun hvalue => Prod.mk.inj (Except.ok.inj hvalue)
    obtain ⟨-, -, hreports⟩ :=
      ((h.runSeries_follows _).trace s).2.2 suites (congrArg Prod.fst hseries)
    exact Totals.exitCode_of_fits (hreports.sum_testCount_le.trans_lt hcount)

end TileBench.Bench
