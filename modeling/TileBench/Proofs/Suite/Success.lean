import TileBench.Proofs.Session.Success
import TileBench.Proofs.Store.Destinations
import TileBench.Proofs.Suite.Series

/-!
# Runs that meet no fault

A run of the harness can meet a fault of its surroundings in three places: the launcher, the list of
variables and the files for profiling data. A case that is *ready* meets no other, so it has an
outcome if they give none. A harness is *steady* if it never meets one, because its launcher gives
one output for each phase.
-/

namespace TileBench

/-- The grids of the readers are known, and so is the number of samples. -/
def Case.Ready (c : Case) (config : Config) : Prop :=
  (∃ grids, config.procs.grids c.readers = .ok grids) ∧ ∃ n, c.expectedSamples = .ok n

/-- The cases of a suite can be made, and are ready. -/
structure SuitePlan.Ready (p : SuitePlan) (config : Config) (kind : SuiteKind) : Prop where
  grids : ∃ grids, config.procs.grids p.writers = .ok grids
  fixedBox : kind = .fixedBox →
    ∃ cases, (config.procs.defaultGrid p.writers >>= p.fixedBoxCases) = .ok cases
  cases : ∀ made ∈ p.cases config kind, ∃ c : Case, made = .ok c ∧ c.Ready config

lemma Config.standard_varsFile_isPlain : Store.IsPlain Config.standard.varsFile where
  ne_nil := by decide
  no_slash := by decide
  no_nul := by decide
  ne_dot := by decide
  ne_dots := by decide
  short := by decide

namespace Step

/-- A step that succeeds while every launch is answered with the output of its phase launches its
plan, answered with the outputs of the phases. -/
lemma Succeeds.exists_run {good : Store → Array Launch → Prop} {output : Phase → Output}
    {store : Store} {α : Type} {step : Step α} {plan : List Request}
    {post : α → List Launch → Prop} (hsucceeds : Succeeds good step)
    (hanswered : ∀ store launches, good store launches →
      ∀ l ∈ launches, l.outcome = .ok (output l.phase))
    (hgood : good store #[]) (hfollows : Follows step plan post) :
    ∃ a, (step.run (.start store)).1 = .ok a ∧ post a (step.trace (.start store)) ∧
      step.trace (.start store) =
        plan.map fun r => ⟨r.phase, r.command, .ok (output r.phase)⟩ := by
  obtain ⟨a, t, hrun, hlast⟩ := hsucceeds (.start store) hgood
  obtain ⟨hgrow, -, hok⟩ := hfollows.trace (.start store)
  obtain ⟨hplan, hpost⟩ := hok a (by rw [hrun])
  refine ⟨a, by rw [hrun], hpost, ?_⟩
  have houtcomes : ∀ l ∈ step.trace (.start store),
      (⟨l.phase, l.command, .ok (output l.phase)⟩ : Launch) = l := by
    intro l hl
    have hmem : l ∈ t.launches := by
      rw [hrun] at hgrow
      rw [← Array.mem_toList_iff, hgrow]
      exact List.mem_append_right _ hl
    rw [← hanswered _ _ hlast l hmem]
  rw [← hplan, List.map_map]
  exact (List.map_congr_left houtcomes).trans (List.map_id _) |>.symm

end Step

namespace Harness

open Step

variable {h : Harness} {good : Store → Array Launch → Prop} {allowed : Fault → Prop}

/-- The three steps in which the harness can meet a fault of its surroundings keep to the allowed
ones. -/
structure Confined (h : Harness) (good : Store → Array Launch → Prop) (allowed : Fault → Prop) :
    Prop where
  launch : ∀ phase command, Keeps good allowed (Step.launch h.launcher phase command)
  vars : ∀ c, Keeps good allowed (h.writeVars c)
  capture : ∀ phase output, Keeps good allowed (h.capture phase output)

lemma say_succeeds (lines : List String) : Succeeds good (h.say lines) := by
  unfold say
  split
  · exact succeeds_printLines lines
  · exact succeeds_pure ()

lemma judgeWrite_succeeds (output : Output) : Succeeds good (judgeWrite output) := by
  unfold judgeWrite
  split
  · exact succeeds_tell _
  · exact succeeds_pure ()

namespace Confined

variable (hconfined : h.Confined good allowed) (c : Case) (expected : UInt64)

include hconfined

lemma perform (phase : Phase) (command : Command) {judge : Output → Step Unit}
    (hjudge : ∀ output, Keeps good allowed (judge output)) :
    Keeps good allowed (h.perform phase command judge) := by
  unfold Harness.perform
  refine (succeeds_tell _).keeps.bind fun _ => ?_
  refine (hconfined.launch phase command).bind fun output => ?_
  refine (hjudge output).bind fun _ => ?_
  exact (hconfined.capture phase output).bind fun _ => keeps_pure output

lemma readBack (readBlock : Extent) (k : Nat) :
    Keeps good allowed (h.readBack c expected readBlock k) := by
  unfold Harness.readBack
  refine (hconfined.perform .read _ fun _ => keeps_pure ()).bind fun output => ?_
  exact Keeps.after_optional (say_succeeds _).keeps (keeps_pure _)

lemma readsFrom (readBlock : Extent) (n k : Nat) :
    Keeps good allowed (h.readsFrom c expected readBlock n k) := by
  induction n generalizing k with
  | zero => exact keeps_pure []
  | succ n ih =>
    unfold Harness.readsFrom
    refine (hconfined.readBack c expected readBlock k).bind fun r => ?_
    exact (ih (k + 1)).bind fun reads => keeps_pure _

lemma runGrid (grid readBlock : Extent) :
    Keeps good allowed (h.runGrid c expected grid readBlock) := by
  unfold Harness.runGrid
  refine Keeps.after_optional (succeeds_tell _).keeps ?_
  refine (hconfined.vars c).bind fun _ => ?_
  refine (hconfined.perform .write _ fun _ => (judgeWrite_succeeds _).keeps).bind fun output => ?_
  exact (hconfined.readsFrom c expected readBlock _ 0).bind fun reads => keeps_pure _

lemma runGrids (grids : List Extent) : Keeps good allowed (h.runGrids c expected grids) := by
  induction grids with
  | nil => exact keeps_pure _
  | cons grid rest ih =>
    unfold Harness.runGrids
    split
    · exact (say_succeeds _).keeps.bind fun _ => keeps_pure _
    · refine (hconfined.runGrid c expected grid _).bind fun first => ?_
      exact ih.bind fun result => keeps_pure _

lemma runCase {c : Case} (hready : c.Ready h.config) : Keeps good allowed (h.runCase c) := by
  obtain ⟨⟨grids, hgrids⟩, n, hsamples⟩ := hready
  unfold Harness.runCase
  refine Keeps.after_ofExcept hgrids ?_
  refine Keeps.after_ofExcept hsamples ?_
  refine (hconfined.runGrids c n grids).bind fun result => ?_
  exact Keeps.after_optional (say_succeeds _).keeps (keeps_pure _)

lemma runCases {cases : List (Except Fault Case)}
    (hready : ∀ made ∈ cases, ∃ c : Case, made = .ok c ∧ c.Ready h.config) :
    Keeps good allowed (h.runCases cases) := by
  induction cases with
  | nil => exact keeps_pure []
  | cons made rest ih =>
    obtain ⟨⟨c, hc, hhead⟩, hrest⟩ := List.forall_mem_cons.mp hready
    unfold Harness.runCases
    refine Keeps.after_ofExcept hc ?_
    refine (say_succeeds _).keeps.bind fun _ => ?_
    refine (hconfined.runCase hhead).bind fun outcome => ?_
    exact (ih hrest).bind fun outcomes => keeps_pure _

lemma runSuite {p : SuitePlan} {kind : SuiteKind} (hready : p.Ready h.config kind) :
    Keeps good allowed (h.runSuite p kind) := by
  obtain ⟨⟨grids, hgrids⟩, hfixed, hcases⟩ := hready
  cases kind with
  | blockGrids =>
    simp only [SuitePlan.cases, hgrids] at hcases
    unfold Harness.runSuite Harness.runBlockGrids
    refine (say_succeeds _).keeps.bind fun _ => ?_
    refine Keeps.after_ofExcept hgrids ?_
    refine (hconfined.runCases hcases).bind fun outcomes => ?_
    exact Keeps.after_optional (say_succeeds _).keeps (keeps_pure _)
  | fixedBox =>
    obtain ⟨cases, hmade⟩ := hfixed rfl
    simp only [SuitePlan.cases, hmade] at hcases
    obtain ⟨grid, hgrid, hmade⟩ : ∃ grid, h.config.procs.defaultGrid p.writers = .ok grid ∧
        p.fixedBoxCases grid = .ok cases := by
      cases hgrid : h.config.procs.defaultGrid p.writers with
      | error fault => rw [hgrid] at hmade; cases hmade
      | ok grid => exact ⟨grid, rfl, by rw [hgrid] at hmade; exact hmade⟩
    unfold Harness.runSuite Harness.runFixedBox
    refine (say_succeeds _).keeps.bind fun _ => ?_
    refine Keeps.after_ofExcept hgrid ?_
    refine Keeps.after_ofExcept hmade ?_
    refine (hconfined.runCases hcases).bind fun outcomes => ?_
    exact Keeps.after_optional (say_succeeds _).keeps (keeps_pure _)

lemma runSeries {series : List (SuiteKind × SuitePlan)}
    (hready : ∀ entry ∈ series, entry.2.Ready h.config entry.1) :
    Keeps good allowed (h.runSeries series) := by
  induction series with
  | nil => exact keeps_pure []
  | cons entry rest ih =>
    obtain ⟨hhead, hrest⟩ := List.forall_mem_cons.mp hready
    unfold Harness.runSeries
    refine (hconfined.runSuite hhead).bind fun suite => ?_
    exact (ih hrest).bind fun suites => keeps_pure _

end Confined

/-! ### Smooth harnesses -/

/-- From a good session the harness meets no fault, and leaves a good session. -/
structure Smooth (h : Harness) (good : Store → Array Launch → Prop) : Prop where
  launch : ∀ phase command store launches, good store launches → ∃ output changed events,
    h.launcher.answer launches phase command store = ⟨.ok output, changed, events⟩ ∧
    good changed (launches.push ⟨phase, command, .ok output⟩)
  vars : ∀ contents store launches, good store launches → ∃ changed,
    store.write h.config.varsFile contents = .ok changed ∧ good changed launches
  profile : ∀ profile, h.profile = some profile → ∀ phase output store launches,
    good store launches → ∃ changed,
      Profile.capture store (profile.path phase) output = .ok changed ∧ good changed launches

namespace Smooth

variable (hsmooth : h.Smooth good)

include hsmooth

/-- A smooth harness keeps to no fault at all. -/
lemma confined : h.Confined good fun _ => False where
  launch phase command := by
    refine keeps_launch (fun store launches output hgood houtcome => ?_)
      fun store launches fault hgood houtcome => ?_
    all_goals
      obtain ⟨given, changed, events, hanswer, hchanged⟩ :=
        hsmooth.launch phase command store launches hgood
      rw [hanswer] at houtcome
      cases houtcome
    rw [hanswer]
    exact hchanged
  vars c := by
    refine keeps_changeStore (fun store launches changed hgood hchange => ?_)
      fun store launches fault hgood hchange => ?_
    all_goals
      obtain ⟨written, hwrite, hwritten⟩ := hsmooth.vars _ store launches hgood
      rw [hwrite] at hchange
      cases hchange
    exact hwritten
  capture phase output := by
    unfold Harness.capture
    split
    · rename_i profile hprofile
      refine keeps_changeStore (fun store launches changed hgood hchange => ?_)
        fun store launches fault hgood hchange => ?_
      all_goals
        obtain ⟨captured, hcapture, hcaptured⟩ :=
          hsmooth.profile profile hprofile phase output.text store launches hgood
        rw [hcapture] at hchange
        cases hchange
      exact hcaptured
    · exact keeps_pure ()

lemma runCase {c : Case} (hready : c.Ready h.config) : Succeeds good (h.runCase c) :=
  succeeds_iff_keeps.mpr (hsmooth.confined.runCase hready)

lemma runSuite {p : SuitePlan} {kind : SuiteKind} (hready : p.Ready h.config kind) :
    Succeeds good (h.runSuite p kind) :=
  succeeds_iff_keeps.mpr (hsmooth.confined.runSuite hready)

lemma runSeries {series : List (SuiteKind × SuitePlan)}
    (hready : ∀ entry ∈ series, entry.2.Ready h.config entry.1) :
    Succeeds good (h.runSeries series) :=
  succeeds_iff_keeps.mpr (hsmooth.confined.runSeries hready)

end Smooth

/-! ### Steady harnesses -/

/-- A harness whose launcher gives one output for each phase and changes no file. -/
structure Steady (h : Harness) (output : Phase → Output) : Prop where
  answer : ∀ launches phase command store,
    h.launcher.answer launches phase command store = ⟨.ok (output phase), store, []⟩
  profile : h.profile = none
  vars : Store.IsPlain h.config.varsFile

variable {output : Phase → Output}

/-- What stays true while a steady harness runs. -/
def SteadyRun (h : Harness) (output : Phase → Output) (store : Store) (launches : Array Launch) :
    Prop :=
  store.Writable h.config.varsFile ∧ ∀ l ∈ launches, l.outcome = .ok (output l.phase)

/-- A run that starts without files and launches is steady so far. -/
lemma steadyRun_start : h.SteadyRun output Store.empty #[] :=
  ⟨Store.writable_empty _, by simp⟩

lemma Steady.smooth (hsteady : h.Steady output) : h.Smooth (h.SteadyRun output) where
  launch phase command store launches hgood := by
    refine ⟨output phase, store, [], hsteady.answer _ _ _ _, hgood.1, fun l hl => ?_⟩
    rcases Array.mem_push.mp hl with hold | rfl
    · exact hgood.2 l hold
    · rfl
  vars contents store launches hgood := by
    obtain ⟨changed, hwrite, hkept⟩ := hsteady.vars.exists_modify hgood.1 fun _ => contents
    exact ⟨changed, hwrite, hkept _ hgood.1, hgood.2⟩
  profile profile hprofile := by
    rw [hsteady.profile] at hprofile
    cases hprofile

/-- What a steady harness launches is its plan, answered with the outputs of the phases. -/
lemma Steady.exists_run (hsteady : h.Steady output) {α : Type} {step : Step α}
    {plan : List Request} {post : α → List Launch → Prop} (hfollows : Follows step plan post)
    (hsucceeds : ∀ {good}, h.Smooth good → Succeeds good step) :
    ∃ a, (step.run (.start .empty)).1 = .ok a ∧ post a (step.trace (.start .empty)) ∧
      step.trace (.start .empty) =
        plan.map fun r => ⟨r.phase, r.command, .ok (output r.phase)⟩ :=
  (hsucceeds hsteady.smooth).exists_run (fun _ _ hgood => hgood.2) steadyRun_start hfollows

/-! ### Rehearsals -/

/-- What every launch of a rehearsal gives: writes end with an exit code, reads with a report. -/
def rehearsedOutput (exitCode : Int) (report : String) : Phase → Output
  | .write => ⟨true, some exitCode, ""⟩
  | .read => ⟨true, some 0, report⟩

/-- A harness with the standard configuration that gives the same output again and again. -/
def rehearsal (exitCode : Int) (report : String) : Harness where
  config := .standard
  launcher := .rehearsed "rehearsal" true fun
    | .write => [.executed (some exitCode) ""]
    | .read => [.executed (some 0) report]
  launcherArgs := []
  profile := none
  printsText := false

lemma rehearsal_steady (exitCode : Int) (report : String) :
    (rehearsal exitCode report).Steady (rehearsedOutput exitCode report) where
  answer launches phase command store := by
    cases phase <;> simp [rehearsal, Launcher.rehearsed, Launcher.Reply.outcome, rehearsedOutput,
      Nat.mod_one]
  profile := rfl
  vars := Config.standard_varsFile_isPlain

/-- A rehearsal of a case launches its plan. -/
lemma exists_rehearsal_of_ready {c : Case} (hready : c.Ready .standard) (exitCode : Int)
    (report : String) :
    ∃ outcome, (((rehearsal exitCode report).runCase c).run (.start .empty)).1 = .ok outcome ∧
      ((rehearsal exitCode report).runCase c).trace (.start .empty) =
        (c.requests .standard []).map fun r =>
          ⟨r.phase, r.command, .ok (rehearsedOutput exitCode report r.phase)⟩ := by
  obtain ⟨outcome, hrun, -, htrace⟩ := (rehearsal_steady exitCode report).exists_run
    ((rehearsal exitCode report).runCase_follows c) fun hsmooth => hsmooth.runCase hready
  exact ⟨outcome, hrun, htrace⟩

/-- A case of four blocks in two timesteps, written and read back by four processes. -/
def rehearsedCase : Case where
  writers := 4
  readers := 4
  box := ⟨24, 24, 12⟩
  block := ⟨12, 12, 12⟩
  restructureBox := ⟨12, 12, 12⟩
  timesteps := 2
  vars := 1
  varType := ⟨1, "float32"⟩
  label := none

lemma rehearsedCase_ready : rehearsedCase.Ready .standard :=
  ⟨⟨[⟨2, 2, 1⟩], rfl⟩, 6912, rfl⟩

lemma exists_rehearsal (exitCode : Int) (report : String) :
    ∃ outcome, (((rehearsal exitCode report).runCase rehearsedCase).run (.start .empty)).1 =
        .ok outcome ∧
      ((rehearsal exitCode report).runCase rehearsedCase).trace (.start .empty) =
        (rehearsedCase.requests .standard []).map fun r =>
          ⟨r.phase, r.command, .ok (rehearsedOutput exitCode report r.phase)⟩ :=
  exists_rehearsal_of_ready rehearsedCase_ready exitCode report

end Harness

end TileBench
