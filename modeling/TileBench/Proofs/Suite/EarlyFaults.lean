import TileBench.Proofs.Session.Refusals
import TileBench.Proofs.Suite.Readiness

/-!
# Faults of the configuration

A suite either is ready, and then the only faults that it can meet are those of its surroundings, or
it refuses: a count is unknown, or the samples do not fit, and its first case says so. So the
configuration is blamed before anything is launched or written, or not at all.
-/

namespace TileBench

def Fault.IsConfiguration : Fault → Prop
  | .unknownProcessCount .. | .invalidExtent _ | .extentOverflow _ => True
  | _ => False

/-- The launcher does not blame the configuration. A launcher whose faults are all about programs
that cannot be started and files that cannot be used is neutral. -/
def Launcher.Neutral (launcher : Launcher) : Prop :=
  ∀ launches phase command store fault,
    (launcher.answer launches phase command store).outcome = .error fault → ¬ fault.IsConfiguration

namespace Launcher

lemma recording_neutral (script : String) : (recording script).Neutral := by
  intro launches phase command store fault hfault
  simp only [recording] at hfault
  split at hfault <;> cases hfault
  exact id

lemma process_neutral (programs : Programs) (log : Phase → String) :
    (process programs log).Neutral := by
  intro launches phase command store fault hfault
  simp only [process] at hfault
  split at hfault
  · cases hfault
    exact id
  · split at hfault <;> cases hfault
    exact id

lemma rehearsed_neutral (name : String) (executes : Bool) (replies : Phase → List Reply) :
    (rehearsed name executes replies).Neutral := by
  intro launches phase command store fault hfault
  have hreply : ∀ reply : Reply,
      reply.outcome command = .error fault → ¬ fault.IsConfiguration := by
    intro reply hreply
    cases reply <;> cases hreply
    exact id
  exact hreply _ hfault

end Launcher

namespace Harness

open Step

variable {h : Harness} {p : SuitePlan} {kind : SuiteKind} {c : Case} {fault : Fault}
  {grids others : List Extent}

/-! ### Faults of the surroundings -/

lemma confined_of_neutral (hlauncher : h.launcher.Neutral) :
    h.Confined (fun _ _ => True) fun fault => ¬ fault.IsConfiguration where
  launch phase command :=
    keeps_launch (fun _ _ _ _ _ => trivial) fun _ _ fault _ hfault => hlauncher _ _ _ _ fault hfault
  vars c := by
    refine keeps_changeStore (fun _ _ _ _ _ => trivial) fun store _ fault _ hfault => ?_
    obtain ⟨cause, -, rfl⟩ := mapError_eq_error_iff.mp hfault
    exact id
  capture phase output := by
    unfold Harness.capture
    split
    · refine keeps_changeStore (fun _ _ _ _ _ => trivial) fun store _ fault _ hfault => ?_
      unfold Profile.capture at hfault
      split at hfault
      · cases hfault
      · obtain ⟨cause, -, rfl⟩ := mapError_eq_error_iff.mp hfault
        exact id
    · exact keeps_pure ()

/-! ### Refusals -/

lemma runCase_refuses_of_readers (hreaders : h.config.procs.grids c.readers = .error fault) :
    Refuses fault (h.runCase c) := by
  unfold runCase
  exact (refuses_ofExcept hreaders).bind

lemma runCase_refuses_of_samples (hreaders : h.config.procs.grids c.readers = .ok others)
    (hsamples : c.expectedSamples = .error fault) : Refuses fault (h.runCase c) := by
  unfold runCase
  exact Refuses.after_ofExcept hreaders (refuses_ofExcept hsamples).bind

/-- The first case decides: it cannot be made, or it refuses. -/
lemma runCases_refuses {made : Except Fault Case} {rest : List (Except Fault Case)}
    (hfirst : made = .error fault ∨ ∃ c, made = .ok c ∧ Refuses fault (h.runCase c)) :
    Refuses fault (h.runCases (made :: rest)) := by
  unfold runCases
  obtain hmade | ⟨c, hmade, hcase⟩ := hfirst
  · exact (refuses_ofExcept hmade).bind
  · refine Refuses.after_ofExcept hmade ?_
    refine Refuses.after (fun _ => say_succeeds _) fun _ => ?_
    exact hcase.bind

lemma runSuite_refuses_of_writers (hwriters : h.config.procs.grids p.writers = .error fault) :
    Refuses fault (h.runSuite p kind) := by
  cases kind with
  | blockGrids =>
    unfold runSuite runBlockGrids
    refine Refuses.after (fun _ => say_succeeds _) fun _ => ?_
    exact (refuses_ofExcept hwriters).bind
  | fixedBox =>
    unfold runSuite runFixedBox
    refine Refuses.after (fun _ => say_succeeds _) fun _ => ?_
    exact (refuses_ofExcept (ProcessTable.defaultGrid_of_grids hwriters)).bind

lemma runBlockGrids_refuses {grid : Extent}
    (hwriters : h.config.procs.grids p.writers = .ok (grid :: grids))
    (hfirst : p.blockGridCase h.config.patch grid = .error fault ∨
      ∃ c, p.blockGridCase h.config.patch grid = .ok c ∧ Refuses fault (h.runCase c)) :
    Refuses fault (h.runSuite p .blockGrids) := by
  unfold runSuite runBlockGrids
  refine Refuses.after (fun _ => say_succeeds _) fun _ => ?_
  refine Refuses.after_ofExcept hwriters ?_
  exact (runCases_refuses hfirst).bind

lemma runFixedBox_refuses_of_cases {grid : Extent}
    (hwriters : h.config.procs.defaultGrid p.writers = .ok grid)
    (hmade : p.fixedBoxCases grid = .error fault) : Refuses fault (h.runSuite p .fixedBox) := by
  unfold runSuite runFixedBox
  refine Refuses.after (fun _ => say_succeeds _) fun _ => ?_
  refine Refuses.after_ofExcept hwriters ?_
  exact (refuses_ofExcept hmade).bind

lemma runFixedBox_refuses {grid : Extent} {cases : List Case}
    (hwriters : h.config.procs.defaultGrid p.writers = .ok grid)
    (hmade : p.fixedBoxCases grid = .ok (c :: cases)) (hcase : Refuses fault (h.runCase c)) :
    Refuses fault (h.runSuite p .fixedBox) := by
  unfold runSuite runFixedBox
  refine Refuses.after (fun _ => say_succeeds _) fun _ => ?_
  refine Refuses.after_ofExcept hwriters ?_
  refine Refuses.after_ofExcept hmade ?_
  exact (runCases_refuses (.inr ⟨c, rfl, hcase⟩)).bind

/-- Without grids for the readers a suite refuses, for this or for another reason. -/
lemma runSuite_refuses_of_readers (hreaders : h.config.procs.grids p.readers = .error fault) :
    ∃ fault, Refuses fault (h.runSuite p kind) := by
  cases hwriters : h.config.procs.grids p.writers with
  | error cause => exact ⟨cause, runSuite_refuses_of_writers hwriters⟩
  | ok grids =>
    obtain ⟨grid, rest, rfl⟩ := ProcessTable.exists_cons_of_grids hwriters
    cases kind with
    | blockGrids =>
      -- The first box may not fit; otherwise its case asks for the grids of the readers.
      cases hmade : p.blockGridCase h.config.patch grid with
      | error cause => exact ⟨cause, runBlockGrids_refuses hwriters (.inl hmade)⟩
      | ok c =>
        obtain ⟨box, -, rfl⟩ := SuitePlan.blockGridCase_eq_ok_iff.mp hmade
        have hcase := runCase_refuses_of_readers
          (c := p.case box h.config.patch h.config.patch none) hreaders
        exact ⟨fault, runBlockGrids_refuses hwriters (.inr ⟨_, hmade, hcase⟩)⟩
    | fixedBox =>
      have hdefault := ProcessTable.defaultGrid_eq_ok_iff.mpr ⟨rest, hwriters⟩
      cases hmade : p.fixedBoxCases grid with
      | error cause => exact ⟨cause, runFixedBox_refuses_of_cases hdefault hmade⟩
      | ok cases =>
        obtain ⟨block, double, -, rfl⟩ := SuitePlan.exists_of_fixedBoxCases hmade
        exact ⟨fault, runFixedBox_refuses hdefault hmade (runCase_refuses_of_readers hreaders)⟩

section

variable (hposed : p.WellPosed h.config)

include hposed

/-- Samples that do not fit are refused by the first case already. -/
lemma runBlockGrids_refuses_overflow (hwriters : h.config.procs.grids p.writers = .ok grids)
    (hreaders : h.config.procs.grids p.readers = .ok others)
    (hover : 2 ^ 64 ≤ p.blockGridSamples h.config) :
    ∃ product, Refuses (.extentOverflow product) (h.runSuite p .blockGrids) := by
  obtain ⟨grid, rest, rfl⟩ := ProcessTable.exists_cons_of_grids hwriters
  obtain ⟨product, hmade⟩ | ⟨c, product, hmade, hsamples⟩ :=
    hposed.overflow hover ⟨_, hwriters, List.mem_cons_self⟩
  · exact ⟨product, runBlockGrids_refuses hwriters (.inl hmade)⟩
  · obtain ⟨box, -, rfl⟩ := SuitePlan.blockGridCase_eq_ok_iff.mp hmade
    exact ⟨product, runBlockGrids_refuses hwriters
      (.inr ⟨_, hmade, runCase_refuses_of_samples hreaders hsamples⟩)⟩

lemma ready_or_refuses (kind : SuiteKind) :
    p.Ready h.config kind ∨ ∃ fault, Refuses fault (h.runSuite p kind) := by
  cases hwriters : h.config.procs.grids p.writers with
  | error fault => exact .inr ⟨fault, runSuite_refuses_of_writers hwriters⟩
  | ok grids =>
    cases hreaders : h.config.procs.grids p.readers with
    | error fault => exact .inr (runSuite_refuses_of_readers hreaders)
    | ok others =>
      cases kind with
      | fixedBox => exact .inl (hposed.fixedBox_ready hwriters hreaders)
      | blockGrids =>
        by_cases hfits : p.blockGridSamples h.config < 2 ^ 64
        · exact .inl (hposed.blockGrids_ready hwriters hreaders hfits)
        · obtain ⟨product, hrefuses⟩ :=
            runBlockGrids_refuses_overflow hposed hwriters hreaders (Nat.not_lt.mp hfits)
          exact .inr ⟨_, hrefuses⟩

end

/-- A suite that is ready does not blame the configuration. -/
lemma not_isConfiguration_of_ready (hlauncher : h.launcher.Neutral)
    (hready : p.Ready h.config kind) {s : Session}
    (hrun : ((h.runSuite p kind).run s).1 = .error fault) : ¬ fault.IsConfiguration := by
  obtain ⟨a, t, hok, -⟩ | ⟨cause, t, herror, hcause⟩ :=
    (confined_of_neutral hlauncher).runSuite hready s trivial
  · rw [hok] at hrun
    cases hrun
  · rw [herror] at hrun
    cases hrun
    exact hcause

/-- A suite that blames the configuration has launched nothing and left the files alone. -/
lemma runSuite_blames (hposed : p.WellPosed h.config) (hlauncher : h.launcher.Neutral)
    {s t : Session} (hrun : (h.runSuite p kind).run s = (.error fault, t))
    (hfault : fault.IsConfiguration) : t.launches = s.launches ∧ t.store = s.store := by
  obtain hready | ⟨cause, hrefuses⟩ := ready_or_refuses hposed kind
  · exact absurd hfault
      (not_isConfiguration_of_ready hlauncher hready (congrArg Prod.fst hrun))
  · obtain ⟨u, hrefused, hstore, hlaunches⟩ := hrefuses s
    cases hrefused.symm.trans hrun
    exact ⟨hlaunches, hstore⟩

/-- A series that blames the configuration stopped between two suites: what was launched was launched
by the suites in front, which ended without a fault. -/
theorem runSeries_blames (hlauncher : h.launcher.Neutral) {series : List (SuiteKind × SuitePlan)}
    (hposed : ∀ entry ∈ series, entry.2.WellPosed h.config) {s t : Session}
    (hrun : (h.runSeries series).run s = (.error fault, t)) (hfault : fault.IsConfiguration) :
    ∃ front entry back suites u, series = front ++ entry :: back ∧
      (h.runSeries front).run s = (.ok suites, u) ∧ t.launches = u.launches ∧
      t.store = u.store := by
  induction series generalizing s with
  | nil => cases hrun
  | cons entry rest ih =>
    obtain ⟨kind, p⟩ := entry
    obtain ⟨hfirst, hrest⟩ := List.forall_mem_cons.mp hposed
    rw [runSeries, run_bind] at hrun
    rcases hsuite : (h.runSuite p kind).run s with ⟨cause | suite, u⟩ <;> simp only [hsuite] at hrun
    · cases hrun
      exact ⟨[], (kind, p), rest, [], s, rfl, rfl, runSuite_blames hfirst hlauncher hsuite hfault⟩
    · rcases hmore : (h.runSeries rest).run u with ⟨cause | more, v⟩ <;>
        rw [run_bind, hmore] at hrun <;> cases hrun
      obtain ⟨front, entry, back, suites, w, rfl, hfront, hsame⟩ := ih hrest hmore
      refine ⟨(kind, p) :: front, entry, back, suite :: suites, w, rfl, ?_, hsame⟩
      rw [runSeries, run_bind, hsuite]
      dsimp only
      rw [run_bind, hfront]
      rfl

/-- If what a suite is run with makes sense, a suite that blames the configuration has launched
nothing and left the files alone. The suite of block grids does not fit in 64 bits exactly if the
samples of all writers do not, and the suite of the fixed box always fits. -/
theorem configuration_faults_come_first (h : Harness) (p : SuitePlan)
    (hposed : p.WellPosed h.config) (hlauncher : h.launcher.Neutral) (s : Session) :
    (∀ kind fault, ((h.runSuite p kind).run s).1 = .error fault → fault.IsConfiguration →
      ((h.runSuite p kind).run s).2.launches = s.launches ∧
      ((h.runSuite p kind).run s).2.store = s.store) ∧
    (h.config.procs.contains p.writers = true → h.config.procs.contains p.readers = true →
      ((∃ product, ((h.runSuite p .blockGrids).run s).1 = .error (.extentOverflow product)) ↔
        2 ^ 64 ≤ p.writers.toNat * h.config.patch.cells * p.varType.components.toNat) ∧
      ∀ product, ((h.runSuite p .fixedBox).run s).1 ≠ .error (.extentOverflow product)) := by
  constructor
  · intro kind fault hrun hfault
    exact runSuite_blames hposed hlauncher (Prod.ext hrun rfl) hfault
  · intro hwriters hreaders
    obtain ⟨grids, hwriters⟩ := ProcessTable.contains_iff.mp hwriters
    obtain ⟨others, hreaders⟩ := ProcessTable.contains_iff.mp hreaders
    refine ⟨⟨?_, fun hover => ?_⟩, fun product hrun => ?_⟩
    · rintro ⟨product, hrun⟩
      by_contra hfits
      have hready := hposed.blockGrids_ready hwriters hreaders (Nat.not_le.mp hfits)
      exact not_isConfiguration_of_ready hlauncher hready hrun trivial
    · obtain ⟨product, hrefuses⟩ := runBlockGrids_refuses_overflow hposed hwriters hreaders hover
      obtain ⟨t, hrefused, -⟩ := hrefuses s
      exact ⟨product, by rw [hrefused]⟩
    · have hready := hposed.fixedBox_ready hwriters hreaders
      exact not_isConfiguration_of_ready hlauncher hready hrun trivial

/-- A rehearsal with blocks so large that four of them are beyond 64 bits. -/
def oversizedRehearsal : Harness :=
  { rehearsal 0 "" with config := { Config.standard with patch := ⟨4611686018427387904, 1, 1⟩ } }

/-- Oversized blocks are refused before they are written. -/
theorem oversizedRehearsal_launches_nothing :
    ∃ product t, (oversizedRehearsal.runSuite ⟨4, 4, ⟨1, "float32"⟩, 1, 1⟩ .blockGrids).run
        (.start .empty) = (.error (.extentOverflow product), t) ∧
      t.launches = #[] ∧ t.store = .empty := by
  obtain ⟨hfirst, hknown⟩ :=
    configuration_faults_come_first oversizedRehearsal ⟨4, 4, ⟨1, "float32"⟩, 1, 1⟩
      ⟨ProcessTable.standard_arranges 4, by decide, by decide⟩
      (Launcher.rehearsed_neutral _ _ _) (.start .empty)
  obtain ⟨product, hrun⟩ := (hknown rfl rfl).1.mpr (by decide)
  obtain ⟨hlaunches, hstore⟩ := hfirst .blockGrids _ hrun trivial
  exact ⟨product, _, Prod.ext hrun rfl, hlaunches, hstore⟩

end Harness

end TileBench
