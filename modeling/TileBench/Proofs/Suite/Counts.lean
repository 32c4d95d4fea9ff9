import TileBench.Proofs.Suite.Success
import Mathlib.Algebra.BigOperators.Group.List.Basic
import Mathlib.Algebra.Order.BigOperators.Group.List
import Mathlib.Algebra.GroupWithZero.Nat
import Mathlib.Algebra.Order.Group.Nat

/-!
# Counts

Tests are counted in 32-bit words, from the reads of a grid up to the suites of a run. As long as
the tests are fewer than 2³² no sum wraps, so the words are the numbers that they stand for: no
difference falls below zero, and the exit code is zero exactly if there was nothing to complain
about.
-/

namespace TileBench

/-- Was the read executed, with a verdict that is not passed? -/
def ReadOutcome.failed (r : ReadOutcome) : Bool := r.verdict.any fun v => !v.passed

lemma ReadOutcome.failed_eq (r : ReadOutcome) : r.failed = !r.passed := by
  cases h : r.verdict <;> simp [failed, passed, h]

lemma ReadOutcome.failed_eq_false_iff (r : ReadOutcome) :
    r.failed = false ↔ ∀ v, r.verdict = some v → v.passed = true := by
  cases h : r.verdict <;> simp [failed, h]

namespace CaseOutcome

variable (o : CaseOutcome)

def testCount : Nat := if o.invalid.isSome then 1 else o.reads.length

lemma tests_toNat (h : o.testCount < 2 ^ 32) : o.tests.toNat = o.testCount := by
  unfold tests
  unfold testCount at h ⊢
  split <;> rename_i hinvalid
  · rfl
  · rw [if_neg hinvalid] at h
    exact UInt32.toNat_ofNat_of_lt' h

/-- The reads that passed and those that failed are all of them. -/
lemma countP_passed_add_failed :
    o.reads.countP ReadOutcome.passed + o.reads.countP ReadOutcome.failed = o.reads.length := by
  rw [List.length_eq_countP_add_countP ReadOutcome.passed]
  congr 1
  refine List.countP_congr fun r _ => ?_
  rw [r.failed_eq]
  simp

lemma successes_toNat (h : o.testCount < 2 ^ 32) :
    o.successes.toNat = if o.invalid.isSome then 0 else o.reads.countP ReadOutcome.passed := by
  unfold successes
  unfold testCount at h
  split <;> rename_i hinvalid
  · rfl
  · rw [if_neg hinvalid] at h
    have hcount := o.countP_passed_add_failed
    rw [count32, ← List.countP_eq_length_filter]
    exact UInt32.toNat_ofNat_of_lt' (by rw [UInt32.size]; omega)

lemma successes_le_tests (h : o.testCount < 2 ^ 32) : o.successes ≤ o.tests := by
  rw [UInt32.le_iff_toNat_le, o.tests_toNat h, o.successes_toNat h, testCount]
  have hcount := o.countP_passed_add_failed
  split <;> omega

lemma failures_toNat (h : o.testCount < 2 ^ 32) :
    o.failures.toNat = if o.invalid.isSome then 1 else o.reads.countP ReadOutcome.failed := by
  rw [failures, UInt32.toNat_sub_of_le _ _ (o.successes_le_tests h), o.tests_toNat h,
    o.successes_toNat h, testCount]
  have hcount := o.countP_passed_add_failed
  split <;> omega

/-- Every test of a case passes or fails. -/
lemma tests_eq_add (h : o.testCount < 2 ^ 32) :
    o.tests.toNat = o.successes.toNat + o.failures.toNat := by
  have hle := UInt32.le_iff_toNat_le.mp (o.successes_le_tests h)
  rw [failures, UInt32.toNat_sub_of_le _ _ (o.successes_le_tests h)]
  omega

/-- An invalid case is one failed test. -/
lemma counts_of_invalid (h : o.invalid.isSome) :
    o.tests = 1 ∧ o.successes = 0 ∧ o.failures = 1 := by
  have htests : o.tests = 1 := by rw [tests, if_pos h]
  have hsuccesses : o.successes = 0 := by rw [successes, if_pos h]
  exact ⟨htests, hsuccesses, by rw [failures, htests, hsuccesses]; rfl⟩

/-- A case has no failure exactly if its blocks tile the box and every executed read passed. -/
lemma failures_eq_zero_iff (h : o.testCount < 2 ^ 32) :
    o.failures.toNat = 0 ↔ o.invalid = none ∧
      ∀ g ∈ o.grids, ∀ r ∈ g.reads, ∀ v, r.verdict = some v → v.passed = true := by
  rw [o.failures_toNat h]
  cases hinvalid : o.invalid with
  | some d => simp
  | none =>
    have hreads : o.reads.countP ReadOutcome.failed = 0 ↔
        ∀ g ∈ o.grids, ∀ r ∈ g.reads, ∀ v, r.verdict = some v → v.passed = true := by
      simp only [List.countP_eq_zero, Bool.not_eq_true, ReadOutcome.failed_eq_false_iff, reads,
        List.mem_flatMap]
      constructor
      · intro h g hg r hr
        exact h r ⟨g, hg, hr⟩
      · rintro h r ⟨g, hg, hr⟩
        exact h g hg r hr
    simpa using hreads

end CaseOutcome

/-! ### Launches and tests -/

variable {config : Config} {launcherArgs : List String}

/-- There is a note for every launch. -/
lemma countP_read_of_fits {expected : UInt64} {notes : List Note} {made : List Launch}
    (h : List.Forall₂ (Note.Fits expected) notes made) :
    made.countP (fun l => l.phase = .read) = (notes.filterMap Note.read?).length := by
  induction h with
  | nil => rfl
  | cons hfits _ ih => cases hfits <;> simp [List.filterMap_cons, Note.read?, ih]

lemma CaseOutcome.Reports.countP_read {o : CaseOutcome} {made : List Launch}
    (h : o.Reports config launcherArgs made) :
    made.countP (fun l => l.phase = .read) = o.reads.length := by
  obtain ⟨expected, -, hnotes⟩ := h.notes_fit
  rw [countP_read_of_fits hnotes, o.filterMap_notes]

/-- The grids of a case whose blocks tile the box are read in full. -/
lemma CaseOutcome.Reports.length_reads {o : CaseOutcome} {made : List Launch}
    (h : o.Reports config launcherArgs made) (hvalid : o.invalid = none) :
    o.reads.length =
      (o.case.candidates config).length * o.case.timesteps.toNat * o.case.vars.toNat := by
  have haccepts : ∀ grid ∈ o.case.candidates config, o.case.accepts grid = true := by
    have hnone := h.invalid_eq.symm.trans hvalid
    simpa [Case.firstRejection] using hnone
  have hgrids : o.case.acceptedGrids config = o.case.candidates config :=
    List.takeWhile_eq_self_iff.mpr haccepts
  have hreads : o.reads.length = ((o.grids.map GridRun.plan).map (·.reads.length)).sum := by
    simp [CaseOutcome.reads, List.length_flatMap, Function.comp_def, GridRun.plan]
  rw [hreads, h.plan_eq, Case.plan, hgrids, List.map_map]
  have hgrid : ∀ grid, ((·.reads.length) ∘ o.case.gridPlan config launcherArgs) grid =
      o.case.timesteps.toNat * o.case.vars.toNat := by
    intro grid
    simp [Case.gridPlan, Case.plannedReads, List.length_flatMap]
  simp [funext hgrid, Nat.mul_assoc]

/-- Every test is a read that was launched or a case that is invalid. -/
lemma ReportsAll.sum_testCount_le {outcomes : List CaseOutcome} {made : List Launch}
    (h : ReportsAll config launcherArgs outcomes made) :
    (outcomes.map CaseOutcome.testCount).sum ≤
      made.countP (fun l => l.phase = .read) + outcomes.countP (fun o => o.invalid.isSome) := by
  induction h with
  | nil => simp
  | @cons o outcomes made more ho _ ih =>
    have hreads := ho.countP_read
    simp only [List.map_cons, List.sum_cons, List.countP_append, List.countP_cons,
      CaseOutcome.testCount]
    split <;> omega

lemma ReportsAll.exists_part {outcomes : List CaseOutcome} {made : List Launch}
    (h : ReportsAll config launcherArgs outcomes made) {o : CaseOutcome} (ho : o ∈ outcomes) :
    ∃ part, part ⊆ made ∧ o.Reports config launcherArgs part := by
  induction h with
  | nil => cases ho
  | @cons _ _ made more hhead _ ih =>
    rcases List.mem_cons.mp ho with rfl | hmem
    · exact ⟨made, List.subset_append_left _ _, hhead⟩
    · obtain ⟨part, hsubset, hpart⟩ := ih hmem
      exact ⟨part, List.subset_append_of_subset_right _ hsubset, hpart⟩

lemma ReportsAll.exists_of_mem {outcomes : List CaseOutcome} {made : List Launch}
    (h : ReportsAll config launcherArgs outcomes made) {o : CaseOutcome} (ho : o ∈ outcomes) :
    ∃ part, o.Reports config launcherArgs part := by
  obtain ⟨part, -, hpart⟩ := h.exists_part ho
  exact ⟨part, hpart⟩

/-! ### Sums of words -/

lemma total_append (counts others : List UInt32) :
    total (counts ++ others) = total counts + total others := by
  induction counts with
  | nil => simp [total]
  | cons n counts ih => rw [List.cons_append, total, total, ih, UInt32.add_assoc]

/-- A sum that fits is the sum of the numbers. -/
lemma total_toNat {counts : List UInt32} (h : (counts.map UInt32.toNat).sum < 2 ^ 32) :
    (total counts).toNat = (counts.map UInt32.toNat).sum := by
  induction counts with
  | nil => rfl
  | cons n counts ih =>
    simp only [List.map_cons, List.sum_cons] at h ⊢
    rw [total, UInt32.toNat_add, ih (by omega), Nat.mod_eq_of_lt h]

/-- What is counted of some suites is counted of their cases. -/
lemma total_flatMap_cases (suites : List SuiteOutcome) (count : CaseOutcome → UInt32) :
    total (suites.map fun suite => total (suite.cases.map count)) =
      total ((suites.flatMap SuiteOutcome.cases).map count) := by
  induction suites with
  | nil => rfl
  | cons suite suites ih =>
    rw [List.map_cons, total, ih, List.flatMap_cons, List.map_append, total_append]

lemma Totals.exitCode_toNat (failures : UInt32) :
    (exitCode failures).toNat = min failures.toNat 255 := by
  unfold exitCode
  have hle : failures ≤ 255 ↔ failures.toNat ≤ 255 := UInt32.le_iff_toNat_le
  split <;> rename_i h
  · rw [UInt32.toNat_toUInt8]
    rw [hle] at h
    omega
  · rw [hle] at h
    change 255 = _
    omega

lemma Totals.exitCode_eq_zero_iff (failures : UInt32) :
    exitCode failures = 0 ↔ failures.toNat = 0 := by
  rw [← UInt8.toNat_inj, exitCode_toNat]
  change min failures.toNat 255 = 0 ↔ _
  omega

/-- What is counted of fewer than 2³² tests does not wrap. -/
lemma total_map_toNat {outcomes : List CaseOutcome} {count : CaseOutcome → UInt32}
    (hcount : ∀ o, o.testCount < 2 ^ 32 → (count o).toNat ≤ o.testCount)
    (h : (outcomes.map CaseOutcome.testCount).sum < 2 ^ 32) :
    (total (outcomes.map count)).toNat = (outcomes.map fun o => (count o).toNat).sum := by
  have hle : (outcomes.map fun o => (count o).toNat).sum ≤
      (outcomes.map CaseOutcome.testCount).sum := by
    refine List.sum_le_sum fun o ho => hcount o ?_
    exact (List.le_sum_of_mem (List.mem_map_of_mem ho)).trans_lt h
  rw [total_toNat, List.map_map]
  · rfl
  · rw [List.map_map]
    exact hle.trans_lt h

lemma CaseOutcome.failures_le_testCount (o : CaseOutcome) (h : o.testCount < 2 ^ 32) :
    o.failures.toNat ≤ o.testCount := by
  rw [← o.tests_toNat h, o.tests_eq_add h]
  exact Nat.le_add_left _ _

/-- Fewer than 2³² tests have fewer than 2³² failures. -/
lemma Totals.failures_toNat_of_fits {suites : List SuiteOutcome}
    (h : ((suites.flatMap SuiteOutcome.cases).map CaseOutcome.testCount).sum < 2 ^ 32) :
    (ofSuites suites).failures.toNat =
      ((suites.flatMap SuiteOutcome.cases).map fun o => o.failures.toNat).sum := by
  have hcases : (ofSuites suites).failures =
      total ((suites.flatMap SuiteOutcome.cases).map CaseOutcome.failures) :=
    total_flatMap_cases suites CaseOutcome.failures
  rw [hcases]
  exact total_map_toNat CaseOutcome.failures_le_testCount h

lemma testCount_of_fits {suites : List SuiteOutcome}
    (h : ((suites.flatMap SuiteOutcome.cases).map CaseOutcome.testCount).sum < 2 ^ 32)
    {suite : SuiteOutcome} (hsuite : suite ∈ suites) {o : CaseOutcome} (ho : o ∈ suite.cases) :
    o.testCount < 2 ^ 32 := by
  have hmem : o ∈ suites.flatMap SuiteOutcome.cases := List.mem_flatMap.mpr ⟨suite, hsuite, ho⟩
  exact (List.le_sum_of_mem (List.mem_map_of_mem hmem)).trans_lt h

/-- The exit code tells how many of fewer than 2³² tests failed. -/
lemma Totals.exitCode_of_fits {suites : List SuiteOutcome}
    (h : ((suites.flatMap SuiteOutcome.cases).map CaseOutcome.testCount).sum < 2 ^ 32) :
    (exitCode (ofSuites suites).failures).toNat =
      min (((suites.flatMap SuiteOutcome.cases).map fun o => o.failures.toNat).sum) 255 ∧
    (exitCode (ofSuites suites).failures = 0 ↔
      ∀ suite ∈ suites, ∀ o ∈ suite.cases, o.invalid = none ∧
        ∀ g ∈ o.grids, ∀ r ∈ g.reads, ∀ v, r.verdict = some v → v.passed = true) := by
  have hfailures := failures_toNat_of_fits h
  refine ⟨by rw [exitCode_toNat, hfailures], ?_⟩
  rw [exitCode_eq_zero_iff, hfailures, List.sum_eq_zero_iff_forall_eq_nat]
  constructor
  · intro hzero suite hsuite o ho
    have hmem : o ∈ suites.flatMap SuiteOutcome.cases := List.mem_flatMap.mpr ⟨suite, hsuite, ho⟩
    exact (o.failures_eq_zero_iff (testCount_of_fits h hsuite ho)).mp
      (hzero _ (List.mem_map_of_mem hmem))
  · intro hgood n hn
    obtain ⟨o, hmem, rfl⟩ := List.mem_map.mp hn
    obtain ⟨suite, hsuite, ho⟩ := List.mem_flatMap.mp hmem
    exact (o.failures_eq_zero_iff (testCount_of_fits h hsuite ho)).mpr (hgood suite hsuite o ho)

namespace Harness

/-- The exit code of a series of suites tells the number of failed tests, and 255 for more than
that. Every test of a case passes or fails. The tests of a valid case are the reads with every
candidate grid, and those fail that were executed with a verdict that is not passed; an invalid
case is one failed test. So the exit code is zero exactly if no case is invalid and every executed
read passed. -/
theorem exitCode_of_series (h : Harness) (series : List (SuiteKind × SuitePlan)) (s : Session)
    (suites : List SuiteOutcome) (hrun : ((h.runSeries series).run s).1 = .ok suites)
    (hcount : ((h.runSeries series).trace s).countP (fun l => l.phase = .read) +
      (suites.flatMap SuiteOutcome.cases).countP (fun o => o.invalid.isSome) < 2 ^ 32) :
    ReportsAll h.config h.launcherArgs (suites.flatMap SuiteOutcome.cases)
      ((h.runSeries series).trace s) ∧
    (∀ suite ∈ suites, ∀ o ∈ suite.cases,
      o.successes ≤ o.tests ∧ o.tests.toNat = o.successes.toNat + o.failures.toNat ∧
      (o.invalid = none →
        o.tests.toNat = (o.case.candidates h.config).length * o.case.timesteps.toNat *
          o.case.vars.toNat ∧
        o.failures.toNat = o.reads.countP ReadOutcome.failed) ∧
      (o.invalid.isSome → o.tests = 1 ∧ o.successes = 0 ∧ o.failures = 1)) ∧
    (Totals.exitCode (Totals.ofSuites suites).failures).toNat =
      min (((suites.flatMap SuiteOutcome.cases).map fun o => o.failures.toNat).sum) 255 ∧
    (Totals.exitCode (Totals.ofSuites suites).failures = 0 ↔
      ∀ suite ∈ suites, ∀ o ∈ suite.cases, o.invalid = none ∧
        ∀ g ∈ o.grids, ∀ r ∈ g.reads, ∀ v, r.verdict = some v → v.passed = true) := by
  obtain ⟨-, -, hreports⟩ := ((h.runSeries_follows series).trace s).2.2 suites hrun
  have hsum := hreports.sum_testCount_le.trans_lt hcount
  refine ⟨hreports, fun suite hsuite o ho => ?_, Totals.exitCode_of_fits hsum⟩
  have hfit := testCount_of_fits hsum hsuite ho
  refine ⟨o.successes_le_tests hfit, o.tests_eq_add hfit, fun hvalid => ?_, o.counts_of_invalid⟩
  obtain ⟨part, hpart⟩ := hreports.exists_of_mem (List.mem_flatMap.mpr ⟨suite, hsuite, ho⟩)
  rw [o.tests_toNat hfit, o.failures_toNat hfit, CaseOutcome.testCount, hvalid]
  exact ⟨hpart.length_reads hvalid, rfl⟩

/-- Four blocks, read back by four processes and then by ten, which cannot share them. -/
def rehearsedSeries : List (SuiteKind × SuitePlan) :=
  [(.blockGrids, ⟨4, 4, ⟨1, "float32"⟩, 1, 2⟩), (.blockGrids, ⟨4, 10, ⟨1, "float32"⟩, 1, 2⟩)]

lemma rehearsedSeries_ready (entry : SuiteKind × SuitePlan) (h : entry ∈ rehearsedSeries) :
    entry.2.Ready .standard entry.1 := by
  simp only [rehearsedSeries, List.mem_cons, List.not_mem_nil, or_false] at h
  obtain rfl | rfl := h
  · refine ⟨⟨[⟨2, 2, 1⟩], rfl⟩, nofun, fun made hmade => ?_⟩
    obtain rfl : made = .ok _ := List.mem_singleton.mp hmade
    exact ⟨_, rfl, ⟨[⟨2, 2, 1⟩], rfl⟩, 6912, rfl⟩
  · refine ⟨⟨[⟨2, 2, 1⟩], rfl⟩, nofun, fun made hmade => ?_⟩
    obtain rfl : made = .ok _ := List.mem_singleton.mp hmade
    exact ⟨_, rfl, ⟨[⟨5, 2, 1⟩], rfl⟩, 6912, rfl⟩

/-- The rehearsed series fails. -/
theorem exitCode_of_rehearsedSeries :
    ∃ suites, (((rehearsal 0 "").runSeries rehearsedSeries).run (.start .empty)).1 = .ok suites ∧
      Totals.exitCode (Totals.ofSuites suites).failures ≠ 0 := by
  obtain ⟨suites, hrun, ⟨hcases, -⟩, htrace⟩ := (rehearsal_steady 0 "").exists_run
    ((rehearsal 0 "").runSeries_follows rehearsedSeries)
    fun hsmooth => hsmooth.runSeries rehearsedSeries_ready
  have hflat : (suites.flatMap SuiteOutcome.cases).map
        (fun o => (.ok o.case : Except Fault Case)) =
      rehearsedSeries.flatMap fun entry => entry.2.cases .standard entry.1 := by
    rw [List.map_flatMap, List.flatMap_def, List.flatMap_def]
    exact congrArg List.flatten hcases.symm
  have hcount : (((rehearsal 0 "").runSeries rehearsedSeries).trace (.start .empty)).countP
        (fun l => l.phase = .read) +
      (suites.flatMap SuiteOutcome.cases).countP (fun o => o.invalid.isSome) < 2 ^ 32 := by
    have hreads :
        (((rehearsal 0 "").runSeries rehearsedSeries).trace (.start .empty)).length = 3 := by
      rw [htrace, List.length_map]
      rfl
    have hlength : (suites.flatMap SuiteOutcome.cases).length = 2 := by
      have h := congrArg List.length hflat
      rw [List.length_map] at h
      exact h
    exact (Nat.add_le_add List.countP_le_length List.countP_le_length).trans_lt
      (by rw [hreads, hlength]; decide)
  obtain ⟨hreports, -, -, hzero⟩ :=
    exitCode_of_series (rehearsal 0 "") rehearsedSeries (.start .empty) suites hrun hcount
  refine ⟨suites, hrun, fun hexit => ?_⟩
  -- The second case has blocks that do not tile its box.
  have hlast : .ok ((⟨4, 10, ⟨1, "float32"⟩, 1, 2⟩ : SuitePlan).case ⟨24, 24, 12⟩ ⟨12, 12, 12⟩
      ⟨12, 12, 12⟩ none) ∈
      (suites.flatMap SuiteOutcome.cases).map fun o => (.ok o.case : Except Fault Case) := by
    rw [hflat]
    exact .tail _ (.head _)
  obtain ⟨o, ho, hcase⟩ := List.mem_map.mp hlast
  obtain ⟨part, hpart⟩ := hreports.exists_of_mem ho
  obtain ⟨suite, hsuite, hmem⟩ := List.mem_flatMap.mp ho
  have hvalid := hpart.invalid_eq.symm.trans (hzero.mp hexit suite hsuite o hmem).1
  rw [Except.ok.inj hcase] at hvalid
  cases hvalid

end Harness

end TileBench
