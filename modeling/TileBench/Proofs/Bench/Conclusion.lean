import TileBench.Bench.Program
import TileBench.Proofs.Session.Runs
import TileBench.Proofs.Store.Destinations
import TileBench.Proofs.Suite.Reports
import Mathlib.Data.List.Forall2

/-!
# How a run is concluded

A run of the test program conducts its suites and then reports about them. The table, the document
and the result of the run are made of the same suites.
-/

namespace TileBench.Bench

open Text

/-- What a run does up to the end of its suites. -/
def conduct (e : Surroundings) (a : Arguments) (launcherArgs : List String) :
    Step (Harness × List SuiteOutcome) := do
  let s ← get
  let c ← Step.ofExcept (readyConfig a s.store)
  let launcher ← readyLauncher e.programs a c
  let profile ← readyProfile a
  say a (c.lines a.writers a.readers launcher.name)
  let h : Harness := ⟨c, launcher, launcherArgs, profile, !a.json⟩
  return (h, ← runSuites h a c.varTypes)

/-- The document about some suites. -/
def document (stamp : Stamp) (a : Arguments) (h : Harness) (suites : List SuiteOutcome) : Json :=
  (⟨h.config, a.writers, a.readers, a.scriptMode⟩ : RunParameters).report stamp suites

/-- What a run does after its suites. -/
def conclude (stamp : Stamp) (a : Arguments) (h : Harness) (suites : List SuiteOutcome) :
    Step (UInt32 × List String) := do
  say a (Totals.lines suites h.launcher.executes)
  let complaints ← writeReport a (document stamp a h suites).pretty
  return ((Totals.ofSuites suites).failures, complaints)

variable (e : Surroundings) (stamp : Stamp) (a : Arguments) (launcherArgs : List String)

/-- A run conducts its suites and then reports about them. -/
lemma run_eq :
    run e stamp a launcherArgs =
      conduct e a launcherArgs >>= fun reached => conclude stamp a reached.1 reached.2 := by
  unfold run conduct conclude
  simp only [bind_assoc, pure_bind]
  rfl

lemma run_say (lines : List String) (s : Session) :
    (say a lines).run s =
      (.ok (), { s with printed := s.printed ++ if a.json then [] else lines }) := by
  unfold say
  split
  · simp
  · rw [Step.run_printLines]

/-- The document goes to the terminal, to a file, to both or to neither. -/
lemma exists_run_writeReport (text : String) (s : Session) :
    ∃ complaints store, (writeReport a text).run s =
        (.ok complaints,
          { s with store, printed := s.printed ++ if a.json then [text] else [] }) ∧
      ∀ path, a.jsonFile = some path → complaints = [] → store.read path = .ok (bytesOf text) := by
  have hprint : ∀ (f : Unit → Step (List String)),
      (if a.json then Step.printLine text >>= f else f ()).run s =
        (f ()).run { s with printed := s.printed ++ if a.json then [text] else [] } := by
    intro f
    split
    · rw [Step.run_bind, Step.printLine, Step.run_modify]
      simp
    · simp
  unfold writeReport
  rw [hprint]
  cases hfile : a.jsonFile with
  | none => exact ⟨[], s.store, rfl, fun _ h => by cases h⟩
  | some path =>
    dsimp only
    rw [Step.run_bind, Step.run_get]
    dsimp only
    cases hwrite : s.store.write path (bytesOf text) with
    | ok store =>
      refine ⟨[], store, rfl, ?_⟩
      rintro _ ⟨⟩ -
      rw [Store.read_eq_ok_iff]
      exact Store.contents?_of_modify hwrite
    | error cause => exact ⟨_, s.store, rfl, fun _ _ h => by cases h⟩

lemma exists_run_conclude (h : Harness) (suites : List SuiteOutcome) (s : Session) :
    ∃ complaints store, (conclude stamp a h suites).run s =
        (.ok ((Totals.ofSuites suites).failures, complaints),
          { s with
            store
            printed := s.printed ++
              if a.json then [(document stamp a h suites).pretty]
              else Totals.lines suites h.launcher.executes }) ∧
      ∀ path, a.jsonFile = some path → complaints = [] →
        store.read path = .ok (bytesOf (document stamp a h suites).pretty) := by
  obtain ⟨complaints, store, hrun, hfile⟩ := exists_run_writeReport a
    (document stamp a h suites).pretty
    { s with printed := s.printed ++ if a.json then [] else
        Totals.lines suites h.launcher.executes }
  refine ⟨complaints, store, ?_, hfile⟩
  unfold conclude
  rw [Step.run_bind, run_say]
  dsimp only
  rw [Step.run_bind, hrun]
  dsimp only
  split <;> simp

/-- The lines over the table. -/
def tableHead : List String :=
  ["", "Summary of all suites:",
    "suite      type           cases   tests   success  failures",
    "-----      ----           -----   -----   -------  --------"]

/-- A table has a head, a line for each suite and a line that closes it. -/
lemma lines_eq {suites : List SuiteOutcome} (hsuites : suites ≠ []) (executed : Bool) :
    Totals.lines suites executed = tableHead ++ suites.map SuiteOutcome.line
      ++ [(Totals.ofSuites suites).closingLine executed] := by
  have hhead : tableHead = ["", "Summary of all suites:",
      SuiteOutcome.tableLine "suite" "type" "cases" "tests" "success" "failures",
      SuiteOutcome.tableLine "-----" "----" "-----" "-----" "-------" "--------"] := by
    decide +kernel
  rw [Totals.lines, if_neg (by simpa using hsuites), hhead]

/-- The document about a run, the table of its suites and the number that it ends with agree, and a
reader of the document can compute all of them from its reads. -/
theorem reports_agree (suites : List SuiteOutcome) (hsuites : suites ≠ [])
    (hcount : ((suites.flatMap SuiteOutcome.cases).map CaseOutcome.testCount).sum < 2 ^ 32) :
    ∃ tests successes failures,
      (∀ (p : RunParameters) (stamp : Stamp),
        (p.report stamp suites).Accounts tests successes failures) ∧
      (∀ (p : RunParameters) (stamp : Stamp) (executed : Bool), ∃ rows closing,
        Totals.lines suites executed = tableHead ++ rows ++ [closing] ∧
        List.Forall₂ Json.ShownBy ((p.report stamp suites).listAt "suites") rows ∧
        (executed = true → closing =
          if failures = 0 then "ALL TESTS PASSED" else toString failures ++ " test(s) FAILED")) ∧
      ∀ (e : Surroundings) (stamp : Stamp) (a : Arguments) (launcherArgs : List String)
        (s t : Session) (h : Harness),
        (conduct e a launcherArgs).run s = (.ok (h, suites), t) →
        ∃ failed complaints u,
          (run e stamp a launcherArgs).run s = (.ok (failed, complaints), u) ∧
          failed.toNat = failures ∧ (Totals.exitCode failed).toNat = min failures 255 ∧
          u.printed.toList = t.printed.toList ++ (
            if a.json then [(document stamp a h suites).pretty]
            else Totals.lines suites h.launcher.executes) ∧
          ∀ path, a.jsonFile = some path → complaints = [] →
            u.store.read path = .ok (bytesOf (document stamp a h suites).pretty) := by
  have hfailures := Totals.failures_toNat_of_fits hcount
  refine ⟨_, _, _, fun p stamp => report_accounts p stamp hcount, ?_, ?_⟩
  · intro p stamp executed
    refine ⟨suites.map SuiteOutcome.line, (Totals.ofSuites suites).closingLine executed, ?_, ?_, ?_⟩
    · exact lines_eq hsuites executed
    · rw [listAt_suites, List.forall₂_map_left_iff, List.forall₂_map_right_iff, List.forall₂_same]
      exact fun suite hsuite => SuiteOutcome.shownBy_line (sum_testCount_of_mem hcount hsuite)
    · rintro rfl
      have hzero : (Totals.ofSuites suites).failures = 0 ↔
          ((suites.flatMap SuiteOutcome.cases).map fun o => o.failures.toNat).sum = 0 := by
        rw [← hfailures, ← UInt32.toNat_inj]
        rfl
      simp only [Totals.closingLine, Bool.not_true, Bool.false_eq_true, if_false, hzero, hfailures]
  · intro e stamp a launcherArgs s t h hrun
    obtain ⟨complaints, store, hconclude, hfile⟩ := exists_run_conclude stamp a h suites t
    have hdone : (run e stamp a launcherArgs).run s = (conclude stamp a h suites).run t := by
      rw [run_eq, Step.run_bind, hrun]
    refine ⟨_, complaints, _, hdone.trans hconclude, hfailures, ?_, ?_, hfile⟩
    · rw [Totals.exitCode_toNat, hfailures]
    · simp

/-- A suite with one read that passed and one that failed, and a suite with an invalid case. -/
def mixedSuites : List SuiteOutcome :=
  let command : Command := ⟨"mpirun", [], 4, "idx_read", []⟩
  let reads : List ReadOutcome :=
    [⟨1, 0, command, some ⟨6912, ⟨6912, 0⟩⟩⟩, ⟨2, 0, command, some ⟨6912, .unreported⟩⟩]
  let grid : GridRun := ⟨⟨2, 2, 1⟩, ⟨12, 12, 12⟩, command, some 0, reads⟩
  let invalid : InvalidDecomposition := ⟨⟨24, 24, 12⟩, ⟨4, 12, 12⟩, ⟨5, 2, 1⟩, 10⟩
  [⟨"pow2", ⟨1, "float32"⟩, [⟨Harness.rehearsedCase, none, [grid]⟩]⟩,
    ⟨"non-pow2", ⟨1, "float32"⟩, [⟨Harness.rehearsedCase, some invalid, []⟩]⟩]

/-- One of three tests passed, and the table says so. -/
theorem mixedSuites_fail_twice :
    Totals.lines mixedSuites true =
      ["", "Summary of all suites:",
        "suite      type           cases   tests   success  failures",
        "-----      ----           -----   -----   -------  --------",
        "pow2       1*float32          1       2         1         1",
        "non-pow2   1*float32          1       1         0         1",
        "2 test(s) FAILED"] := by
  have hcount :
      ((mixedSuites.flatMap SuiteOutcome.cases).map CaseOutcome.testCount).sum < 2 ^ 32 := by
    decide
  obtain ⟨tests, successes, failures, hreport, htable, -⟩ :=
    reports_agree mixedSuites (by decide) hcount
  have hsum := (hreport ⟨.standard, 4, 4, false⟩ ⟨"", "", "", ""⟩).failures_of_cases
  obtain ⟨rows, closing, hlines, hrows, hclosing⟩ :=
    htable ⟨.standard, 4, 4, false⟩ ⟨"", "", "", ""⟩ true
  have hfailures : failures = 2 := (Option.some.inj (hsum.symm.trans rfl))
  rw [listAt_suites, mixedSuites, List.map_cons, List.map_cons, List.map_nil] at hrows
  obtain ⟨first, _, hfirst, hrest, rfl⟩ := List.forall₂_cons_left_iff.mp hrows
  obtain ⟨second, _, hsecond, hnil, rfl⟩ := List.forall₂_cons_left_iff.mp hrest
  cases hnil
  have hpow2 : first = "pow2       1*float32          1       2         1         1" :=
    hfirst.eq ⟨"pow2", "1*float32", 2, 1, 1, rfl, rfl, rfl, rfl, rfl, by decide +kernel⟩
  have hnonPow2 : second = "non-pow2   1*float32          1       1         0         1" :=
    hsecond.eq ⟨"non-pow2", "1*float32", 1, 0, 1, rfl, rfl, rfl, rfl, rfl, by decide +kernel⟩
  rw [hlines, hclosing rfl, hfailures, hpow2, hnonPow2]
  rfl

end TileBench.Bench
