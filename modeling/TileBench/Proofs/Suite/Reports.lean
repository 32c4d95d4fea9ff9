import TileBench.Proofs.Json.Lookup
import TileBench.Proofs.Suite.Counts
import TileBench.Suite.Console
import TileBench.Suite.Report

/-!
# Reports agree

The numbers in the report of a run, in its table of the suites and in its exit code are sums over
the same reads. Each of them can be computed again by a reader of the report alone: the tests of a
case from its reads, those of a suite from its cases, and those of the run from its suites.
-/

namespace TileBench

/-! ### Reading a report -/

namespace Json

def casesOf (report : Json) : List Json := (report.listAt "suites").flatMap (·.listAt "cases")

def readsOf (c : Json) : List Json := (c.listAt "grids").flatMap (·.listAt "reads")

/-- The tests of a case that did not pass. -/
def failuresOf? (c : Json) : Option Nat := do
  return (← c.natAt? "tests") - (← c.natAt? "successes")

/-- A read tells what it counted exactly if it was executed, and passes if it was not. -/
structure ReadAccounts (r : Json) : Prop where
  executed : (r.flagAt? "executed").isSome
  passed : (r.flagAt? "passed").isSome
  unjudged : r.flagAt? "executed" = some false ↔
    r.member? "correct" = some .null ∧ r.member? "incorrect" = some .null
  recorded : r.flagAt? "executed" = some false → r.flagAt? "passed" = some true

/-- The tests of a valid case are its reads, and an invalid case is one test that failed. -/
structure CaseAccounts (c : Json) : Prop where
  known : (c.flagAt? "valid").isSome
  valid : c.flagAt? "valid" = some true →
    c.natAt? "tests" = some c.readsOf.length ∧
    c.natAt? "successes" = some (c.readsOf.countP fun r => r.flagAt? "passed" = some true)
  invalid : c.flagAt? "valid" = some false →
    c.natAt? "tests" = some 1 ∧ c.natAt? "successes" = some 0
  reads : ∀ r ∈ c.readsOf, r.ReadAccounts

/-- The summary of a report has the sums over its cases and over its suites. -/
structure Accounts (report : Json) (tests successes failures : Nat) : Prop where
  summary : ∃ summary, report.member? "summary" = some summary ∧
    summary.natAt? "tests" = some tests ∧ summary.natAt? "successes" = some successes ∧
    summary.natAt? "failures" = some failures
  tests_eq : tests = successes + failures
  tests_of_cases : sum? (·.natAt? "tests") report.casesOf = some tests
  successes_of_cases : sum? (·.natAt? "successes") report.casesOf = some successes
  failures_of_cases : sum? failuresOf? report.casesOf = some failures
  failures_of_suites : sum? (·.natAt? "failures") (report.listAt "suites") = some failures
  cases : ∀ c ∈ report.casesOf, c.CaseAccounts

/-- A line of the table shows what a report tells about a suite, in six columns: two texts filled up
on the right, and four numbers filled up on the left. -/
def ShownBy (suite : Json) (line : String) : Prop :=
  ∃ name varType tests successes failures,
    suite.textAt? "name" = some name ∧ suite.textAt? "varType" = some varType ∧
    sum? (·.natAt? "tests") (suite.listAt "cases") = some tests ∧
    sum? (·.natAt? "successes") (suite.listAt "cases") = some successes ∧
    suite.natAt? "failures" = some failures ∧
    line.toList = name.toList.rightpad 10 ' ' ++ ' ' :: varType.toList.rightpad 12 ' '
      ++ ' ' :: (toString (suite.listAt "cases").length).toList.leftpad 7 ' '
      ++ ' ' :: (toString tests).toList.leftpad 7 ' '
      ++ ' ' :: (toString successes).toList.leftpad 9 ' '
      ++ ' ' :: (toString failures).toList.leftpad 9 ' '

/-- A report shows a suite in one way only. -/
lemma ShownBy.eq {suite : Json} {line line' : String} (h : suite.ShownBy line)
    (h' : suite.ShownBy line') : line = line' := by
  obtain ⟨name, varType, tests, successes, failures, hname, htype, htests, hsuccesses, hfailures,
    hline⟩ := h
  obtain ⟨_, _, _, _, _, hname', htype', htests', hsuccesses', hfailures', hline'⟩ := h'
  cases hname.symm.trans hname'
  cases htype.symm.trans htype'
  cases htests.symm.trans htests'
  cases hsuccesses.symm.trans hsuccesses'
  cases hfailures.symm.trans hfailures'
  exact String.toList_inj.mp (hline.trans hline'.symm)

end Json

open Json

/-! ### What is in a report -/

lemma ReadOutcome.flagAt?_passed (r : ReadOutcome) : r.json.flagAt? "passed" = some r.passed := rfl

lemma ReadOutcome.accounts (r : ReadOutcome) : r.json.ReadAccounts := by
  have hexecuted : r.json.flagAt? "executed" = some r.verdict.isSome := rfl
  have hcorrect : r.json.member? "correct" =
      some (.optional (fun v => .int v.counts.correct) r.verdict) := rfl
  have hincorrect : r.json.member? "incorrect" =
      some (.optional (fun v => .int v.counts.incorrect) r.verdict) := rfl
  have hpassed := r.flagAt?_passed
  refine ⟨by rw [hexecuted]; rfl, by rw [hpassed]; rfl, ?_, ?_⟩ <;>
    rw [hexecuted]
  · rw [hcorrect, hincorrect]
    cases r.verdict <;> simp [Json.optional]
  · rw [hpassed, ReadOutcome.passed]
    cases r.verdict <;> simp

namespace CaseOutcome

variable (o : CaseOutcome)

lemma flagAt?_valid : o.json.flagAt? "valid" = some o.invalid.isNone := by
  unfold json
  cases o.case.label <;> cases o.case.samples? <;> cases o.invalid <;> rfl

lemma natAt?_tests : o.json.natAt? "tests" = some o.tests.toNat := by
  unfold json
  cases o.case.label <;> cases o.case.samples? <;> cases o.invalid <;> rfl

lemma natAt?_successes : o.json.natAt? "successes" = some o.successes.toNat := by
  unfold json
  cases o.case.label <;> cases o.case.samples? <;> cases o.invalid <;> rfl

lemma listAt_grids : o.json.listAt "grids" = o.grids.map GridRun.json := by
  unfold json
  cases o.case.label <;> cases o.case.samples? <;> cases o.invalid <;> rfl

lemma readsOf_json : o.json.readsOf = o.reads.map ReadOutcome.json := by
  have hreads : ∀ g : GridRun, g.json.listAt "reads" = g.reads.map ReadOutcome.json :=
    fun _ => rfl
  rw [readsOf, o.listAt_grids, List.flatMap_map, reads, List.map_flatMap]
  simp only [hreads]

/-- The tests of a case that did not pass are its failures. -/
lemma failuresOf?_json (h : o.testCount < 2 ^ 32) :
    failuresOf? o.json = some o.failures.toNat := by
  rw [failuresOf?, o.natAt?_tests, o.natAt?_successes, o.tests_eq_add h]
  simp

lemma accounts (h : o.testCount < 2 ^ 32) : o.json.CaseAccounts := by
  refine ⟨by rw [o.flagAt?_valid]; rfl, fun hvalid => ?_, fun hvalid => ?_, fun r hr => ?_⟩
  · rw [o.flagAt?_valid, Option.some.injEq, Option.isNone_iff_eq_none] at hvalid
    have htests : o.tests.toNat = o.reads.length := by
      rw [o.tests_toNat h, testCount, hvalid]
      rfl
    have hsuccesses : o.successes.toNat = o.reads.countP ReadOutcome.passed := by
      rw [o.successes_toNat h, hvalid]
      rfl
    rw [o.natAt?_tests, o.natAt?_successes, o.readsOf_json, htests, hsuccesses, List.length_map,
      List.countP_map]
    simp [Function.comp_def, ReadOutcome.flagAt?_passed]
  · rw [o.flagAt?_valid, Option.some.injEq, Option.isNone_eq_false_iff] at hvalid
    obtain ⟨htests, hsuccesses, -⟩ := o.counts_of_invalid hvalid
    rw [o.natAt?_tests, o.natAt?_successes, htests, hsuccesses]
    exact ⟨rfl, rfl⟩
  · rw [o.readsOf_json] at hr
    obtain ⟨r, -, rfl⟩ := List.mem_map.mp hr
    exact r.accounts

end CaseOutcome

/-! ### Sums -/

namespace CaseOutcome

lemma tests_le_testCount (o : CaseOutcome) (h : o.testCount < 2 ^ 32) :
    o.tests.toNat ≤ o.testCount := (o.tests_toNat h).le

lemma successes_le_testCount (o : CaseOutcome) (h : o.testCount < 2 ^ 32) :
    o.successes.toNat ≤ o.testCount := by
  rw [← o.tests_toNat h, o.tests_eq_add h]
  exact Nat.le_add_right _ _

end CaseOutcome

section

variable {suites : List SuiteOutcome}

lemma sum_map_flatMap_cases (number : CaseOutcome → Nat) :
    ((suites.flatMap SuiteOutcome.cases).map number).sum =
      (suites.map fun suite => (suite.cases.map number).sum).sum := by
  induction suites with
  | nil => rfl
  | cons suite rest ih =>
    rw [List.flatMap_cons, List.map_append, List.sum_append, ih, List.map_cons, List.sum_cons]

variable (hcount : ((suites.flatMap SuiteOutcome.cases).map CaseOutcome.testCount).sum < 2 ^ 32)

include hcount

lemma sum_testCount_of_mem {suite : SuiteOutcome} (h : suite ∈ suites) :
    (suite.cases.map CaseOutcome.testCount).sum < 2 ^ 32 := by
  rw [sum_map_flatMap_cases] at hcount
  exact (List.le_sum_of_mem (List.mem_map_of_mem h)).trans_lt hcount

/-- Every test of some suites passed or failed. -/
lemma sum_tests_eq_add :
    ((suites.flatMap SuiteOutcome.cases).map fun o => o.tests.toNat).sum =
      ((suites.flatMap SuiteOutcome.cases).map fun o => o.successes.toNat).sum +
        ((suites.flatMap SuiteOutcome.cases).map fun o => o.failures.toNat).sum := by
  rw [← List.sum_map_add]
  refine congrArg List.sum (List.map_congr_left fun o ho => ?_)
  exact o.tests_eq_add ((List.le_sum_of_mem (List.mem_map_of_mem ho)).trans_lt hcount)

lemma sum_failures_of_suites :
    (suites.map fun suite => suite.failures.toNat).sum =
      ((suites.flatMap SuiteOutcome.cases).map fun o => o.failures.toNat).sum := by
  rw [sum_map_flatMap_cases]
  refine congrArg List.sum (List.map_congr_left fun suite hsuite => ?_)
  exact total_map_toNat CaseOutcome.failures_le_testCount (sum_testCount_of_mem hcount hsuite)

end

/-! ### The report and the table -/

variable {suites : List SuiteOutcome} (p : RunParameters) (stamp : Stamp)

lemma listAt_suites : (p.report stamp suites).listAt "suites" = suites.map SuiteOutcome.json := rfl

lemma casesOf_report :
    (p.report stamp suites).casesOf =
      (suites.flatMap SuiteOutcome.cases).map CaseOutcome.json := by
  have hcases : ∀ suite : SuiteOutcome,
      suite.json.listAt "cases" = suite.cases.map CaseOutcome.json := fun _ => rfl
  rw [casesOf, listAt_suites, List.flatMap_map, List.map_flatMap]
  simp only [hcases]

section

variable (hcount : ((suites.flatMap SuiteOutcome.cases).map CaseOutcome.testCount).sum < 2 ^ 32)

include hcount

lemma report_accounts :
    (p.report stamp suites).Accounts
      ((suites.flatMap SuiteOutcome.cases).map fun o => o.tests.toNat).sum
      ((suites.flatMap SuiteOutcome.cases).map fun o => o.successes.toNat).sum
      ((suites.flatMap SuiteOutcome.cases).map fun o => o.failures.toNat).sum := by
  have hfits : ∀ o ∈ suites.flatMap SuiteOutcome.cases, o.testCount < 2 ^ 32 := fun o ho =>
    (List.le_sum_of_mem (List.mem_map_of_mem ho)).trans_lt hcount
  have htests : (Totals.ofSuites suites).tests.toNat = _ :=
    (congrArg UInt32.toNat (total_flatMap_cases suites CaseOutcome.tests)).trans
      (total_map_toNat CaseOutcome.tests_le_testCount hcount)
  have hsuccesses : (Totals.ofSuites suites).successes.toNat = _ :=
    (congrArg UInt32.toNat (total_flatMap_cases suites CaseOutcome.successes)).trans
      (total_map_toNat CaseOutcome.successes_le_testCount hcount)
  have hfailures := Totals.failures_toNat_of_fits hcount
  refine ⟨⟨(Totals.ofSuites suites).json, rfl, ?_, ?_, ?_⟩, sum_tests_eq_add hcount, ?_, ?_, ?_, ?_, ?_⟩
  · rw [← htests]
    rfl
  · rw [← hsuccesses]
    rfl
  · rw [← hfailures]
    rfl
  · rw [casesOf_report]
    exact sum?_map fun o _ => o.natAt?_tests
  · rw [casesOf_report]
    exact sum?_map fun o _ => o.natAt?_successes
  · rw [casesOf_report]
    exact sum?_map fun o ho => o.failuresOf?_json (hfits o ho)
  · rw [listAt_suites, ← sum_failures_of_suites hcount]
    exact sum?_map fun suite _ => rfl
  · intro c hc
    rw [casesOf_report] at hc
    obtain ⟨o, ho, rfl⟩ := List.mem_map.mp hc
    exact o.accounts (hfits o ho)

end

/-- The table shows what the report tells about each suite. -/
lemma SuiteOutcome.shownBy_line {suite : SuiteOutcome}
    (h : (suite.cases.map CaseOutcome.testCount).sum < 2 ^ 32) :
    suite.json.ShownBy suite.line := by
  have hlist : suite.json.listAt "cases" = suite.cases.map CaseOutcome.json := rfl
  refine ⟨suite.name, suite.varType.text, suite.tests.toNat, suite.successes.toNat,
    suite.failures.toNat, rfl, rfl, ?_, ?_, rfl, ?_⟩
  · rw [hlist, tests, total_map_toNat CaseOutcome.tests_le_testCount h]
    exact sum?_map fun o _ => o.natAt?_tests
  · rw [hlist, successes, total_map_toNat CaseOutcome.successes_le_testCount h]
    exact sum?_map fun o _ => o.natAt?_successes
  · rw [hlist, List.length_map]
    simp [line, tableLine, Text.alignLeft, Text.alignRight]

end TileBench
