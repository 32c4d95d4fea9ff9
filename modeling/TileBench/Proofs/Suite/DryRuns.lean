import TileBench.Proofs.Suite.Calls
import Mathlib.Data.List.Forall2

/-!
# Dry runs

In a dry run every command is recorded and none is executed. Nothing is judged then, so every read
passes, and a case that is valid has no failures. Which cases are valid, and how many tests they
have, is the same as in a run that executes the commands.
-/

namespace TileBench

namespace CaseOutcome

/-- The case was run as the other one, and all its tests passed if it is valid. -/
structure DryRunOf (o other : CaseOutcome) : Prop where
  case_eq : o.case = other.case
  invalid_eq : o.invalid = other.invalid
  tests_eq : o.tests = other.tests
  successes_eq : o.invalid = none → o.successes = o.tests

/-- The number of tests depends on the plan that was carried out. -/
lemma tests_congr {o other : CaseOutcome} (hinvalid : o.invalid = other.invalid)
    (hplan : o.grids.map GridRun.plan = other.grids.map GridRun.plan) : o.tests = other.tests := by
  have hlength : ∀ o : CaseOutcome, o.reads.length =
      ((o.grids.map GridRun.plan).map fun p => p.reads.length).sum := by
    intro o
    simp [reads, List.length_flatMap, Function.comp_def, GridRun.plan]
  rw [tests, tests, hinvalid, count32, count32, hlength o, hlength other, hplan]

/-- All tests of a valid case passed if there are no verdicts. -/
lemma successes_eq_tests {o : CaseOutcome} (hinvalid : o.invalid = none)
    (hverdict : ∀ r ∈ o.reads, r.verdict = none) : o.successes = o.tests := by
  have hpassed : o.reads.filter ReadOutcome.passed = o.reads := by
    rw [List.filter_eq_self]
    intro r hr
    rw [ReadOutcome.passed, hverdict r hr]
    rfl
  rw [successes, tests, hinvalid, hpassed]
  rfl

variable {config : Config} {launcherArgs : List String} {o other : CaseOutcome}
  {made more : List Launch}

/-- Nothing is judged of launches that were only recorded. -/
lemma Reports.verdict_eq_none (h : o.Reports config launcherArgs made)
    (hrecorded : ∀ l ∈ made, l.outcome = .ok .recorded) : ∀ r ∈ o.reads, r.verdict = none := by
  intro r hr
  obtain ⟨expected, output, -, hmem, hverdict⟩ := h.exists_output hr
  rw [hverdict, Except.ok.inj (hrecorded _ hmem)]
  rfl

/-- The report of a case whose commands were recorded is one of a dry run. -/
lemma Reports.dryRunOf (h : o.Reports config launcherArgs made)
    (hother : other.Reports config launcherArgs more) (hcase : o.case = other.case)
    (hrecorded : ∀ l ∈ made, l.outcome = .ok .recorded) : o.DryRunOf other := by
  have hinvalid : o.invalid = other.invalid := by
    rw [h.invalid_eq, hother.invalid_eq, hcase]
  have hplan : o.grids.map GridRun.plan = other.grids.map GridRun.plan := by
    rw [h.plan_eq, hother.plan_eq, hcase]
  exact ⟨hcase, hinvalid, tests_congr hinvalid hplan, fun hvalid =>
    successes_eq_tests hvalid (h.verdict_eq_none hrecorded)⟩

end CaseOutcome

/-! ### Calls -/

/-- Every case was run as the one of the other call. -/
structure CallOutcome.DryRunOf (o other : CallOutcome) : Prop where
  cases_eq : List.Forall₂ CaseOutcome.DryRunOf o.cases other.cases
  tests_eq : o.tests = other.tests

lemma map_tests_eq {outcomes others : List CaseOutcome}
    (h : List.Forall₂ CaseOutcome.DryRunOf outcomes others) :
    outcomes.map CaseOutcome.tests = others.map CaseOutcome.tests := by
  induction h with
  | nil => rfl
  | cons hhead _ ih => rw [List.map_cons, List.map_cons, hhead.tests_eq, ih]

lemma CallOutcome.dryRunOf_of_cases {o other : CallOutcome}
    (h : List.Forall₂ CaseOutcome.DryRunOf o.cases other.cases) : o.DryRunOf other :=
  ⟨h, by rw [o.tests_eq, other.tests_eq, map_tests_eq h]⟩

variable {config : Config} {launcherArgs : List String} {outcomes others : List CaseOutcome}
  {made more : List Launch}

lemma ReportsAll.dryRunOf (h : ReportsAll config launcherArgs outcomes made)
    (hothers : ReportsAll config launcherArgs others more)
    (hcases : outcomes.map CaseOutcome.case = others.map CaseOutcome.case)
    (hrecorded : ∀ l ∈ made, l.outcome = .ok .recorded) :
    List.Forall₂ CaseOutcome.DryRunOf outcomes others := by
  induction h generalizing others more with
  | nil =>
    obtain rfl : others = [] := by simpa using hcases.symm
    exact .nil
  | cons ho _ ih =>
    obtain ⟨hmade, hmore⟩ := List.forall_mem_append.mp hrecorded
    cases hothers with
    | nil => cases hcases
    | cons hother hothers =>
      obtain ⟨hcase, hcases⟩ := List.cons.inj hcases
      exact .cons (ho.dryRunOf hother hcase hmade) (ih hothers hcases hmore)

namespace Harness

variable {h h' : Harness} {call : Call} {s t : Session} {o o' : CallOutcome}

/-- A call whose commands were recorded is a dry run of the same call of another harness. -/
lemma runCall_dryRunOf (hconfig : h'.config = h.config) (hargs : h'.launcherArgs = h.launcherArgs)
    (hrun : ((h.runCall call).run s).1 = .ok o) (hrun' : ((h'.runCall call).run t).1 = .ok o')
    (hrecorded : ∀ l ∈ (h.runCall call).trace s, l.outcome = .ok .recorded) : o.DryRunOf o' := by
  obtain ⟨-, hcases, hreports⟩ := ((h.runCall_follows call).trace s).2.2 o hrun
  obtain ⟨-, hcases', hreports'⟩ := ((h'.runCall_follows call).trace t).2.2 o' hrun'
  rw [hconfig, hargs] at hreports'
  rw [hconfig, hcases] at hcases'
  have hsame : o.cases.map CaseOutcome.case = o'.cases.map CaseOutcome.case := by
    have hinj : Function.Injective (Except.ok : Case → Except Fault Case) := fun _ _ => Except.ok.inj
    apply hinj.list_map
    rw [List.map_map, List.map_map]
    exact hcases'
  exact CallOutcome.dryRunOf_of_cases (hreports.dryRunOf hreports' hsame hrecorded)

end Harness

end TileBench
