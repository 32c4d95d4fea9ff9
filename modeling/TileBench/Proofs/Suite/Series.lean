import TileBench.Bench.Program
import TileBench.Proofs.Suite.Conduct

/-!
# Series of suites

A run of the test program is a series of suites, and a suite is a list of cases that are run in
turn. The cases of a suite are known beforehand, so a series has a plan too: the plans of its cases
one after the other, up to the first case that cannot be made.
-/

namespace TileBench

/-- The two ways to make the cases of a suite. -/
inductive SuiteKind where
  | blockGrids
  | fixedBox
  deriving DecidableEq

/-- The outcomes are true reports of the launches of their cases, one case after the other. -/
inductive ReportsAll (config : Config) (launcherArgs : List String) :
    List CaseOutcome → List Launch → Prop
  | nil : ReportsAll config launcherArgs [] []
  | cons {o : CaseOutcome} {outcomes : List CaseOutcome} {made more : List Launch} :
    o.Reports config launcherArgs made → ReportsAll config launcherArgs outcomes more →
      ReportsAll config launcherArgs (o :: outcomes) (made ++ more)

lemma ReportsAll.append {config : Config} {launcherArgs : List String}
    {outcomes others : List CaseOutcome} {made more : List Launch}
    (h : ReportsAll config launcherArgs outcomes made)
    (hmore : ReportsAll config launcherArgs others more) :
    ReportsAll config launcherArgs (outcomes ++ others) (made ++ more) := by
  induction h with
  | nil => exact hmore
  | cons ho _ ih =>
    rw [List.append_assoc]
    exact .cons ho ih

/-! ### Cases -/

/-- The cases in front of the first one that cannot be made. -/
def plannedCases : List (Except Fault Case) → List Case
  | .ok c :: rest => c :: plannedCases rest
  | _ => []

lemma mem_of_mem_plannedCases {cases : List (Except Fault Case)} {c : Case}
    (h : c ∈ plannedCases cases) : .ok c ∈ cases := by
  induction cases with
  | nil => cases h
  | cons made rest ih =>
    cases made with
    | error fault => cases h
    | ok first =>
      rcases List.mem_cons.mp h with rfl | hrest
      · exact List.mem_cons_self
      · exact List.mem_cons_of_mem _ (ih hrest)

def caseRequests (config : Config) (launcherArgs : List String)
    (cases : List (Except Fault Case)) : List Request :=
  (plannedCases cases).flatMap fun c => c.requests config launcherArgs

namespace SuitePlan

def cases (p : SuitePlan) (config : Config) : SuiteKind → List (Except Fault Case)
  | .blockGrids =>
    match config.procs.grids p.writers with
    | .ok grids => grids.map (p.blockGridCase config.patch)
    | .error _ => []
  | .fixedBox =>
    match config.procs.defaultGrid p.writers >>= p.fixedBoxCases with
    | .ok cases => cases.map .ok
    | .error _ => []

end SuitePlan

namespace Harness

open Step

variable (h : Harness)

lemma runCases_follows (cases : List (Except Fault Case)) :
    Follows (h.runCases cases) (caseRequests h.config h.launcherArgs cases) fun outcomes made =>
      cases = outcomes.map (fun o => .ok o.case) ∧
      ReportsAll h.config h.launcherArgs outcomes made := by
  induction cases with
  | nil => exact Follows.pure ⟨rfl, .nil⟩
  | cons made rest ih =>
    unfold runCases
    refine Follows.after_ofExcept fun c hc => ?_
    subst hc
    refine Follows.after_quiet (h.quiet_say _) fun _ => ?_
    have hplan : caseRequests h.config h.launcherArgs (.ok c :: rest) =
        c.requests h.config h.launcherArgs ++ caseRequests h.config h.launcherArgs rest := by
      simp only [caseRequests, plannedCases, List.flatMap_cons]
    rw [hplan]
    refine (h.runCase_follows c).bind fun outcome made houtcome => ?_
    refine ih.bind_last fun outcomes more hrest => Follows.pure ⟨?_, ?_⟩
    · rw [List.map_cons, houtcome.1, ← hrest.1]
    · rw [List.append_nil]
      exact .cons houtcome.2 hrest.2

/-! ### Suites -/

def runSuite (p : SuitePlan) : SuiteKind → Step SuiteOutcome
  | .blockGrids => h.runBlockGrids p
  | .fixedBox => h.runFixedBox p

lemma runSuite_follows (p : SuitePlan) (kind : SuiteKind) :
    Follows (h.runSuite p kind) (caseRequests h.config h.launcherArgs (p.cases h.config kind))
      fun suite made =>
        p.cases h.config kind = suite.cases.map (fun o => .ok o.case) ∧
        ReportsAll h.config h.launcherArgs suite.cases made := by
  cases kind with
  | blockGrids =>
    simp only [runSuite, runBlockGrids]
    refine Follows.after_quiet (h.quiet_say _) fun _ => ?_
    refine Follows.after_ofExcept fun grids hgrids => ?_
    have hcases : p.cases h.config .blockGrids = grids.map (p.blockGridCase h.config.patch) := by
      simp [SuitePlan.cases, hgrids]
    rw [hcases]
    refine (h.runCases_follows _).bind_last fun outcomes made houtcomes => ?_
    refine Follows.after_optional (h.quiet_say _) (Follows.pure ?_)
    rw [List.append_nil]
    exact houtcomes
  | fixedBox =>
    simp only [runSuite, runFixedBox]
    refine Follows.after_quiet (h.quiet_say _) fun _ => ?_
    refine Follows.after_ofExcept fun grid hgrid => ?_
    refine Follows.after_ofExcept fun cases hmade => ?_
    have hcases : p.cases h.config .fixedBox = cases.map .ok := by
      simp [SuitePlan.cases, hgrid, hmade, bind, Except.bind]
    rw [hcases]
    refine (h.runCases_follows _).bind_last fun outcomes made houtcomes => ?_
    refine Follows.after_optional (h.quiet_say _) (Follows.pure ?_)
    rw [List.append_nil]
    exact houtcomes

/-! ### Series -/

def runSeries : List (SuiteKind × SuitePlan) → Step (List SuiteOutcome)
  | [] => pure []
  | (kind, p) :: rest => do
    let first ← h.runSuite p kind
    return first :: (← runSeries rest)

def seriesRequests (config : Config) (launcherArgs : List String)
    (series : List (SuiteKind × SuitePlan)) : List Request :=
  series.flatMap fun entry => caseRequests config launcherArgs (entry.2.cases config entry.1)

lemma runSeries_follows (series : List (SuiteKind × SuitePlan)) :
    Follows (h.runSeries series) (seriesRequests h.config h.launcherArgs series)
      fun suites made =>
        series.map (fun entry => entry.2.cases h.config entry.1) =
          suites.map (fun suite => suite.cases.map fun o => .ok o.case) ∧
        ReportsAll h.config h.launcherArgs (suites.flatMap SuiteOutcome.cases) made := by
  induction series with
  | nil => exact Follows.pure ⟨rfl, .nil⟩
  | cons entry rest ih =>
    obtain ⟨kind, p⟩ := entry
    unfold runSeries
    refine (h.runSuite_follows p kind).bind fun suite made hsuite => ?_
    refine ih.bind_last fun suites more hrest => Follows.pure ⟨?_, ?_⟩
    · rw [List.map_cons, List.map_cons, hsuite.1, hrest.1]
    · rw [List.append_nil]
      exact hsuite.2.append hrest.2

end Harness

namespace Bench

/-- The series of the test program: for each variable type the suite of block grids, and the suite
of the fixed box if it is asked for. -/
def series (config : Config) (a : Arguments) (types : List VarType) :
    List (SuiteKind × SuitePlan) :=
  types.flatMap fun varType =>
    let p : SuitePlan := ⟨a.writers, a.readers, varType, config.vars, config.timesteps⟩
    (.blockGrids, p) :: if config.fixedBox then [(.fixedBox, p)] else []

/-- The test program runs its series. -/
lemma runSuites_eq_runSeries (h : Harness) (a : Arguments) (types : List VarType) :
    runSuites h a types = h.runSeries (series h.config a types) := by
  induction types with
  | nil => rfl
  | cons varType rest ih =>
    simp only [runSuites, ih, series, List.flatMap_cons]
    cases h.config.fixedBox <;>
      simp [Harness.runSeries, Harness.runSuite]

end Bench

end TileBench
