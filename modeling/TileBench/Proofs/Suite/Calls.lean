import TileBench.Proofs.Suite.Success

/-!
# Calls

A harness can be called again and again: each call runs a case or a suite. A call that ends with a
fault does not keep the next one from being run.
-/

namespace TileBench

inductive Call where
  | case (c : Case)
  | suite (kind : SuiteKind) (p : SuitePlan)
  deriving DecidableEq

/-- The cases of a call can be made, and are ready. -/
def Call.Ready (config : Config) : Call → Prop
  | .case c => c.Ready config
  | .suite kind p => p.Ready config kind

inductive CallOutcome where
  | case (o : CaseOutcome)
  | suite (s : SuiteOutcome)
  deriving DecidableEq

def Call.cases (config : Config) : Call → List (Except Fault Case)
  | .case c => [.ok c]
  | .suite kind p => p.cases config kind

namespace CallOutcome

def cases : CallOutcome → List CaseOutcome
  | .case o => [o]
  | .suite s => s.cases

def tests : CallOutcome → UInt32
  | .case o => o.tests
  | .suite s => s.tests

lemma tests_eq (o : CallOutcome) : o.tests = total (o.cases.map CaseOutcome.tests) := by
  cases o with
  | case o => simp [tests, cases, total]
  | suite s => rfl

end CallOutcome

namespace Harness

open Step

variable (h : Harness)

def runCall : Call → Step CallOutcome
  | .case c => do return .case (← h.runCase c)
  | .suite kind p => do return .suite (← h.runSuite p kind)

def runCalls : List Call → Session → List (Except Fault CallOutcome) × Session
  | [], s => ([], s)
  | call :: rest, s =>
    let (result, s) := (h.runCall call).run s
    let (results, s) := runCalls rest s
    (result :: results, s)

/-- A call asks for the requests of its cases, and reports about them. -/
lemma runCall_follows (call : Call) :
    Follows (h.runCall call) (caseRequests h.config h.launcherArgs (call.cases h.config))
      fun outcome made =>
        call.cases h.config = outcome.cases.map (fun o => .ok o.case) ∧
        ReportsAll h.config h.launcherArgs outcome.cases made := by
  cases call with
  | case c =>
    have hplan : caseRequests h.config h.launcherArgs [.ok c] =
        c.requests h.config h.launcherArgs := by
      simp [caseRequests, plannedCases]
    unfold runCall
    rw [Call.cases, hplan]
    refine (h.runCase_follows c).bind_last fun outcome made houtcome => Follows.pure ⟨?_, ?_⟩
    · rw [CallOutcome.cases, List.map_singleton, houtcome.1]
    · exact .cons houtcome.2 .nil
  | suite kind p =>
    unfold runCall
    refine (h.runSuite_follows p kind).bind_last fun suite made hsuite => Follows.pure ?_
    rw [List.append_nil]
    exact hsuite

/-- The launches that calls add to a session. -/
def callsTrace (calls : List Call) (s : Session) : List Launch :=
  (h.runCalls calls s).2.launches.toList.drop s.launches.size

lemma callsTrace_nil (s : Session) : h.callsTrace [] s = [] := by
  simp [callsTrace, runCalls]

lemma launches_runCalls (calls : List Call) (s : Session) :
    (h.runCalls calls s).2.launches.toList = s.launches.toList ++ h.callsTrace calls s := by
  induction calls generalizing s with
  | nil => simp [callsTrace, runCalls]
  | cons call rest ih =>
    have hcall := ((h.runCall_follows call).trace s).1
    have hrest := ih ((h.runCall call).run s).2
    rw [hcall, List.append_assoc] at hrest
    have hall : (h.runCalls (call :: rest) s).2.launches.toList = s.launches.toList ++
        ((h.runCall call).trace s ++ h.callsTrace rest ((h.runCall call).run s).2) := hrest
    rw [callsTrace, hall]
    simp

lemma callsTrace_cons (call : Call) (rest : List Call) (s : Session) :
    h.callsTrace (call :: rest) s =
      (h.runCall call).trace s ++ h.callsTrace rest ((h.runCall call).run s).2 := by
  have hall := h.launches_runCalls (call :: rest) s
  have hrest := h.launches_runCalls rest ((h.runCall call).run s).2
  rw [((h.runCall_follows call).trace s).1, List.append_assoc] at hrest
  exact List.append_cancel_left (hall.symm.trans hrest)

/-! ### Success -/

variable {h} {good : Store → Array Launch → Prop}

lemma Smooth.runCall (hsmooth : h.Smooth good) {call : Call} (hready : call.Ready h.config) :
    Succeeds good (h.runCall call) := by
  rw [succeeds_iff_keeps]
  cases call with
  | case c => exact (hsmooth.confined.runCase hready).bind fun o => keeps_pure _
  | suite kind p => exact (hsmooth.confined.runSuite hready).bind fun o => keeps_pure _

/-- A smooth harness carries out every call that is ready. -/
lemma Smooth.runCalls (hsmooth : h.Smooth good) {calls : List Call}
    (hready : ∀ call ∈ calls, call.Ready h.config) (s : Session)
    (hgood : good s.store s.launches) :
    (∀ r ∈ (h.runCalls calls s).1, ∃ o, r = .ok o) ∧
      good (h.runCalls calls s).2.store (h.runCalls calls s).2.launches := by
  induction calls generalizing s with
  | nil => exact ⟨List.forall_mem_nil _, hgood⟩
  | cons call rest ih =>
    obtain ⟨hhead, hrest⟩ := List.forall_mem_cons.mp hready
    obtain ⟨o, t, hrun, ht⟩ := hsmooth.runCall hhead s hgood
    simp only [Harness.runCalls, hrun]
    obtain ⟨hresults, hlast⟩ := ih hrest t ht
    exact ⟨List.forall_mem_cons.mpr ⟨⟨o, rfl⟩, hresults⟩, hlast⟩

end Harness

end TileBench
