import TileBench.Proofs.Session.Printing
import TileBench.Proofs.Suite.Series

/-!
# Transcripts

What is printed while a suite runs can be told from its outcome: the lines about the reads that
failed, in the order of the reads, then the line about each case, and at last whether every test
passed. A suite that ends with a fault has printed some of the lines of its cases.
-/

namespace TileBench

def ReadOutcome.lines (r : ReadOutcome) (varType : VarType) : List String :=
  if !r.passed then Harness.readFailure varType r else []

namespace CaseOutcome

/-- What is printed after the reads of a case. -/
def closing (o : CaseOutcome) (executes : Bool) : List String :=
  match o.invalid with
  | some invalid => invalid.lines
  | none => if executes then [Harness.successLine o] else []

def lines (o : CaseOutcome) (executes : Bool) : List String :=
  o.reads.flatMap (·.lines o.case.varType) ++ o.closing executes

end CaseOutcome

/-- A line that may be printed while a case runs. -/
inductive CaseLine (c : Case) : String → Prop
  | failure {line : String} (r : ReadOutcome) :
    line ∈ Harness.readFailure c.varType r → CaseLine c line
  | invalid {line : String} (d : InvalidDecomposition) : line ∈ d.lines → CaseLine c line
  | success (o : CaseOutcome) : CaseLine c (Harness.successLine o)

def SuiteKind.opening : SuiteKind → String
  | .blockGrids => "---RUN TESTS---"
  | .fixedBox => "---NON-POW 2 TESTS---"

/-- A line that may be printed while some cases run. -/
inductive CasesLine (cases : List (Except Fault Case)) : String → Prop
  | announcement {c : Case} {line : String} :
    .ok c ∈ cases → line ∈ Harness.announcement c → CasesLine cases line
  | case {c : Case} {line : String} : .ok c ∈ cases → CaseLine c line → CasesLine cases line

lemma CasesLine.cons {made : Except Fault Case} {rest : List (Except Fault Case)} {line : String}
    (h : CasesLine rest line) : CasesLine (made :: rest) line := by
  cases h with
  | announcement hc hline => exact .announcement (List.mem_cons_of_mem _ hc) hline
  | case hc hline => exact .case (List.mem_cons_of_mem _ hc) hline

namespace Harness

open Step

variable (h : Harness) {allowed : String → Prop}

/-- What is seen of some lines. -/
def shown (lines : List String) : List String := if h.printsText then lines else []

@[simp] lemma shown_nil : h.shown [] = [] := by simp [shown]

@[simp] lemma shown_append (lines more : List String) :
    h.shown (lines ++ more) = h.shown lines ++ h.shown more := by
  unfold shown
  split <;> rfl

lemma mem_shown {line : String} {lines : List String} :
    line ∈ h.shown lines ↔ h.printsText = true ∧ line ∈ lines := by
  unfold shown
  split <;> simp_all

lemma say_says {lines : List String} (hlines : ∀ line ∈ lines, allowed line) :
    Says allowed (h.say lines) fun _ said => said = h.shown lines := by
  intro s
  refine ⟨h.shown lines, by simp [run_say, shown], fun line hline => ?_, fun _ _ => rfl⟩
  exact hlines line (h.mem_shown.mp hline).2

/-- Some lines may be printed before a value. -/
lemma run_after_say {β : Type} {b : Prop} [Decidable b] (lines : List String) (value : β)
    (s : Session) :
    (if b then h.say lines >>= fun _ => pure value else pure value : Step β).run s =
      (.ok value,
        { s with printed := s.printed ++ h.shown (if b then lines else []) }) := by
  split
  · rw [run_bind, run_say]
    rfl
  · simp

/-- Some lines may be printed before what comes after. -/
lemma says_after_say {β : Type} {b : Prop} [Decidable b] {lines : List String}
    {f : Unit → Step β} {goal : β → List String → Prop} (hlines : ∀ line ∈ lines, allowed line)
    (hf : Says allowed (f ()) fun b' more => goal b' (h.shown (if b then lines else []) ++ more)) :
    Says allowed (if b then h.say lines >>= f else f ()) goal := by
  split <;> rename_i hb
  · refine (h.say_says hlines).bind fun _ said hsaid => ?_
    subst hsaid
    rw [if_pos hb] at hf
    exact hf
  · rw [if_neg hb, shown_nil] at hf
    exact hf

/-! ### Silent steps -/

lemma silent_capture (phase : Phase) (output : Output) : Silent (h.capture phase output) := by
  unfold capture
  split
  · exact silent_changeStore _
  · exact silent_pure ()

lemma silent_judgeWrite (output : Output) : Silent (judgeWrite output) := by
  unfold judgeWrite
  split
  · exact silent_tell _
  · exact silent_pure ()

lemma silent_perform (phase : Phase) (command : Command) {judge : Output → Step Unit}
    (hjudge : ∀ output, Silent (judge output)) : Silent (h.perform phase command judge) := by
  unfold perform
  refine (silent_tell _).bind fun _ => ?_
  refine (silent_launch h.launcher phase command).bind fun output => ?_
  refine (hjudge output).bind fun _ => ?_
  exact (h.silent_capture phase output).bind fun _ => silent_pure output

/-! ### Cases -/

variable (c : Case) (expected : UInt64)

lemma readBack_says (readBlock : Extent) (k : Nat) :
    Says (CaseLine c) (h.readBack c expected readBlock k) fun r lines =>
      lines = h.shown (r.lines c.varType) := by
  unfold readBack
  refine Says.after_silent (h.silent_perform .read _ fun _ => silent_pure ()) fun output => ?_
  refine h.says_after_say (fun line hline => .failure _ hline) (Says.pure ?_)
  simp [ReadOutcome.lines]

lemma readsFrom_says (readBlock : Extent) (n k : Nat) :
    Says (CaseLine c) (h.readsFrom c expected readBlock n k) fun reads lines =>
      lines = h.shown (reads.flatMap (·.lines c.varType)) := by
  induction n generalizing k with
  | zero => exact Says.pure h.shown_nil.symm
  | succ n ih =>
    unfold readsFrom
    refine (h.readBack_says c expected readBlock k).bind fun r lines hr => ?_
    refine (ih (k + 1)).bind fun reads more hreads => Says.pure ?_
    rw [hr, hreads, List.append_nil, List.flatMap_cons, shown_append]

lemma runGrid_says (grid readBlock : Extent) :
    Says (CaseLine c) (h.runGrid c expected grid readBlock) fun run lines =>
      lines = h.shown (run.reads.flatMap (·.lines c.varType)) := by
  unfold runGrid
  refine Says.after_optional (silent_tell _) ?_
  refine Says.after_silent (silent_changeStore _) fun _ => ?_
  refine Says.after_silent (h.silent_perform .write _ silent_judgeWrite) fun output => ?_
  refine (h.readsFrom_says c expected readBlock _ 0).bind fun reads lines hreads => Says.pure ?_
  rw [List.append_nil, hreads]

lemma runGrids_says (grids : List Extent) :
    Says (CaseLine c) (h.runGrids c expected grids) fun result lines =>
      lines = h.shown ((result.2.flatMap GridRun.reads).flatMap (·.lines c.varType) ++
        result.1.toList.flatMap InvalidDecomposition.lines) := by
  induction grids with
  | nil => exact Says.pure h.shown_nil.symm
  | cons grid rest ih =>
    unfold runGrids
    cases c.readBlock grid with
    | error invalid =>
      refine (h.say_says fun line hline => .invalid invalid hline).bind fun _ lines hlines => ?_
      refine Says.pure ?_
      simp [hlines]
    | ok readBlock =>
      refine (h.runGrid_says c expected grid readBlock).bind fun first lines hfirst => ?_
      refine ih.bind fun result more hrest => Says.pure ?_
      simp [hfirst, hrest, List.flatMap_append]

/-- A case prints the lines about its reads, and at last the one about itself. -/
lemma runCase_says :
    Says (CaseLine c) (h.runCase c) fun outcome lines =>
      outcome.case = c ∧ lines = h.shown (outcome.lines h.launcher.executes) := by
  unfold runCase
  refine Says.after_ofExcept fun grids _ => ?_
  refine Says.after_ofExcept fun expected _ => ?_
  refine (h.runGrids_says c expected grids).bind ?_
  rintro ⟨invalid, runs⟩ lines hlines
  refine h.says_after_say (fun line hline => ?_) (Says.pure ⟨rfl, ?_⟩)
  · rw [List.mem_singleton.mp hline]
    exact .success _
  · rw [hlines, List.append_nil, ← shown_append, List.append_assoc]
    cases invalid <;> simp [CaseOutcome.lines, CaseOutcome.reads, CaseOutcome.closing]

/-- What is printed while cases run. -/
def linesOfCases (h : Harness) (outcomes : List CaseOutcome) : List String :=
  outcomes.flatMap fun o => announcement o.case ++ o.lines h.launcher.executes

lemma runCases_says (cases : List (Except Fault Case)) :
    Says (CasesLine cases) (h.runCases cases) fun outcomes lines =>
      lines = h.shown (h.linesOfCases outcomes) := by
  induction cases with
  | nil => exact Says.pure h.shown_nil.symm
  | cons made rest ih =>
    unfold runCases
    refine Says.after_ofExcept fun c hc => ?_
    subst hc
    refine (h.say_says fun line hline => .announcement List.mem_cons_self hline).bind ?_
    rintro _ lines rfl
    refine ((h.runCase_says c).imp fun _ => .case List.mem_cons_self).bind ?_
    rintro outcome lines ⟨rfl, rfl⟩
    refine (ih.imp fun _ => CasesLine.cons).bind fun outcomes more hmore => Says.pure ?_
    rw [hmore, List.append_nil, ← shown_append, ← shown_append, linesOfCases, linesOfCases,
      List.flatMap_cons, List.append_assoc]

/-! ### Suites -/

variable (p : SuitePlan) (kind : SuiteKind)

def runTests : SuiteKind → Step SuiteOutcome
  | .blockGrids => do
    h.say [SuiteKind.blockGrids.opening]
    let grids ← Step.ofExcept (h.config.procs.grids p.writers)
    return ⟨"pow2", p.varType, ← h.runCases (grids.map (p.blockGridCase h.config.patch))⟩
  | .fixedBox => do
    h.say [SuiteKind.fixedBox.opening]
    let grid ← Step.ofExcept (h.config.procs.defaultGrid p.writers)
    let cases ← Step.ofExcept (p.fixedBoxCases grid)
    return ⟨"non-pow2", p.varType, ← h.runCases (cases.map .ok)⟩

/-- Is a suite announced as passed? -/
def approves (suite : SuiteOutcome) : Bool :=
  suite.failures = 0 && (kind == .fixedBox || h.launcher.executes)

/-- A suite runs its cases, and then tells whether it passed. -/
lemma runSuite_eq :
    h.runSuite p kind = h.runTests p kind >>= fun suite =>
      if h.approves kind suite then h.say [passedLine] >>= fun _ => pure suite else pure suite := by
  cases kind with
  | blockGrids =>
    unfold runSuite runBlockGrids runTests
    simp [bind_assoc, approves, SuiteKind.opening]
  | fixedBox =>
    unfold runSuite runFixedBox runTests
    simp [bind_assoc, approves, SuiteKind.opening]

lemma runTests_says :
    Says (fun line => line = kind.opening ∨ CasesLine (p.cases h.config kind) line)
      (h.runTests p kind) fun suite lines =>
        lines = h.shown (kind.opening :: h.linesOfCases suite.cases) := by
  have hopening : ∀ line ∈ [kind.opening],
      line = kind.opening ∨ CasesLine (p.cases h.config kind) line :=
    List.forall_mem_singleton.mpr (.inl rfl)
  have hshown : ∀ outcomes, h.shown [kind.opening] ++ (h.shown (h.linesOfCases outcomes) ++ []) =
      h.shown (kind.opening :: h.linesOfCases outcomes) := by
    intro outcomes
    rw [List.append_nil, ← shown_append, List.singleton_append]
  cases kind with
  | blockGrids =>
    unfold runTests
    refine (h.say_says hopening).bind ?_
    rintro _ lines rfl
    refine Says.after_ofExcept fun grids hgrids => ?_
    have hcases : p.cases h.config .blockGrids = grids.map (p.blockGridCase h.config.patch) := by
      simp [SuitePlan.cases, hgrids]
    rw [hcases]
    refine ((h.runCases_says _).imp fun _ => Or.inr).bind ?_
    rintro outcomes lines rfl
    exact Says.pure (hshown outcomes)
  | fixedBox =>
    unfold runTests
    refine (h.say_says hopening).bind ?_
    rintro _ lines rfl
    refine Says.after_ofExcept fun grid hgrid => ?_
    refine Says.after_ofExcept fun cases hmade => ?_
    have hcases : p.cases h.config .fixedBox = cases.map .ok := by
      simp [SuitePlan.cases, hgrid, hmade, bind, Except.bind]
    rw [hcases]
    refine ((h.runCases_says _).imp fun _ => Or.inr).bind ?_
    rintro outcomes lines rfl
    exact Says.pure (hshown outcomes)

/-- A suite that ends with an outcome has printed its first line, the lines of its cases, and maybe
that it passed. -/
lemma runSuite_said (s : Session) :
    (∃ fault, ((h.runSuite p kind).run s).1 = .error fault ∧
      ∀ line ∈ (h.runSuite p kind).said s,
        line = kind.opening ∨ CasesLine (p.cases h.config kind) line) ∨
    ∃ suite lines, ((h.runSuite p kind).run s).1 = .ok suite ∧
      (∀ line ∈ lines, line = kind.opening ∨ CasesLine (p.cases h.config kind) line) ∧
      lines = h.shown (kind.opening :: h.linesOfCases suite.cases) ∧
      (h.runSuite p kind).said s =
        lines ++ h.shown (if h.approves kind suite then [passedLine] else []) := by
  obtain ⟨hprinted, hlines, hsaid⟩ := (h.runTests_says p kind).said s
  rw [runSuite_eq, Step.said, run_bind]
  rcases hrun : (h.runTests p kind).run s with ⟨fault | suite, t⟩ <;>
    rw [hrun] at hprinted hsaid <;> dsimp only at hprinted ⊢
  · rw [hprinted, ← Array.length_toList, List.drop_left]
    exact .inl ⟨fault, rfl, hlines⟩
  · rw [run_after_say, Array.toList_appendList, hprinted, List.append_assoc, ← Array.length_toList,
      List.drop_left]
    exact .inr ⟨suite, _, rfl, hlines, hsaid suite rfl, rfl⟩

end Harness

end TileBench
