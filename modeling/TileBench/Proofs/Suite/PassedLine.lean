import TileBench.Proofs.Suite.Counts
import TileBench.Proofs.Suite.DryRuns
import TileBench.Proofs.Suite.EarlyFaults
import TileBench.Proofs.Suite.EqualCounts
import TileBench.Proofs.Suite.Transcript

/-!
# When a suite is announced as passed

A suite is announced as passed if it counts no failure: every case tiles its box, and no read that
was executed failed. The suite of block grids asks in addition that the launcher runs commands. The
announcement is *earned* if every read was executed. In the suite of the fixed box it need not be,
for reads that were only recorded fail no more than reads that are not there.
-/

namespace TileBench

open Text

/-! ### Lines of a suite -/

lemma Extent.isLine_text (e : Extent) : IsLine e.text := by
  simp only [Extent.text, isLine_append, isLine_nat, true_and, and_true]
  decide

lemma VarType.isLine_text {v : VarType} (h : IsLine v.scalar) : IsLine v.text := by
  simp only [VarType.text, isLine_append, isLine_nat, h, true_and, and_true]
  decide

lemma mem_readFailure {varType : VarType} {r : ReadOutcome} {line : String} :
    line ∈ Harness.readFailure varType r ↔
      (∃ v, r.verdict = some v ∧ line = v.failureLine) ∨
        line = "Test t=" ++ toString r.timestep ++ " v=" ++ toString r.varIndex ++ " type=" ++
          varType.text ++ " FAILED" := by
  simp [Harness.readFailure, eq_comm]

lemma append_ne_of_not_prefix {front back text : String} (h : ¬ front.toList <+: text.toList) :
    front ++ back ≠ text := by
  rintro rfl
  exact h (by simp)

lemma CaseLine.isLine {c : Case} {line : String} (h : CaseLine c line)
    (hscalar : IsLine c.varType.scalar) : IsLine line := by
  cases h with
  | failure r hline =>
    obtain ⟨v, -, rfl⟩ | rfl := mem_readFailure.mp hline
    · unfold Verdict.failureLine
      simp only [isLine_append, isLine_nat, isLine_int, and_true]
      decide
    · simp only [isLine_append, isLine_nat, VarType.isLine_text hscalar, and_true]
      decide
  | invalid d hline =>
    simp only [InvalidDecomposition.lines, List.mem_cons, List.not_mem_nil, or_false] at hline
    obtain rfl | rfl := hline
    · simp only [isLine_append, Extent.isLine_text, and_true]
      decide
    · decide
  | success o =>
    simp only [Harness.successLine, isLine_append, isLine_nat, and_true]
    decide

lemma CaseLine.ne_passedLine {c : Case} {line : String} (h : CaseLine c line) :
    line ≠ Harness.passedLine := by
  cases h with
  | failure r hline =>
    obtain ⟨v, -, rfl⟩ | rfl := mem_readFailure.mp hline
    · unfold Verdict.failureLine
      simp only [String.append_assoc]
      exact append_ne_of_not_prefix (by decide)
    · simp only [String.append_assoc]
      exact append_ne_of_not_prefix (by decide)
  | invalid d hline =>
    simp only [InvalidDecomposition.lines, List.mem_cons, List.not_mem_nil, or_false] at hline
    obtain rfl | rfl := hline
    · simp only [String.append_assoc]
      exact append_ne_of_not_prefix (by decide)
    · decide
  | success o =>
    simp only [Harness.successLine, String.append_assoc]
    exact append_ne_of_not_prefix (by decide)

section

variable {p : SuitePlan} {config : Config} {kind : SuiteKind} {c : Case} {line : String}

lemma mem_announcement (hc : .ok c ∈ p.cases config kind) (hline : line ∈ Harness.announcement c) :
    ∃ label ∈ ["r == l", "r < l", "r > l"], line = label ++ (" " ++ c.restructureBox.text) := by
  obtain ⟨box, block, restructureBox, label, rfl, hlabel⟩ := SuitePlan.exists_of_mem_cases hc
  cases label with
  | none => cases hline
  | some label =>
    have heq : line = label ++ " " ++ restructureBox.text := List.mem_singleton.mp hline
    exact ⟨label, hlabel label rfl, by rw [heq, String.append_assoc]; rfl⟩

lemma SuiteKind.opening_ne_passedLine (kind : SuiteKind) : kind.opening ≠ Harness.passedLine := by
  cases kind <;> decide

/-- The other lines of a suite do not announce it as passed. -/
lemma CasesLine.ne_passedLine (h : CasesLine (p.cases config kind) line) :
    line ≠ Harness.passedLine := by
  cases h with
  | announcement hc hline =>
    obtain ⟨label, hlabel, rfl⟩ := mem_announcement hc hline
    simp only [List.mem_cons, List.not_mem_nil, or_false] at hlabel
    obtain rfl | rfl | rfl := hlabel <;> exact append_ne_of_not_prefix (by decide)
  | case _ hline => exact hline.ne_passedLine

lemma CasesLine.isLine (h : CasesLine (p.cases config kind) line)
    (hscalar : IsLine p.varType.scalar) : IsLine line := by
  cases h with
  | announcement hc hline =>
    obtain ⟨label, hlabel, rfl⟩ := mem_announcement hc hline
    have hline : ∀ label ∈ ["r == l", "r < l", "r > l"], IsLine label := by decide
    exact isLine_append.mpr ⟨hline label hlabel,
      isLine_append.mpr ⟨by decide, Extent.isLine_text _⟩⟩
  | case hc hline =>
    obtain ⟨_, _, _, _, rfl, -⟩ := SuitePlan.exists_of_mem_cases hc
    exact hline.isLine hscalar

end

/-! ### Suites without failures -/

namespace SuiteOutcome

/-- Every case tiles its box, and every read that was executed passed. -/
structure Clean (suite : SuiteOutcome) : Prop where
  valid : ∀ o ∈ suite.cases, o.invalid = none
  passed : ∀ o ∈ suite.cases, ∀ r ∈ o.reads, ∀ v, r.verdict = some v → v.passed = true

/-- Every case tiles its box, every read was executed and passed, and there is one at least. -/
structure Earned (suite : SuiteOutcome) : Prop where
  valid : ∀ o ∈ suite.cases, o.invalid = none
  passed : ∀ o ∈ suite.cases, ∀ r ∈ o.reads, ∃ v, r.verdict = some v ∧ v.passed = true
  executed : ∃ o ∈ suite.cases, ∃ r ∈ o.reads, r.verdict.isSome

variable {suite : SuiteOutcome}

lemma failures_eq_zero_iff (h : (suite.cases.map CaseOutcome.testCount).sum < 2 ^ 32) :
    suite.failures = 0 ↔ suite.Clean := by
  have hfits : ∀ o ∈ suite.cases, o.testCount < 2 ^ 32 := fun o ho =>
    (List.le_sum_of_mem (List.mem_map_of_mem ho)).trans_lt h
  have hcases : suite.failures = 0 ↔ ∀ o ∈ suite.cases, o.failures.toNat = 0 := by
    rw [← UInt32.toNat_inj, failures, total_map_toNat CaseOutcome.failures_le_testCount h]
    change (suite.cases.map _).sum = 0 ↔ _
    rw [List.sum_eq_zero_iff_forall_eq_nat, List.forall_mem_map]
  rw [hcases]
  constructor
  · intro hzero
    have hgood := fun (o : CaseOutcome) ho =>
      (o.failures_eq_zero_iff (hfits o ho)).mp (hzero o ho)
    refine ⟨fun o ho => (hgood o ho).1, fun o ho r hr => ?_⟩
    obtain ⟨g, hg, hr⟩ := List.mem_flatMap.mp hr
    exact (hgood o ho).2 g hg r hr
  · rintro ⟨hvalid, hpassed⟩ o ho
    refine (o.failures_eq_zero_iff (hfits o ho)).mpr ⟨hvalid o ho, fun g hg r hr => ?_⟩
    exact hpassed o ho r (List.mem_flatMap.mpr ⟨g, hg, hr⟩)

/-- A suite in which every test passed has no failures. -/
lemma failures_eq_zero (h : ∀ o ∈ suite.cases, o.successes = o.tests) : suite.failures = 0 := by
  have hzero : ∀ outcomes : List CaseOutcome, (∀ o ∈ outcomes, o.successes = o.tests) →
      total (outcomes.map CaseOutcome.failures) = 0 := by
    intro outcomes
    induction outcomes with
    | nil => exact fun _ => rfl
    | cons o rest ih =>
      intro hall
      obtain ⟨ho, hrest⟩ := List.forall_mem_cons.mp hall
      rw [List.map_cons, total, ih hrest, CaseOutcome.failures, ho, UInt32.sub_self]
      rfl
  exact hzero suite.cases h

end SuiteOutcome

namespace Harness

open Step

variable {h : Harness} {p : SuitePlan} {kind : SuiteKind} {s : Session} {suite : SuiteOutcome}

lemma passedLine_mem_said_iff : passedLine ∈ (h.runSuite p kind).said s ↔
    h.printsText = true ∧
      ∃ suite, ((h.runSuite p kind).run s).1 = .ok suite ∧ h.approves kind suite = true := by
  have hother : ∀ line, line = kind.opening ∨ CasesLine (p.cases h.config kind) line →
      line ≠ passedLine := by
    rintro line (rfl | hline)
    · exact kind.opening_ne_passedLine
    · exact hline.ne_passedLine
  obtain ⟨fault, hrun, hlines⟩ | ⟨suite, lines, hrun, hlines, -, hsaid⟩ := h.runSuite_said p kind s
  · rw [hrun]
    constructor
    · exact fun hmem => absurd rfl (hother _ (hlines _ hmem))
    · rintro ⟨-, suite, ⟨⟩, -⟩
  · rw [hrun, hsaid, List.mem_append, h.mem_shown]
    constructor
    · rintro (hmem | ⟨hprints, hmem⟩)
      · exact absurd rfl (hother _ (hlines _ hmem))
      · refine ⟨hprints, suite, rfl, ?_⟩
        by_contra happroves
        rw [if_neg happroves] at hmem
        cases hmem
    · rintro ⟨hprints, _, ⟨⟩, happroves⟩
      rw [if_pos happroves]
      exact .inr ⟨hprints, List.mem_singleton_self _⟩

lemma isLine_of_said (hscalar : IsLine p.varType.scalar) :
    ∀ line ∈ (h.runSuite p kind).said s, IsLine line := by
  have hother : ∀ line, line = kind.opening ∨ CasesLine (p.cases h.config kind) line →
      IsLine line := by
    rintro line (rfl | hline)
    · cases kind <;> decide
    · exact hline.isLine hscalar
  obtain ⟨fault, -, hlines⟩ | ⟨suite, lines, -, hlines, -, hsaid⟩ := h.runSuite_said p kind s
  · exact fun line hline => hother line (hlines line hline)
  · rw [hsaid]
    refine List.forall_mem_append.mpr ⟨fun line hline => hother line (hlines line hline), ?_⟩
    intro line hline
    obtain ⟨-, hline⟩ := h.mem_shown.mp hline
    split at hline
    · rw [List.mem_singleton.mp hline]
      decide
    · cases hline

/-- A suite that ends with an outcome has cases. -/
lemma cases_ne_nil_of_ok (hrun : ((h.runSuite p kind).run s).1 = .ok suite) :
    p.cases h.config kind ≠ [] := by
  cases hwriters : h.config.procs.grids p.writers with
  | error fault => exact absurd hrun ((runSuite_refuses_of_writers hwriters).run_ne_ok s suite)
  | ok grids =>
    obtain ⟨grid, rest, rfl⟩ := ProcessTable.exists_cons_of_grids hwriters
    cases kind with
    | blockGrids => simp [SuitePlan.cases, hwriters]
    | fixedBox =>
      have hdefault := ProcessTable.defaultGrid_eq_ok_iff.mpr ⟨rest, hwriters⟩
      cases hmade : p.fixedBoxCases grid with
      | error fault =>
        exact absurd hrun ((runFixedBox_refuses_of_cases hdefault hmade).run_ne_ok s suite)
      | ok cases =>
        obtain ⟨block, double, -, rfl⟩ := SuitePlan.exists_of_fixedBoxCases hmade
        simp [SuitePlan.cases, hdefault, hmade, bind, Except.bind]

/-- Its cases have grids to be read back with. -/
lemma candidates_ne_nil_of_ok (hrun : ((h.runSuite p kind).run s).1 = .ok suite) {c : Case}
    (hc : .ok c ∈ p.cases h.config kind) : c.candidates h.config ≠ [] := by
  obtain ⟨box, block, restructureBox, label, rfl, -⟩ := SuitePlan.exists_of_mem_cases hc
  cases hreaders : h.config.procs.grids p.readers with
  | error fault =>
    obtain ⟨cause, hrefuses⟩ : ∃ cause, Refuses cause (h.runSuite p kind) :=
      runSuite_refuses_of_readers hreaders
    exact absurd hrun (hrefuses.run_ne_ok s suite)
  | ok grids =>
    have hcandidates : (p.case box block restructureBox label).candidates h.config = grids := by
      simp [Case.candidates, SuitePlan.case, hreaders]
    rw [hcandidates]
    exact (ProcessTable.grids_eq_ok_iff.mp hreaders).1

/-- In a clean suite every case was read back in full with every grid. -/
lemma length_reads_of_clean (hrun : ((h.runSuite p kind).run s).1 = .ok suite)
    (hclean : suite.Clean) : ∀ o ∈ suite.cases, o.case.candidates h.config ≠ [] ∧
      o.reads.length =
        (o.case.candidates h.config).length * p.timesteps.toNat * p.vars.toNat := by
  obtain ⟨-, hcases, hreports⟩ := ((h.runSuite_follows p kind).trace s).2.2 suite hrun
  intro o ho
  have hmem : .ok o.case ∈ p.cases h.config kind := by
    rw [hcases]
    exact List.mem_map_of_mem ho
  refine ⟨candidates_ne_nil_of_ok hrun hmem, ?_⟩
  obtain ⟨part, hpart⟩ := hreports.exists_of_mem ho
  obtain ⟨box, block, restructureBox, label, hcase, -⟩ := SuitePlan.exists_of_mem_cases hmem
  rw [hpart.length_reads (hclean.valid o ho), hcase]
  rfl

/-- A clean suite is earned if it has reads to make and every read that was answered was run. -/
lemma earned_of_clean (hrun : ((h.runSuite p kind).run s).1 = .ok suite) (hclean : suite.Clean)
    (hne : suite.cases ≠ []) (htimesteps : 0 < p.timesteps.toNat) (hvars : 0 < p.vars.toNat)
    (hexecuted : ∀ l ∈ (h.runSuite p kind).trace s, l.phase = .read →
      ∀ output, l.outcome = .ok output → output.executed = true) : suite.Earned := by
  obtain ⟨-, -, hreports⟩ := ((h.runSuite_follows p kind).trace s).2.2 suite hrun
  have hpassed : ∀ o ∈ suite.cases, ∀ r ∈ o.reads,
      ∃ v, r.verdict = some v ∧ v.passed = true := by
    intro o ho r hr
    obtain ⟨part, hsubset, hpart⟩ := hreports.exists_part ho
    obtain ⟨expected, output, -, hmem, hverdict⟩ := hpart.exists_output hr
    rw [verdictOf, if_pos (hexecuted _ (hsubset hmem) rfl output rfl)] at hverdict
    exact ⟨_, hverdict, hclean.passed o ho r hr _ hverdict⟩
  refine ⟨hclean.valid, hpassed, ?_⟩
  obtain ⟨o, ho⟩ := List.exists_mem_of_ne_nil _ hne
  obtain ⟨hcandidates, hlength⟩ := length_reads_of_clean hrun hclean o ho
  have hpos : 0 < o.reads.length := by
    rw [hlength]
    exact Nat.mul_pos (Nat.mul_pos (List.length_pos_of_ne_nil hcandidates) htimesteps) hvars
  obtain ⟨r, hr⟩ := List.exists_mem_of_length_pos hpos
  obtain ⟨v, hverdict, -⟩ := hpassed o ho r hr
  exact ⟨o, ho, r, hr, by rw [hverdict]; rfl⟩

/-- As long as no count wraps, the clean suites are approved, those of block grids only if commands
are run. -/
lemma approves_iff (hrun : ((h.runSuite p kind).run s).1 = .ok suite)
    (hcount : ((h.runSuite p kind).trace s).countP (fun l => l.phase = .read) +
      suite.cases.countP (fun o => o.invalid.isSome) < 2 ^ 32) :
    h.approves kind suite = true ↔
      (kind = .blockGrids → h.launcher.executes = true) ∧ suite.Clean := by
  obtain ⟨-, -, hreports⟩ := ((h.runSuite_follows p kind).trace s).2.2 suite hrun
  rw [← SuiteOutcome.failures_eq_zero_iff (hreports.sum_testCount_le.trans_lt hcount), and_comm]
  cases kind <;> simp [approves]

/-- A suite is announced as passed exactly if results are printed, no case is invalid and no read
that was executed failed, and for block grids the launcher runs commands. The line can stand in the
printed text only as a line of its own, if the name of the scalar type has no newline in it.

Such a suite has cases, and each of them was read back in full with every grid. So the announcement
is earned if there are timesteps and variables and the launcher ran every read that it answered. -/
theorem passedLine_printed_iff (h : Harness) (p : SuitePlan) (kind : SuiteKind) (s : Session)
    (hcount : ∀ suite, ((h.runSuite p kind).run s).1 = .ok suite →
      ((h.runSuite p kind).trace s).countP (fun l => l.phase = .read) +
        suite.cases.countP (fun o => o.invalid.isSome) < 2 ^ 32) :
    (passedLine ∈ (h.runSuite p kind).said s ↔
      h.printsText = true ∧ (kind = .blockGrids → h.launcher.executes = true) ∧
        ∃ suite, ((h.runSuite p kind).run s).1 = .ok suite ∧ suite.Clean) ∧
    (IsLine p.varType.scalar →
      (passedLine.toList ∈ (rows '\n' (printedText ((h.runSuite p kind).said s))).1 ↔
        passedLine ∈ (h.runSuite p kind).said s)) ∧
    ∀ suite, ((h.runSuite p kind).run s).1 = .ok suite → suite.Clean →
      suite.cases ≠ [] ∧
      (∀ o ∈ suite.cases, o.case.candidates h.config ≠ [] ∧ o.reads.length =
        (o.case.candidates h.config).length * p.timesteps.toNat * p.vars.toNat) ∧
      (0 < p.timesteps.toNat → 0 < p.vars.toNat →
        (∀ l ∈ (h.runSuite p kind).trace s, l.phase = .read →
          ∀ output, l.outcome = .ok output → output.executed = true) → suite.Earned) := by
  refine ⟨?_, fun hscalar => mem_rows_printedText (isLine_of_said hscalar) _, ?_⟩
  · rw [passedLine_mem_said_iff]
    constructor
    · rintro ⟨hprints, suite, hrun, happroved⟩
      obtain ⟨hexecutes, hclean⟩ := (approves_iff hrun (hcount suite hrun)).mp happroved
      exact ⟨hprints, hexecutes, suite, hrun, hclean⟩
    · rintro ⟨hprints, hexecutes, suite, hrun, hclean⟩
      exact ⟨hprints, suite, hrun, (approves_iff hrun (hcount suite hrun)).mpr ⟨hexecutes, hclean⟩⟩
  · intro suite hrun hclean
    obtain ⟨-, hcases, -⟩ := ((h.runSuite_follows p kind).trace s).2.2 suite hrun
    have hne : suite.cases ≠ [] := by
      intro hnil
      rw [hnil] at hcases
      exact cases_ne_nil_of_ok hrun hcases
    exact ⟨hne, length_reads_of_clean hrun hclean, earned_of_clean hrun hclean hne⟩

/-! ### Rehearsed announcements -/

/-- A rehearsal that prints its results. -/
def loudRehearsal (report : String) : Harness := { rehearsal 0 report with printsText := true }

/-- What every launch of a loud rehearsal gives. -/
lemma loudRehearsal_steady (report : String) :
    (loudRehearsal report).Steady (rehearsedOutput 0 report) where
  answer := (rehearsal_steady 0 report).answer
  profile := rfl
  vars := Config.standard_varsFile_isPlain

/-- A harness that prints its results and runs no command. -/
def dryRehearsal : Harness :=
  { loudRehearsal "" with launcher := .rehearsed "dry rehearsal" false fun _ => [] }

lemma dryRehearsal_steady : dryRehearsal.Steady fun _ => .recorded where
  answer _ _ _ _ := rfl
  profile := rfl
  vars := Config.standard_varsFile_isPlain

/-- A steady harness ends a suite that is ready, and judges every read by the same output. -/
lemma Steady.exists_suite {output : Phase → Output} (hsteady : h.Steady output)
    (hready : p.Ready h.config kind) :
    ∃ suite, ((h.runSuite p kind).run (.start .empty)).1 = .ok suite ∧
      (h.runSuite p kind).trace (.start .empty) =
        (caseRequests h.config h.launcherArgs (p.cases h.config kind)).map
          (fun r => ⟨r.phase, r.command, .ok (output r.phase)⟩) ∧
      suite.cases.length = (p.cases h.config kind).length ∧
      ∀ o ∈ suite.cases, .ok o.case ∈ p.cases h.config kind ∧
        (∃ made, o.Reports h.config h.launcherArgs made) ∧
        ∀ r ∈ o.reads, ∃ expected, o.case.expectedSamples = .ok expected ∧
          r.verdict = verdictOf expected (output .read) := by
  obtain ⟨suite, hrun, ⟨hcases, hreports⟩, htrace⟩ := hsteady.exists_run
    (h.runSuite_follows p kind) fun hsmooth => hsmooth.runSuite hready
  refine ⟨suite, hrun, htrace, by rw [hcases, List.length_map], fun o ho => ?_⟩
  obtain ⟨part, hsubset, hpart⟩ := hreports.exists_part ho
  refine ⟨hcases ▸ List.mem_map_of_mem ho, ⟨part, hpart⟩, fun r hr => ?_⟩
  obtain ⟨expected, given, hexpected, hmem, hverdict⟩ := hpart.exists_output hr
  have hlaunched := hsubset hmem
  rw [htrace] at hlaunched
  obtain ⟨request, -, hrequest⟩ := List.mem_map.mp hlaunched
  simp only [Launch.mk.injEq, Except.ok.injEq] at hrequest
  obtain ⟨hphase, -, rfl⟩ := hrequest
  rw [hphase] at hverdict
  exact ⟨expected, hexpected, hverdict⟩

/-- A suite in which every test passed is announced. -/
lemma passedLine_mem_said (hprints : h.printsText = true)
    (hexecutes : kind = .blockGrids → h.launcher.executes = true)
    (hrun : ((h.runSuite p kind).run s).1 = .ok suite)
    (hpassed : ∀ o ∈ suite.cases, o.successes = o.tests) :
    passedLine ∈ (h.runSuite p kind).said s := by
  refine passedLine_mem_said_iff.mpr ⟨hprints, suite, hrun, ?_⟩
  rw [approves, SuiteOutcome.failures_eq_zero hpassed]
  cases kind with
  | blockGrids => simp [hexecutes rfl]
  | fixedBox => rfl

/-- What four processes that share four blocks are run with. -/
def fourBlocks (vars timesteps : UInt32) : SuitePlan := ⟨4, 4, ⟨1, "float32"⟩, vars, timesteps⟩

lemma fourBlocks_ready (vars timesteps : UInt32) :
    (fourBlocks vars timesteps).Ready .standard .blockGrids := by
  have hcomponents : 0 < (⟨1, "float32"⟩ : VarType).components.toNat := by decide
  have hfits : (4 : UInt32).toNat * Config.standard.patch.cells *
      (⟨1, "float32"⟩ : VarType).components.toNat < 2 ^ 64 := by decide
  exact SuitePlan.WellPosed.blockGrids_ready
    ⟨ProcessTable.standard_arranges 4, by decide, hcomponents⟩ rfl rfl hfits

/-- The four blocks are one case, and tile its box. -/
lemma fourBlocks_case {vars timesteps : UInt32} {o : CaseOutcome} {made : List Launch}
    (h : .ok o.case ∈ (fourBlocks vars timesteps).cases .standard .blockGrids)
    (hreports : o.Reports .standard [] made) :
    o.invalid = none ∧ o.case.expectedSamples = .ok 6912 ∧
      o.reads.length = timesteps.toNat * vars.toNat := by
  have hcase : o.case = (fourBlocks vars timesteps).case ⟨24, 24, 12⟩ ⟨12, 12, 12⟩
      ⟨12, 12, 12⟩ none := Except.ok.inj (List.mem_singleton.mp h)
  have hvalid : o.invalid = none := by
    refine (hreports.valid_of_equal ?_ ?_).1 <;> rw [hcase]
    · rfl
    · change Extent.tiledBy ⟨24, 24, 12⟩ ⟨12, 12, 12⟩ 4 = true
      decide
  have hsamples : o.case.samples? = some 6912 := by
    have hbox : Extent.Positive ⟨24, 24, 12⟩ := by decide
    have hcomponents : 0 < (⟨1, "float32"⟩ : VarType).components.toNat := by decide
    have hcells : (6912 : UInt64).toNat =
        Extent.cells ⟨24, 24, 12⟩ * (1 : UInt32).toNat := by decide
    rw [hcase]
    exact (Case.samples?_eq_some_iff hbox hcomponents).mpr hcells
  have hcandidates : (o.case.candidates .standard).length = 1 := by
    rw [hcase]
    rfl
  refine ⟨hvalid, by rw [Case.expectedSamples, hsamples], ?_⟩
  rw [hreports.length_reads hvalid, hcandidates, Nat.one_mul, hcase]
  rfl

/-- A report that finds every sample of the four blocks correct. -/
def goodReport : String := "Correct Sample Count 6912 Incorrect Sample Count 0\n"

/-- Four blocks that are read back correctly earn the announcement. -/
theorem fourBlocks_earn_passedLine :
    ∃ suite, (((loudRehearsal goodReport).runSuite (fourBlocks 1 2) .blockGrids).run
        (.start .empty)).1 = .ok suite ∧
      passedLine ∈ ((loudRehearsal goodReport).runSuite (fourBlocks 1 2) .blockGrids).said
        (.start .empty) ∧ suite.Earned := by
  obtain ⟨suite, hrun, htrace, hlength, houtcomes⟩ :=
    (loudRehearsal_steady goodReport).exists_suite (fourBlocks_ready 1 2)
  have hclean : suite.Clean := by
    constructor
    · intro o ho
      obtain ⟨hmem, ⟨made, hreports⟩, -⟩ := houtcomes o ho
      exact (fourBlocks_case hmem hreports).1
    · intro o ho r hr v hv
      obtain ⟨hmem, ⟨made, hreports⟩, hverdicts⟩ := houtcomes o ho
      obtain ⟨-, hsamples, -⟩ := fourBlocks_case hmem hreports
      obtain ⟨expected, hexpected, hverdict⟩ := hverdicts r hr
      rw [hsamples] at hexpected
      cases hexpected
      rw [hverdict] at hv
      cases hv
      decide
  have hcount : ∀ suite', (((loudRehearsal goodReport).runSuite (fourBlocks 1 2) .blockGrids).run
      (.start .empty)).1 = .ok suite' →
      (((loudRehearsal goodReport).runSuite (fourBlocks 1 2) .blockGrids).trace
        (.start .empty)).countP (fun l => l.phase = .read) +
        suite'.cases.countP (fun o => o.invalid.isSome) < 2 ^ 32 := by
    intro suite' hrun'
    cases hrun.symm.trans hrun'
    have hlaunches : (((loudRehearsal goodReport).runSuite (fourBlocks 1 2) .blockGrids).trace
        (.start .empty)).length = 3 := by
      rw [htrace, List.length_map]
      rfl
    exact (Nat.add_le_add List.countP_le_length List.countP_le_length).trans_lt
      (by rw [hlaunches, hlength]; change 3 + 1 < 2 ^ 32; decide)
  obtain ⟨hprinted, -, hsuite⟩ := passedLine_printed_iff (loudRehearsal goodReport)
    (fourBlocks 1 2) .blockGrids (.start .empty) hcount
  obtain ⟨-, -, hearned⟩ := hsuite suite hrun hclean
  refine ⟨suite, hrun, hprinted.mpr ⟨rfl, fun _ => rfl, suite, hrun, hclean⟩, ?_⟩
  refine hearned (by decide) (by decide) fun l hl hread output houtput => ?_
  rw [htrace] at hl
  obtain ⟨request, -, rfl⟩ := List.mem_map.mp hl
  cases houtput
  cases request.phase <;> rfl

/-- Eight processes that share the fixed box. -/
def sharedBox : SuitePlan := ⟨8, 8, ⟨1, "float32"⟩, 1, 1⟩

lemma sharedBox_ready : sharedBox.Ready .standard .fixedBox :=
  SuitePlan.WellPosed.fixedBox_ready ⟨ProcessTable.standard_arranges 8, by decide, by decide⟩
    rfl rfl

lemma sharedBox_valid {o : CaseOutcome} {made : List Launch}
    (h : .ok o.case ∈ sharedBox.cases .standard .fixedBox)
    (hreports : o.Reports .standard [] made) : o.invalid = none := by
  obtain ⟨grid, block, restructureBox, label, hgrid, hblock, hcase⟩ :=
    SuitePlan.exists_of_mem_fixedBox h
  cases hgrid
  cases hblock
  refine (hreports.valid_of_equal ?_ ?_).1 <;> rw [hcase]
  · rfl
  · change Extent.tiledBy ⟨124, 48, 36⟩ ⟨62, 24, 18⟩ 8 = true
    decide

/-- A run that only records commands announces the suite of the fixed box as passed. -/
lemma dryRehearsal_unearned :
    ∃ suite, ((dryRehearsal.runSuite sharedBox .fixedBox).run (.start .empty)).1 = .ok suite ∧
      passedLine ∈ (dryRehearsal.runSuite sharedBox .fixedBox).said (.start .empty) ∧
      ¬ suite.Earned := by
  obtain ⟨suite, hrun, -, -, houtcomes⟩ := dryRehearsal_steady.exists_suite sharedBox_ready
  have hunjudged : ∀ o ∈ suite.cases, ∀ r ∈ o.reads, r.verdict = none := by
    intro o ho r hr
    obtain ⟨expected, -, hverdict⟩ := (houtcomes o ho).2.2 r hr
    exact hverdict
  refine ⟨suite, hrun, passedLine_mem_said rfl nofun hrun fun o ho => ?_, ?_⟩
  · obtain ⟨hmem, ⟨made, hreports⟩, -⟩ := houtcomes o ho
    exact CaseOutcome.successes_eq_tests (sharedBox_valid hmem hreports) (hunjudged o ho)
  · rintro ⟨-, -, o, ho, r, hr, hexecuted⟩
    rw [hunjudged o ho r hr] at hexecuted
    cases hexecuted

/-- So is a suite without timesteps, whatever its reads would report. -/
lemma noTimesteps_unearned (report : String) :
    ∃ suite, (((loudRehearsal report).runSuite (fourBlocks 1 0) .blockGrids).run
        (.start .empty)).1 = .ok suite ∧
      passedLine ∈ ((loudRehearsal report).runSuite (fourBlocks 1 0) .blockGrids).said
        (.start .empty) ∧ ¬ suite.Earned := by
  obtain ⟨suite, hrun, -, -, houtcomes⟩ :=
    (loudRehearsal_steady report).exists_suite (fourBlocks_ready 1 0)
  have hreads : ∀ o ∈ suite.cases, o.invalid = none ∧ o.reads = [] := by
    intro o ho
    obtain ⟨hmem, ⟨made, hreports⟩, -⟩ := houtcomes o ho
    obtain ⟨hvalid, -, hlength⟩ := fourBlocks_case hmem hreports
    exact ⟨hvalid, List.length_eq_zero_iff.mp hlength⟩
  refine ⟨suite, hrun, passedLine_mem_said rfl (fun _ => rfl) hrun fun o ho => ?_, ?_⟩
  · obtain ⟨hvalid, hnone⟩ := hreads o ho
    refine CaseOutcome.successes_eq_tests hvalid ?_
    rw [hnone]
    exact List.forall_mem_nil _
  · rintro ⟨-, -, o, ho, r, hr, -⟩
    rw [(hreads o ho).2] at hr
    cases hr

/-- So is a suite with so many failed reads that their number wraps. -/
lemma manyReads_unearned :
    ∃ suite, (((loudRehearsal "").runSuite (fourBlocks 65536 65536) .blockGrids).run
        (.start .empty)).1 = .ok suite ∧
      passedLine ∈ ((loudRehearsal "").runSuite (fourBlocks 65536 65536) .blockGrids).said
        (.start .empty) ∧ ¬ suite.Earned := by
  obtain ⟨suite, hrun, -, -, houtcomes⟩ :=
    (loudRehearsal_steady "").exists_suite (fourBlocks_ready 65536 65536)
  have hreads : ∀ o ∈ suite.cases, o.invalid = none ∧ o.reads.length = 2 ^ 32 ∧
      ∀ r ∈ o.reads, r.verdict = some ⟨6912, SampleCounts.unreported⟩ := by
    intro o ho
    obtain ⟨hmem, ⟨made, hreports⟩, hverdicts⟩ := houtcomes o ho
    obtain ⟨hvalid, hsamples, hlength⟩ := fourBlocks_case hmem hreports
    refine ⟨hvalid, hlength, fun r hr => ?_⟩
    obtain ⟨expected, hexpected, hverdict⟩ := hverdicts r hr
    rw [hsamples] at hexpected
    cases hexpected
    exact hverdict
  refine ⟨suite, hrun, passedLine_mem_said rfl (fun _ => rfl) hrun fun o ho => ?_, ?_⟩
  · obtain ⟨hvalid, hlength, hverdicts⟩ := hreads o ho
    have hfailed : o.reads.filter ReadOutcome.passed = [] := by
      rw [List.filter_eq_nil_iff]
      intro r hr
      rw [ReadOutcome.passed, hverdicts r hr]
      decide
    rw [CaseOutcome.successes, CaseOutcome.tests, hvalid, hfailed, count32, count32, hlength]
    rfl
  · rintro ⟨-, hpassed, o, ho, r, hr, -⟩
    obtain ⟨v, hverdict, hgood⟩ := hpassed o ho r hr
    rw [(hreads o ho).2.2 r hr] at hverdict
    cases hverdict
    revert hgood
    decide

/-- The announcement need not be earned. -/
theorem unearned_passedLine :
    (∃ suite, ((dryRehearsal.runSuite sharedBox .fixedBox).run (.start .empty)).1 = .ok suite ∧
      passedLine ∈ (dryRehearsal.runSuite sharedBox .fixedBox).said (.start .empty) ∧
      ¬ suite.Earned) ∧
    (∃ suite, (((loudRehearsal "").runSuite (fourBlocks 1 0) .blockGrids).run
        (.start .empty)).1 = .ok suite ∧
      passedLine ∈ ((loudRehearsal "").runSuite (fourBlocks 1 0) .blockGrids).said
        (.start .empty) ∧ ¬ suite.Earned) ∧
    ∃ suite, (((loudRehearsal "").runSuite (fourBlocks 65536 65536) .blockGrids).run
        (.start .empty)).1 = .ok suite ∧
      passedLine ∈ ((loudRehearsal "").runSuite (fourBlocks 65536 65536) .blockGrids).said
        (.start .empty) ∧ ¬ suite.Earned :=
  ⟨dryRehearsal_unearned, noTimesteps_unearned "", manyReads_unearned⟩

end Harness

end TileBench
