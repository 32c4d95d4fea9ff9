import TileBench.Proofs.Suite.PassedLine

/-!
# Notices

What is printed while a case runs is exactly what happened. An answered read is known by its place
in the plan and by the output of its launch. If it was executed and failed, two lines tell so, and
else none. After the reads stands what is wrong with the first grid that does not tile the box, or
how many reads passed. So the counts of an outcome can be told from the printed lines.
-/

namespace TileBench

open Text

/-- A planned read, and the output that its launch was answered with. -/
structure AnsweredRead where
  plan : PlannedRead
  output : Output

namespace AnsweredRead

variable (varType : VarType) (expected : UInt64) (r : AnsweredRead)

def launch : Launch := ⟨.read, r.plan.command, .ok r.output⟩

def counts : SampleCounts := SampleCounts.ofOutput r.output.text

/-- The read was executed, but it was not so that every expected sample was correct and none
incorrect. -/
def Failed : Prop :=
  r.output.executed = true ∧ ¬ (r.counts.correct = expected.toNat ∧ r.counts.incorrect = 0)

instance : Decidable (r.Failed expected) := inferInstanceAs (Decidable (_ ∧ _))

def countsLine : String :=
  "Test FAILED: count " ++ toString expected.toNat ++ " correct " ++ toString r.counts.correct ++
    " incorrect " ++ toString r.counts.incorrect

def placeLine : String :=
  "Test t=" ++ toString r.plan.timestep ++ " v=" ++ toString r.plan.varIndex ++ " type=" ++
    varType.text ++ " FAILED"

def notices : List String :=
  if r.Failed expected then [r.countsLine expected, r.placeLine varType] else []

/-- What an outcome keeps of the read. -/
def outcome : ReadOutcome :=
  ⟨r.plan.timestep, r.plan.varIndex, r.plan.command, Harness.verdictOf expected r.output⟩

lemma outcome_failed : (r.outcome expected).failed = true ↔ r.Failed expected := by
  have hpassed : Verdict.passed ⟨expected, r.counts⟩ = true ↔
      r.counts.correct = expected.toNat ∧ r.counts.incorrect = 0 := by
    simp [Verdict.passed, SampleCounts.passes]
  rw [Failed, ← hpassed, Bool.not_eq_true, ReadOutcome.failed, outcome, Harness.verdictOf]
  cases r.output.executed
  · simp
  · simp [counts]

/-- The lines about a read are those that its outcome gives. -/
lemma outcome_lines : (r.outcome expected).lines varType = r.notices varType expected := by
  have hpassed : (!(r.outcome expected).passed) = true ↔ r.Failed expected := by
    rw [← ReadOutcome.failed_eq, outcome_failed]
  unfold ReadOutcome.lines notices
  by_cases hfailed : r.Failed expected
  · rw [if_pos (hpassed.mpr hfailed), if_pos hfailed]
    simp only [Harness.readFailure, outcome, Harness.verdictOf, if_pos hfailed.1]
    rfl
  · rw [if_neg (mt hpassed.mp hfailed), if_neg hfailed]

end AnsweredRead

/-- The launches that have notes are answered, so those of reads can be told from the notes. -/
lemma exists_answeredReads {expected : UInt64} {notes : List Note} {made : List Launch}
    (h : List.Forall₂ (Note.Fits expected) notes made) :
    ∃ reads : List AnsweredRead,
      reads.map (AnsweredRead.outcome expected) = notes.filterMap Note.read? ∧
      reads.map AnsweredRead.launch = made.filter (fun l => l.phase = .read) := by
  induction h with
  | nil => exact ⟨[], rfl, rfl⟩
  | cons hfits _ ih =>
    obtain ⟨reads, houtcomes, hlaunches⟩ := ih
    cases hfits with
    | write => exact ⟨reads, houtcomes, hlaunches⟩
    | read t v command output =>
      refine ⟨⟨⟨t, v, command⟩, output⟩ :: reads, ?_, ?_⟩
      · rw [List.map_cons, houtcomes]
        rfl
      · rw [List.map_cons, hlaunches]
        rfl

/-- Every read of an outcome that is a true report was answered. -/
lemma CaseOutcome.Reports.exists_answeredReads {config : Config} {launcherArgs : List String}
    {o : CaseOutcome} {made : List Launch} (h : o.Reports config launcherArgs made) :
    ∃ (expected : UInt64) (reads : List AnsweredRead), o.case.expectedSamples = .ok expected ∧
      reads.map AnsweredRead.plan = (o.case.plan config launcherArgs).flatMap GridPlan.reads ∧
      reads.map AnsweredRead.launch = made.filter (fun l => l.phase = .read) ∧
      reads.map (AnsweredRead.outcome expected) = o.reads := by
  obtain ⟨expected, hexpected, hnotes⟩ := h.notes_fit
  obtain ⟨reads, houtcomes, hlaunches⟩ := TileBench.exists_answeredReads hnotes
  rw [o.filterMap_notes] at houtcomes
  refine ⟨expected, reads, hexpected, ?_, hlaunches, houtcomes⟩
  calc reads.map AnsweredRead.plan
      = (reads.map (AnsweredRead.outcome expected)).map ReadOutcome.plan := by
        rw [List.map_map]
        rfl
    _ = (o.grids.map GridRun.plan).flatMap GridPlan.reads := by
        rw [houtcomes, CaseOutcome.reads, List.map_flatMap, List.flatMap_map]
        rfl
    _ = (o.case.plan config launcherArgs).flatMap GridPlan.reads := by rw [h.plan_eq]

/-! ### What follows the reads -/

/-- The lines after the reads of a case, of which `passed` out of `tests` passed. -/
def Case.conclusion (c : Case) (config : Config) (executes : Bool) (passed tests : Nat) :
    List String :=
  match c.firstRejection config with
  | some d =>
    ["INVALID test configuration g_box " ++ d.box.text ++ " read l_box " ++ d.block.text ++
        " g_box/l_box != " ++ d.grid.text,
      "Try to change the patch size to get an integer value for g_box/l_box"]
  | none => if executes then ["Success " ++ toString passed ++ "/" ++ toString tests] else []

namespace CaseOutcome

variable {o : CaseOutcome} {config : Config} {reads : List AnsweredRead} {expected : UInt64}

/-- What is counted of a valid case. -/
lemma counts_of_answeredReads (hreads : reads.map (AnsweredRead.outcome expected) = o.reads)
    (hcount : reads.length < 2 ^ 32) (hvalid : o.invalid = none) :
    o.tests.toNat = reads.length ∧
    o.successes.toNat = reads.countP (fun r => ¬ r.Failed expected) ∧
    o.failures.toNat = reads.countP (fun r => r.Failed expected) := by
  have hlength : o.reads.length = reads.length := by rw [← hreads, List.length_map]
  have htests : o.testCount = reads.length := by
    rw [testCount, hvalid]
    exact hlength
  have hfits : o.testCount < 2 ^ 32 := htests ▸ hcount
  refine ⟨(o.tests_toNat hfits).trans htests, ?_, ?_⟩
  · rw [o.successes_toNat hfits, hvalid, ← hreads]
    simp only [Option.isSome_none, Bool.false_eq_true, if_false, List.countP_map]
    refine List.countP_congr fun r _ => ?_
    have hfailed := r.outcome_failed expected
    rw [ReadOutcome.failed_eq] at hfailed
    simp [← hfailed]
  · rw [o.failures_toNat hfits, hvalid, ← hreads]
    simp only [Option.isSome_none, Bool.false_eq_true, if_false, List.countP_map]
    refine List.countP_congr fun r _ => ?_
    simp [r.outcome_failed expected]

/-- The lines of an outcome are the notices of its reads and the conclusion. -/
lemma lines_eq_notices (hreads : reads.map (AnsweredRead.outcome expected) = o.reads)
    (hinvalid : o.invalid = o.case.firstRejection config) (hcount : reads.length < 2 ^ 32)
    (executes : Bool) :
    o.lines executes = reads.flatMap (AnsweredRead.notices o.case.varType expected) ++
      o.case.conclusion config executes (reads.countP fun r => ¬ r.Failed expected)
        reads.length := by
  have hnotices : o.reads.flatMap (·.lines o.case.varType) =
      reads.flatMap (AnsweredRead.notices o.case.varType expected) := by
    rw [← hreads, List.flatMap_map]
    simp only [AnsweredRead.outcome_lines]
  rw [lines, hnotices, closing, Case.conclusion, ← hinvalid]
  cases hrejected : o.invalid with
  | some d => rfl
  | none =>
    obtain ⟨htests, hsuccesses, -⟩ := counts_of_answeredReads hreads hcount hrejected
    simp only [Harness.successLine, htests, hsuccesses]

end CaseOutcome

/-! ### Counting failed reads in what is printed -/

def isPlaceLine (line : String) : Bool :=
  "Test t=".toList.isPrefixOf line.toList && " FAILED".toList.isSuffixOf line.toList

/-- The beginning of a line can tell that it gives no place. -/
lemma isPlaceLine_append {front back : String} (hfront : ¬ "Test t=".toList <+: front.toList)
    (hplace : ¬ front.toList <+: "Test t=".toList) : isPlaceLine (front ++ back) = false := by
  have hprefix : ¬ "Test t=".toList <+: (front ++ back).toList := by
    rw [String.toList_append]
    intro hprefix
    rcases List.prefix_or_prefix_of_prefix hprefix (List.prefix_append _ _) with h | h
    · exact hfront h
    · exact hplace h
  rw [← List.isPrefixOf_iff_prefix, Bool.not_eq_true] at hprefix
  rw [isPlaceLine, hprefix, Bool.false_and]

namespace AnsweredRead

variable (varType : VarType) (expected : UInt64)

lemma isPlaceLine_placeLine (r : AnsweredRead) : isPlaceLine (r.placeLine varType) = true := by
  rw [isPlaceLine, Bool.and_eq_true, List.isPrefixOf_iff_prefix, List.isSuffixOf_iff_suffix]
  constructor
  · simp only [placeLine, String.append_assoc, String.toList_append]
    exact List.prefix_append _ _
  · simp only [placeLine, String.toList_append]
    exact List.suffix_append _ _

lemma isPlaceLine_countsLine (r : AnsweredRead) : isPlaceLine (r.countsLine expected) = false := by
  unfold countsLine
  simp only [String.append_assoc]
  exact isPlaceLine_append (by decide) (by decide)

/-- A failed read has one line with its place. -/
lemma countP_isPlaceLine_notices (reads : List AnsweredRead) :
    (reads.flatMap (notices varType expected)).countP isPlaceLine =
      reads.countP (fun r => r.Failed expected) := by
  induction reads with
  | nil => rfl
  | cons r rest ih =>
    rw [List.flatMap_cons, List.countP_append, ih, List.countP_cons, Nat.add_comm, notices]
    by_cases hfailed : r.Failed expected
    · simp [hfailed, isPlaceLine_placeLine, isPlaceLine_countsLine]
    · simp [hfailed]

end AnsweredRead

lemma Case.countP_isPlaceLine_conclusion {c : Case} {config : Config}
    (hvalid : c.firstRejection config = none) (executes : Bool) (passed tests : Nat) :
    (c.conclusion config executes passed tests).countP isPlaceLine = 0 := by
  rw [conclusion, hvalid]
  cases executes
  · rfl
  · have hsuccess : isPlaceLine ("Success " ++ (toString passed ++ ("/" ++ toString tests))) =
        false := isPlaceLine_append (by decide) (by decide)
    rw [if_pos rfl, String.append_assoc, String.append_assoc, List.countP_singleton, hsuccess]
    rfl

namespace Harness

open Step

/-- What a case prints is exactly what happened. Its reads are the planned ones, each with the
answer to its launch. In the order of the reads two lines tell about each one that was executed and
failed, with its own counts, its timestep and its variable; then follows what is wrong with the
first grid that does not tile the box, or the numbers of passed and of all reads if the launcher
runs commands. The terminal shows these lines one by one, if the name of the scalar type has no
newline in it. So the failures of a valid case can be counted in what is printed. -/
theorem printed_is_what_happened (h : Harness) (c : Case) (s : Session) (o : CaseOutcome)
    (hprints : h.printsText = true) (hrun : ((h.runCase c).run s).1 = .ok o)
    (hcount : ((h.runCase c).trace s).countP (fun l => l.phase = .read) < 2 ^ 32) :
    ∃ (expected : UInt64) (reads : List AnsweredRead) (lines : List String),
      ((h.runCase c).run s).2.printed.toList = s.printed.toList ++ lines ∧
      lines = reads.flatMap (AnsweredRead.notices c.varType expected) ++
        c.conclusion h.config h.launcher.executes (reads.countP fun r => ¬ r.Failed expected)
          reads.length ∧
      (IsLine c.varType.scalar → rows '\n' (printedText lines) = (lines.map String.toList, [])) ∧
      c.expectedSamples = .ok expected ∧
      reads.map AnsweredRead.plan = (c.plan h.config h.launcherArgs).flatMap GridPlan.reads ∧
      reads.map AnsweredRead.launch = ((h.runCase c).trace s).filter (fun l => l.phase = .read) ∧
      reads.map (AnsweredRead.outcome expected) = o.reads ∧
      o.case = c ∧ o.invalid = c.firstRejection h.config ∧
      (o.invalid = none → o.tests.toNat = reads.length ∧
        o.successes.toNat = reads.countP (fun r => ¬ r.Failed expected) ∧
        o.failures.toNat = lines.countP isPlaceLine) := by
  obtain ⟨-, rfl, hreports⟩ := ((h.runCase_follows c).trace s).2.2 o hrun
  obtain ⟨hprinted, hallowed, hsaid⟩ := (h.runCase_says o.case).said s
  obtain ⟨expected, reads, hexpected, hplan, hlaunches, houtcomes⟩ := hreports.exists_answeredReads
  have hlength : reads.length < 2 ^ 32 := by
    rw [← List.length_map AnsweredRead.launch, hlaunches, ← List.countP_eq_length_filter]
    exact hcount
  have hlines := CaseOutcome.lines_eq_notices houtcomes hreports.invalid_eq hlength
    h.launcher.executes
  have hsaid := (hsaid o hrun).2
  rw [shown, if_pos hprints] at hsaid
  rw [← hsaid] at hlines
  refine ⟨expected, reads, _, hprinted, hlines, fun hscalar => ?_, hexpected, hplan, hlaunches,
    houtcomes, rfl, hreports.invalid_eq, fun hvalid => ?_⟩
  · exact rows_printedText fun line hline => (hallowed line hline).isLine hscalar
  · obtain ⟨htests, hsuccesses, hfailures⟩ :=
      CaseOutcome.counts_of_answeredReads houtcomes hlength hvalid
    refine ⟨htests, hsuccesses, ?_⟩
    rw [hfailures, hlines, List.countP_append, AnsweredRead.countP_isPlaceLine_notices,
      Case.countP_isPlaceLine_conclusion (hreports.invalid_eq ▸ hvalid), Nat.add_zero]

/-- What is printed of a rehearsal whose reads report nothing. -/
theorem unreported_reads_printed :
    ∃ o, (((loudRehearsal "").runCase rehearsedCase).run (.start .empty)).1 = .ok o ∧
      (((loudRehearsal "").runCase rehearsedCase).run (.start .empty)).2.printed.toList =
        ["Test FAILED: count 6912 correct 0 incorrect -1", "Test t=1 v=0 type=1*float32 FAILED",
          "Test FAILED: count 6912 correct 0 incorrect -1", "Test t=2 v=0 type=1*float32 FAILED",
          "Success 0/2"] ∧
      o.failures.toNat = 2 := by
  obtain ⟨o, hrun, -, htrace⟩ := (loudRehearsal_steady "").exists_run
    ((loudRehearsal "").runCase_follows rehearsedCase)
    fun hsmooth => hsmooth.runCase rehearsedCase_ready
  have hcount : (((loudRehearsal "").runCase rehearsedCase).trace (.start .empty)).countP
      (fun l => l.phase = .read) < 2 ^ 32 := by
    refine List.countP_le_length.trans_lt ?_
    rw [htrace, List.length_map]
    change 3 < 2 ^ 32
    decide
  obtain ⟨expected, reads, lines, hprinted, hlines, -, hexpected, hplan, hlaunches, -, -, hinvalid,
      hcounts⟩ :=
    printed_is_what_happened (loudRehearsal "") rehearsedCase (.start .empty) o rfl hrun hcount
  cases hexpected
  have houtput : ∀ r ∈ reads, r = ⟨r.plan, rehearsedOutput 0 "" .read⟩ := by
    intro r hr
    have hmem := hlaunches ▸ List.mem_map_of_mem hr
    rw [htrace] at hmem
    obtain ⟨request, -, hrequest⟩ := List.mem_map.mp (List.mem_filter.mp hmem).1
    simp only [AnsweredRead.launch, Launch.mk.injEq, Except.ok.injEq] at hrequest
    obtain ⟨hphase, -, houtput⟩ := hrequest
    rw [← hphase, houtput]
  have hreads : reads = ((rehearsedCase.plan .standard []).flatMap GridPlan.reads).map
      fun plan => ⟨plan, rehearsedOutput 0 "" .read⟩ := by
    have hplanned : (rehearsedCase.plan .standard []).flatMap GridPlan.reads =
        reads.map AnsweredRead.plan := hplan.symm
    rw [hplanned, List.map_map]
    exact (List.map_id reads).symm.trans (List.map_congr_left houtput)
  subst hreads
  have hshown : lines = ["Test FAILED: count 6912 correct 0 incorrect -1",
      "Test t=1 v=0 type=1*float32 FAILED", "Test FAILED: count 6912 correct 0 incorrect -1",
      "Test t=2 v=0 type=1*float32 FAILED", "Success 0/2"] := hlines.trans (by decide)
  obtain ⟨-, -, hfailures⟩ := hcounts (hinvalid.trans rfl)
  refine ⟨o, hrun, hprinted.trans hshown, ?_⟩
  rw [hfailures, hshown]
  decide

end Harness

end TileBench
