import TileBench.Proofs.Suite.Plan
import TileBench.Suite.Harness

/-!
# How a case is conducted

A case is run by carrying out its plan. Each function of the harness follows the part of the plan
that belongs to it, and what it returns tells about its launches one by one: the exit code of a
write, and the verdict on a read.
-/

namespace TileBench

/-- What an outcome says about one launch. -/
inductive Note where
  | write (command : Command) (exitCode : Option Int)
  | read (outcome : ReadOutcome)

/-- A note is true of a launch that was answered, where a read has `expected` samples. -/
inductive Note.Fits (expected : UInt64) : Note → Launch → Prop
  | write (command : Command) (output : Output) :
    Fits expected (.write command output.exitCode) ⟨.write, command, .ok output⟩
  | read (timestep varIndex : Nat) (command : Command) (output : Output) :
    Fits expected (.read ⟨timestep, varIndex, command, Harness.verdictOf expected output⟩)
      ⟨.read, command, .ok output⟩

def Note.read? : Note → Option ReadOutcome
  | .write .. => none
  | .read r => some r

/-- The notes of a grid run, in the order of its launches. -/
def GridRun.notes (g : GridRun) : List Note :=
  .write g.writeCommand g.writeExitCode :: g.reads.map .read

def CaseOutcome.notes (o : CaseOutcome) : List Note := o.grids.flatMap GridRun.notes

@[simp] lemma GridRun.filterMap_notes (g : GridRun) : g.notes.filterMap Note.read? = g.reads := by
  simp only [notes, List.filterMap_cons, Note.read?, List.filterMap_map]
  exact List.filterMap_some

@[simp] lemma CaseOutcome.filterMap_notes (o : CaseOutcome) :
    o.notes.filterMap Note.read? = o.reads := by
  simp [notes, reads, List.filterMap_flatMap]

/-- An outcome is a true report of the launches of its case: the case was carried out as planned,
and every launch has its note. -/
structure CaseOutcome.Reports (config : Config) (launcherArgs : List String) (o : CaseOutcome)
    (made : List Launch) : Prop where
  plan_eq : o.grids.map GridRun.plan = o.case.plan config launcherArgs
  invalid_eq : o.invalid = o.case.firstRejection config
  notes_fit : ∃ expected, o.case.expectedSamples = .ok expected ∧
    List.Forall₂ (Note.Fits expected) o.notes made

/-- A read that a note is about is judged by the output of its launch. -/
lemma exists_output_of_fits {expected : UInt64} {notes : List Note} {made : List Launch}
    (h : List.Forall₂ (Note.Fits expected) notes made) {r : ReadOutcome}
    (hr : r ∈ notes.filterMap Note.read?) :
    ∃ output, (⟨.read, r.command, .ok output⟩ : Launch) ∈ made ∧
      r.verdict = Harness.verdictOf expected output := by
  induction h with
  | nil => cases hr
  | cons hfits _ ih =>
    cases hfits with
    | write =>
      obtain ⟨output, hmem, hverdict⟩ := ih hr
      exact ⟨output, List.mem_cons_of_mem _ hmem, hverdict⟩
    | read =>
      rcases List.mem_cons.mp hr with rfl | hrest
      · exact ⟨_, List.mem_cons_self, rfl⟩
      · obtain ⟨output, hmem, hverdict⟩ := ih hrest
        exact ⟨output, List.mem_cons_of_mem _ hmem, hverdict⟩

lemma CaseOutcome.Reports.exists_output {config : Config} {launcherArgs : List String}
    {o : CaseOutcome} {made : List Launch} (h : o.Reports config launcherArgs made)
    {r : ReadOutcome} (hr : r ∈ o.reads) :
    ∃ expected output, o.case.expectedSamples = .ok expected ∧
      (⟨.read, r.command, .ok output⟩ : Launch) ∈ made ∧
      r.verdict = Harness.verdictOf expected output := by
  obtain ⟨expected, hexpected, hnotes⟩ := h.notes_fit
  rw [← o.filterMap_notes] at hr
  obtain ⟨output, hmem, hverdict⟩ := exists_output_of_fits hnotes hr
  exact ⟨expected, output, hexpected, hmem, hverdict⟩

namespace Harness

open Step

variable (h : Harness) (c : Case) (expected : UInt64)

/-! ### Quiet steps -/

lemma quiet_say (lines : List String) : Quiet (h.say lines) := by
  unfold say
  split
  · exact quiet_printLines lines
  · exact quiet_pure ()

lemma run_say (lines : List String) (s : Session) :
    (h.say lines).run s =
      (.ok (), { s with printed := s.printed ++ if h.printsText then lines else [] }) := by
  unfold say
  split
  · rw [run_printLines]
  · simp

lemma quiet_capture (phase : Phase) (output : Output) : Quiet (h.capture phase output) := by
  unfold capture
  split
  · exact quiet_changeStore _
  · exact quiet_pure ()

lemma quiet_writeVars : Quiet (h.writeVars c) := quiet_changeStore _

lemma quiet_judgeWrite (output : Output) : Quiet (judgeWrite output) := by
  unfold judgeWrite
  split
  · exact quiet_tell _
  · exact quiet_pure ()

/-! ### Launches -/

lemma perform_follows (phase : Phase) (command : Command) (judge : Output → Step Unit)
    (hjudge : ∀ output, Quiet (judge output)) :
    Follows (h.perform phase command judge) [⟨phase, command⟩] fun output made =>
      made = [⟨phase, command, .ok output⟩] := by
  unfold perform
  refine Follows.after_quiet (quiet_tell _) fun _ => ?_
  refine (follows_launch h.launcher phase command).bind_last ?_
  rintro output _ rfl
  refine Follows.after_quiet (hjudge output) fun _ => ?_
  exact Follows.after_quiet (h.quiet_capture phase output) fun _ => Follows.pure rfl

lemma readBack_follows (readBlock : Extent) (k : Nat) :
    Follows (h.readBack c expected readBlock k)
      [⟨.read, c.readCommand h.config h.launcherArgs readBlock k⟩] fun r made =>
        r.plan = ⟨c.timestep k, c.varIndex k, c.readCommand h.config h.launcherArgs readBlock k⟩ ∧
        List.Forall₂ (Note.Fits expected) [.read r] made := by
  unfold readBack
  refine (h.perform_follows .read _ _ fun _ => quiet_pure ()).bind_last ?_
  rintro output _ rfl
  refine Follows.after_optional (h.quiet_say _) (Follows.pure ⟨rfl, ?_⟩)
  exact .cons (.read _ _ _ output) .nil

/-- The next `n` reads, from read number `k` on. -/
lemma readsFrom_follows (readBlock : Extent) (n k : Nat) :
    Follows (h.readsFrom c expected readBlock n k)
      ((List.range' k n).map fun i =>
        ⟨.read, c.readCommand h.config h.launcherArgs readBlock i⟩) fun reads made =>
        reads.map ReadOutcome.plan = (List.range' k n).map (fun i =>
          ⟨c.timestep i, c.varIndex i, c.readCommand h.config h.launcherArgs readBlock i⟩) ∧
        List.Forall₂ (Note.Fits expected) (reads.map .read) made := by
  induction n generalizing k with
  | zero => exact Follows.pure ⟨rfl, .nil⟩
  | succ n ih =>
    simp only [readsFrom, List.range'_succ, List.map_cons]
    refine (h.readBack_follows c expected readBlock k).bind_cons fun r made hr => ?_
    refine (ih (k + 1)).bind_last fun reads more hreads => Follows.pure ⟨?_, ?_⟩
    · rw [List.map_cons, hr.1, hreads.1]
    · rw [List.append_nil]
      exact List.rel_append hr.2 hreads.2

lemma runGrid_follows (grid : Extent) :
    Follows (h.runGrid c expected grid (c.blockFor grid))
      (c.gridPlan h.config h.launcherArgs grid).requests fun run made =>
        run.plan = c.gridPlan h.config h.launcherArgs grid ∧
        List.Forall₂ (Note.Fits expected) run.notes made := by
  unfold runGrid
  refine Follows.after_optional (quiet_tell _) ?_
  refine Follows.after_quiet (h.quiet_writeVars c) fun _ => ?_
  rw [c.requests_gridPlan]
  refine (h.perform_follows .write _ _ quiet_judgeWrite).bind_cons ?_
  rintro output _ rfl
  refine (h.readsFrom_follows c expected _ _ 0).bind_last fun reads more hreads => ?_
  refine Follows.pure ⟨?_, ?_⟩
  · simp only [GridRun.plan, Case.gridPlan, hreads.1, c.writeCommand_eq, c.map_readCommand]
  · rw [List.append_nil]
    exact .cons (.write _ output) hreads.2

/-- Grids are tried up to the first one that does not tile the box. -/
lemma runGrids_follows (grids : List Extent) :
    Follows (h.runGrids c expected grids)
      (((grids.takeWhile c.accepts).map (c.gridPlan h.config h.launcherArgs)).flatMap
        GridPlan.requests) fun result made =>
        result.1 = (grids.find? fun grid => !c.accepts grid).map c.rejection ∧
        result.2.map GridRun.plan =
          (grids.takeWhile c.accepts).map (c.gridPlan h.config h.launcherArgs) ∧
        List.Forall₂ (Note.Fits expected) (result.2.flatMap GridRun.notes) made := by
  induction grids with
  | nil => exact Follows.pure ⟨rfl, rfl, .nil⟩
  | cons grid rest ih =>
    unfold runGrids
    rw [c.readBlock_eq]
    cases haccepts : c.accepts grid with
    | false =>
      simp only [Bool.false_eq_true, if_false, List.takeWhile_cons, haccepts, List.find?_cons,
        Bool.not_false]
      exact Follows.after_quiet (h.quiet_say _) fun _ => Follows.pure ⟨rfl, rfl, .nil⟩
    | true =>
      simp only [if_true, List.takeWhile_cons, haccepts, List.find?_cons, Bool.not_true,
        List.map_cons, List.flatMap_cons]
      refine (h.runGrid_follows c expected grid).bind fun first made hfirst => ?_
      refine ih.bind_last fun result more hrest => Follows.pure ⟨hrest.1, ?_, ?_⟩
      · rw [List.map_cons, hfirst.1, hrest.2.1]
      · rw [List.append_nil]
        exact List.rel_append hfirst.2 hrest.2.2

lemma runCase_follows :
    Follows (h.runCase c) (c.requests h.config h.launcherArgs) fun outcome made =>
      outcome.case = c ∧ outcome.Reports h.config h.launcherArgs made := by
  unfold runCase
  refine Follows.after_ofExcept fun grids hgrids => ?_
  refine Follows.after_ofExcept fun expected hexpected => ?_
  have hcandidates : c.candidates h.config = grids := by simp [Case.candidates, hgrids]
  have hplan : c.requests h.config h.launcherArgs =
      ((grids.takeWhile c.accepts).map (c.gridPlan h.config h.launcherArgs)).flatMap
        GridPlan.requests := by
    rw [Case.requests, Case.plan, Case.acceptedGrids, hcandidates]
  rw [hplan]
  refine (h.runGrids_follows c expected grids).bind_last ?_
  rintro ⟨invalid, runs⟩ made ⟨hinvalid, hruns, hnotes⟩
  refine Follows.after_optional (h.quiet_say _) (Follows.pure ⟨rfl, ?_⟩)
  rw [List.append_nil]
  refine ⟨?_, ?_, expected, hexpected, hnotes⟩
  · rw [Case.plan, Case.acceptedGrids, hcandidates]
    exact hruns
  · rw [Case.firstRejection, hcandidates]
    exact hinvalid

/-- A case asks the launcher for its plan, whatever the launcher answers. Only a fault cuts the plan
short: a case with an outcome has carried out all of it, on every grid in front of the first one
that does not tile the box. Every read is launched with blocks that tile the box. -/
theorem runCase_carries_out_plan (s : Session) :
    ((h.runCase c).run s).2.launches.toList = s.launches.toList ++ (h.runCase c).trace s ∧
    ((h.runCase c).trace s).map Launch.request <+: c.requests h.config h.launcherArgs ∧
    (∀ command, (⟨.read, command⟩ : Request) ∈ ((h.runCase c).trace s).map Launch.request →
      ∃ grid ∈ c.candidates h.config, c.box.tiledBy (c.blockFor grid) c.readers = true ∧
        ∃ t v, 1 ≤ t ∧ t ≤ c.timesteps.toNat ∧ v < c.vars.toNat ∧
          command =
            (c.plannedRead h.config h.launcherArgs (c.blockFor grid) t v).command) ∧
    ∀ outcome, ((h.runCase c).run s).1 = .ok outcome →
      ((h.runCase c).trace s).map Launch.request = c.requests h.config h.launcherArgs ∧
      outcome.grids.map GridRun.plan = c.plan h.config h.launcherArgs ∧
      outcome.invalid = c.firstRejection h.config ∧
      (outcome.invalid.isSome ↔
        ∃ grid ∈ c.candidates h.config, c.box.tiledBy (c.blockFor grid) c.readers = false) := by
  obtain ⟨hgrow, hpre, hok⟩ := (h.runCase_follows c).trace s
  refine ⟨hgrow, hpre, fun command hmem => ?_, fun outcome hrun => ?_⟩
  · exact c.exists_of_read_mem_requests h.config h.launcherArgs (hpre.subset hmem)
  · obtain ⟨hall, rfl, hreports⟩ := hok outcome hrun
    refine ⟨hall, hreports.plan_eq, hreports.invalid_eq, ?_⟩
    rw [hreports.invalid_eq]
    exact outcome.case.firstRejection_isSome_iff h.config

end Harness

end TileBench
