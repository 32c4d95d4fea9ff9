import TileBench.Proofs.Suite.Success
import Mathlib.Data.List.Forall2

/-!
# Verdicts

A read is judged by its own output alone. If two runs of a case give the same answer to a launch,
they say the same about it, whatever else they answered before and after, and whatever stands in the
files.
-/

namespace TileBench

/-- What the `k`-th of some pairs satisfies. -/
private lemma exists_fits_getElem? {expected : UInt64} {notes : List Note} {made : List Launch}
    (h : List.Forall₂ (Note.Fits expected) notes made) {k : Nat} {l : Launch}
    (hk : made[k]? = some l) : ∃ note, notes[k]? = some note ∧ note.Fits expected l := by
  obtain ⟨hlt, rfl⟩ := List.getElem?_eq_some_iff.mp hk
  obtain ⟨hlength, hfits⟩ := List.forall₂_iff_get.mp h
  exact ⟨notes[k], List.getElem?_eq_getElem (hlength ▸ hlt), hfits k (hlength ▸ hlt) hlt⟩

/-- The reads that the notes are about are planned. -/
lemma CaseOutcome.map_plan_notes (o : CaseOutcome) :
    o.notes.map (fun note => note.read?.map ReadOutcome.plan) =
      (o.grids.map GridRun.plan).flatMap fun p => none :: p.reads.map some := by
  simp only [notes, List.map_flatMap, List.flatMap_map, GridRun.notes, GridRun.plan, List.map_cons,
    List.map_map]
  rfl

/-- What a report says about a read that was launched. -/
lemma CaseOutcome.Reports.read_note {config : Config} {launcherArgs : List String} {o : CaseOutcome}
    {made : List Launch} (h : o.Reports config launcherArgs made) {k : Nat} {command : Command}
    {output : Output} (hk : made[k]? = some ⟨.read, command, .ok output⟩) :
    ∃ expected r, o.case.expectedSamples = .ok expected ∧ o.notes[k]? = some (.read r) ∧
      r.command = command ∧ r.verdict = Harness.verdictOf expected output := by
  obtain ⟨expected, hexpected, hnotes⟩ := h.notes_fit
  obtain ⟨note, hnote, hfits⟩ := exists_fits_getElem? hnotes hk
  cases hfits with
  | read t v => exact ⟨expected, ⟨t, v, command, _⟩, hexpected, hnote, rfl, rfl⟩

namespace Harness

/-- Two runs of a case that answer a launch alike judge it alike. The verdict on a read that was
executed counts the samples of its own output; a read that was only recorded passes. -/
theorem same_answer_same_verdict (h₁ h₂ : Harness) (hconfig : h₁.config = h₂.config)
    (hargs : h₁.launcherArgs = h₂.launcherArgs) (c : Case) (s₁ s₂ : Session) (o₁ o₂ : CaseOutcome)
    (hrun₁ : ((h₁.runCase c).run s₁).1 = .ok o₁) (hrun₂ : ((h₂.runCase c).run s₂).1 = .ok o₂)
    (k : Nat) (command₁ command₂ : Command) (output : Output)
    (hk₁ : ((h₁.runCase c).trace s₁)[k]? = some ⟨.read, command₁, .ok output⟩)
    (hk₂ : ((h₂.runCase c).trace s₂)[k]? = some ⟨.read, command₂, .ok output⟩) :
    ∃ r, o₁.notes[k]? = some (.read r) ∧ o₂.notes[k]? = some (.read r) ∧
      r.command = command₁ ∧ r.command = command₂ ∧
      (output.executed = true → ∃ expected, c.expectedSamples = .ok expected ∧
        r.verdict = some ⟨expected, SampleCounts.ofOutput output.text⟩) ∧
      (output.executed = false → r.verdict = none ∧ r.passed = true) := by
  obtain ⟨-, hcase₁, hreports₁⟩ := ((h₁.runCase_follows c).trace s₁).2.2 o₁ hrun₁
  obtain ⟨-, hcase₂, hreports₂⟩ := ((h₂.runCase_follows c).trace s₂).2.2 o₂ hrun₂
  obtain ⟨expected, r₁, hexpected, hnote₁, hcommand₁, hverdict₁⟩ := hreports₁.read_note hk₁
  obtain ⟨expected', r₂, hexpected', hnote₂, hcommand₂, hverdict₂⟩ := hreports₂.read_note hk₂
  rw [hcase₁] at hexpected
  rw [hcase₂, hexpected] at hexpected'
  cases hexpected'
  -- Both runs carry out one plan, so their notes are about the same reads.
  have hplans : o₁.notes.map (fun note => note.read?.map ReadOutcome.plan) =
      o₂.notes.map fun note => note.read?.map ReadOutcome.plan := by
    rw [o₁.map_plan_notes, o₂.map_plan_notes, hreports₁.plan_eq, hreports₂.plan_eq, hcase₁, hcase₂,
      hconfig, hargs]
  have hplan : r₁.plan = r₂.plan := by
    have h := congrArg (·[k]?) hplans
    simpa [hnote₁, hnote₂, Note.read?] using h
  have hr : r₁ = r₂ := by
    cases r₁
    cases r₂
    simp_all [ReadOutcome.plan]
  subst hr
  refine ⟨r₁, hnote₁, hnote₂, hcommand₁, hcommand₂, fun hexec => ?_, fun hexec => ?_⟩
  · exact ⟨expected, hexpected, by rw [hverdict₁, verdictOf, if_pos hexec]⟩
  · have hnone : r₁.verdict = none := by rw [hverdict₁, verdictOf, hexec]; rfl
    exact ⟨hnone, by rw [ReadOutcome.passed, hnone]; rfl⟩

/-- Two rehearsals whose writes end differently judge the first read alike. -/
theorem rehearsals_judge_first_read_alike :
    ∃ o₁ o₂ r,
      (((rehearsal 0 "").runCase rehearsedCase).run (.start .empty)).1 = .ok o₁ ∧
      (((rehearsal 1 "").runCase rehearsedCase).run (.start .empty)).1 = .ok o₂ ∧
      o₁.notes[1]? = some (.read r) ∧ o₂.notes[1]? = some (.read r) ∧
      r.verdict = some ⟨6912, SampleCounts.ofOutput ""⟩ := by
  obtain ⟨o₁, hrun₁, htrace₁⟩ := exists_rehearsal 0 ""
  obtain ⟨o₂, hrun₂, htrace₂⟩ := exists_rehearsal 1 ""
  have hread : (rehearsedCase.requests .standard [])[1]? = some
      ⟨.read, (rehearsedCase.plannedRead .standard [] ⟨12, 12, 12⟩ 1 0).command⟩ := rfl
  obtain ⟨r, hr₁, hr₂, -, -, hexecuted, -⟩ :=
    same_answer_same_verdict (rehearsal 0 "") (rehearsal 1 "") rfl rfl rehearsedCase
      (.start .empty) (.start .empty) o₁ o₂ hrun₁ hrun₂ 1 _ _ ⟨true, some 0, ""⟩
      (by rw [htrace₁, List.getElem?_map, hread]; rfl)
      (by rw [htrace₂, List.getElem?_map, hread]; rfl)
  obtain ⟨expected, hexpected, hverdict⟩ := hexecuted rfl
  cases hexpected
  exact ⟨o₁, o₂, r, hrun₁, hrun₂, hr₁, hr₂, hverdict⟩

end Harness

end TileBench
