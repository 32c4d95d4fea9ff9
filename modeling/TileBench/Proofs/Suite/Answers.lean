import TileBench.Proofs.Suite.SameRequests

/-!
# Who answers

Every launch in the trace of a harness was answered by the launcher of the harness. What holds of
all answers of a launcher therefore holds of the trace.
-/

namespace TileBench

variable {α β : Type} {launcher : Launcher}

namespace Step

variable {x : Step α} {f : α → Step β}

/-- Every launch of the step was answered by the launcher, after some launches and with some files. -/
structure AnsweredBy (launcher : Launcher) (x : Step α) : Prop where
  grows : Grows x
  answered : ∀ s : Session, ∀ l ∈ x.trace s, ∃ history store,
    l.outcome = (launcher.answer history l.phase l.command store).outcome

lemma Quiet.answeredBy (hx : Quiet x) : AnsweredBy launcher x where
  grows := hx.grows
  answered s l hl := by
    rw [hx.trace_eq] at hl
    cases hl

lemma AnsweredBy.bind (hx : AnsweredBy launcher x) (hf : ∀ a, AnsweredBy launcher (f a)) :
    AnsweredBy launcher (x >>= f) := by
  refine ⟨hx.grows.bind fun a => (hf a).grows, fun s l hl => ?_⟩
  rcases hrun : x.run s with ⟨fault | a, t⟩
  · rw [trace_bind_of_error hrun] at hl
    exact hx.answered s l hl
  · rw [trace_bind_of_ok hx.grows (fun a => (hf a).grows) hrun] at hl
    obtain hfirst | hlater := List.mem_append.mp hl
    · exact hx.answered s l hfirst
    · exact (hf a).answered t l hlater

lemma AnsweredBy.after_ofExcept {e : Except Fault α}
    (hf : ∀ a, e = .ok a → AnsweredBy launcher (f a)) : AnsweredBy launcher (ofExcept e >>= f) := by
  cases e with
  | error fault => exact (quiet_error_bind fault f).answeredBy
  | ok a => exact hf a rfl

lemma answeredBy_launch (phase : Phase) (command : Command) :
    AnsweredBy launcher (launch launcher phase command) where
  grows := (follows_launch launcher phase command).grows
  answered s l hl := by
    rw [trace_launch] at hl
    obtain rfl := List.mem_singleton.mp hl
    exact ⟨s.launches, s.store, rfl⟩

end Step

namespace Harness

open Step

variable (h : Harness)

lemma perform_answered (phase : Phase) (command : Command) {judge : Output → Step Unit}
    (hjudge : ∀ output, Quiet (judge output)) :
    AnsweredBy h.launcher (h.perform phase command judge) := by
  unfold perform
  refine (quiet_tell _).answeredBy.bind fun _ => ?_
  refine (answeredBy_launch phase command).bind fun output => ?_
  refine (hjudge output).answeredBy.bind fun _ => ?_
  exact (h.quiet_capture phase output).answeredBy.bind fun _ => (quiet_pure _).answeredBy

lemma paired_answered : Paired (fun x _ => AnsweredBy h.launcher x) h h where
  config := rfl
  launcherArgs := rfl
  pure a _ := (quiet_pure a).answeredBy
  bind hx hf := hx.bind fun a => hf a a
  after_ofExcept hf := AnsweredBy.after_ofExcept hf
  say p _ _ _ lines _ := (h.aside_say p lines).quiet.answeredBy
  tell event := (quiet_tell event).answeredBy
  writeVars c := (h.quiet_writeVars c).answeredBy
  write command := h.perform_answered .write command fun output => (aside_judgeWrite output).quiet
  read command := h.perform_answered .read command fun _ => quiet_pure ()

/-- The launches of a series are answered by the launcher of the harness. -/
theorem runSeries_answered (series : List (SuiteKind × SuitePlan)) :
    AnsweredBy h.launcher (h.runSeries series) :=
  h.paired_answered.runSeries series

end Harness

end TileBench
