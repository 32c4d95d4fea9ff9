import TileBench.Proofs.Except
import TileBench.Proofs.Session.Mirrors
import TileBench.Proofs.Suite.Pairs

/-!
# Requests do not depend on answers

Neither what a launcher answers nor what is printed or collected has an influence on what is
launched next. Two harnesses with one configuration make the same requests for a call and end it
alike, unless a launcher or a file fails.
-/

namespace TileBench.Harness

open Step

variable (h h' : Harness)

/-! ### Steps aside -/

lemma aside_say (p : Prop) [Decidable p] (lines : List String) :
    Aside (if p then h.say lines else pure ()) := by
  unfold say
  split_ifs
  · exact aside_printLines lines
  · exact aside_pure ()
  · exact aside_pure ()

lemma aside_judgeWrite (output : Output) : Aside (judgeWrite output) := by
  unfold judgeWrite
  split
  · exact aside_tell _
  · exact aside_pure ()

lemma aside_writeVars (c : Case) : Aside (h.writeVars c) := by
  refine aside_changeStore fun store fault hfault => ?_
  obtain ⟨cause, -, rfl⟩ := mapError_eq_error_iff.mp hfault
  exact ⟨_, cause, rfl⟩

/-- Collecting fails on the file of the profile only. -/
lemma exists_cause_of_capture {store : Store} {path output : String} {fault : Fault}
    (hfault : Profile.capture store path output = .error fault) :
    ∃ cause, fault = .file path cause := by
  unfold Profile.capture at hfault
  split at hfault
  · cases hfault
  · obtain ⟨cause, -, rfl⟩ := mapError_eq_error_iff.mp hfault
    exact ⟨cause, rfl⟩

lemma aside_capture (phase : Phase) (output : Output) : Aside (h.capture phase output) := by
  unfold capture
  split
  · exact aside_changeStore fun store fault hfault => ⟨_, exists_cause_of_capture hfault⟩
  · exact aside_pure ()

/-! ### Pairs -/

lemma perform_mirrors (phase : Phase) (command : Command) {judge : Output → Step Unit}
    (hjudge : ∀ output, Aside (judge output)) :
    Mirrors (h.perform phase command judge) (h'.perform phase command judge) := by
  unfold perform
  refine ((aside_tell _).mirrors (aside_tell _)).bind fun _ _ => ?_
  refine (mirrors_launch ..).bind fun output output' => ?_
  refine ((hjudge output).mirrors (hjudge output')).bind fun _ _ => ?_
  refine ((h.aside_capture phase output).mirrors (h'.aside_capture phase output')).bind fun _ _ => ?_
  exact (aside_pure output).mirrors (aside_pure output')

variable {h h'}

lemma paired_mirrors (hconfig : h'.config = h.config) (hargs : h'.launcherArgs = h.launcherArgs) :
    Paired (fun x y => Mirrors x y) h h' where
  config := hconfig
  launcherArgs := hargs
  pure a b := (aside_pure a).mirrors (aside_pure b)
  bind := Mirrors.bind
  after_ofExcept := Mirrors.after_ofExcept
  say p q _ _ lines lines' := (h.aside_say p lines).mirrors (h'.aside_say q lines')
  tell event := (aside_tell event).mirrors (aside_tell event)
  writeVars c := (h.aside_writeVars c).mirrors (h'.aside_writeVars c)
  write command := perform_mirrors h h' .write command aside_judgeWrite
  read command := perform_mirrors h h' .read command fun _ => aside_pure ()

/-- Calm runs of a call make the same requests and end alike, whatever the launchers answer. -/
theorem runCall_mirrors (hconfig : h'.config = h.config) (hargs : h'.launcherArgs = h.launcherArgs)
    (call : Call) : Mirrors (h.runCall call) (h'.runCall call) :=
  (paired_mirrors hconfig hargs).runCall call

end TileBench.Harness
