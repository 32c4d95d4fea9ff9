import TileBench.Session
import Mathlib.Tactic.Lemma

/-!
# Running steps

What each step of a run does to a session. A step that is put together from others is run by
running these in turn, up to the first fault.
-/

namespace TileBench.Step

variable {α β : Type}

/-! ### Putting steps together -/

@[simp] lemma run_pure (a : α) (s : Session) : (pure a : Step α).run s = (.ok a, s) := rfl

lemma run_bind (x : Step α) (f : α → Step β) (s : Session) :
    (x >>= f).run s = match x.run s with
      | (.ok a, t) => (f a).run t
      | (.error fault, t) => (.error fault, t) := by
  simp only [Step.run, ExceptT.run_bind, StateT.run_bind]
  rcases StateT.run (ExceptT.run x) s with ⟨_ | _, t⟩ <;> rfl

/-- Two steps end with a value if both of them do. -/
lemma run_bind_eq_ok_iff {x : Step α} {f : α → Step β} {b : β} {s u : Session} :
    (x >>= f).run s = (.ok b, u) ↔ ∃ a t, x.run s = (.ok a, t) ∧ (f a).run t = (.ok b, u) := by
  rw [run_bind]
  rcases x.run s with ⟨fault | a, t⟩
  · exact ⟨nofun, nofun⟩
  · constructor
    · exact fun h => ⟨a, t, rfl, h⟩
    · rintro ⟨_, _, ⟨⟩, h⟩
      exact h

@[simp] lemma run_get (s : Session) : (get : Step Session).run s = (.ok s, s) := rfl

@[simp] lemma run_set (t s : Session) : (set t : Step Unit).run s = (.ok (), t) := rfl

@[simp] lemma run_modify (f : Session → Session) (s : Session) :
    (modify f : Step Unit).run s = (.ok (), f s) := rfl

/-! ### Single steps -/

@[simp] lemma run_ofExcept (e : Except Fault α) (s : Session) : (ofExcept e).run s = (e, s) := by
  cases e <;> rfl

/-- What comes after a known fault is not run. -/
lemma run_error_bind (fault : Fault) (f : α → Step β) (s : Session) :
    (ofExcept (.error fault) >>= f).run s = (.error fault, s) := by
  rw [run_bind, run_ofExcept]

@[simp] lemma run_printLines (lines : List String) (s : Session) :
    (printLines lines).run s = (.ok (), { s with printed := s.printed ++ lines }) := by
  induction lines generalizing s with
  | nil => simp [printLines]
  | cons line rest ih =>
    simp only [printLines, run_bind, printLine, run_modify, ih]
    simp

@[simp] lemma run_tell (event : Event) (s : Session) :
    (tell event).run s = (.ok (), { s with events := s.events.push event }) := rfl

lemma run_changeStore (change : Store → Except Fault Store) (s : Session) :
    (changeStore change).run s = match change s.store with
      | .ok store => (.ok (), { s with store })
      | .error fault => (.error fault, s) := by
  simp only [changeStore, run_bind, run_get, run_ofExcept]
  cases change s.store <;> rfl

lemma run_changeStoreKeeping (change : Store → Except Fault Unit × Store) (s : Session) :
    (changeStoreKeeping change).run s = ((change s.store).1, { s with store := (change s.store).2 }) := by
  simp only [changeStoreKeeping, run_bind, run_get, run_set, run_ofExcept]

lemma run_launch (launcher : Launcher) (phase : Phase) (command : Command) (s : Session) :
    (launch launcher phase command).run s =
      (let answer := launcher.answer s.launches phase command s.store
      (answer.outcome, { s with
        store := answer.store
        events := s.events ++ answer.events
        launches := s.launches.push ⟨phase, command, answer.outcome⟩ })) := by
  simp only [launch, run_bind, run_get, run_set, run_ofExcept]

end TileBench.Step
