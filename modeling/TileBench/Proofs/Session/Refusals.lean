import TileBench.Proofs.Session.Success

/-!
# Refusals

A step *refuses* with a fault if it ends with that fault from every session, before it has changed a
file or launched a command. What comes after a refusal is not run, and what comes before one may
print and tell the log something.
-/

namespace TileBench.Step

variable {α β : Type} {fault : Fault} {x : Step α} {f : α → Step β}

/-- The step ends with the fault, and leaves the files and the launches as they were. -/
def Refuses (fault : Fault) (step : Step α) : Prop :=
  ∀ s : Session, ∃ t, step.run s = (.error fault, t) ∧ t.store = s.store ∧ t.launches = s.launches

lemma refuses_ofExcept {e : Except Fault α} (he : e = .error fault) :
    Refuses fault (ofExcept e) := by
  intro s
  exact ⟨s, by rw [run_ofExcept, he], rfl, rfl⟩

lemma Refuses.run_ne_ok (h : Refuses fault x) (s : Session) (a : α) : (x.run s).1 ≠ .ok a := by
  obtain ⟨t, hrun, -⟩ := h s
  rw [hrun]
  nofun

lemma Refuses.bind (hx : Refuses fault x) : Refuses fault (x >>= f) := by
  intro s
  obtain ⟨t, hrun, hsame⟩ := hx s
  exact ⟨t, by rw [run_bind, hrun], hsame⟩

/-- What comes before may print lines and tell the log something. -/
lemma Refuses.after (hx : ∀ good, Succeeds good x) (hf : ∀ a, Refuses fault (f a)) :
    Refuses fault (x >>= f) := by
  intro s
  obtain ⟨a, t, hrun, hstore, hlaunches⟩ := exists_run_of_idle hx s
  obtain ⟨u, hrun', hstore', hlaunches'⟩ := hf a t
  refine ⟨u, ?_, hstore'.trans hstore, hlaunches'.trans hlaunches⟩
  rw [run_bind, hrun]
  exact hrun'

/-- A value that is known beforehand is passed on. -/
lemma Refuses.after_ofExcept {e : Except Fault α} {a : α} (he : e = .ok a)
    (hf : Refuses fault (f a)) : Refuses fault (ofExcept e >>= f) := by
  subst he
  intro s
  rw [run_bind, run_ofExcept]
  exact hf s

end TileBench.Step
