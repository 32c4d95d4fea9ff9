import TileBench.Proofs.Session.Runs

/-!
# Traces

The trace of a step is the list of the launches that it adds to a session. A step *follows* a plan
if it asks for the requests of the plan in turn, whatever the launcher answers: a fault may cut the
plan short, and a step that ends with a value has asked for all of it.

`Step.Follows.bind` puts plans together as the steps are put together, so the plan of a whole run is
found from the plans of its parts.
-/

namespace TileBench

/-- What a launcher is asked for. -/
structure Request where
  phase : Phase
  command : Command
  deriving DecidableEq

def Launch.request (l : Launch) : Request := ⟨l.phase, l.command⟩

namespace Step

variable {α β : Type}

/-- The launches that a step adds to a session. -/
def trace (step : Step α) (s : Session) : List Launch :=
  (step.run s).2.launches.toList.drop s.launches.size

/-- The step asks for the requests of a plan in turn, up to a fault. A value that it ends with and
its launches satisfy `post`. -/
def Follows (step : Step α) (plan : List Request) (post : α → List Launch → Prop) : Prop :=
  ∀ s : Session, ∃ made : List Launch,
    (step.run s).2.launches.toList = s.launches.toList ++ made ∧
    made.map Launch.request <+: plan ∧
    ∀ a, (step.run s).1 = .ok a → made.map Launch.request = plan ∧ post a made

/-- The step launches nothing. -/
def Quiet (step : Step α) : Prop := ∀ s : Session, (step.run s).2.launches = s.launches

variable {x : Step α} {f : α → Step β} {plan plan₁ plan₂ : List Request}
  {post : α → List Launch → Prop} {goal : β → List Launch → Prop}

/-- What a plan says about the trace of a step. -/
lemma Follows.trace (h : Follows x plan post) (s : Session) :
    (x.run s).2.launches.toList = s.launches.toList ++ x.trace s ∧
    (x.trace s).map Launch.request <+: plan ∧
    ∀ a, (x.run s).1 = .ok a → (x.trace s).map Launch.request = plan ∧ post a (x.trace s) := by
  obtain ⟨made, hgrow, hplan⟩ := h s
  have hmade : x.trace s = made := by simp [Step.trace, hgrow]
  rw [hmade]
  exact ⟨hgrow, hplan⟩

/-! ### Plans of steps -/

lemma Follows.pure {a : α} (h : post a []) : Follows (pure a) [] post := by
  intro s
  refine ⟨[], by simp, List.prefix_rfl, ?_⟩
  rintro _ ⟨⟩
  exact ⟨rfl, h⟩

/-- The plan of a step and what comes after it. -/
lemma Follows.bind (hx : Follows x plan₁ post)
    (hf : ∀ a made, post a made → Follows (f a) plan₂ fun b more => goal b (made ++ more)) :
    Follows (x >>= f) (plan₁ ++ plan₂) goal := by
  intro s
  obtain ⟨made, hgrow, hpre, hok⟩ := hx s
  rw [run_bind]
  rcases hrun : x.run s with ⟨fault | a, t⟩ <;> simp only [hrun] at hgrow hok
  · exact ⟨made, hgrow, hpre.trans (List.prefix_append _ _), nofun⟩
  · obtain ⟨hmade, hpost⟩ := hok a rfl
    obtain ⟨more, hgrow', hpre', hok'⟩ := hf a made hpost t
    refine ⟨made ++ more, by rw [hgrow', hgrow, List.append_assoc], ?_, fun b hb => ?_⟩
    · rw [List.map_append, hmade]
      exact (List.prefix_append_right_inj _).mpr hpre'
    · rw [List.map_append, hmade, (hok' b hb).1]
      exact ⟨rfl, (hok' b hb).2⟩

/-- The plan of a launch and what comes after it. -/
lemma Follows.bind_cons {r : Request} (hx : Follows x [r] post)
    (hf : ∀ a made, post a made → Follows (f a) plan fun b more => goal b (made ++ more)) :
    Follows (x >>= f) (r :: plan) goal :=
  hx.bind hf

/-- What comes after the last launch does not change a plan. -/
lemma Follows.bind_last (hx : Follows x plan post)
    (hf : ∀ a made, post a made → Follows (f a) [] fun b more => goal b (made ++ more)) :
    Follows (x >>= f) plan goal := by
  rw [← List.append_nil plan]
  exact hx.bind hf

lemma Quiet.follows (h : Quiet x) : Follows x [] fun _ made => made = [] := by
  intro s
  exact ⟨[], by simp [h s], List.prefix_rfl, fun _ _ => ⟨rfl, rfl⟩⟩

/-- A quiet step in front does not change a plan. -/
lemma Follows.after_quiet (hx : Quiet x) (hf : ∀ a, Follows (f a) plan goal) :
    Follows (x >>= f) plan goal := by
  have h : Follows (x >>= f) ([] ++ plan) goal := by
    refine hx.follows.bind fun a made hmade => ?_
    subst hmade
    exact hf a
  exact h

/-- A quiet step that is taken only sometimes does not change a plan. -/
lemma Follows.after_optional {b : Prop} [Decidable b] {x : Step Unit} {f : Unit → Step β}
    (hx : Quiet x) (hf : Follows (f ()) plan goal) :
    Follows (if b then x >>= f else f ()) plan goal := by
  split
  · exact after_quiet hx fun _ => hf
  · exact hf

/-- A value that is known beforehand is passed on; a known fault launches nothing. -/
lemma Follows.after_ofExcept {e : Except Fault α}
    (hf : ∀ a, e = .ok a → Follows (f a) plan goal) : Follows (ofExcept e >>= f) plan goal := by
  intro s
  rw [run_bind, run_ofExcept]
  rcases e with fault | a
  · exact ⟨[], by simp, List.nil_prefix, nofun⟩
  · exact hf a rfl s

lemma follows_launch (launcher : Launcher) (phase : Phase) (command : Command) :
    Follows (launch launcher phase command) [⟨phase, command⟩] fun output made =>
      made = [⟨phase, command, .ok output⟩] := by
  intro s
  rw [run_launch]
  refine ⟨[⟨phase, command, (launcher.answer s.launches phase command s.store).outcome⟩],
    by simp, by simp [Launch.request], fun output houtput => ?_⟩
  dsimp only at houtput
  simp [Launch.request, houtput]

/-! ### Quiet steps -/

lemma quiet_pure (a : α) : Quiet (pure a) := fun _ => rfl

lemma quiet_error_bind (fault : Fault) (f : α → Step β) :
    Quiet (ofExcept (.error fault) >>= f) := by
  intro s
  rw [run_error_bind]

lemma quiet_printLines (lines : List String) : Quiet (printLines lines) := by
  intro s
  rw [run_printLines]

lemma quiet_tell (event : Event) : Quiet (tell event) := fun _ => rfl

lemma quiet_changeStore (change : Store → Except Fault Store) : Quiet (changeStore change) := by
  intro s
  rw [run_changeStore]
  cases change s.store <;> rfl

end Step

end TileBench
