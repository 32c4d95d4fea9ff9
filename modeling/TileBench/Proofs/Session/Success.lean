import TileBench.Proofs.Session.Runs

/-!
# Success

A step *keeps* to some faults if it ends with a value or with one of them from every session that is
good, and leaves a good session behind with the value. It *succeeds* if it never ends with a fault
there. What is good is said of the files and the launches only, so steps that print or tell the log
something succeed always.
-/

namespace TileBench.Step

variable {α β : Type} {good : Store → Array Launch → Prop} {allowed : Fault → Prop} {x : Step α}
  {f : α → Step β}

/-- From every good session the step ends with a value, and leaves a good one, or it ends with a
fault that is allowed. -/
def Keeps (good : Store → Array Launch → Prop) (allowed : Fault → Prop) (step : Step α) : Prop :=
  ∀ s : Session, good s.store s.launches →
    (∃ a t, step.run s = (.ok a, t) ∧ good t.store t.launches) ∨
      ∃ fault t, step.run s = (.error fault, t) ∧ allowed fault

/-- The step ends with a value from every good session, and leaves a good one. -/
def Succeeds (good : Store → Array Launch → Prop) (step : Step α) : Prop :=
  ∀ s : Session, good s.store s.launches →
    ∃ a t, step.run s = (.ok a, t) ∧ good t.store t.launches

lemma succeeds_iff_keeps : Succeeds good x ↔ Keeps good (fun _ => False) x := by
  refine forall₂_congr fun s _ => ?_
  simp only [and_false, exists_false, or_false]

lemma Succeeds.keeps (h : Succeeds good x) : Keeps good allowed x := fun s hs => .inl (h s hs)

/-- A step that succeeds whatever is good leaves the files and the launches as they are. -/
lemma exists_run_of_idle (hx : ∀ good, Succeeds good x) (s : Session) :
    ∃ a t, x.run s = (.ok a, t) ∧ t.store = s.store ∧ t.launches = s.launches :=
  hx (fun store launches => store = s.store ∧ launches = s.launches) s ⟨rfl, rfl⟩

/-! ### Putting steps together -/

lemma keeps_pure (a : α) : Keeps good allowed (pure a) := fun s hs => .inl ⟨a, s, rfl, hs⟩

lemma Keeps.bind (hx : Keeps good allowed x) (hf : ∀ a, Keeps good allowed (f a)) :
    Keeps good allowed (x >>= f) := by
  intro s hs
  rw [run_bind]
  obtain ⟨a, t, hrun, ht⟩ | ⟨fault, t, hrun, hfault⟩ := hx s hs
  · rw [hrun]
    exact hf a t ht
  · rw [hrun]
    exact .inr ⟨fault, t, rfl, hfault⟩

/-- A step that is taken only sometimes. -/
lemma Keeps.after_optional {b : Prop} [Decidable b] {x : Step Unit} {f : Unit → Step β}
    (hx : Keeps good allowed x) (hf : Keeps good allowed (f ())) :
    Keeps good allowed (if b then x >>= f else f ()) := by
  split
  · exact hx.bind fun _ => hf
  · exact hf

/-- A value that is known beforehand is passed on. -/
lemma Keeps.after_ofExcept {e : Except Fault α} {a : α} (he : e = .ok a)
    (hf : Keeps good allowed (f a)) : Keeps good allowed (ofExcept e >>= f) := by
  subst he
  intro s hs
  rw [run_bind, run_ofExcept]
  exact hf s hs

/-! ### Single steps -/

lemma succeeds_pure (a : α) : Succeeds good (pure a) := fun s hs => ⟨a, s, rfl, hs⟩

lemma succeeds_printLines (lines : List String) : Succeeds good (printLines lines) :=
  fun s hs => ⟨(), _, run_printLines lines s, hs⟩

lemma succeeds_tell (event : Event) : Succeeds good (tell event) :=
  fun s hs => ⟨(), _, run_tell event s, hs⟩

lemma keeps_changeStore {change : Store → Except Fault Store}
    (hok : ∀ store launches changed, good store launches → change store = .ok changed →
      good changed launches)
    (herror : ∀ store launches fault, good store launches → change store = .error fault →
      allowed fault) :
    Keeps good allowed (changeStore change) := by
  intro s hs
  rw [run_changeStore]
  cases hchange : change s.store with
  | ok changed => exact .inl ⟨(), _, rfl, hok _ _ changed hs hchange⟩
  | error fault => exact .inr ⟨fault, s, rfl, herror _ _ fault hs hchange⟩

lemma keeps_launch {launcher : Launcher} {phase : Phase} {command : Command}
    (hok : ∀ store launches output, good store launches →
      (launcher.answer launches phase command store).outcome = .ok output →
      good (launcher.answer launches phase command store).store
        (launches.push ⟨phase, command, .ok output⟩))
    (herror : ∀ store launches fault, good store launches →
      (launcher.answer launches phase command store).outcome = .error fault → allowed fault) :
    Keeps good allowed (launch launcher phase command) := by
  intro s hs
  rw [run_launch]
  dsimp only
  cases houtcome : (launcher.answer s.launches phase command s.store).outcome with
  | ok output => exact .inl ⟨output, _, rfl, hok _ _ output hs houtcome⟩
  | error fault => exact .inr ⟨fault, _, rfl, herror _ _ fault hs houtcome⟩

end TileBench.Step
