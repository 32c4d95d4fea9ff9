import TileBench.Proofs.Session.Trace

/-!
# Steps that mirror each other

A run is *calm* if every launch that it makes is answered and no file gives it trouble. Two steps
*mirror* each other if their calm runs, whatever they start from and whatever the answers are, ask
the launcher for the same requests and end alike: both with a value, or both with the same fault.
-/

namespace TileBench

variable {α β : Type}

/-- The result is no fault of a file. -/
def Undisturbed (result : Except Fault α) : Prop :=
  ∀ path cause, result ≠ .error (.file path cause)

/-- Both results are values, which are related, or both are the same fault. -/
inductive SameEnding (R : α → α → Prop) : Except Fault α → Except Fault α → Prop
  | ok {a b : α} : R a b → SameEnding R (.ok a) (.ok b)
  | error (fault : Fault) : SameEnding R (.error fault) (.error fault)

lemma SameEnding.imp {R S : α → α → Prop} {x y : Except Fault α} (h : SameEnding R x y)
    (hRS : ∀ a b, x = .ok a → y = .ok b → R a b → S a b) : SameEnding S x y := by
  cases h with
  | ok hab => exact .ok (hRS _ _ rfl rfl hab)
  | error fault => exact .error fault

namespace Step

variable {x y : Step α} {f g : α → Step β} {s t : Session}

/-! ### Growing -/

/-- The step keeps the launches that were made before. -/
def Grows (x : Step α) : Prop :=
  ∀ s : Session, (x.run s).2.launches.toList = s.launches.toList ++ x.trace s

lemma Follows.grows {plan : List Request} {post : α → List Launch → Prop}
    (h : Follows x plan post) : Grows x := fun s => (h.trace s).1

lemma Quiet.trace_eq (h : Quiet x) (s : Session) : x.trace s = [] := by
  simp [Step.trace, h s]

lemma Quiet.grows (h : Quiet x) : Grows x := h.follows.grows

lemma trace_bind_of_ok {a : α} (hx : Grows x) (hf : ∀ a, Grows (f a)) (hrun : x.run s = (.ok a, t)) :
    (x >>= f).trace s = x.trace s ++ (f a).trace t := by
  have hgrow := hx s
  rw [hrun] at hgrow
  have hbind : (x >>= f).run s = (f a).run t := by rw [run_bind, hrun]
  have happend : ((x >>= f).run s).2.launches.toList =
      s.launches.toList ++ (x.trace s ++ (f a).trace t) := by
    rw [hbind, hf a t, hgrow, List.append_assoc]
  rw [Step.trace, happend]
  simp

lemma trace_bind_of_error {fault : Fault} (hrun : x.run s = (.error fault, t)) :
    (x >>= f).trace s = x.trace s := by
  simp only [Step.trace, run_bind, hrun]

lemma Grows.bind (hx : Grows x) (hf : ∀ a, Grows (f a)) : Grows (x >>= f) := by
  intro s
  rcases hrun : x.run s with ⟨fault | a, t⟩
  · rw [trace_bind_of_error hrun, ← hx s, run_bind, hrun]
  · rw [trace_bind_of_ok hx hf hrun, ← List.append_assoc, ← hx s, run_bind, hrun]
    exact hf a t

/-! ### Calm runs -/

/-- Every launch of the run is answered, and no file gives trouble. -/
structure Calm (x : Step α) (s : Session) : Prop where
  answered : ∀ l ∈ x.trace s, ∃ output, l.outcome = .ok output
  undisturbed : Undisturbed (x.run s).1

lemma Calm.of_bind (hx : Grows x) (hf : ∀ a, Grows (f a)) (h : Calm (x >>= f) s) :
    Calm x s ∧ ∀ a t, x.run s = (.ok a, t) → Calm (f a) t := by
  obtain ⟨hanswered, hundisturbed⟩ := h
  rcases hrun : x.run s with ⟨fault | a, t⟩
  · rw [trace_bind_of_error hrun] at hanswered
    rw [run_bind, hrun] at hundisturbed
    refine ⟨⟨hanswered, ?_⟩, by simp⟩
    rw [hrun]
    rintro path cause ⟨⟩
    exact hundisturbed path cause rfl
  · rw [trace_bind_of_ok hx hf hrun] at hanswered
    rw [run_bind, hrun] at hundisturbed
    refine ⟨⟨fun l hl => hanswered l (List.mem_append_left _ hl), ?_⟩, ?_⟩
    · rw [hrun]
      nofun
    · rintro _ _ ⟨⟩
      exact ⟨fun l hl => hanswered l (List.mem_append_right _ hl), hundisturbed⟩

/-! ### Mirrors -/

/-- The steps make the same requests and end alike, as long as they run calmly. -/
structure Mirrors (x y : Step α) : Prop where
  grows_left : Grows x
  grows_right : Grows y
  alike : ∀ s t : Session, Calm x s → Calm y t →
    (x.trace s).map Launch.request = (y.trace t).map Launch.request ∧
    SameEnding (fun _ _ => True) (x.run s).1 (y.run t).1

/-- What comes after must mirror each other whatever the values are. -/
lemma Mirrors.bind (hxy : Mirrors x y) (hfg : ∀ a b, Mirrors (f a) (g b)) :
    Mirrors (x >>= f) (y >>= g) := by
  have hf : ∀ a, Grows (f a) := fun a => (hfg a a).grows_left
  have hg : ∀ b, Grows (g b) := fun b => (hfg b b).grows_right
  refine ⟨hxy.grows_left.bind hf, hxy.grows_right.bind hg, fun s t hcalm hcalm' => ?_⟩
  obtain ⟨hx, hcalm⟩ := hcalm.of_bind hxy.grows_left hf
  obtain ⟨hy, hcalm'⟩ := hcalm'.of_bind hxy.grows_right hg
  obtain ⟨hrequests, hending⟩ := hxy.alike s t hx hy
  rcases hrun : x.run s with ⟨fault | a, s'⟩ <;> rcases hrun' : y.run t with ⟨fault' | b, t'⟩ <;>
    rw [hrun, hrun'] at hending <;> cases hending
  · rw [trace_bind_of_error hrun, trace_bind_of_error hrun', run_bind, run_bind, hrun, hrun']
    exact ⟨hrequests, .error _⟩
  · obtain ⟨hmore, hlast⟩ := (hfg a b).alike s' t' (hcalm a s' hrun) (hcalm' b t' hrun')
    rw [trace_bind_of_ok hxy.grows_left hf hrun, trace_bind_of_ok hxy.grows_right hg hrun',
      List.map_append, List.map_append, hrequests, hmore, run_bind, run_bind, hrun, hrun']
    exact ⟨rfl, hlast⟩

/-- A value or a fault that is known beforehand is the same on both sides. -/
lemma Mirrors.after_ofExcept {e : Except Fault α} (h : ∀ a, e = .ok a → Mirrors (f a) (g a)) :
    Mirrors (ofExcept e >>= f) (ofExcept e >>= g) := by
  rcases e with fault | a
  · have hx := quiet_error_bind fault f
    have hy := quiet_error_bind fault g
    refine ⟨hx.grows, hy.grows, fun s t _ _ => ?_⟩
    rw [hx.trace_eq, hy.trace_eq, run_error_bind, run_error_bind]
    exact ⟨rfl, .error fault⟩
  · exact h a rfl

lemma trace_launch (launcher : Launcher) (phase : Phase) (command : Command) (s : Session) :
    (launch launcher phase command).trace s =
      [⟨phase, command, (launcher.answer s.launches phase command s.store).outcome⟩] := by
  simp [Step.trace, run_launch]

/-- Launches of one command mirror each other, whatever the launchers do. -/
lemma mirrors_launch (launcher launcher' : Launcher) (phase : Phase) (command : Command) :
    Mirrors (launch launcher phase command) (launch launcher' phase command) := by
  refine ⟨(follows_launch launcher phase command).grows,
    (follows_launch launcher' phase command).grows, fun s t hcalm hcalm' => ?_⟩
  obtain ⟨hanswered, -⟩ := hcalm
  obtain ⟨hanswered', -⟩ := hcalm'
  rw [trace_launch, List.forall_mem_singleton] at hanswered hanswered'
  obtain ⟨output, houtput⟩ := hanswered
  obtain ⟨output', houtput'⟩ := hanswered'
  rw [trace_launch, trace_launch, run_launch, run_launch]
  refine ⟨rfl, ?_⟩
  dsimp only at houtput houtput' ⊢
  rw [houtput, houtput']
  exact .ok trivial

/-! ### Steps aside -/

/-- The step launches nothing, and only a file can stop it. -/
structure Aside (x : Step α) : Prop where
  quiet : Quiet x
  stopped : ∀ s fault, (x.run s).1 = .error fault → ∃ path cause, fault = .file path cause

lemma aside_pure (a : α) : Aside (pure a) := ⟨quiet_pure a, nofun⟩

lemma aside_printLines (lines : List String) : Aside (printLines lines) :=
  ⟨quiet_printLines lines, fun s fault h => by simp at h⟩

lemma aside_tell (event : Event) : Aside (tell event) := ⟨quiet_tell event, nofun⟩

lemma aside_changeStore {change : Store → Except Fault Store}
    (h : ∀ store fault, change store = .error fault → ∃ path cause, fault = .file path cause) :
    Aside (changeStore change) := by
  refine ⟨quiet_changeStore change, fun s fault hfault => ?_⟩
  rw [run_changeStore] at hfault
  cases hchange : change s.store with
  | ok store => rw [hchange] at hfault; cases hfault
  | error fault => rw [hchange] at hfault; cases hfault; exact h _ _ hchange

/-- A calm step aside ends with a value. -/
lemma Aside.exists_ok (hx : Aside x) (hcalm : Calm x s) : ∃ a, (x.run s).1 = .ok a := by
  cases hrun : (x.run s).1 with
  | ok a => exact ⟨a, rfl⟩
  | error fault =>
    obtain ⟨path, cause, rfl⟩ := hx.stopped s fault hrun
    exact absurd hrun (hcalm.undisturbed path cause)

lemma Aside.mirrors (hx : Aside x) (hy : Aside y) : Mirrors x y := by
  refine ⟨hx.quiet.grows, hy.quiet.grows, fun s t hcalm hcalm' => ?_⟩
  obtain ⟨a, ha⟩ := hx.exists_ok hcalm
  obtain ⟨b, hb⟩ := hy.exists_ok hcalm'
  rw [hx.quiet.trace_eq, hy.quiet.trace_eq, ha, hb]
  exact ⟨rfl, .ok trivial⟩

end Step

end TileBench
