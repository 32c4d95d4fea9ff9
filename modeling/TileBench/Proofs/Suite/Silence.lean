import TileBench.Proofs.Session.Printing
import TileBench.Proofs.Suite.Pairs

/-!
# Silent harnesses

A harness that prints no results does everything else as one that prints them: no step looks at what
was printed before, so its calls end alike, with the same launches, events and files.
-/

namespace TileBench

/-- The sessions differ at most in what was printed. -/
structure Session.Alike (s t : Session) : Prop where
  store : s.store = t.store
  events : s.events = t.events
  launches : s.launches = t.launches

namespace Step

variable {α β : Type}

/-- The first step prints nothing, and apart from that it does what the second one does. -/
structure Hushes (x y : Step α) : Prop where
  silent : Silent x
  result_eq : ∀ s t : Session, s.Alike t → (x.run s).1 = (y.run t).1
  alike : ∀ s t : Session, s.Alike t → (x.run s).2.Alike (y.run t).2

variable {x y : Step α} {f g : α → Step β}

/-! ### Putting steps together -/

lemma hushes_pure (a : α) : Hushes (pure a) (pure a) where
  silent _ := rfl
  result_eq _ _ _ := rfl
  alike _ _ h := h

lemma Hushes.bind (hxy : Hushes x y) (hfg : ∀ a, Hushes (f a) (g a)) :
    Hushes (x >>= f) (y >>= g) := by
  constructor
  · exact hxy.silent.bind fun a => (hfg a).silent
  all_goals
    intro s t hst
    have hresult := hxy.result_eq s t hst
    have halike := hxy.alike s t hst
    rw [run_bind, run_bind]
    rcases hrun : x.run s with ⟨fault | a, s'⟩ <;> rcases hrun' : y.run t with ⟨fault' | b, t'⟩ <;>
      rw [hrun, hrun'] at hresult halike <;> cases hresult
  · rfl
  · exact (hfg a).result_eq s' t' halike
  · exact halike
  · exact (hfg a).alike s' t' halike

lemma Hushes.after_ofExcept {e : Except Fault α} (h : ∀ a, e = .ok a → Hushes (f a) (g a)) :
    Hushes (ofExcept e >>= f) (ofExcept e >>= g) := by
  cases e with
  | ok a => exact h a rfl
  | error fault =>
    constructor
    · intro s
      rw [run_error_bind]
    · intro s t _
      rw [run_error_bind, run_error_bind]
    · intro s t hst
      rw [run_error_bind, run_error_bind]
      exact hst

/-! ### Single steps -/

lemma hushes_tell (event : Event) : Hushes (tell event) (tell event) where
  silent _ := rfl
  result_eq _ _ _ := rfl
  alike s t h := ⟨h.store, by simp [h.events], h.launches⟩

lemma hushes_changeStore (change : Store → Except Fault Store) :
    Hushes (changeStore change) (changeStore change) := by
  constructor
  · exact silent_changeStore change
  · intro s t hst
    rw [run_changeStore, run_changeStore, hst.store]
    cases change t.store <;> rfl
  · intro s t hst
    rw [run_changeStore, run_changeStore, hst.store]
    cases change t.store with
    | error fault => exact hst
    | ok store => exact ⟨rfl, hst.events, hst.launches⟩

lemma hushes_launch (launcher : Launcher) (phase : Phase) (command : Command) :
    Hushes (launch launcher phase command) (launch launcher phase command) := by
  constructor
  · exact silent_launch launcher phase command
  all_goals
    intro s t hst
    rw [run_launch, run_launch, hst.store, hst.launches]
  exact ⟨rfl, by simp [hst.events], rfl⟩

end Step

namespace Harness

open Step

variable {h h' : Harness}

lemma hushes_say (hsilent : h.printsText = false) (p q : Prop) [Decidable p] [Decidable q]
    (lines lines' : List String) :
    Hushes (if p then h.say lines else pure ()) (if q then h'.say lines' else pure ()) := by
  have hleft : ∀ s, (if p then h.say lines else pure () : Step Unit).run s = (.ok (), s) := by
    intro s
    split
    · simp [run_say, hsilent]
    · rfl
  have hright : ∀ t, ∃ printed,
      (if q then h'.say lines' else pure () : Step Unit).run t = (.ok (), { t with printed }) := by
    intro t
    split
    · exact ⟨_, h'.run_say lines' t⟩
    · exact ⟨t.printed, rfl⟩
  constructor
  · intro s
    rw [hleft]
  all_goals
    intro s t hst
    obtain ⟨printed, hrun⟩ := hright t
    rw [hleft, hrun]
  exact ⟨hst.store, hst.events, hst.launches⟩

lemma perform_hushes (hlauncher : h'.launcher = h.launcher) (hprofile : h'.profile = h.profile)
    (phase : Phase) (command : Command) {judge : Output → Step Unit}
    (hjudge : ∀ output, Hushes (judge output) (judge output)) :
    Hushes (h.perform phase command judge) (h'.perform phase command judge) := by
  have hcapture : ∀ output, Hushes (h.capture phase output) (h'.capture phase output) := by
    intro output
    unfold capture
    rw [hprofile]
    cases h.profile with
    | none => exact hushes_pure ()
    | some profile => exact hushes_changeStore _
  unfold perform
  rw [hlauncher]
  refine (hushes_tell _).bind fun _ => ?_
  refine (hushes_launch ..).bind fun output => ?_
  refine (hjudge output).bind fun _ => ?_
  exact (hcapture output).bind fun _ => hushes_pure output

lemma judgeWrite_hushes (output : Output) : Hushes (judgeWrite output) (judgeWrite output) := by
  unfold judgeWrite
  split
  · exact hushes_tell _
  · exact hushes_pure ()

/-- A harness that prints nothing is linked with one that differs from it in that at most. -/
lemma linked_hushes (h : Harness) (printsText : Bool) :
    Linked Eq (fun x y => Hushes x y) { h with printsText := false } { h with printsText } where
  config := rfl
  launcherArgs := rfl
  refl _ := rfl
  map₂ f _ _ _ _ hab hab' := congrArg₂ f hab hab'
  pure hab := hab ▸ hushes_pure _
  bind hxy hfg := hxy.bind fun a => hfg a a rfl
  after_ofExcept := Hushes.after_ofExcept
  say := hushes_say rfl
  tell := hushes_tell
  writeVars _ := hushes_changeStore _
  write command := perform_hushes rfl rfl .write command judgeWrite_hushes
  read command := perform_hushes rfl rfl .read command fun _ => hushes_pure ()

lemma runCalls_hushed (calls : List Call) {s t : Session} (hst : s.Alike t) (printsText : Bool) :
    let silent := ({ h with printsText := false } : Harness).runCalls calls s
    let other := ({ h with printsText } : Harness).runCalls calls t
    silent.1 = other.1 ∧ silent.2.Alike other.2 ∧ silent.2.printed = s.printed := by
  induction calls generalizing s t with
  | nil => exact ⟨rfl, hst, rfl⟩
  | cons call rest ih =>
    have hcall := (h.linked_hushes printsText).runCall call
    obtain ⟨hresults, halike, hprinted⟩ := ih (hcall.alike s t hst)
    simp only [runCalls]
    exact ⟨congrArg₂ _ (hcall.result_eq s t hst) hresults, halike,
      hprinted.trans (hcall.silent s)⟩

/-- Whether results are printed changes nothing else. Calls of a harness that prints nothing come to
the same results as those of one that prints them, with the same launches, the same events and the
same files, and they leave what was printed as it was. -/
theorem silence_changes_only_printed_lines (h : Harness) (calls : List Call) (s : Session) :
    let silent := ({ h with printsText := false } : Harness).runCalls calls s
    let loud := ({ h with printsText := true } : Harness).runCalls calls s
    silent.1 = loud.1 ∧ silent.2.launches = loud.2.launches ∧ silent.2.events = loud.2.events ∧
      silent.2.store = loud.2.store ∧ silent.2.printed = s.printed := by
  obtain ⟨hresults, halike, hprinted⟩ :=
    runCalls_hushed (h := h) calls (⟨rfl, rfl, rfl⟩ : s.Alike s) true
  exact ⟨hresults, halike.launches, halike.events, halike.store, hprinted⟩

end Harness

end TileBench
