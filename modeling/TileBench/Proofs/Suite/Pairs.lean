import TileBench.Proofs.Suite.Calls

/-!
# Pairs of harnesses

Two harnesses with one configuration do the same things in the same order. A relation between steps
that is kept when steps are put together, and that holds of the single steps of the two harnesses,
holds of all that they run. With one harness on both sides this is a way to show a property of every
step of a harness.

The values that come back on the two sides are related too, by a relation that every function keeps:
they may be any two values, or have to be equal.
-/

namespace TileBench.Harness


variable {R : ∀ {α : Type}, α → α → Prop} {P : ∀ {α : Type}, Step α → Step α → Prop}
  {h h' : Harness}

/-- The relation holds of the single steps of the harnesses, and of what comes after a value that is
known beforehand. A line may be printed on one side only. -/
structure Stepwise (P : ∀ {α : Type}, Step α → Step α → Prop) (h h' : Harness) : Prop where
  config : h'.config = h.config
  launcherArgs : h'.launcherArgs = h.launcherArgs
  after_ofExcept : ∀ {α β : Type} {e : Except Fault α} {f g : α → Step β},
    (∀ a, e = .ok a → P (f a) (g a)) → P (Step.ofExcept e >>= f) (Step.ofExcept e >>= g)
  say : ∀ (p q : Prop) [Decidable p] [Decidable q] (lines lines' : List String),
    P (if p then h.say lines else Pure.pure ()) (if q then h'.say lines' else Pure.pure ())
  tell : ∀ event : Event, P (Step.tell event) (Step.tell event)
  writeVars : ∀ c : Case, P (h.writeVars c) (h'.writeVars c)
  write : ∀ command : Command,
    P (h.perform .write command judgeWrite) (h'.perform .write command judgeWrite)
  read : ∀ command : Command,
    P (h.perform .read command fun _ => Pure.pure ())
      (h'.perform .read command fun _ => Pure.pure ())

/-- The relation is kept when steps are put together, where the values of the first steps are
related. -/
structure Linked (R : ∀ {α : Type}, α → α → Prop) (P : ∀ {α : Type}, Step α → Step α → Prop)
    (h h' : Harness) : Prop extends Stepwise P h h' where
  refl : ∀ {α : Type} (a : α), R a a
  map₂ : ∀ {α β γ : Type} (f : α → β → γ) {a a' : α} {b b' : β},
    R a a' → R b b' → R (f a b) (f a' b')
  pure : ∀ {α : Type} {a b : α}, R a b → P (pure a) (pure b)
  bind : ∀ {α β : Type} {x y : Step α} {f g : α → Step β},
    P x y → (∀ a b, R a b → P (f a) (g b)) → P (x >>= f) (y >>= g)

namespace Linked

/-- A step that is taken only sometimes is taken, or nothing is, before what comes after. -/
private lemma ite_bind {β : Type} (p : Prop) [Decidable p] (x : Step Unit) (f : Unit → Step β) :
    (if p then x >>= f else f ()) = (if p then x else Pure.pure ()) >>= f := by
  split <;> rfl

variable (hlinked : Linked R P h h') (c : Case) (expected : UInt64)

include hlinked

lemma map {α β : Type} (f : α → β) {a a' : α} (ha : R a a') : R (f a) (f a') :=
  hlinked.map₂ (fun a (_ : Unit) => f a) ha (hlinked.refl ())

lemma say_always (lines lines' : List String) : P (h.say lines) (h'.say lines') := by
  simpa using hlinked.say True True lines lines'

/-- A line may be printed before what comes after. -/
lemma after_say {β : Type} {p q : Prop} [Decidable p] [Decidable q] {lines lines' : List String}
    {f g : Unit → Step β} (hfg : P (f ()) (g ())) :
    P (if p then h.say lines >>= f else f ()) (if q then h'.say lines' >>= g else g ()) := by
  rw [ite_bind, ite_bind]
  exact hlinked.bind (hlinked.say p q lines lines') fun _ _ _ => hfg

/-- The log may be told something, on both sides alike. -/
lemma after_tell {β : Type} {p : Prop} [Decidable p] {event : Event} {f g : Unit → Step β}
    (hfg : P (f ()) (g ())) :
    P (if p then Step.tell event >>= f else f ()) (if p then Step.tell event >>= g else g ()) := by
  split
  · exact hlinked.bind (hlinked.tell event) fun _ _ _ => hfg
  · exact hfg

lemma readBack (readBlock : Extent) (k : Nat) :
    P (h.readBack c expected readBlock k) (h'.readBack c expected readBlock k) := by
  unfold Harness.readBack
  rw [hlinked.config, hlinked.launcherArgs]
  refine hlinked.bind (hlinked.read _) fun output output' houtput => ?_
  exact hlinked.after_say (hlinked.pure (hlinked.map
    (fun output => (⟨_, _, _, verdictOf expected output⟩ : ReadOutcome)) houtput))

lemma readsFrom (readBlock : Extent) (n k : Nat) :
    P (h.readsFrom c expected readBlock n k) (h'.readsFrom c expected readBlock n k) := by
  induction n generalizing k with
  | zero => exact hlinked.pure (hlinked.refl _)
  | succ n ih =>
    unfold Harness.readsFrom
    refine hlinked.bind (hlinked.readBack c expected readBlock k) fun r r' hr => ?_
    exact hlinked.bind (ih (k + 1)) fun reads reads' hreads =>
      hlinked.pure (hlinked.map₂ List.cons hr hreads)

lemma runGrid (grid readBlock : Extent) :
    P (h.runGrid c expected grid readBlock) (h'.runGrid c expected grid readBlock) := by
  unfold Harness.runGrid
  rw [hlinked.config, hlinked.launcherArgs]
  refine hlinked.after_tell ?_
  refine hlinked.bind (hlinked.writeVars c) fun _ _ _ => ?_
  refine hlinked.bind (hlinked.write _) fun output output' houtput => ?_
  exact hlinked.bind (hlinked.readsFrom c expected readBlock _ 0) fun reads reads' hreads =>
    hlinked.pure (hlinked.map₂
      (fun output reads => (⟨_, _, _, output.exitCode, reads⟩ : GridRun)) houtput hreads)

lemma runGrids (grids : List Extent) :
    P (h.runGrids c expected grids) (h'.runGrids c expected grids) := by
  induction grids with
  | nil => exact hlinked.pure (hlinked.refl _)
  | cons grid rest ih =>
    unfold Harness.runGrids
    cases c.readBlock grid with
    | error invalid =>
      exact hlinked.bind (hlinked.say_always _ _) fun _ _ _ => hlinked.pure (hlinked.refl _)
    | ok readBlock =>
      refine hlinked.bind (hlinked.runGrid c expected grid readBlock) fun first first' hfirst => ?_
      exact hlinked.bind ih fun result result' hresult => hlinked.pure (hlinked.map₂
        (fun first result => (result.1, first :: result.2)) hfirst hresult)

lemma runCase : P (h.runCase c) (h'.runCase c) := by
  unfold Harness.runCase
  rw [hlinked.config]
  refine hlinked.after_ofExcept fun grids _ => ?_
  refine hlinked.after_ofExcept fun expected _ => ?_
  refine hlinked.bind (hlinked.runGrids c expected grids) fun result result' hresult => ?_
  exact hlinked.after_say (hlinked.pure (hlinked.map
    (fun result => (⟨c, result.1, result.2⟩ : CaseOutcome)) hresult))

lemma runCases (cases : List (Except Fault Case)) : P (h.runCases cases) (h'.runCases cases) := by
  induction cases with
  | nil => exact hlinked.pure (hlinked.refl _)
  | cons made rest ih =>
    unfold Harness.runCases
    refine hlinked.after_ofExcept fun c _ => ?_
    refine hlinked.bind (hlinked.say_always _ _) fun _ _ _ => ?_
    refine hlinked.bind (hlinked.runCase c) fun outcome outcome' houtcome => ?_
    exact hlinked.bind ih fun outcomes outcomes' houtcomes =>
      hlinked.pure (hlinked.map₂ List.cons houtcome houtcomes)

lemma runSuite (p : SuitePlan) (kind : SuiteKind) : P (h.runSuite p kind) (h'.runSuite p kind) := by
  cases kind with
  | blockGrids =>
    unfold Harness.runSuite Harness.runBlockGrids
    rw [hlinked.config]
    refine hlinked.bind (hlinked.say_always _ _) fun _ _ _ => ?_
    refine hlinked.after_ofExcept fun grids _ => ?_
    refine hlinked.bind (hlinked.runCases _) fun outcomes outcomes' houtcomes => ?_
    exact hlinked.after_say (hlinked.pure (hlinked.map (SuiteOutcome.mk _ _) houtcomes))
  | fixedBox =>
    unfold Harness.runSuite Harness.runFixedBox
    rw [hlinked.config]
    refine hlinked.bind (hlinked.say_always _ _) fun _ _ _ => ?_
    refine hlinked.after_ofExcept fun grid _ => ?_
    refine hlinked.after_ofExcept fun cases _ => ?_
    refine hlinked.bind (hlinked.runCases _) fun outcomes outcomes' houtcomes => ?_
    exact hlinked.after_say (hlinked.pure (hlinked.map (SuiteOutcome.mk _ _) houtcomes))

lemma runSeries (series : List (SuiteKind × SuitePlan)) :
    P (h.runSeries series) (h'.runSeries series) := by
  induction series with
  | nil => exact hlinked.pure (hlinked.refl _)
  | cons entry rest ih =>
    obtain ⟨kind, p⟩ := entry
    unfold Harness.runSeries
    refine hlinked.bind (hlinked.runSuite p kind) fun suite suite' hsuite => ?_
    exact hlinked.bind ih fun suites suites' hsuites =>
      hlinked.pure (hlinked.map₂ List.cons hsuite hsuites)

lemma runCall (call : Call) : P (h.runCall call) (h'.runCall call) := by
  cases call with
  | case c =>
    unfold Harness.runCall
    exact hlinked.bind (hlinked.runCase c) fun _ _ houtcome =>
      hlinked.pure (hlinked.map CallOutcome.case houtcome)
  | suite kind p =>
    unfold Harness.runCall
    exact hlinked.bind (hlinked.runSuite p kind) fun _ _ hsuite =>
      hlinked.pure (hlinked.map CallOutcome.suite hsuite)

end Linked

/-- The relation is kept when steps are put together, and a value that comes back may differ. -/
structure Paired (P : ∀ {α : Type}, Step α → Step α → Prop) (h h' : Harness) : Prop
    extends Stepwise P h h' where
  pure : ∀ {α : Type} (a b : α), P (pure a) (pure b)
  bind : ∀ {α β : Type} {x y : Step α} {f g : α → Step β},
    P x y → (∀ a b, P (f a) (g b)) → P (x >>= f) (y >>= g)

/-- Pairs are linked, whatever their values are. -/
lemma Paired.linked (hpaired : Paired P h h') : Linked (fun _ _ => True) P h h' where
  toStepwise := hpaired.toStepwise
  refl _ := trivial
  map₂ _ _ _ _ _ _ _ := trivial
  pure _ := hpaired.pure _ _
  bind hxy hfg := hpaired.bind hxy fun a b => hfg a b trivial

lemma Paired.runCall (hpaired : Paired P h h') (call : Call) :
    P (h.runCall call) (h'.runCall call) :=
  hpaired.linked.runCall call

lemma Paired.runSeries (hpaired : Paired P h h') (series : List (SuiteKind × SuitePlan)) :
    P (h.runSeries series) (h'.runSeries series) :=
  hpaired.linked.runSeries series

end TileBench.Harness
