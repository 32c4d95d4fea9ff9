import TileBench.Proofs.Session.Runs
import TileBench.Proofs.Text.Utf8

/-!
# Printed lines

What a step *says* is the list of the lines that it adds to those printed before. It may print some
lines and then end with a fault, so single lines are known whatever the step ends with, and all of
them together if it ends with a value.
-/

namespace TileBench

open Text

/-! ### Lines -/

/-- The text has no newline in it. -/
def IsLine (text : String) : Prop := '\n' ∉ text.toList

instance (text : String) : Decidable (IsLine text) := inferInstanceAs (Decidable (¬ _))

lemma isLine_append {s t : String} : IsLine (s ++ t) ↔ IsLine s ∧ IsLine t := by
  simp [IsLine, not_or]

lemma isLine_nat (n : Nat) : IsLine (toString n) := by
  intro hmem
  rw [show (toString n).toList = Nat.toDigits 10 n from Nat.toList_repr] at hmem
  cases Nat.isDigit_of_mem_toDigits (by decide) (by decide) hmem

lemma isLine_int (n : Int) : IsLine (toString n) := by
  cases n with
  | ofNat n => exact isLine_nat n
  | negSucc n => exact isLine_append.mpr ⟨by decide, isLine_nat (n + 1)⟩

/-- What reaches the terminal when lines are printed. -/
def printedText (lines : List String) : List Char :=
  lines.flatMap fun line => line.toList ++ ['\n']

/-- The terminal shows lines one by one. -/
lemma rows_printedText {lines : List String} (h : ∀ line ∈ lines, IsLine line) :
    rows '\n' (printedText lines) = (lines.map String.toList, []) := by
  rw [← rows_flatMap_newline (List.forall_mem_map.mpr h), List.flatMap_map]
  rfl

lemma mem_rows_printedText {lines : List String} (h : ∀ line ∈ lines, IsLine line) (text : String) :
    text.toList ∈ (rows '\n' (printedText lines)).1 ↔ text ∈ lines := by
  rw [rows_printedText h]
  simp [String.toList_inj]

namespace Step

variable {α β : Type}

def said (step : Step α) (s : Session) : List String :=
  (step.run s).2.printed.toList.drop s.printed.size

/-- The step prints allowed lines only. A value that it ends with and its lines satisfy `post`. -/
def Says (allowed : String → Prop) (step : Step α) (post : α → List String → Prop) : Prop :=
  ∀ s : Session, ∃ lines : List String,
    (step.run s).2.printed.toList = s.printed.toList ++ lines ∧
    (∀ line ∈ lines, allowed line) ∧
    ∀ a, (step.run s).1 = .ok a → post a lines

def Silent (step : Step α) : Prop := ∀ s : Session, (step.run s).2.printed = s.printed

variable {allowed permitted : String → Prop} {x : Step α} {f : α → Step β}
  {post : α → List String → Prop} {goal : β → List String → Prop}

lemma Says.said (h : Says allowed x post) (s : Session) :
    (x.run s).2.printed.toList = s.printed.toList ++ x.said s ∧
    (∀ line ∈ x.said s, allowed line) ∧
    ∀ a, (x.run s).1 = .ok a → post a (x.said s) := by
  obtain ⟨lines, hprinted, hlines⟩ := h s
  have hsaid : x.said s = lines := by simp [Step.said, hprinted]
  rw [hsaid]
  exact ⟨hprinted, hlines⟩

lemma Says.imp (h : Says allowed x post) (hallowed : ∀ line, allowed line → permitted line) :
    Says permitted x post := by
  intro s
  obtain ⟨lines, hprinted, hlines, hpost⟩ := h s
  exact ⟨lines, hprinted, fun line hline => hallowed line (hlines line hline), hpost⟩

/-! ### Putting steps together -/

lemma Says.pure {a : α} (h : post a []) : Says allowed (pure a) post := by
  intro s
  refine ⟨[], by simp, List.forall_mem_nil _, ?_⟩
  rintro _ ⟨⟩
  exact h

/-- What a step says and what comes after it. -/
lemma Says.bind (hx : Says allowed x post)
    (hf : ∀ a lines, post a lines → Says allowed (f a) fun b more => goal b (lines ++ more)) :
    Says allowed (x >>= f) goal := by
  intro s
  obtain ⟨lines, hprinted, hlines, hpost⟩ := hx s
  rw [run_bind]
  rcases hrun : x.run s with ⟨fault | a, t⟩ <;> rw [hrun] at hprinted hpost
  · exact ⟨lines, hprinted, hlines, nofun⟩
  · obtain ⟨more, hprinted', hmore, hgoal⟩ := hf a lines (hpost a rfl) t
    refine ⟨lines ++ more, ?_, List.forall_mem_append.mpr ⟨hlines, hmore⟩, hgoal⟩
    rw [hprinted', hprinted, List.append_assoc]

lemma Silent.says (h : Silent x) : Says allowed x fun _ lines => lines = [] := by
  intro s
  exact ⟨[], by simp [h s], List.forall_mem_nil _, fun _ _ => rfl⟩

lemma Silent.bind (hx : Silent x) (hf : ∀ a, Silent (f a)) : Silent (x >>= f) := by
  intro s
  have hhead := hx s
  rw [run_bind]
  rcases hrun : x.run s with ⟨fault | a, t⟩ <;> rw [hrun] at hhead
  · exact hhead
  · exact (hf a t).trans hhead

lemma Says.after_silent (hx : Silent x) (hf : ∀ a, Says allowed (f a) goal) :
    Says allowed (x >>= f) goal := by
  refine hx.says.bind fun a lines hlines => ?_
  subst hlines
  exact hf a

lemma Says.after_ofExcept {e : Except Fault α} (hf : ∀ a, e = .ok a → Says allowed (f a) goal) :
    Says allowed (ofExcept e >>= f) goal := by
  cases e with
  | error fault =>
    intro s
    rw [run_error_bind]
    exact ⟨[], by simp, List.forall_mem_nil _, nofun⟩
  | ok a => exact hf a rfl

/-- A silent step that is taken only sometimes. -/
lemma Says.after_optional {b : Prop} [Decidable b] {x : Step Unit} {f : Unit → Step β}
    (hx : Silent x) (hf : Says allowed (f ()) goal) :
    Says allowed (if b then x >>= f else f ()) goal := by
  split
  · exact after_silent hx fun _ => hf
  · exact hf

/-! ### Silent steps -/

lemma silent_pure (a : α) : Silent (pure a) := fun _ => rfl

lemma silent_tell (event : Event) : Silent (tell event) := fun _ => rfl

lemma silent_changeStore (change : Store → Except Fault Store) : Silent (changeStore change) := by
  intro s
  rw [run_changeStore]
  cases change s.store <;> rfl

lemma silent_launch (launcher : Launcher) (phase : Phase) (command : Command) :
    Silent (launch launcher phase command) := by
  intro s
  rw [run_launch]

end Step

end TileBench
