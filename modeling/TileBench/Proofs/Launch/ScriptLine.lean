import TileBench.Launch.Command
import TileBench.Proofs.Text.Words
import Mathlib.Data.List.Basic
import Mathlib.Tactic.Lemma
import Mathlib.Tactic.SplitIfs

/-!
# Commands on a line

A recorded command is one line of a script, in which nothing is quoted. Its words, which are cut at
the blanks alone, are the launcher and the arguments again exactly if none of the texts that the
command is made of is empty or has a blank in it.
-/

namespace TileBench

/-! ### Words of a line -/

/-- Does the character separate words of a line? -/
def isLineBlank (c : Char) : Bool := c == ' ' || c == '\t' || c == '\n'

/-- The words of a line: its longest stretches without a blank. -/
def lineWords (line : String) : List String :=
  ((line.toList.splitOnP isLineBlank).filter fun word => !word.isEmpty).map String.ofList

/-- The text can stand in a line as one word. -/
def IsLineWord (text : String) : Prop := text ≠ "" ∧ ∀ c ∈ text.toList, isLineBlank c = false

lemma lineWords_append_blank (front back : String) (c : Char) (hblank : isLineBlank c = true) :
    lineWords (front ++ String.singleton c ++ back) = lineWords front ++ lineWords back := by
  have hline : (front ++ String.singleton c ++ back).toList = front.toList ++ c :: back.toList := by
    simp
  rw [lineWords, hline, List.splitOnP_append_cons _ _ hblank, List.filter_append, List.map_append]
  rfl

lemma lineWords_append_newline (line : String) : lineWords (line ++ "\n") = lineWords line := by
  have h := lineWords_append_blank line "" '\n' (by decide)
  have hempty : lineWords "" = [] := by simp [lineWords]
  rw [hempty, List.append_nil, String.append_empty] at h
  exact h

/-- The words of texts with single blanks between them are the words of each text in turn. -/
lemma lineWords_intercalate (texts : List String) :
    lineWords (" ".intercalate texts) = texts.flatMap lineWords := by
  induction texts with
  | nil => simp [lineWords]
  | cons text rest ih =>
    cases rest with
    | nil => simp
    | cons next rest =>
      rw [String.intercalate_cons_cons, List.flatMap_cons, ← ih]
      exact lineWords_append_blank text _ ' ' (by decide)

lemma IsLineWord.lineWords_eq {text : String} (h : IsLineWord text) :
    lineWords text = [text] := by
  have hne : text.toList ≠ [] := by simpa using h.1
  simp [lineWords, List.splitOnP_eq_singleton h.2, hne]

/-- What a line is cut to are words. -/
lemma isLineWord_of_mem {line text : String} (h : text ∈ lineWords line) : IsLineWord text := by
  obtain ⟨word, hword, rfl⟩ := List.mem_map.mp h
  obtain ⟨hpiece, hne⟩ := List.mem_filter.mp hword
  refine ⟨by simpa using hne, ?_⟩
  rw [String.toList_ofList]
  exact Text.forall_mem_of_mem_splitOnP hpiece

/-- Texts are the words of their line exactly if each of them is a word. -/
lemma flatMap_lineWords_eq_iff (texts : List String) :
    texts.flatMap lineWords = texts ↔ ∀ text ∈ texts, IsLineWord text := by
  constructor
  · intro h text htext
    rw [← h] at htext
    obtain ⟨line, -, hmem⟩ := List.mem_flatMap.mp htext
    exact isLineWord_of_mem hmem
  · intro h
    induction texts with
    | nil => rfl
    | cons text rest ih =>
      obtain ⟨hhead, hrest⟩ := List.forall_mem_cons.mp h
      rw [List.flatMap_cons, hhead.lineWords_eq, ih hrest]
      rfl

lemma isLineWord_of_isWord {text : String} (h : Text.IsWord text.toList) : IsLineWord text := by
  refine ⟨?_, fun c hc => ?_⟩
  · rintro rfl
    exact h.1 rfl
  · rw [← Bool.not_eq_true]
    intro hblank
    simp only [isLineBlank, Bool.or_eq_true, beq_iff_eq] at hblank
    obtain (rfl | rfl) | rfl := hblank <;> exact absurd (h.2 _ hc) (by decide)

namespace Command

/-- The texts that are handed over with the command, in no particular order. -/
def texts (c : Command) : List String := c.launcher :: c.executable :: (c.launcherArgs ++ c.args)

lemma forall_isLineWord_iff (c : Command) :
    (∀ text ∈ c.launcher :: c.argv, IsLineWord text) ↔ ∀ text ∈ c.texts, IsLineWord text := by
  have hflag : IsLineWord "-np" := ⟨by decide, by simp [isLineBlank]⟩
  have hprocs := isLineWord_of_isWord (Text.isWord_toString c.procs.toNat)
  simp only [texts, argv, List.forall_mem_cons, List.forall_mem_append]
  constructor
  · rintro ⟨hlauncher, ⟨hoptions, -, -, hexecutable, -⟩, hargs⟩
    exact ⟨hlauncher, hexecutable, hoptions, hargs⟩
  · rintro ⟨hlauncher, hexecutable, hoptions, hargs⟩
    exact ⟨hlauncher, ⟨hoptions, hflag, hprocs, hexecutable, List.forall_mem_nil _⟩, hargs⟩

/-- The line of a command in a script has the words of the launcher and of each argument in turn. -/
lemma lineWords_line (c : Command) :
    lineWords (c.text ++ "\n") = (c.launcher :: c.argv).flatMap lineWords := by
  rw [lineWords_append_newline, text, lineWords_intercalate]

lemma lineWords_line_eq_iff (c : Command) :
    lineWords (c.text ++ "\n") = c.launcher :: c.argv ↔ ∀ text ∈ c.texts, IsLineWord text := by
  rw [lineWords_line, flatMap_lineWords_eq_iff, forall_isLineWord_iff]

/-- The words of a line are those of the launcher and of each argument in turn. They are the
launcher and the arguments themselves exactly if every text that is handed over with the command is
one word. Two such commands with one line have the same launcher and the same arguments. -/
theorem words_of_line (c : Command) :
    lineWords (c.text ++ "\n") = (c.launcher :: c.argv).flatMap lineWords ∧
    (lineWords (c.text ++ "\n") = c.launcher :: c.argv ↔ ∀ text ∈ c.texts, IsLineWord text) ∧
    ∀ d : Command, (∀ text ∈ c.texts, IsLineWord text) → (∀ text ∈ d.texts, IsLineWord text) →
      c.text ++ "\n" = d.text ++ "\n" → c.launcher = d.launcher ∧ c.argv = d.argv := by
  refine ⟨c.lineWords_line, c.lineWords_line_eq_iff, fun d hc hd hline => ?_⟩
  have hsame : c.launcher :: c.argv = d.launcher :: d.argv :=
    calc c.launcher :: c.argv
      _ = lineWords (c.text ++ "\n") := (c.lineWords_line_eq_iff.mpr hc).symm
      _ = lineWords (d.text ++ "\n") := by rw [hline]
      _ = d.launcher :: d.argv := d.lineWords_line_eq_iff.mpr hd
  exact List.cons.inj hsame

/-- A blank in an argument is lost on the line. -/
theorem blank_in_argument_is_lost :
    let c : Command := ⟨"mpirun", ["--host", "a b"], 4, "exe", []⟩
    let d : Command := ⟨"mpirun", ["--host", "a", "b"], 4, "exe", []⟩
    c.text = d.text ∧ c.argv ≠ d.argv ∧ lineWords (c.text ++ "\n") ≠ c.launcher :: c.argv := by
  refine ⟨rfl, by decide, ?_⟩
  decide

end Command

end TileBench
