import TileBench.Proofs.Text.Utf8
import Mathlib.Data.List.Infix

/-!
# Lines of a text

Nothing is lost when a text is cut into rows: `rows_eq_iff` says that the rows and what stands behind
the last newline make up the text, and that no other rows do. From this it follows what the lines
are of two texts one behind the other, of a text that is given a last newline, and of a text whose
line ends have carriage returns.
-/

namespace TileBench.Text

variable {s a b row rest : List Char} {ended : List (List Char)} {c : Char}

/-! ### Pieces and rows -/

/-- The pieces of a text are the ones without the separator that it is put together from. -/
lemma splitOn_eq_iff {pieces : List (List Char)} (hne : pieces ≠ []) :
    s.splitOn c = pieces ↔ s = [c].intercalate pieces ∧ ∀ piece ∈ pieces, c ∉ piece := by
  constructor
  · rintro rfl
    refine ⟨(List.intercalate_splitOn c).symm, fun piece hpiece hmem => ?_⟩
    rw [List.splitOn_eq_splitOnP] at hpiece
    simpa using forall_mem_of_mem_splitOnP hpiece c hmem
  · rintro ⟨rfl, hpieces⟩
    exact List.splitOn_intercalate c hpieces hne

lemma intercalate_concat (c : Char) (ended : List (List Char)) (rest : List Char) :
    [c].intercalate (ended ++ [rest]) = (ended.flatMap fun row => row ++ [c]) ++ rest := by
  induction ended with
  | nil => simp [List.intercalate]
  | cons row ended ih =>
    obtain ⟨next, more, hmore⟩ : ∃ next more, ended ++ [rest] = next :: more :=
      List.exists_cons_of_ne_nil (List.concat_ne_nil _ _)
    rw [hmore] at ih
    rw [List.cons_append, hmore, List.flatMap_cons, List.append_assoc, ← ih]
    simp [List.intercalate]

/-- The rows of a text are the ones without a newline that it is put together from. -/
lemma rows_eq_iff : rows '\n' s = (ended, rest) ↔
    s = (ended.flatMap fun row => row ++ ['\n']) ++ rest ∧ (∀ row ∈ ended, '\n' ∉ row) ∧
      '\n' ∉ rest := by
  have hpieces : rows '\n' s = (ended, rest) ↔ s.splitOn '\n' = ended ++ [rest] := by
    rw [splitOn_eq_rows]
    constructor
    · intro h
      rw [h]
    · intro h
      obtain ⟨hended, hrest⟩ := List.append_inj' h rfl
      exact Prod.ext hended (List.singleton_inj.mp hrest)
  rw [hpieces, splitOn_eq_iff (List.concat_ne_nil _ _), intercalate_concat, List.forall_mem_append,
    List.forall_mem_singleton]

/-- Nothing is lost in cutting. -/
lemma flatMap_rows (s : List Char) :
    ((rows '\n' s).1.flatMap fun row => row ++ ['\n']) ++ (rows '\n' s).2 = s :=
  (rows_eq_iff.mp rfl).1.symm

/-! ### Lines -/

lemma lines_eq (s : List Char) :
    lines s = (rows '\n' s).1.map dropReturn ++
      if (rows '\n' s).2.isEmpty then [] else [(rows '\n' s).2] := rfl

lemma dropReturn_of_not_mem (h : '\r' ∉ row) : dropReturn row = row := by
  rw [dropReturn, if_neg fun hlast => h (List.mem_of_getLast? hlast)]

lemma dropReturn_cases (row : List Char) :
    dropReturn row = row ∨ row = dropReturn row ++ ['\r'] := by
  unfold dropReturn
  split
  · rename_i hlast
    obtain ⟨front, rfl⟩ := List.getLast?_eq_some_iff.mp hlast
    exact .inr (by rw [List.dropLast_concat])
  · exact .inl rfl

lemma dropReturn_subset (row : List Char) : dropReturn row ⊆ row := by
  unfold dropReturn
  split
  · exact List.dropLast_subset row
  · exact List.Subset.refl row

lemma subset_of_mem_rows (h : row ∈ (rows '\n' s).1) : row ⊆ s := by
  intro c hc
  rw [← flatMap_rows s]
  exact List.mem_append_left _ (List.mem_flatMap.mpr ⟨row, h, List.mem_append_left _ hc⟩)

lemma subset_of_mem_lines {line : List Char} (h : line ∈ lines s) : line ⊆ s := by
  rw [lines_eq] at h
  obtain hended | hrest := List.mem_append.mp h
  · obtain ⟨row, hrow, rfl⟩ := List.mem_map.mp hended
    exact List.Subset.trans (dropReturn_subset row) (subset_of_mem_rows hrow)
  · split_ifs at hrest
    · cases hrest
    · intro c hc
      rw [← flatMap_rows s]
      exact List.mem_append_right _ (List.mem_singleton.mp hrest ▸ hc)

/-- Texts without line ends, each with a newline behind it, are the lines of what they make up. -/
lemma lines_flatMap_newline {parts : List (List Char)}
    (h : ∀ part ∈ parts, '\n' ∉ part ∧ '\r' ∉ part) :
    lines (parts.flatMap fun part => part ++ ['\n']) = parts := by
  rw [lines, rows_flatMap_newline fun part hpart => (h part hpart).1]
  simpa using List.map_congr_left fun part hpart => dropReturn_of_not_mem (h part hpart).2

/-- Texts without line ends, with newlines between them, are the lines of what they make up if the
last one is not empty. -/
lemma lines_intercalate {parts : List (List Char)} {last : List Char}
    (h : ∀ part ∈ parts ++ [last], '\n' ∉ part ∧ '\r' ∉ part) (hlast : last ≠ []) :
    lines (['\n'].intercalate (parts ++ [last])) = parts ++ [last] := by
  obtain ⟨hparts, hlast'⟩ := List.forall_mem_append.mp h
  have hrows : rows '\n' (['\n'].intercalate (parts ++ [last])) = (parts, last) :=
    rows_eq_iff.mpr ⟨intercalate_concat '\n' parts last, fun part hpart => (hparts part hpart).1,
      (hlast' last (List.mem_singleton_self last)).1⟩
  have hreturns : parts.map dropReturn = parts.map id :=
    List.map_congr_left fun part hpart => dropReturn_of_not_mem (hparts part hpart).2
  rw [lines_eq, hrows, hreturns, List.map_id, if_neg (by simpa using hlast)]

/-! ### One text behind another -/

/-- The text is empty or ends with a newline. -/
def Ended (s : List Char) : Prop := s = [] ∨ ∃ front, s = front ++ ['\n']

lemma lines_append_newline (a b : List Char) :
    lines (a ++ '\n' :: b) = (a.splitOn '\n').map dropReturn ++ lines b := by
  rw [lines_eq, lines_eq, rows_append_newline, List.map_append, List.append_assoc]

/-- If a text is empty or ends with a newline, no line begins in it and ends behind it. -/
lemma lines_append (ha : Ended a) (b : List Char) : lines (a ++ b) = lines a ++ lines b := by
  obtain rfl | ⟨front, rfl⟩ := ha
  · rfl
  · rw [List.append_assoc, List.singleton_append, lines_append_newline, lines_append_newline]
    simp [lines_eq, rows_nil]

lemma Ended.append (ha : Ended a) (hb : Ended b) : Ended (a ++ b) := by
  obtain rfl | ⟨front, rfl⟩ := hb
  · rwa [List.append_nil]
  · exact .inr ⟨a ++ front, by rw [List.append_assoc]⟩

/-! ### A last newline -/

lemma ended_flatMap_newline (ended : List (List Char)) :
    Ended (ended.flatMap fun row => row ++ ['\n']) := by
  rcases List.eq_nil_or_concat ended with rfl | ⟨ended, row, rfl⟩
  · exact .inl rfl
  · refine .inr ⟨(ended.flatMap fun row => row ++ ['\n']) ++ row, ?_⟩
    simp

/-- A newline behind a text that does not end with one ends its last line, and a carriage return at
the end of this line then belongs to the line end. -/
lemma exists_lines_append_newline (hs : ¬ Ended s) :
    ∃ front last, lines s = front ++ [last] ∧ lines (s ++ ['\n']) = front ++ [dropReturn last] := by
  have hrest : (rows '\n' s).2 ≠ [] := by
    intro hnil
    refine hs ?_
    rw [← flatMap_rows s, hnil, List.append_nil]
    exact ended_flatMap_newline _
  refine ⟨(rows '\n' s).1.map dropReturn, (rows '\n' s).2, ?_, ?_⟩
  · rw [lines_eq, if_neg (by simpa using hrest)]
  · rw [lines_append_newline, splitOn_eq_rows, List.map_append]
    exact List.append_nil _

/-! ### Carriage returns -/

/-- The text with a carriage return in front of each newline. -/
def withReturns (s : List Char) : List Char :=
  s.flatMap fun c => if c = '\n' then ['\r', '\n'] else [c]

lemma withReturns_append (a b : List Char) : withReturns (a ++ b) = withReturns a ++ withReturns b :=
  List.flatMap_append

lemma withReturns_of_not_mem (h : '\n' ∉ s) : withReturns s = s := by
  have hkept : ∀ c ∈ s, (if c = '\n' then ['\r', '\n'] else [c]) = [c] := by
    intro c hc
    have hne : c ≠ '\n' := by
      rintro rfl
      exact h hc
    exact if_neg hne
  rw [withReturns, List.flatMap_congr hkept, List.flatMap_singleton']

lemma rows_withReturns (h : rows '\n' s = (ended, rest)) :
    rows '\n' (withReturns s) = (ended.map fun row => row ++ ['\r'], rest) := by
  obtain ⟨rfl, hended, hrest⟩ := rows_eq_iff.mp h
  have hrows : withReturns (ended.flatMap fun row => row ++ ['\n']) =
      (ended.map fun row => row ++ ['\r']).flatMap fun row => row ++ ['\n'] := by
    rw [withReturns, List.flatMap_assoc, List.flatMap_map]
    refine List.flatMap_congr fun row hrow => ?_
    have hrow' := withReturns_of_not_mem (hended row hrow)
    rw [← withReturns, withReturns_append, hrow', List.append_assoc]
    rfl
  refine rows_eq_iff.mpr ⟨?_, ?_, hrest⟩
  · rw [withReturns_append, hrows, withReturns_of_not_mem hrest]
  · intro row hrow
    obtain ⟨row, hmem, rfl⟩ := List.mem_map.mp hrow
    simpa using hended row hmem

/-- A text without carriage returns has the same lines with them. -/
lemma lines_withReturns (h : '\r' ∉ s) : lines (withReturns s) = lines s := by
  have hdrop : ∀ row ∈ (rows '\n' s).1, dropReturn (row ++ ['\r']) = dropReturn row := by
    intro row hrow
    rw [dropReturn_append_return, dropReturn_of_not_mem fun hmem => h (subset_of_mem_rows hrow hmem)]
  rw [lines_eq, lines_eq, rows_withReturns rfl]
  dsimp only
  rw [List.map_map]
  exact congrArg (· ++ _) (List.map_congr_left hdrop)

end TileBench.Text
