import TileBench.Proofs.Text.Utf8

/-!
# Words and gaps

A word has no blank in it. Words with gaps of blanks between them are the words of the text that
they make up, and what is left of a text that is cut at single blanks shows how wide the gaps are.
-/

namespace TileBench.Text

variable {c : Char} {s front back word first : List Char} {rest : List (Nat × List Char)}

/-! ### Words -/

def IsWord (word : List Char) : Prop := word ≠ [] ∧ ∀ c ∈ word, isBlank c = false

instance (word : List Char) : Decidable (IsWord word) :=
  @instDecidableAnd _ _ inferInstance (List.decidableBAll _ word)

lemma IsWord.append (hfront : IsWord front) (hback : IsWord back) : IsWord (front ++ back) :=
  ⟨List.append_ne_nil_of_left_ne_nil hfront.1 _, List.forall_mem_append.mpr ⟨hfront.2, hback.2⟩⟩

lemma IsWord.not_mem (h : IsWord word) (hblank : isBlank c = true) : c ∉ word := by
  intro hmem
  rw [h.2 c hmem] at hblank
  cases hblank

lemma IsWord.words_eq (h : IsWord word) : words word = [word] := by
  simp [words, List.splitOnP_eq_singleton h.2, h.1]

lemma IsWord.trim_eq (h : IsWord word) : trim word = word := by
  have hdrop : ∀ s : List Char, (∀ c ∈ s, isBlank c = false) → s.dropWhile isBlank = s := by
    intro s hs
    cases s with
    | nil => rfl
    | cons c s => exact List.dropWhile_cons_of_neg (by simp [hs c])
  rw [trim, hdrop word h.2, hdrop _ fun c hc => h.2 c (List.mem_reverse.mp hc),
    List.reverse_reverse]

/-- What a text is cut to are words. -/
lemma isWord_of_mem_words (h : word ∈ words s) : IsWord word := by
  obtain ⟨hpiece, hne⟩ := List.mem_filter.mp h
  exact ⟨by simpa using hne, forall_mem_of_mem_splitOnP hpiece⟩

lemma words_append_blank (hblank : isBlank c = true) (front back : List Char) :
    words (front ++ c :: back) = words front ++ words back := by
  rw [words, List.splitOnP_append_cons _ _ hblank, List.filter_append]
  rfl

lemma words_replicate_append (n : Nat) (s : List Char) :
    words (List.replicate n ' ' ++ s) = words s := by
  induction n with
  | zero => rfl
  | succ n ih =>
    rw [List.replicate_succ, List.cons_append, ← ih]
    exact words_append_blank isBlank_space [] _

/-! ### Digits -/

lemma isBlank_eq_false_of_isDigit (h : c.isDigit = true) : isBlank c = false := by
  simp only [Char.isDigit, Bool.and_eq_true, decide_eq_true_eq, UInt32.le_iff_toNat_le] at h
  have hlow : 48 ≤ c.toNat := h.1
  have hhigh : c.toNat ≤ 57 := h.2
  simp only [isBlank, CharRanges.contains, blankRanges, List.any_cons, List.any_nil,
    Bool.or_false, Bool.or_eq_false_iff, Bool.and_eq_false_iff, decide_eq_false_iff_not]
  omega

lemma isDigit_of_mem_toDigits {n : Nat} (h : c ∈ Nat.toDigits 10 n) : c.isDigit = true :=
  Nat.isDigit_of_mem_toDigits (by decide) (by decide) h

lemma isWord_toDigits (n : Nat) : IsWord (Nat.toDigits 10 n) :=
  ⟨Nat.toDigits_ne_nil, fun _ h => isBlank_eq_false_of_isDigit (isDigit_of_mem_toDigits h)⟩

lemma isWord_toString (n : Nat) : IsWord (toString n).toList := by
  rw [show (toString n).toList = Nat.toDigits 10 n from Nat.toList_repr]
  exact isWord_toDigits n

/-! ### Gaps -/

/-- Words with gaps in front of all but the first; one blank makes a gap of width zero. -/
def spread (first : List Char) (rest : List (Nat × List Char)) : List Char :=
  first ++ rest.flatMap fun part => List.replicate (part.1 + 1) ' ' ++ part.2

lemma spread_cons (first : List Char) (gap : Nat) (next : List Char)
    (rest : List (Nat × List Char)) : spread first ((gap, next) :: rest) =
      first ++ ' ' :: (List.replicate gap ' ' ++ spread next rest) := by
  simp [spread, List.replicate_succ]

/-- A text is cut at its gaps. -/
lemma words_spread (hfirst : IsWord first) (hrest : ∀ part ∈ rest, IsWord part.2) :
    words (spread first rest) = first :: rest.map (·.2) := by
  induction rest generalizing first with
  | nil => simpa [spread] using hfirst.words_eq
  | cons part rest ih =>
    obtain ⟨hpart, hrest⟩ := List.forall_mem_cons.mp hrest
    rw [spread_cons, words_append_blank isBlank_space, words_replicate_append, ih hpart hrest,
      hfirst.words_eq]
    rfl

/-- The only blanks of words with gaps are those between them. -/
lemma not_mem_spread (hfirst : IsWord first) (hrest : ∀ part ∈ rest, IsWord part.2)
    (hblank : isBlank c = true) (hne : c ≠ ' ') : c ∉ spread first rest := by
  simp only [spread, List.mem_append, List.mem_flatMap, List.mem_replicate, not_or]
  refine ⟨hfirst.not_mem hblank, ?_⟩
  rintro ⟨part, hpart, hgap | hmem⟩
  · exact hne hgap.2
  · exact (hrest part hpart).not_mem hblank hmem

/-- Where a text that is cut at single blanks has empty pieces: a gap leaves as many as it is
wide. -/
lemma map_isEmpty_splitOn_spread (hfirst : IsWord first) (hrest : ∀ part ∈ rest, IsWord part.2) :
    ((spread first rest).splitOn ' ').map List.isEmpty =
      false :: rest.flatMap fun part => List.replicate part.1 true ++ [false] := by
  have hsingle : ∀ {word : List Char}, IsWord word → word.splitOn ' ' = [word] :=
    fun h => List.splitOn_eq_singleton (h.not_mem isBlank_space)
  have hgap : ∀ (n : Nat) (s : List Char),
      (List.replicate n ' ' ++ s).splitOn ' ' = List.replicate n [] ++ s.splitOn ' ' := by
    intro n s
    induction n with
    | zero => rfl
    | succ n ih =>
      rw [List.replicate_succ, List.replicate_succ, List.cons_append, List.cons_append, ← ih]
      exact List.splitOn_append_cons_self [] _
  induction rest generalizing first with
  | nil => simp [spread, hsingle hfirst, hfirst.1]
  | cons part rest ih =>
    obtain ⟨hpart, hrest⟩ := List.forall_mem_cons.mp hrest
    rw [spread_cons, List.splitOn_append_cons_self, hgap, hsingle hfirst]
    simp [ih hpart hrest, hfirst.1]

/-- A text that ends without a blank ends in a piece that is not empty. -/
lemma exists_splitOn_concat (front : List Char) (hne : c ≠ ' ') :
    ∃ pieces piece, (front ++ [c]).splitOn ' ' = pieces ++ [piece] ∧ piece ≠ [] := by
  induction front with
  | nil => exact ⟨[], [c], List.splitOn_eq_singleton (by simpa using hne.symm), by simp⟩
  | cons d front ih =>
    obtain ⟨pieces, piece, hsplit, hpiece⟩ := ih
    rw [List.splitOn_eq_splitOnP] at hsplit ⊢
    rw [List.cons_append, List.splitOnP_cons_eq_if_modifyHead, hsplit]
    split
    · exact ⟨[] :: pieces, piece, rfl, hpiece⟩
    · cases pieces with
      | nil => exact ⟨[], d :: piece, rfl, by simp⟩
      | cons first others => exact ⟨(d :: first) :: others, piece, rfl, hpiece⟩

/-- A text that starts without a blank starts with a piece that is not empty. -/
lemma exists_splitOn_cons (back : List Char) (hne : c ≠ ' ') :
    ∃ piece pieces, (c :: back).splitOn ' ' = piece :: pieces ∧ piece ≠ [] := by
  obtain ⟨first, others, hsplit⟩ :=
    List.exists_cons_of_ne_nil (List.splitOnP_ne_nil (· == ' ') back)
  refine ⟨c :: first, others, ?_, by simp⟩
  rw [List.splitOn_eq_splitOnP, List.splitOnP_cons_eq_if_modifyHead, hsplit, if_neg (by simpa)]
  rfl

/-- A word with a single blank on both sides leaves three pieces in a row that are not empty. -/
lemma infix_map_isEmpty_splitOn {d : Char} (hc : c ≠ ' ') (hd : d ≠ ' ') (hword : IsWord word)
    (h : c :: ' ' :: word ++ [' ', d] <:+: s) :
    [false, false, false] <:+: (s.splitOn ' ').map List.isEmpty := by
  obtain ⟨front, back, rfl⟩ := h
  obtain ⟨pieces, piece, hfront, hpiece⟩ := exists_splitOn_concat front hc
  obtain ⟨piece', pieces', hback, hpiece'⟩ := exists_splitOn_cons back hd
  have hsplit : (front ++ (c :: ' ' :: word ++ [' ', d]) ++ back).splitOn ' ' =
      pieces ++ [piece, word, piece'] ++ pieces' := by
    have hcut : front ++ (c :: ' ' :: word ++ [' ', d]) ++ back =
        (front ++ [c]) ++ ' ' :: (word ++ ' ' :: (d :: back)) := by simp
    rw [hcut, List.splitOn_append_cons_self, List.splitOn_append_cons_self, hfront, hback,
      List.splitOn_eq_singleton (hword.not_mem isBlank_space)]
    simp
  refine ⟨pieces.map List.isEmpty, pieces'.map List.isEmpty, ?_⟩
  rw [hsplit]
  simp [hpiece, hpiece', hword.1]

end TileBench.Text
