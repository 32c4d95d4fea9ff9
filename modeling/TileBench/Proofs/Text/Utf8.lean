import TileBench.Text.Split
import TileBench.Text.Utf8
import Mathlib.Algebra.Group.Nat.Defs
import Mathlib.Tactic.Lemma
import Mathlib.Tactic.SplitIfs

/-!
# Newlines in UTF-8

The byte of a newline stands for a newline wherever it occurs: it never stands inside a character,
and no other bytes make one. So cutting a sequence of bytes at that byte is cutting the text that it
encodes at its newlines.
-/

namespace TileBench.Text

namespace Utf8

/-- The character that the machine is inside of is not an ASCII character: its next byte is none of
theirs, and its code point is at least `0x80` whatever comes. -/
def State.Wide : State → Prop
  | .idle => True
  | .inside owed bits low _ =>
    1 ≤ owed ∧ 0x80 ≤ low ∧ 0x80 ≤ bits * 64 ^ owed + (low - 0x80) * 64 ^ (owed - 1)

variable {b : Nat} {state next : State} {bytes front back : Bytes} {text : List Char}

lemma wide_of_first (h : first b = .more next) : next.Wide := by
  unfold first at h
  split_ifs at h <;> cases h <;> simp only [State.Wide] <;> omega

lemma wide_of_step (hwide : state.Wide) (h : step b state = .more next) : next.Wide := by
  cases state with
  | idle => exact wide_of_first h
  | inside owed bits low high =>
    obtain ⟨howed, hlow, hvalue⟩ := hwide
    simp only [step] at h
    split_ifs at h with hrange hlast
    cases h
    obtain ⟨n, rfl⟩ : ∃ n, owed = n + 1 := ⟨owed - 1, by omega⟩
    refine ⟨by omega, Nat.le_refl _, ?_⟩
    have hmono : (bits * 64 + (low - 0x80)) * 64 ^ n ≤ (bits * 64 + (b - 0x80)) * 64 ^ n :=
      Nat.mul_le_mul_right _ (by omega)
    have hsplit : (bits * 64 + (low - 0x80)) * 64 ^ n =
        bits * 64 ^ (n + 1) + (low - 0x80) * 64 ^ n := by
      rw [Nat.add_mul, Nat.pow_succ', Nat.mul_assoc]
    simp only [Nat.add_sub_cancel] at hvalue ⊢
    omega

lemma eq_of_ofNat_newline (h : Char.ofNat b = '\n') : b = 10 := by
  have hnat : (Char.ofNat b).toNat = 10 := congrArg Char.toNat h
  by_cases hvalid : b.isValidChar
  · rw [Char.ofNat, dif_pos hvalid] at hnat
    exact hnat
  · rw [Char.ofNat, dif_neg hvalid] at hnat
    cases hnat

/-- A newline is made by its byte only. -/
lemma eq_of_step_newline (hwide : state.Wide) (h : step b state = .done '\n') : b = 10 := by
  cases state with
  | idle =>
    simp only [step, first] at h
    split_ifs at h
    exact eq_of_ofNat_newline (Step.done.inj h)
  | inside owed bits low high =>
    obtain ⟨howed, hlow, hvalue⟩ := hwide
    simp only [step] at h
    split_ifs at h with hrange hlast
    obtain rfl : owed = 1 := by omega
    have hvalue' := eq_of_ofNat_newline (Step.done.inj h)
    omega

/-- The byte of a newline does not stand inside a character. -/
lemma step_newline_inside {owed bits low high : Nat}
    (hwide : (State.inside owed bits low high).Wide) :
    step 10 (.inside owed bits low high) = .wrong := by
  have hlow := hwide.2.1
  rw [step, if_neg (by omega)]

lemma ne_idle_of_step (h : step b state = .more next) : next ≠ .idle := by
  rintro rfl
  cases state with
  | idle =>
    simp only [step, first] at h
    split_ifs at h <;> cases h
  | inside owed bits low high =>
    simp only [step] at h
    split_ifs at h
    cases h

lemma wide_idle : State.idle.Wide := trivial

/-! ### Decoding -/

/-- Decoding splits at a newline. -/
lemma decodeFrom?_append_newline (hwide : state.Wide) :
    decodeFrom? state (front ++ 10 :: back) = (decodeFrom? state front).bind fun s =>
      (decodeFrom? .idle back).map (s ++ '\n' :: ·) := by
  induction front generalizing state with
  | nil =>
    cases state with
    | idle => rfl
    | inside owed bits low high =>
      have hstep : step (10 : UInt8).toNat (.inside owed bits low high) = .wrong :=
        step_newline_inside hwide
      simp only [List.nil_append, decodeFrom?, hstep]
      rfl
  | cons b front ih =>
    rw [List.cons_append, decodeFrom?, decodeFrom?]
    cases hstep : step b.toNat state with
    | done c =>
      simp only [ih wide_idle]
      cases decodeFrom? .idle front <;> cases decodeFrom? .idle back <;> rfl
    | more next => exact ih (wide_of_step hwide hstep)
    | wrong => rfl

lemma newline_mem_of_decodeFrom? (hwide : state.Wide) (h : decodeFrom? state bytes = some text)
    (hmem : '\n' ∈ text) : 10 ∈ bytes := by
  induction bytes generalizing state text with
  | nil =>
    cases state with
    | idle => cases h; cases hmem
    | inside => cases h
  | cons b bytes ih =>
    rw [decodeFrom?] at h
    cases hstep : step b.toNat state with
    | done c =>
      rw [hstep] at h
      obtain ⟨rest, hrest, rfl⟩ := Option.map_eq_some_iff.mp h
      rcases List.mem_cons.mp hmem with rfl | hmem
      · have hb : b = 10 := UInt8.toNat_inj.mp (eq_of_step_newline hwide hstep)
        exact hb ▸ List.mem_cons_self
      · exact List.mem_cons_of_mem _ (ih wide_idle hrest hmem)
    | more next =>
      rw [hstep] at h
      exact List.mem_cons_of_mem _ (ih (wide_of_step hwide hstep) h hmem)
    | wrong =>
      rw [hstep] at h
      cases h

lemma eq_nil_of_decodeFrom? (h : decodeFrom? state bytes = some []) :
    state = .idle ∧ bytes = [] := by
  induction bytes generalizing state with
  | nil =>
    cases state with
    | idle => exact ⟨rfl, rfl⟩
    | inside => cases h
  | cons b bytes ih =>
    rw [decodeFrom?] at h
    cases hstep : step b.toNat state with
    | done c =>
      rw [hstep] at h
      obtain ⟨rest, -, hrest⟩ := Option.map_eq_some_iff.mp h
      cases hrest
    | more next =>
      rw [hstep] at h
      exact absurd (ih h).1 (ne_idle_of_step hstep)
    | wrong =>
      rw [hstep] at h
      cases h

end Utf8

/-! ### Cutting at newlines -/

variable {bytes front back : Bytes} {text : List Char}

/-- Decoding splits at a newline. -/
lemma decode?_append_newline :
    decode? (front ++ 10 :: back) = (decode? front).bind fun s =>
      (decode? back).map (s ++ '\n' :: ·) :=
  Utf8.decodeFrom?_append_newline Utf8.wide_idle

lemma decode?_eq_some_nil_iff : decode? bytes = some [] ↔ bytes = [] := by
  constructor
  · exact fun h => (Utf8.eq_nil_of_decodeFrom? h).2
  · rintro rfl
    rfl

/-- What holds of pieces without a newline, and of two parts with a newline between them if it holds
of both, holds of all bytes. -/
lemma newline_induction {P : Bytes → Prop} (piece : ∀ s, 10 ∉ s → P s)
    (append : ∀ front back, P front → P back → P (front ++ 10 :: back)) (bytes : Bytes) :
    P bytes := by
  induction hlength : bytes.length using Nat.strongRecOn generalizing bytes with
  | _ n ih =>
    by_cases hmem : 10 ∈ bytes
    · obtain ⟨front, back, rfl⟩ := List.append_of_mem hmem
      rw [List.length_append, List.length_cons] at hlength
      exact append front back (ih _ (by omega) front rfl) (ih _ (by omega) back rfl)
    · exact piece bytes hmem

/-- The pieces between the newlines of a text are encoded by the pieces between their bytes. -/
lemma map_decode?_splitOn (h : decode? bytes = some text) :
    (bytes.splitOn 10).map decode? = (text.splitOn '\n').map some := by
  induction bytes using newline_induction generalizing text with
  | piece s hs =>
    have hnone : '\n' ∉ text := fun htext =>
      hs (Utf8.newline_mem_of_decodeFrom? Utf8.wide_idle h htext)
    rw [List.splitOn_eq_singleton hs, List.splitOn_eq_singleton hnone, List.map_singleton,
      List.map_singleton, h]
  | append front back ihfront ihback =>
    rw [decode?_append_newline] at h
    obtain ⟨s, hfront, h⟩ := Option.bind_eq_some_iff.mp h
    obtain ⟨t, hback, rfl⟩ := Option.map_eq_some_iff.mp h
    rw [List.splitOn_append_cons_self, List.splitOn_append_cons_self, List.map_append,
      List.map_append, ihfront hfront, ihback hback]

/-- A sequence of bytes is UTF-8 if its pieces are. -/
lemma exists_decode?_of_splitOn (h : ∀ piece ∈ bytes.splitOn 10, ∃ s, decode? piece = some s) :
    ∃ text, decode? bytes = some text := by
  induction bytes using newline_induction with
  | piece s hs =>
    rw [List.splitOn_eq_singleton hs] at h
    exact h s (List.mem_singleton_self s)
  | append front back ihfront ihback =>
    rw [List.splitOn_append_cons_self] at h
    obtain ⟨s, hfront⟩ := ihfront fun piece hpiece => h piece (List.mem_append_left _ hpiece)
    obtain ⟨t, hback⟩ := ihback fun piece hpiece => h piece (List.mem_append_right _ hpiece)
    exact ⟨s ++ '\n' :: t, by rw [decode?_append_newline, hfront, hback]; rfl⟩

/-- The pieces of some bytes are the rows and what stands behind the last newline. -/
lemma splitOn_eq_rows {α : Type} [BEq α] (newline : α) (s : List α) :
    s.splitOn newline = (rows newline s).1 ++ [(rows newline s).2] := by
  have hne := List.splitOn_ne_nil newline s
  rw [rows, List.getLastD_eq_getLast?, List.getLast?_eq_some_getLast hne, Option.getD_some]
  exact (List.dropLast_concat_getLast hne).symm

lemma rows_nil {α : Type} [BEq α] (newline : α) : rows newline [] = ([], []) := rfl

/-- What follows a newline is cut on its own. -/
lemma rows_append_newline {α : Type} [BEq α] [LawfulBEq α] (newline : α) (front back : List α) :
    rows newline (front ++ newline :: back) =
      (front.splitOn newline ++ (rows newline back).1, (rows newline back).2) := by
  have hpieces : (front ++ newline :: back).splitOn newline =
      (front.splitOn newline ++ (rows newline back).1) ++ [(rows newline back).2] := by
    rw [List.splitOn_append_cons_self, splitOn_eq_rows newline back, List.append_assoc]
  rw [rows, hpieces, List.dropLast_concat, List.getLastD_concat]

/-- Rows that are put together, each with a newline, are cut apart again. -/
lemma rows_flatMap_newline {α : Type} [BEq α] [LawfulBEq α] {newline : α} {parts : List (List α)}
    (h : ∀ part ∈ parts, newline ∉ part) :
    rows newline (parts.flatMap fun part => part ++ [newline]) = (parts, []) := by
  induction parts with
  | nil => rfl
  | cons part rest ih =>
    obtain ⟨hpart, hrest⟩ := List.forall_mem_cons.mp h
    rw [List.flatMap_cons, List.append_assoc, List.singleton_append, rows_append_newline, ih hrest,
      List.splitOn_eq_singleton hpart]
    rfl

/-- A piece between separators has none in it. -/
lemma forall_mem_of_mem_splitOnP {α : Type} {p : α → Bool} {s piece : List α}
    (h : piece ∈ s.splitOnP p) : ∀ a ∈ piece, p a = false := by
  induction s generalizing piece with
  | nil =>
    obtain rfl : piece = [] := by simpa using h
    exact List.forall_mem_nil _
  | cons a s ih =>
    rw [List.splitOnP_cons_eq_if_modifyHead] at h
    obtain ⟨first, others, hpieces⟩ := List.exists_cons_of_ne_nil (List.splitOnP_ne_nil p s)
    rw [hpieces] at h ih
    split_ifs at h with ha
    · rcases List.mem_cons.mp h with rfl | hmem
      · exact List.forall_mem_nil _
      · exact ih hmem
    · rw [List.modifyHead_cons] at h
      rcases List.mem_cons.mp h with rfl | hmem
      · exact List.forall_mem_cons.mpr ⟨by simpa using ha, ih List.mem_cons_self⟩
      · exact ih (List.mem_cons_of_mem _ hmem)

/-- A line has no newline in it. -/
lemma newline_not_mem_of_mem_lines {line : List Char} (h : line ∈ lines text) : '\n' ∉ line := by
  have hpieces : ∀ piece ∈ text.splitOn '\n', '\n' ∉ piece := fun piece hpiece hmem => by
    simpa using forall_mem_of_mem_splitOnP hpiece '\n' hmem
  rw [splitOn_eq_rows, List.forall_mem_append, List.forall_mem_singleton] at hpieces
  obtain ⟨hended, hrest⟩ := hpieces
  obtain hline | hline := List.mem_append.mp h
  · obtain ⟨row, hrow, rfl⟩ := List.mem_map.mp hline
    intro hmem
    refine hended row hrow ?_
    unfold dropReturn at hmem
    split at hmem
    · exact List.dropLast_subset row hmem
    · exact hmem
  · split_ifs at hline
    · cases hline
    · rwa [List.mem_singleton.mp hline]

/-- The rows of a text are encoded by the rows of its bytes. -/
lemma rows_of_decode? (h : decode? bytes = some text) :
    (rows 10 bytes).1.map decode? = (rows '\n' text).1.map some ∧
      decode? (rows 10 bytes).2 = some (rows '\n' text).2 := by
  have hpieces := map_decode?_splitOn h
  rw [splitOn_eq_rows, splitOn_eq_rows, List.map_append, List.map_append] at hpieces
  obtain ⟨hended, hrest⟩ := List.append_inj' hpieces rfl
  exact ⟨hended, List.singleton_inj.mp hrest⟩

/-- A sequence of bytes is UTF-8 if its rows are, and what stands behind the last newline. -/
lemma exists_decode?_of_rows (hended : ∀ row ∈ (rows 10 bytes).1, ∃ s, decode? row = some s)
    (hrest : ∃ s, decode? (rows 10 bytes).2 = some s) : ∃ text, decode? bytes = some text := by
  refine exists_decode?_of_splitOn fun piece hpiece => ?_
  rw [splitOn_eq_rows, List.mem_append, List.mem_singleton] at hpiece
  obtain hpiece | rfl := hpiece
  · exact hended piece hpiece
  · exact hrest

end TileBench.Text
