import TileBench.Json.Number
import TileBench.Proofs.Text.Words

/-!
# Reading natural numbers back

A natural number that fits in 64 bits is read as it was written, if what follows it is no part of a
number.
-/

namespace TileBench.Json

open Text

variable {n taken : Nat} {digits rest : List Char}

/-! ### Digits -/

lemma exists_toDigits_cons (n : Nat) :
    ∃ c digits, Nat.toDigits 10 n = c :: digits ∧ c.isDigit = true := by
  obtain ⟨c, digits, hdigits⟩ :=
    List.exists_cons_of_ne_nil (Nat.toDigits_ne_nil (b := 10) (n := n))
  exact ⟨c, digits, hdigits, isDigit_of_mem_toDigits (hdigits ▸ List.mem_cons_self)⟩

lemma eq_zero_of_toDigits_eq_zero_cons (h : Nat.toDigits 10 n = '0' :: rest) : n = 0 := by
  induction n using Nat.strongRecOn generalizing rest with
  | ind n ih =>
    by_cases hlt : n < 10
    · have hdigit : ∀ n < 10, Nat.digitChar n = '0' → n = 0 := by decide
      rw [Nat.toDigits_of_lt_base hlt] at h
      exact hdigit n hlt (List.cons.inj h).1
    · rw [Nat.toDigits_of_base_le (by decide) (Nat.le_of_not_lt hlt)] at h
      obtain ⟨c, front, hfront, -⟩ := exists_toDigits_cons (n / 10)
      rw [hfront, List.cons_append] at h
      rw [(List.cons.inj h).1] at hfront
      have := ih (n / 10) (by omega) hfront
      omega

lemma le_ofDigitChars (digits : List Char) (n : Nat) : n ≤ Nat.ofDigitChars 10 digits n := by
  induction digits generalizing n with
  | nil => exact Nat.le_refl n
  | cons c digits ih =>
    rw [Nat.ofDigitChars_cons]
    exact Nat.le_trans (by omega) (ih _)

/-- Digits are taken to the last one if their number fits. -/
lemma significand_eq (h : Nat.ofDigitChars 10 digits n < UInt64.size) :
    significand n taken digits = (Nat.ofDigitChars 10 digits n, taken + digits.length) := by
  induction digits generalizing n taken with
  | nil => rfl
  | cons c digits ih =>
    rw [Nat.ofDigitChars_cons, Nat.mul_comm] at h ⊢
    have hnext := Nat.lt_of_le_of_lt (le_ofDigitChars digits _) h
    rw [significand, if_pos hnext, ih h, List.length_cons]
    congr 1
    omega

/-! ### Numbers -/

/-- The text does not go on a number. -/
def EndsNumber (rest : List Char) : Prop :=
  ∀ c ∈ rest.head?, c.isDigit = false ∧ c ≠ '.' ∧ c ≠ 'e' ∧ c ≠ 'E'

lemma spanDigits_append (hdigits : ∀ c ∈ digits, c.isDigit = true) (hrest : EndsNumber rest) :
    spanDigits (digits ++ rest) = (digits, rest) := by
  have htake : rest.takeWhile Char.isDigit = [] ∧ rest.dropWhile Char.isDigit = rest := by
    cases rest with
    | nil => exact ⟨rfl, rfl⟩
    | cons c rest => simp [(hrest c rfl).1]
  rw [spanDigits, List.takeWhile_append_of_pos hdigits, List.dropWhile_append_of_pos hdigits,
    htake.1, htake.2, List.append_nil]

lemma whole?_toDigits (n : Nat) (hrest : EndsNumber rest) :
    whole? (Nat.toDigits 10 n ++ rest) = some (Nat.toDigits 10 n, rest) := by
  rw [whole?, spanDigits_append (fun _ => isDigit_of_mem_toDigits) hrest]
  split
  · rename_i hnil
    exact absurd (Prod.mk.inj hnil).1 Nat.toDigits_ne_nil
  · rename_i hzero
    obtain ⟨hzero, rfl⟩ := Prod.mk.inj hzero
    rw [hzero]
  · rename_i digits _ hmore hzero
    obtain ⟨hdigits, rfl⟩ := Prod.mk.inj hzero
    -- No other number than zero starts with a zero.
    rw [eq_zero_of_toDigits_eq_zero_cons hdigits] at hdigits
    cases hdigits
    exact (hmore rfl).elim
  · rename_i hsame
    obtain ⟨rfl, rfl⟩ := Prod.mk.inj hsame
    rfl

/-- A natural number that was written is read back. -/
lemma number?_toDigits (hn : n < UInt64.size) (hrest : EndsNumber rest) :
    number? (Nat.toDigits 10 n ++ rest) = some (.int n, rest) := by
  have hfraction : fraction? rest = some (none, rest) := by
    unfold fraction?
    split
    · exact absurd rfl (hrest '.' rfl).2.1
    · rfl
  have hexponent : exponent? rest = some (none, rest) := by
    unfold exponent?
    split
    · rename_i c rest
      rw [if_neg (not_or.mpr (hrest c rfl).2.2)]
    · rfl
  have hvalue : Nat.ofDigitChars 10 (Nat.toDigits 10 n) 0 = n :=
    Nat.ofDigitChars_toDigits (by decide) (by decide)
  have hsignificand : significand 0 0 (Nat.toDigits 10 n) = (n, (Nat.toDigits 10 n).length) := by
    rw [significand_eq (hvalue.symm ▸ hn), hvalue, Nat.zero_add]
  -- There is no sign in front, so the digits are taken as they stand.
  have hsign : ∀ s, Nat.toDigits 10 n ++ rest ≠ '-' :: s := by
    intro s hs
    obtain ⟨c, digits, hdigits, hdigit⟩ := exists_toDigits_cons n
    rw [hdigits, List.cons_append] at hs
    rw [(List.cons.inj hs).1] at hdigit
    cases hdigit
  unfold number?
  simp only [whole?_toDigits n hrest, hfraction, hexponent, bind, Option.bind]
  simp [Numeral.value?, hsignificand]

end TileBench.Json
