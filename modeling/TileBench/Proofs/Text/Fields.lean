import TileBench.Proofs.Text.Lines
import TileBench.Proofs.Text.Words
import TileBench.Text.Numeral
import Mathlib.Data.List.DropRight
import Mathlib.Data.List.Induction

/-!
# Fields of a text

What a user writes is cut at separators into fields, which may have blanks around them. The *core* of
a field is what is left without these blanks. A number is one or more decimal digits behind an
optional plus sign; it may begin with zeros.

The relations here say what the readers accept: `trim_eq_iff`, `digits?_eq_some_iff` and what
follows from them for numbers of a limited size.
-/

namespace TileBench.Text

variable {s core : List Char} {c : Char} {n limit : Nat}

/-! ### Cores -/

/-- The core of a text is the text without the blanks at its ends. -/
structure TrimsTo (s core : List Char) : Prop where
  margins : ∃ front back, s = front ++ core ++ back ∧ (∀ c ∈ front, isBlank c = true) ∧
    ∀ c ∈ back, isBlank c = true
  head_not_blank : ∀ c, core.head? = some c → isBlank c = false
  last_not_blank : ∀ c, core.getLast? = some c → isBlank c = false

lemma trimsTo_trim (s : List Char) : TrimsTo s (trim s) where
  margins := by
    refine ⟨s.takeWhile isBlank, ((s.dropWhile isBlank).reverse.takeWhile isBlank).reverse, ?_,
      fun c hc => List.mem_takeWhile_imp hc,
      fun c hc => List.mem_takeWhile_imp (List.mem_reverse.mp hc)⟩
    rw [trim, List.append_assoc, ← List.reverse_append, List.takeWhile_append_dropWhile,
      List.reverse_reverse, List.takeWhile_append_dropWhile]
  head_not_blank c hc := by
    obtain ⟨back, hback⟩ : trim s <+: s.dropWhile isBlank := List.rdropWhile_prefix ..
    have hhead : (s.dropWhile isBlank).head? = some c := by
      rw [← hback, List.head?_append, hc]
      rfl
    have hnot := List.head?_dropWhile_not isBlank s
    rwa [hhead] at hnot
  last_not_blank c hc := by
    have hnot := List.head?_dropWhile_not isBlank (s.dropWhile isBlank).reverse
    rw [trim, List.getLast?_reverse] at hc
    rwa [hc] at hnot

lemma dropWhile_eq_self (h : ∀ c, s.head? = some c → isBlank c = false) :
    s.dropWhile isBlank = s := by
  cases s with
  | nil => rfl
  | cons c s => exact List.dropWhile_cons_of_neg (by simp [h c rfl])

/-- A text has one core only. -/
lemma TrimsTo.trim_eq (h : TrimsTo s core) : trim s = core := by
  obtain ⟨⟨front, back, rfl, hfront, hback⟩, hhead, hlast⟩ := h
  rw [trim, List.append_assoc, List.dropWhile_append_of_pos hfront]
  by_cases hne : core = []
  · rw [hne, List.nil_append, List.dropWhile_eq_nil_iff.mpr hback]
    rfl
  · have hstart : ∀ c, (core ++ back).head? = some c → isBlank c = false := by
      rwa [List.head?_append_of_ne_nil core hne]
    have hback' : ∀ c ∈ back.reverse, isBlank c = true := by simpa using hback
    have hend : ∀ c, core.reverse.head? = some c → isBlank c = false := by simpa using hlast
    rw [dropWhile_eq_self hstart, List.reverse_append, List.dropWhile_append_of_pos hback',
      dropWhile_eq_self hend, List.reverse_reverse]

lemma trim_eq_iff : trim s = core ↔ TrimsTo s core :=
  ⟨fun h => h ▸ trimsTo_trim s, TrimsTo.trim_eq⟩

/-! ### Numbers -/

/-- A string of decimal digits denotes a number. -/
inductive Denotes : List Char → Nat → Prop
  | digit {d : Nat} (hd : d < 10) : Denotes [Nat.digitChar d] d
  | concat {s : List Char} {n d : Nat} (h : Denotes s n) (hd : d < 10) :
    Denotes (s ++ [Nat.digitChar d]) (10 * n + d)

/-- A number is written with digits, behind an optional plus sign. -/
inductive Numeral : List Char → Nat → Prop
  | bare {s : List Char} {n : Nat} (h : Denotes s n) : Numeral s n
  | plus {s : List Char} {n : Nat} (h : Denotes s n) : Numeral ('+' :: s) n

lemma isDigit_digitChar {d : Nat} (hd : d < 10) : (Nat.digitChar d).isDigit = true := by
  apply Nat.isDigit_of_mem_toDigits (b := 10) (n := d) (by decide) (by decide)
  simp [Nat.toDigits_of_lt_base hd]

lemma isDigit_iff : c.isDigit = true ↔ ∃ d < 10, c = Nat.digitChar d := by
  constructor
  · intro h
    simp only [Char.isDigit, Bool.and_eq_true, decide_eq_true_eq, UInt32.le_iff_toNat_le] at h
    have hlow : 48 ≤ c.toNat := h.1
    have hhigh : c.toNat ≤ 57 := h.2
    refine ⟨c.toNat - 48, by omega, ?_⟩
    rw [← Char.toNat_inj, Nat.toNat_digitChar_of_lt_ten (by omega)]
    omega
  · rintro ⟨d, hd, rfl⟩
    exact isDigit_digitChar hd

lemma ofDigitChars_concat {d : Nat} (hd : d < 10) (s : List Char) :
    Nat.ofDigitChars 10 (s ++ [Nat.digitChar d]) 0 = 10 * Nat.ofDigitChars 10 s 0 + d := by
  have hvalue : (Nat.digitChar d).toNat - '0'.toNat = d := by
    rw [Nat.toNat_digitChar_of_lt_ten hd]
    exact Nat.add_sub_cancel_left ..
  simp only [Nat.ofDigitChars_append, Nat.ofDigitChars_cons, Nat.ofDigitChars_nil, hvalue]

lemma digits?_eq_some_iff_isDigit : digits? s = some n ↔
    s ≠ [] ∧ (∀ c ∈ s, c.isDigit = true) ∧ Nat.ofDigitChars 10 s 0 = n := by
  simp [digits?, and_assoc]

/-- A string of digits is read as the number that it denotes. -/
lemma digits?_eq_some_iff : digits? s = some n ↔ Denotes s n := by
  rw [digits?_eq_some_iff_isDigit]
  constructor
  · rintro ⟨hne, hdigits, rfl⟩
    -- From the right, where the digit of the lowest place stands.
    induction s using List.reverseRecOn with
    | nil => exact absurd rfl hne
    | append_singleton s c ih =>
      rw [List.forall_mem_append, List.forall_mem_singleton] at hdigits
      obtain ⟨d, hd, rfl⟩ := isDigit_iff.mp hdigits.2
      rw [ofDigitChars_concat hd]
      cases s with
      | nil => simpa using Denotes.digit hd
      | cons c s => exact .concat (ih (List.cons_ne_nil c s) hdigits.1) hd
  · intro h
    induction h with
    | @digit d hd =>
      refine ⟨List.cons_ne_nil _ _, List.forall_mem_singleton.mpr (isDigit_digitChar hd), ?_⟩
      simpa using ofDigitChars_concat hd []
    | @concat s n d _ hd ih =>
      obtain ⟨-, hdigits, rfl⟩ := ih
      refine ⟨List.concat_ne_nil _ _, ?_, ofDigitChars_concat hd s⟩
      rw [List.forall_mem_append, List.forall_mem_singleton]
      exact ⟨hdigits, isDigit_digitChar hd⟩

lemma Denotes.isDigit (h : Denotes s n) : ∀ c ∈ s, c.isDigit = true :=
  (digits?_eq_some_iff_isDigit.mp (digits?_eq_some_iff.mpr h)).2.1

lemma numeral_iff : Numeral s n ↔ Denotes (dropPlus s) n := by
  constructor
  · rintro (h | h)
    · unfold dropPlus
      split
      · exact absurd (h.isDigit '+' List.mem_cons_self) (by decide)
      · exact h
    · exact h
  · unfold dropPlus
    split
    · exact .plus
    · exact .bare

/-- A numeral is read as its number, if that is not too large. -/
lemma natural?_eq_some_iff : natural? limit s = some n ↔ Numeral s n ∧ n < limit := by
  rw [natural?, Option.filter_eq_some_iff, digits?_eq_some_iff, numeral_iff, decide_eq_true_iff]

lemma word32?_eq_some_iff {w : UInt32} : word32? s = some w ↔ Numeral s w.toNat := by
  simp only [word32?, Option.map_eq_some_iff, natural?_eq_some_iff]
  constructor
  · rintro ⟨n, ⟨hnumeral, hn⟩, rfl⟩
    rwa [UInt32.toNat_ofNat_of_lt' hn]
  · intro h
    exact ⟨w.toNat, ⟨h, w.toNat_lt⟩, UInt32.ofNat_toNat⟩

lemma word64?_eq_some_iff {w : UInt64} : word64? s = some w ↔ Numeral s w.toNat := by
  simp only [word64?, Option.map_eq_some_iff, natural?_eq_some_iff]
  constructor
  · rintro ⟨n, ⟨hnumeral, hn⟩, rfl⟩
    rwa [UInt64.toNat_ofNat_of_lt' hn]
  · intro h
    exact ⟨w.toNat, ⟨h, w.toNat_lt⟩, UInt64.ofNat_toNat⟩

/-! ### Counts -/

/-- The field is a number that is not zero, with blanks around it. -/
def SpellsCount (n : Nat) (field : List Char) : Prop :=
  ∃ core, TrimsTo field core ∧ Numeral core n ∧ 0 < n

lemma spellsCount_iff {field : List Char} :
    SpellsCount n field ↔ Numeral (trim field) n ∧ 0 < n := by
  simp only [SpellsCount, ← trim_eq_iff, exists_eq_left']

end TileBench.Text
