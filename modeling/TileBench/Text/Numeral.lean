/-!
# Decimal numerals

A numeral is one or more of the ten ASCII digits, behind an optional sign. The readers refuse a
value outside their range, so a value that is read can be kept in a machine word.

A natural number is written by `toString`, without leading zeros; reading it back gives the
number.
-/

namespace TileBench.Text

/-- The number that a non-empty string of digits denotes. -/
def digits? (s : List Char) : Option Nat :=
  if !s.isEmpty && s.all Char.isDigit then some (Nat.ofDigitChars 10 s 0) else none

/-- Drops a plus sign in front. -/
def dropPlus : List Char → List Char
  | '+' :: s => s
  | s => s

/-- Reads digits behind an optional plus sign, for a number below `limit`. -/
def natural? (limit : Nat) (s : List Char) : Option Nat :=
  (digits? (dropPlus s)).filter (· < limit)

/-- Reads digits behind an optional sign, for a number in `-limit, …, limit - 1`. -/
def integer? (limit : Nat) : List Char → Option Int
  | '-' :: s => ((digits? s).filter (· ≤ limit)).map fun n => -(n : Int)
  | s => (natural? limit s).map fun n => (n : Int)

def word32? (s : List Char) : Option UInt32 := (natural? UInt32.size s).map UInt32.ofNat

def word64? (s : List Char) : Option UInt64 := (natural? UInt64.size s).map UInt64.ofNat

/-- Half of the 64-bit words stand for negative numbers. -/
def signed64Limit : Nat := 9223372036854775808

/-- Reads a 64-bit signed number. -/
def signed64? (s : List Char) : Option Int := integer? signed64Limit s

theorem digits?_toDigits (n : Nat) : digits? (Nat.toDigits 10 n) = some n := by
  have h : (Nat.toDigits 10 n).all Char.isDigit = true :=
    List.all_eq_true.2 fun c hc => Nat.isDigit_of_mem_toDigits (by omega) (by omega) hc
  simp [digits?, h, Nat.toDigits_ne_nil]

/-- A number is written without a sign. -/
theorem isDigit_of_toDigits_cons {n : Nat} {c : Char} {s : List Char}
    (h : Nat.toDigits 10 n = c :: s) : c.isDigit = true :=
  Nat.isDigit_of_mem_toDigits (b := 10) (n := n) (by omega) (by omega) (by simp [h])

theorem natural?_toDigits_eq (limit n : Nat) :
    natural? limit (Nat.toDigits 10 n) = if n < limit then some n else none := by
  have hplus : dropPlus (Nat.toDigits 10 n) = Nat.toDigits 10 n := by
    unfold dropPlus
    split
    · rename_i s hs
      exact absurd (isDigit_of_toDigits_cons hs) (by decide)
    · rfl
  simp [natural?, hplus, digits?_toDigits, Option.filter]

theorem natural?_toDigits {limit n : Nat} (h : n < limit) :
    natural? limit (Nat.toDigits 10 n) = some n := by
  rw [natural?_toDigits_eq, if_pos h]

theorem signed64?_toDigits (n : Nat) :
    signed64? (Nat.toDigits 10 n) = if n < signed64Limit then some (n : Int) else none := by
  unfold signed64? integer?
  split
  · rename_i s hs
    exact absurd (isDigit_of_toDigits_cons hs) (by decide)
  · rw [natural?_toDigits_eq]
    split <;> rfl

theorem lt_of_signed64? {s : List Char} {k : Int} (h : signed64? s = some k) :
    k < signed64Limit := by
  unfold signed64? integer? at h
  split at h
  · obtain ⟨_, hread, rfl⟩ := Option.map_eq_some_iff.1 h
    obtain ⟨n, -, ⟨⟩⟩ := Option.bind_eq_some_iff.1 hread
    simp only [signed64Limit]
    omega
  · obtain ⟨_, hread, rfl⟩ := Option.map_eq_some_iff.1 h
    obtain ⟨n, hn, ⟨⟩⟩ := Option.bind_eq_some_iff.1 hread
    have hlt : n < signed64Limit := by simpa using (Option.filter_eq_some_iff.1 hn).2
    exact Int.ofNat_lt.2 hlt

end TileBench.Text
