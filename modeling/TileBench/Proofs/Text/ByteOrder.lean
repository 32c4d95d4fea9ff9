import TileBench.Text.Utf8
import Mathlib.Algebra.Group.Nat.Defs
import Mathlib.Tactic.Lemma
import Mathlib.Tactic.SplitIfs

/-!
# The order of bytes

Texts that are in order have encodings that are in order, byte by byte. The first byte of a character
grows with the number of bytes that follow it, and more of them follow a larger character; among
characters with equally many bytes, these are the digits of the code point to the base 64.
-/

namespace TileBench.Text

namespace Utf8

variable {c d : Char} {n m x y k : Nat}

/-! ### The bytes of a character -/

/-- How many bytes follow the first one of a character. -/
def width (n : Nat) : Nat :=
  if n < 0x80 then 0 else if n < 0x800 then 1 else if n < 0x10000 then 2 else 3

/-- The first byte of the characters of a width, without what it shows of the code point. -/
def mark : Nat → Nat
  | 0 => 0
  | 1 => 0xc0
  | 2 => 0xe0
  | _ => 0xf0

/-- The last bytes of a character. -/
def tail (n : Nat) : Nat → Bytes
  | 0 => []
  | k + 1 => UInt8.ofNat (0x80 + n / 64 ^ k % 64) :: tail n k

/-- The first byte of a character. -/
def lead (n : Nat) : Nat := mark (width n) + n / 64 ^ width n

lemma encodeChar_eq_cons (c : Char) :
    encodeChar c = UInt8.ofNat (lead c.toNat) :: tail c.toNat (width c.toNat) := by
  unfold encodeChar lead width
  dsimp only
  split_ifs <;> simp [mark, tail]

lemma lead_lt (h : n < 0x110000) : lead n < 256 := by
  unfold lead width
  split_ifs <;> simp only [mark, Nat.reducePow, Nat.pow_zero, Nat.pow_one] <;> omega

lemma width_le (h : n ≤ m) : width n ≤ width m := by
  unfold width
  split_ifs <;> omega

/-- The first byte of a wider character is larger. -/
lemma lead_lt_of_width_lt (h : width n < width m) : lead n < lead m := by
  unfold lead
  unfold width at h ⊢
  split_ifs at h ⊢ <;> simp only [mark, Nat.reducePow, Nat.pow_zero, Nat.pow_one] <;> omega

/-! ### Comparing bytes -/

lemma ofNat_lt_ofNat (h : x < y) (hy : y < 256) : UInt8.ofNat x < UInt8.ofNat y := by
  rw [UInt8.lt_iff_toNat_lt, UInt8.toNat_ofNat', UInt8.toNat_ofNat']
  omega

/-- The last bytes compare as the numbers whose digits they are. -/
lemma tail_append_lt (h : n % 64 ^ k < m % 64 ^ k) (s t : Bytes) :
    tail n k ++ s < tail m k ++ t := by
  induction k with
  | zero => omega
  | succ k ih =>
    rw [Nat.mod_pow_succ, Nat.mod_pow_succ] at h
    have hm : m % 64 ^ k < 64 ^ k := Nat.mod_lt _ (Nat.pow_pos (by decide))
    obtain hdigit | hdigit | hdigit := Nat.lt_trichotomy (n / 64 ^ k % 64) (m / 64 ^ k % 64)
    · exact List.cons_lt_cons_iff.mpr (.inl (ofNat_lt_ofNat (by omega) (by omega)))
    · rw [tail, tail, hdigit, List.cons_append, List.cons_append, List.cons_lt_cons_self]
      rw [hdigit] at h
      exact ih (by omega)
    · -- A larger digit is not made up for by the digits behind it.
      have hmul := Nat.mul_le_mul_left (64 ^ k) (Nat.succ_le_of_lt hdigit)
      rw [Nat.mul_succ] at hmul
      omega

lemma toNat_lt (c : Char) : c.toNat < 0x110000 := by
  have hvalid : c.toNat < 0xd800 ∨ 0xdfff < c.toNat ∧ c.toNat < 0x110000 := c.valid
  omega

/-- The bytes of a smaller character are smaller, whatever stands behind them. -/
lemma encodeChar_append_lt (h : c < d) (s t : Bytes) :
    encodeChar c ++ s < encodeChar d ++ t := by
  have hcd : c.toNat < d.toNat := h
  have hd := lead_lt (toNat_lt d)
  rw [encodeChar_eq_cons, encodeChar_eq_cons, List.cons_append, List.cons_append]
  generalize c.toNat = n at hcd
  generalize d.toNat = m at hcd hd
  obtain hwidth | hwidth := Nat.lt_or_eq_of_le (width_le (Nat.le_of_lt hcd))
  · exact List.cons_lt_cons_iff.mpr (.inl (ofNat_lt_ofNat (lead_lt_of_width_lt hwidth) hd))
  · have hn := Nat.div_add_mod n (64 ^ width m)
    have hm := Nat.div_add_mod m (64 ^ width m)
    have hdiv : n / 64 ^ width m ≤ m / 64 ^ width m := Nat.div_le_div_right (Nat.le_of_lt hcd)
    rw [lead, hwidth]
    obtain hlead | hlead := Nat.lt_or_eq_of_le hdiv
    · have hless : mark (width m) + n / 64 ^ width m < lead m := Nat.add_lt_add_left hlead _
      exact List.cons_lt_cons_iff.mpr (.inl (ofNat_lt_ofNat hless hd))
    · rw [hlead] at hn ⊢
      rw [lead, List.cons_lt_cons_self]
      exact tail_append_lt (by omega) s t

end Utf8

variable {s t : List Char}

/-- A smaller text has smaller bytes. -/
theorem encode_lt_encode (h : s < t) : encode s < encode t := by
  induction h with
  | @nil c t =>
    rw [encode, encode, List.flatMap_nil, List.flatMap_cons, Utf8.encodeChar_eq_cons]
    exact List.nil_lt_cons _ _
  | rel hlt => exact Utf8.encodeChar_append_lt hlt _ _
  | cons h ih => exact List.append_left_lt ih

end TileBench.Text
