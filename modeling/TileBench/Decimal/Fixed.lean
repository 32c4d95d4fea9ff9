import TileBench.Decimal.Parts

/-!
# Fixed decimal places

A number is written with a given number of places behind the point. The exact binary value is
rounded to the nearest such decimal, and a tie goes to the even neighbour.
-/

namespace TileBench.Decimal

/-- The quotient rounded to the nearest integer, a tie to the even one. -/
def roundDiv (num den : Nat) : Nat :=
  let q := num / den
  let r := num % den
  if 2 * r < den ∨ (2 * r = den ∧ q % 2 = 0) then q else q + 1

theorem roundDiv_mul_right {den : Nat} (h : 0 < den) (n : Nat) : roundDiv (n * den) den = n := by
  simp [roundDiv, Nat.mul_div_cancel n h, h]

/-- Twice the distance to the rounded quotient is at most one unit. -/
theorem roundDiv_near {den : Nat} (h : 0 < den) (num : Nat) :
    2 * num ≤ (2 * roundDiv num den + 1) * den ∧ 2 * roundDiv num den * den ≤ 2 * num + den := by
  have hr := Nat.mod_lt num h
  have hq := Nat.div_add_mod num den
  have hc : num / den * den = den * (num / den) := Nat.mul_comm ..
  unfold roundDiv
  dsimp only
  split
  · rename_i hs
    constructor
    · rw [Nat.add_mul, Nat.mul_assoc, hc]; omega
    · rw [Nat.mul_assoc, hc]; omega
  · rename_i hs
    have hs : den ≤ 2 * (num % den) := by omega
    constructor
    · rw [Nat.add_mul, Nat.mul_assoc, Nat.add_mul, hc]; omega
    · rw [Nat.mul_assoc, Nat.add_mul, hc]; omega

/-- `m * 2 ^ q * 10 ^ places`, rounded. -/
def scaled (places m : Nat) : Int → Nat
  | .ofNat k => (m <<< k) * Nat.pow 10 places
  | .negSucc k => roundDiv (m * Nat.pow 10 places) (1 <<< (k + 1))

/-- A number of units of `10 ^ -places`, with a point. -/
def pointed (places units : Nat) : String :=
  let fraction := Nat.toDigits 10 (units % Nat.pow 10 places)
  toString (units / Nat.pow 10 places) ++ "." ++ String.ofList (fraction.leftpad places '0')

/-- A number with a given number of places. -/
def fixed (places : Nat) (x : Float) : String :=
  match Parts.ofFloat x with
  | .nan => "NaN"
  | .infinite negative => signText negative ++ "inf"
  | .finite negative m q => signText negative ++ pointed places (scaled places m q)

end TileBench.Decimal
