import TileBench.Decimal.Fixed

/-!
# Significant digits

A number is written with a given number of digits and the power of ten of the first one. The exact
binary value is rounded to the nearest such decimal, and a tie goes to the even neighbour.
-/

namespace TileBench.Decimal

/-- The number `m * 2 ^ q` as a fraction. -/
def fraction (m : Nat) : Int → Nat × Nat
  | .ofNat k => (m <<< k, 1)
  | .negSucc k => (m, 1 <<< (k + 1))

/-- Is `num / den` at least `10 ^ k`? -/
def reaches (num den : Nat) : Int → Bool
  | .ofNat k => den * Nat.pow 10 k ≤ num
  | .negSucc k => den ≤ num * Nat.pow 10 (k + 1)

/-- The greatest power of ten that `num / den` reaches, from `10 ^ k` downwards. -/
def leadingPower (num den : Nat) : Nat → Int → Int
  | 0, k => k
  | steps + 1, k => if reaches num den k then k else leadingPower num den steps (k - 1)

/-- A power of ten above every finite number. -/
def topPower : Int := 309

/-- More powers of ten than there are between the greatest number and the least one. -/
def powerCount : Nat := 640

/-- The number `num / den` in units of `10 ^ k`, rounded. -/
def inUnits (num den : Nat) : Int → Nat
  | .ofNat k => roundDiv num (den * Nat.pow 10 k)
  | .negSucc k => roundDiv (num * Nat.pow 10 (k + 1)) den

/-- The first digits of `m * 2 ^ q` as one number, and the power of ten of the first of them. There
is one digit more than `further` tells. -/
def significant (further m : Nat) (q : Int) : Nat × Int :=
  if m = 0 then (0, 0)
  else
    let (num, den) := fraction m q
    let power := leadingPower num den powerCount topPower
    let units := inUnits num den (power - further)
    if units < Nat.pow 10 (further + 1) then (units, power) else (Nat.pow 10 further, power + 1)

/-- The power of ten behind some digits, with its sign and at least two digits. -/
def powerText (power : Int) : List Char :=
  'e' :: (if power < 0 then '-' else '+') :: (Nat.toDigits 10 power.natAbs).leftpad 2 '0'

/-- One digit in front of a point and some behind it, with the power of ten apart. -/
def scientificParts (places m : Nat) (q : Int) : List Char × List Char :=
  let (units, power) := significant places m q
  let digits := (Nat.toDigits 10 units).leftpad (places + 1) '0'
  (digits.take 1 ++ '.' :: digits.drop 1, powerText power)

/-- A number of units of `10 ^ -places`, with a point even if there are no places. -/
def withPoint (places units : Nat) : List Char :=
  if places = 0 then Nat.toDigits 10 units ++ ['.'] else (pointed places units).toList

/-- A number with a given count of digits, and the power of ten apart unless that is small. -/
def generalParts (further m : Nat) (q : Int) : List Char × List Char :=
  let power := (significant further m q).2
  if -4 ≤ power && power ≤ further then
    let places := (further - power).toNat
    (withPoint places (scaled places m q), [])
  else scientificParts further m q

/-- Drops the point at the end of some digits. -/
def dropPoint (digits : List Char) : List Char :=
  if digits.getLast? = some '.' then digits.dropLast else digits

/-- Drops the zeros behind the point that are not needed, and the point if nothing is left. -/
def dropZeros (digits : List Char) : List Char :=
  if digits.contains '.' then dropPoint (digits.reverse.dropWhile (· == '0')).reverse else digits

end TileBench.Decimal
