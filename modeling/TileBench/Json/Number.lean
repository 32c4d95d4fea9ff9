import TileBench.Text.Numeral

/-!
# Numbers in a JSON text

A number without a fraction and an exponent is an integer if it fits in 64 bits, signed if there is
a minus in front. Every other number is a binary number, and so is minus zero. It is computed from
the digits that fit in 64 bits by one multiplication or division with a power of ten, and is refused
if it grows infinite. Digits are taken as long as they fit, first those of the whole part and then
those of the fraction.
-/

namespace TileBench.Json

inductive Number where
  | int (n : Int)
  | real (x : Float)

/-- The digits of a number and what follows: whole part, fraction and exponent. -/
structure Numeral where
  negative : Bool
  whole : List Char
  fraction : List Char
  /-- The exponent, if there is one. -/
  exponent : Option Int
  /-- Is there a fraction? -/
  pointed : Bool

/-- A number followed by the digits at the front of a text as long as that fits in 64 bits, and how
many digits are taken. -/
def significand (n taken : Nat) : List Char → Nat × Nat
  | [] => (n, taken)
  | c :: s =>
    let next := n * 10 + (c.toNat - '0'.toNat)
    if next < UInt64.size then significand next (taken + 1) s else (n, taken)

/-- Divides by `10 ^ e`, in steps of `10 ^ 308`. -/
def shrink (x : Float) (e : Nat) : Float :=
  if e ≤ 308 then x / Float.ofScientific 1 false e
  else if x == 0.0 then x
  else shrink (x / Float.ofScientific 1 false 308) (e - 308)
termination_by e

/-- Multiplies with `10 ^ e`, unless the result is infinite. -/
def grow? (x : Float) (e : Nat) : Option Float :=
  if e ≤ 308 then
    let y := x * Float.ofScientific 1 false e
    if y.isInf then none else some y
  else if x == 0.0 then some x
  else none

/-- `m * 10 ^ e` as a binary number. -/
def scale? (m : Nat) (e : Int) : Option Float :=
  if e < 0 then some (shrink (UInt64.ofNat m).toFloat e.natAbs)
  else grow? (UInt64.ofNat m).toFloat e.natAbs

def Numeral.value? (n : Numeral) : Option Number :=
  let (m, taken) := significand 0 0 n.whole
  let plain := !n.pointed && n.exponent.isNone && taken == n.whole.length
  if plain && !n.negative then some (.int m)
  else if plain && 0 < m && m ≤ Text.signed64Limit then some (.int (-(m : Int)))
  else
    let (m, taken) := significand m taken n.fraction
    let e := n.exponent.getD 0 + ((n.whole.length : Int) - taken)
    (scale? m e).map fun x => .real (if n.negative then -x else x)

def spanDigits (s : List Char) : List Char × List Char :=
  (s.takeWhile Char.isDigit, s.dropWhile Char.isDigit)

/-- Reads the whole part: a zero, or digits that do not start with one. -/
def whole? (s : List Char) : Option (List Char × List Char) :=
  match spanDigits s with
  | ([], _) => none
  | (['0'], rest) => some (['0'], rest)
  | ('0' :: _, _) => none
  | (digits, rest) => some (digits, rest)

/-- Reads a fraction, if there is a point. -/
def fraction? : List Char → Option (Option (List Char) × List Char)
  | '.' :: s =>
    match spanDigits s with
    | ([], _) => none
    | (digits, rest) => some (some digits, rest)
  | s => some (none, s)

/-- Reads an exponent behind its mark. -/
def exponentDigits? (negative : Bool) (s : List Char) : Option (Int × List Char) :=
  match spanDigits s with
  | ([], _) => none
  | (digits, rest) =>
    let e : Int := Nat.ofDigitChars 10 digits 0
    some (if negative then -e else e, rest)

/-- Reads an exponent, if there is a mark. -/
def exponent? : List Char → Option (Option Int × List Char)
  | c :: s =>
    if c = 'e' ∨ c = 'E' then
      let read := match s with
        | '+' :: s => exponentDigits? false s
        | '-' :: s => exponentDigits? true s
        | s => exponentDigits? false s
      read.map fun r => (some r.1, r.2)
    else some (none, c :: s)
  | [] => some (none, [])

/-- Reads a number off the front of a text. -/
def number? (s : List Char) : Option (Number × List Char) := do
  let (negative, s) := match s with
    | '-' :: s => (true, s)
    | s => (false, s)
  let (whole, s) ← whole? s
  let (fraction, s) ← fraction? s
  let (exponent, s) ← exponent? s
  let numeral : Numeral := ⟨negative, whole, fraction.getD [], exponent, fraction.isSome⟩
  return (← numeral.value?, s)

end TileBench.Json
