import TileBench.Decimal.Parts

/-!
# The shortest decimal that reads back

Among the decimals that lie nearer to a binary number than to its neighbours, the shortest are the
multiples of the greatest power of ten that has such a multiple. Of these the nearest is taken, and
of two at the same distance the even one. An end of the interval belongs to it if the significand
is even, because a tie is read as the even significand.

The search starts above the number and goes down one power of ten at a time.
-/

namespace TileBench.Decimal

/-- A number `m * 2 ^ q` and the middles to its neighbours, as fractions with one denominator. -/
structure Interval where
  low : Nat
  value : Nat
  high : Nat
  den : Nat
  /-- Do the ends belong to it? -/
  closed : Bool

/-- The interval of the numbers that are read as `m * 2 ^ q`. Below a power of two the next number
is nearer. -/
def Interval.of (m : Nat) (q : Int) : Interval :=
  let below := if m = leadingBit ∧ q ≠ -1074 then 1 else 2
  match q with
  | .ofNat k =>
    ⟨(4 * m - below) <<< k, (4 * m) <<< k, (4 * m + 2) <<< k, 4, m % 2 == 0⟩
  | .negSucc k => ⟨4 * m - below, 4 * m, 4 * m + 2, 4 <<< (k + 1), m % 2 == 0⟩

def Interval.contains (i : Interval) (num : Nat) : Bool :=
  if i.closed then i.low ≤ num && num ≤ i.high else i.low < num && num < i.high

def Interval.inUnits (i : Interval) : Int → Interval
  | .ofNat k => { i with den := i.den * Nat.pow 10 k }
  | .negSucc k =>
    let factor := Nat.pow 10 (k + 1)
    { i with low := i.low * factor, value := i.value * factor, high := i.high * factor }

/-- The multiple of the unit in the interval that is nearest to the number. -/
def Interval.nearest? (i : Interval) : Option Nat :=
  let down := i.value / i.den
  let up := down + 1
  let rest := i.value % i.den
  match i.contains (down * i.den), i.contains (up * i.den) with
  | true, false => some down
  | false, true => some up
  | false, false => none
  | true, true =>
    if 2 * rest < i.den ∨ (2 * rest = i.den ∧ down % 2 = 0) then some down else some up

/-- Searches downwards from `10 ^ k`, at most `steps` times. -/
def searchFrom (i : Interval) (k : Int) : Nat → Nat × Int
  | 0 => (0, 0)
  | steps + 1 =>
    match (i.inUnits k).nearest? with
    | some digits => (digits, k)
    | none => searchFrom i (k - 1) steps

/-- A power of ten above `m * 2 ^ q`, and not far above. -/
def powerAbove (m : Nat) (q : Int) : Int := (m.log2 + 1 + q) * 30103 / 100000 + 1

/-- The shortest digits `d` and the exponent `k` with `d * 10 ^ k` read as `m * 2 ^ q`. -/
def shortest (m : Nat) (q : Int) : Nat × Int := searchFrom (.of m q) (powerAbove m q) 40

/-- The digits behind an exponent mark, with a sign. -/
def exponentText (e : Int) : String :=
  "e" ++ (if e < 0 then "-" else "+") ++ toString e.natAbs

/-- Digits that stand for `digits * 10 ^ k`: positional from `0.00001` up to sixteen digits before
the point, and with an exponent beyond. -/
def placed (digits : List Char) (k : Int) : String :=
  let point : Int := digits.length + k
  String.ofList (
    if 0 ≤ k ∧ point ≤ 16 then digits ++ List.replicate k.toNat '0' ++ ['.', '0']
    else if 0 < point ∧ point ≤ 16 then
      digits.take point.toNat ++ ['.'] ++ digits.drop point.toNat
    else if -5 < point ∧ point ≤ 0 then
      ['0', '.'] ++ List.replicate (-point).toNat '0' ++ digits
    else
      digits.take 1 ++ (if digits.length = 1 then [] else '.' :: digits.drop 1)
        ++ (exponentText (point - 1)).toList)

/-- The shortest text of a number; `none` if it is not finite. -/
def shortestText? (x : Float) : Option String :=
  match Parts.ofFloat x with
  | .nan | .infinite _ => none
  | .finite negative m q =>
    if m = 0 then some (signText negative ++ "0.0")
    else
      let (digits, k) := shortest m q
      some (signText negative ++ placed (Nat.toDigits 10 digits) k)

end TileBench.Decimal
