/-!
# Reading a number

A number is written with ASCII digits, at least one, in front of or behind an optional point, with
an optional exponent and an optional sign. The words `inf`, `infinity` and `nan` are numbers too,
in any case. The value is the binary number nearest to the decimal.
-/

namespace TileBench.Decimal

def spanDigits (s : List Char) : List Char × List Char :=
  (s.takeWhile Char.isDigit, s.dropWhile Char.isDigit)

/-- Splits off a sign: is it a minus? -/
def spanSign : List Char → Bool × List Char
  | '-' :: s => (true, s)
  | '+' :: s => (false, s)
  | s => (false, s)

/-- Reads what follows the digits: nothing, or an exponent. -/
def exponent? : List Char → Option Int
  | [] => some 0
  | c :: s =>
    if c = 'e' ∨ c = 'E' then
      let (negative, s) := spanSign s
      let (digits, rest) := spanDigits s
      if digits.isEmpty || !rest.isEmpty then none
      else
        let e : Int := Nat.ofDigitChars 10 digits 0
        some (if negative then -e else e)
    else none

/-- Reads an unsigned decimal as `m * 10 ^ e`. -/
def decimal? (s : List Char) : Option (Nat × Int) := do
  let (whole, s) := spanDigits s
  let (fraction, s) := match s with
    | '.' :: s => spanDigits s
    | s => ([], s)
  if whole.isEmpty && fraction.isEmpty then none
  else
    let e ← exponent? s
    return (Nat.ofDigitChars 10 (whole ++ fraction) 0, e - fraction.length)

/-- The binary number nearest to `m * 10 ^ e`. Far outside the range it is zero or infinite. -/
def toFloat (m : Nat) (e : Int) : Float :=
  let magnitude : Int := (Nat.toDigits 10 m).length + e
  if m = 0 ∨ magnitude < -400 then 0.0
  else if magnitude > 400 then 1.0 / 0.0
  else if e < 0 then Float.ofScientific m true e.natAbs
  else Float.ofScientific m false e.natAbs

/-- The words that stand for numbers which are not finite. -/
def word? (s : List Char) : Option Float :=
  let word := String.ofList (s.map Char.toLower)
  if word = "inf" ∨ word = "infinity" then some (1.0 / 0.0)
  else if word = "nan" then some (0.0 / 0.0)
  else none

def float? (s : List Char) : Option Float :=
  let (negative, body) := spanSign s
  let magnitude := match decimal? body with
    | some (m, e) => some (toFloat m e)
    | none => word? body
  magnitude.map fun x => if negative then -x else x

end TileBench.Decimal
