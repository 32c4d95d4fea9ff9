/-!
# The parts of a binary number

A 64-bit binary number is an infinity, no number, or a sign, a significand `m` and an exponent `q`
that stand for `m * 2 ^ q`. Its decimal forms are computed from the parts in exact arithmetic.
-/

namespace TileBench.Decimal

/-- A binary number taken apart. -/
inductive Parts where
  | nan
  | infinite (negative : Bool)
  | finite (negative : Bool) (significand : Nat) (exponent : Int)
  deriving DecidableEq

/-- The leading bit of a significand. It is not stored. -/
def leadingBit : Nat := 1 <<< 52

def Parts.ofBits (bits : UInt64) : Parts :=
  let negative := bits.toNat >>> 63 == 1
  let exponent : Nat := (bits.toNat >>> 52) % 2048
  let fraction : Nat := bits.toNat % leadingBit
  if exponent = 2047 then if fraction = 0 then .infinite negative else .nan
  else if exponent = 0 then .finite negative fraction (-1074)
  else .finite negative (leadingBit + fraction) ((exponent : Int) - 1075)

def Parts.ofFloat (x : Float) : Parts := .ofBits x.toBits

def signText (negative : Bool) : String := if negative then "-" else ""

end TileBench.Decimal
