/-!
# Statistics of a series

The mean, the population standard deviation and the maximum of a series of numbers. Sums are taken
from left to right, from minus zero. The maximum leaves out what is no number; a series without a
number has minus infinity for its maximum. An empty series has no statistics.
-/

namespace TileBench

/-- What a table shows of a series. -/
structure Statistics where
  mean : Float
  deviation : Float
  maximum : Float

namespace Statistics

/-- The sum from left to right. -/
def sum (values : List Float) : Float := values.foldl (· + ·) (-0.0)

/-- The greater of two numbers, or the one that is a number. -/
def greater (a b : Float) : Float := if a.isNaN || b > a then b else a

def of (values : List Float) : Statistics :=
  if values.isEmpty then ⟨0.0 / 0.0, 0.0 / 0.0, 0.0 / 0.0⟩
  else
    let n := Float.ofNat values.length
    let mean := sum values / n
    let variance := sum (values.map fun v => (v - mean) * (v - mean)) / n
    ⟨mean, variance.sqrt, values.foldl greater (-(1.0 / 0.0))⟩

end Statistics

end TileBench
