import TileBench.Fault
import TileBench.Text.Split
import TileBench.Text.Numeral

/-!
# Extents

An extent has three sides. It stands for a box of cells, for the block of one process, or for the
grid of processes that cuts a box into blocks. The sides are 64-bit words, and an operation whose
result does not fit gives `none`.

An extent is written with an `x` between its sides. Reading accepts blanks around the whole and
around each side, and refuses a side of zero.
-/

namespace TileBench

open Text

/-- Three sides. -/
structure Extent where
  x : UInt64
  y : UInt64
  z : UInt64
  deriving DecidableEq, Inhabited

namespace Extent

/-! ### Arithmetic -/

/-- The product of two words, if it is one. -/
def product? (a b : UInt64) : Option UInt64 :=
  if a.toNat * b.toNat < UInt64.size then some (a * b) else none

theorem product?_eq_some_iff {a b c : UInt64} :
    product? a b = some c ↔ c.toNat = a.toNat * b.toNat := by
  unfold product?
  split
  · rename_i h
    rw [Option.some.injEq, ← UInt64.toNat_inj, UInt64.toNat_mul, Nat.mod_eq_of_lt h, eq_comm]
  · rename_i h
    constructor
    · nofun
    · intro hc
      exact absurd (hc ▸ c.toNat_lt) h

/-- The number of cells. -/
def volume? (e : Extent) : Option UInt64 := do product? (← product? e.x e.y) e.z

/-- The product side by side. -/
def times? (e f : Extent) : Option Extent := do
  return ⟨← product? e.x f.x, ← product? e.y f.y, ← product? e.z f.z⟩

/-- Every side times one factor. -/
def scale? (e : Extent) (factor : UInt64) : Option Extent := e.times? ⟨factor, factor, factor⟩

def hasZero (e : Extent) : Bool := e.x == 0 || e.y == 0 || e.z == 0

/-- The quotient side by side, rounded down. -/
def quotient? (e f : Extent) : Option Extent :=
  if f.hasZero then none else some ⟨e.x / f.x, e.y / f.y, e.z / f.z⟩

def isMultipleOf (e f : Extent) : Bool :=
  !f.hasZero && e.x % f.x == 0 && e.y % f.y == 0 && e.z % f.z == 0

/-- The quotient side by side, if it is exact. -/
def exactQuotient? (e f : Extent) : Option Extent :=
  if e.isMultipleOf f then e.quotient? f else none

/-! ### Text -/

/-- The written form, such as `12x24x36`. -/
def text (e : Extent) : String :=
  toString e.x.toNat ++ "x" ++ toString e.y.toNat ++ "x" ++ toString e.z.toNat

instance : ToString Extent := ⟨text⟩

/-- Reads one side, which is not zero. -/
def side? (s : List Char) : Option UInt64 := (word64? (trim s)).filter (· ≠ 0)

def ofChars? (s : List Char) : Option Extent :=
  match (trim s).splitOn 'x' with
  | [x, y, z] => do return ⟨← side? x, ← side? y, ← side? z⟩
  | _ => none

/-- Reads an extent, or blames the text. -/
def parse (s : String) : Except Fault Extent :=
  match ofChars? s.toList with
  | some e => .ok e
  | none => .error (.invalidExtent s)

end Extent

end TileBench
