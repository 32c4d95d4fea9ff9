/-!
# Sets of characters

A character property is a list of ranges of code points. `CharRanges.contains` decides it.

The blanks of this library are the characters with the Unicode property `White_Space`; they
separate words and are cut off by `trim`.
-/

namespace TileBench.Text

/-- A set of characters as inclusive ranges of code points. -/
abbrev CharRanges := List (Nat × Nat)

/-- Does the character lie in one of the ranges? -/
def CharRanges.contains (ranges : CharRanges) (c : Char) : Bool :=
  ranges.any fun range => range.1 ≤ c.toNat && c.toNat ≤ range.2

theorem CharRanges.contains_iff {ranges : CharRanges} {c : Char} :
    ranges.contains c = true ↔ ∃ range ∈ ranges, range.1 ≤ c.toNat ∧ c.toNat ≤ range.2 := by
  simp [contains]

/-- The code points of the property `White_Space`. -/
def blankRanges : CharRanges :=
  [(0x09, 0x0d), (0x20, 0x20), (0x85, 0x85), (0xa0, 0xa0), (0x1680, 0x1680), (0x2000, 0x200a),
    (0x2028, 0x2029), (0x202f, 0x202f), (0x205f, 0x205f), (0x3000, 0x3000)]

/-- Is the character white space? -/
def isBlank (c : Char) : Bool := blankRanges.contains c

@[simp] theorem isBlank_space : isBlank ' ' = true := by decide

@[simp] theorem isBlank_newline : isBlank '\n' = true := by decide

@[simp] theorem isBlank_return : isBlank '\r' = true := by decide

end TileBench.Text
