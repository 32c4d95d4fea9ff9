import TileBench.Text.CharRange

/-!
# Lines and words

A text is a list of characters. It is cut into lines at each newline and into words at each run
of blanks. A line loses one carriage return in front of its newline; what follows the last newline
is a line only if it is not empty, and is kept as it stands.

`rows` cuts at a newline over any alphabet, so that a sequence of bytes and the text that it
encodes are cut in the same places.
-/

namespace TileBench.Text

variable {α : Type} [BEq α]

/-- The rows that a newline ends, and what stands behind the last newline. -/
def rows (newline : α) (s : List α) : List (List α) × List α :=
  let pieces := s.splitOn newline
  (pieces.dropLast, pieces.getLastD [])

/-- Drops a carriage return at the end. -/
def dropReturn (row : List Char) : List Char :=
  if row.getLast? = some '\r' then row.dropLast else row

@[simp] theorem dropReturn_nil : dropReturn [] = [] := rfl

@[simp] theorem dropReturn_append_return (row : List Char) : dropReturn (row ++ ['\r']) = row := by
  simp [dropReturn]

def lines (s : List Char) : List (List Char) :=
  let (ended, rest) := rows '\n' s
  ended.map dropReturn ++ if rest.isEmpty then [] else [rest]

/-- The words of a text: its longest stretches without a blank. -/
def words (s : List Char) : List (List Char) :=
  (s.splitOnP isBlank).filter fun word => !word.isEmpty

/-- Drops the blanks at both ends. -/
def trim (s : List Char) : List Char :=
  ((s.dropWhile isBlank).reverse.dropWhile isBlank).reverse

/-- Splits at the first occurrence of a separator, which belongs to neither part. -/
def splitOnce (separator : Char) : List Char → Option (List Char × List Char)
  | [] => none
  | c :: s =>
    if c = separator then some ([], s)
    else (splitOnce separator s).map fun parts => (c :: parts.1, parts.2)

theorem splitOnce_eq_some_iff {separator : Char} {s front back : List Char} :
    splitOnce separator s = some (front, back) ↔
      s = front ++ separator :: back ∧ separator ∉ front := by
  induction s generalizing front back with
  | nil => simp [splitOnce]
  | cons c s ih =>
    by_cases h : c = separator
    · subst h
      cases front with
      | nil => simp [splitOnce]
      | cons d front =>
        simp only [splitOnce, if_true, Option.some.injEq, Prod.mk.injEq, List.cons_append,
          List.cons.injEq, List.mem_cons, not_or]
        constructor
        · rintro ⟨h, -⟩; cases h
        · rintro ⟨⟨rfl, -⟩, h, -⟩; exact absurd rfl h
    · cases front with
      | nil => simp [splitOnce, h]
      | cons d front =>
        simp only [splitOnce, if_neg h, Option.map_eq_some_iff, Prod.exists, Prod.mk.injEq,
          List.cons.injEq, List.cons_append, List.mem_cons, not_or]
        constructor
        · rintro ⟨a, b, hab, ⟨rfl, rfl⟩, rfl⟩
          obtain ⟨rfl, hmem⟩ := ih.1 hab
          exact ⟨⟨rfl, rfl⟩, fun e => h e.symm, hmem⟩
        · rintro ⟨⟨rfl, rfl⟩, -, hmem⟩
          exact ⟨front, back, ih.2 ⟨rfl, hmem⟩, ⟨rfl, rfl⟩, rfl⟩

/-- Does the first text stand somewhere in the second? -/
def occursIn (part : List Char) : List Char → Bool
  | [] => part.isEmpty
  | c :: s => part.isPrefixOf (c :: s) || occursIn part s

theorem occursIn_iff {part s : List Char} : occursIn part s = true ↔ part <:+: s := by
  induction s with
  | nil => simp [occursIn]
  | cons c s ih => simp [occursIn, ih, List.infix_cons_iff]

/-- Fills up with blanks on the left, to the given number of characters. -/
def alignRight (width : Nat) (s : String) : String := String.ofList (s.toList.leftpad width ' ')

/-- Fills up with blanks on the right, to the given number of characters. -/
def alignLeft (width : Nat) (s : String) : String := String.ofList (s.toList.rightpad width ' ')

end TileBench.Text
