import TileBench.Proofs.Text.Words
import TileBench.VarType

/-!
# Reading variable types

A type with a component and a word for its scalar is read as it was written, and no other type can
be read.
-/

namespace TileBench.VarType

open Text

variable {v : VarType} {s : List Char}

/-- There is a component, and the scalar is a word. -/
structure WellFormed (v : VarType) : Prop where
  components : 0 < v.components.toNat
  scalar : IsWord v.scalar.toList

lemma not_refused_iff {components : UInt32} {scalar : List Char} :
    ¬ (components = 0 ∨ scalar.isEmpty = true ∨ scalar.any isBlank = true) ↔
      0 < components.toNat ∧ IsWord scalar := by
  have hpos : components = 0 ↔ ¬ 0 < components.toNat := by
    rw [← UInt32.toNat_inj, Nat.not_lt, Nat.le_zero, UInt32.toNat_zero]
  simp only [hpos, not_or, Decidable.not_not, List.isEmpty_iff, List.any_eq_true, not_exists,
    not_and, Bool.not_eq_true, IsWord, ne_eq]

lemma wellFormed_of_ofChars? (h : ofChars? s = some v) : v.WellFormed := by
  simp only [ofChars?, bind, Option.bind_eq_some_iff] at h
  obtain ⟨⟨count, scalar⟩, -, components, -, h⟩ := h
  split at h
  · cases h
  · rename_i hok
    cases h
    obtain ⟨hcomponents, hscalar⟩ := not_refused_iff.mp hok
    exact ⟨hcomponents, by rwa [String.toList_ofList]⟩

lemma wellFormed_of_parse {text : String} (h : parse text = .ok v) : v.WellFormed := by
  unfold parse at h
  split at h
  · rename_i found hfound
    cases h
    exact wellFormed_of_ofChars? hfound
  · cases h

lemma toList_text (v : VarType) :
    v.text.toList = Nat.toDigits 10 v.components.toNat ++ '*' :: v.scalar.toList := by
  simp [text]

lemma WellFormed.isWord_text (hv : v.WellFormed) : IsWord v.text.toList := by
  have hstar : IsWord ['*'] := by decide
  rw [toList_text]
  exact (isWord_toDigits _).append (hstar.append hv.scalar)

/-- A well-formed type is read back. -/
theorem parse_text (hv : v.WellFormed) : parse v.text = .ok v := by
  have hsplit : splitOnce '*' v.text.toList =
      some (Nat.toDigits 10 v.components.toNat, v.scalar.toList) := by
    refine splitOnce_eq_some_iff.mpr ⟨toList_text v, fun hmem => ?_⟩
    cases isDigit_of_mem_toDigits hmem
  have hcount : word32? (Nat.toDigits 10 v.components.toNat) = some v.components := by
    rw [word32?, natural?_toDigits v.components.toNat_lt]
    simp
  have hread : ofChars? v.text.toList = some v := by
    rw [ofChars?, hv.isWord_text.trim_eq, hsplit]
    simp only [(isWord_toDigits _).trim_eq, hcount, hv.scalar.trim_eq, bind, Option.bind]
    rw [if_neg (not_refused_iff.mpr ⟨hv.components, hv.scalar⟩), String.ofList_toList]
  rw [parse, hread]

end TileBench.VarType
