import TileBench.Proofs.Text.Fields
import TileBench.Proofs.VarType.Text

/-!
# How variable types are spelled

A variable type may be written with blanks around its two parts. The first star separates them, so
the name of a scalar may have stars in it, but no blanks. What is written in another way is refused.
-/

namespace TileBench.VarType

open Text

variable {v : VarType} {s count scalar : List Char} {text : String} {fault : Fault}

/-- The text names a number of components, which is not zero, and a scalar, with a star in between.
The scalar is a word. -/
def Spells (v : VarType) (s : List Char) : Prop :=
  ∃ core count scalar, TrimsTo s core ∧ core = count ++ '*' :: scalar ∧ '*' ∉ count ∧
    SpellsCount v.components.toNat count ∧
    TrimsTo scalar v.scalar.toList ∧ IsWord v.scalar.toList

lemma ofChars?_eq_some_iff : ofChars? s = some v ↔ v.Spells s := by
  constructor
  · intro h
    simp only [ofChars?, bind, Option.bind_eq_some_iff] at h
    obtain ⟨⟨count, scalar⟩, hsplit, components, hcount, h⟩ := h
    obtain ⟨hcore, hstar⟩ := splitOnce_eq_some_iff.mp hsplit
    split at h
    · cases h
    · rename_i hok
      cases h
      obtain ⟨hpos, hword⟩ := not_refused_iff.mp hok
      refine ⟨trim s, count, scalar, trimsTo_trim s, hcore, hstar,
        spellsCount_iff.mpr ⟨word32?_eq_some_iff.mp hcount, hpos⟩, ?_, ?_⟩
      · rw [String.toList_ofList]
        exact trimsTo_trim scalar
      · rwa [String.toList_ofList]
  · rintro ⟨core, count, scalar, hs, hcore, hstar, hcount, hscalar, hword⟩
    obtain ⟨hnumeral, hpos⟩ := spellsCount_iff.mp hcount
    rw [ofChars?, hs.trim_eq, splitOnce_eq_some_iff.mpr ⟨hcore, hstar⟩]
    simp only [bind, Option.bind, word32?_eq_some_iff.mpr hnumeral, hscalar.trim_eq]
    rw [if_neg (not_refused_iff.mpr ⟨hpos, hword⟩), String.ofList_toList]

lemma parse_eq_ok_iff : parse text = .ok v ↔ v.Spells text.toList := by
  rw [parse, ← ofChars?_eq_some_iff]
  cases ofChars? text.toList <;> simp

lemma parse_eq_error_iff :
    parse text = .error fault ↔ fault = .invalidVarType text ∧ ∀ v, ¬ Spells v text.toList := by
  simp only [parse, ← ofChars?_eq_some_iff]
  cases ofChars? text.toList <;> simp [eq_comm]

/-- A text is read as the variable type that it spells, cut at its first star. One that spells no
type is refused, and the fault shows it unchanged. The types that can be read are those with a
component and a word for their scalar, and they are read again from their written forms. -/
theorem read_at_first_star :
    (∀ text v, parse text = .ok v ↔ v.Spells text.toList) ∧
    (∀ text fault, parse text = .error fault ↔
      fault = .invalidVarType text ∧ ∀ v, ¬ Spells v text.toList) ∧
    (∀ v : VarType, (∃ text, parse text = .ok v) ↔ v.WellFormed) ∧
    (∀ text v, parse text = .ok v → parse v.text = .ok v) := by
  refine ⟨fun text v => parse_eq_ok_iff, fun text fault => parse_eq_error_iff, fun v => ⟨?_, ?_⟩,
    fun text v hread => parse_text (wellFormed_of_parse hread)⟩
  · rintro ⟨text, hread⟩
    exact wellFormed_of_parse hread
  · intro hv
    exact ⟨v.text, parse_text hv⟩

end TileBench.VarType
