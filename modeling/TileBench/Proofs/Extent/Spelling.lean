import TileBench.Proofs.Extent.Text
import TileBench.Proofs.Json.Decoding
import TileBench.Proofs.Text.Fields

/-!
# How extents are spelled

There are many ways to write an extent: with blanks around the whole and around each side, with plus
signs and with zeros in front. All of them are accepted and nothing else is. The written form of an
extent is one of them, so it belongs to that extent only.
-/

namespace TileBench.Extent

open Text

variable {e : Extent} {n : UInt64} {s x y z : List Char} {text : String} {fault : Fault}

/-- The text names three sides, none of them zero, with an `x` in between. -/
def Spells (e : Extent) (s : List Char) : Prop :=
  ∃ core x y z, TrimsTo s core ∧ core = x ++ 'x' :: (y ++ 'x' :: z) ∧
    'x' ∉ x ∧ 'x' ∉ y ∧ 'x' ∉ z ∧
    SpellsCount e.x.toNat x ∧ SpellsCount e.y.toNat y ∧ SpellsCount e.z.toNat z

lemma side?_eq_some_iff : side? s = some n ↔ SpellsCount n.toNat s := by
  have hpos : n ≠ 0 ↔ 0 < n.toNat := by
    rw [Ne, ← UInt64.toNat_inj, Nat.pos_iff_ne_zero]
    rfl
  rw [side?, Option.filter_eq_some_iff, word64?_eq_some_iff, decide_eq_true_iff, hpos,
    spellsCount_iff]

lemma splitOn_eq_sides_iff : s.splitOn 'x' = [x, y, z] ↔
    s = x ++ 'x' :: (y ++ 'x' :: z) ∧ 'x' ∉ x ∧ 'x' ∉ y ∧ 'x' ∉ z := by
  rw [splitOn_eq_iff (List.cons_ne_nil _ _)]
  simp [List.intercalate]

lemma ofChars?_eq_some_iff : ofChars? s = some e ↔ e.Spells s := by
  constructor
  · intro h
    unfold ofChars? at h
    split at h
    · rename_i x y z hsplit
      simp only [bind, Option.bind_eq_some_iff, side?_eq_some_iff] at h
      obtain ⟨a, ha, b, hb, c, hc, ⟨⟩⟩ := h
      obtain ⟨hcore, hx, hy, hz⟩ := splitOn_eq_sides_iff.mp hsplit
      exact ⟨trim s, x, y, z, trimsTo_trim s, hcore, hx, hy, hz, ha, hb, hc⟩
    · cases h
  · rintro ⟨core, x, y, z, htrim, hcore, hx, hy, hz, ha, hb, hc⟩
    rw [ofChars?, htrim.trim_eq, splitOn_eq_sides_iff.mpr ⟨hcore, hx, hy, hz⟩]
    simp only [side?_eq_some_iff.mpr ha, side?_eq_some_iff.mpr hb, side?_eq_some_iff.mpr hc]
    rfl

lemma parse_eq_ok_iff : parse text = .ok e ↔ e.Spells text.toList := by
  rw [parse, ← ofChars?_eq_some_iff]
  cases ofChars? text.toList <;> simp

lemma parse_eq_error_iff :
    parse text = .error fault ↔ fault = .invalidExtent text ∧ ∀ e, ¬ Spells e text.toList := by
  simp only [parse, ← ofChars?_eq_some_iff]
  cases ofChars? text.toList <;> simp [eq_comm]

/-- A text is read as the extent that it spells. One that spells no extent is refused, and the fault
shows it unchanged. An extent that was read is read again from its written form. So is every other
extent without a zero side, also out of a JSON text, and no two of them are written alike. -/
theorem read_iff_spelled :
    (∀ text e, parse text = .ok e ↔ e.Spells text.toList) ∧
    (∀ text fault, parse text = .error fault ↔
      fault = .invalidExtent text ∧ ∀ e, ¬ Spells e text.toList) ∧
    (∀ text e, parse text = .ok e → parse e.text = .ok e) ∧
    (∀ e : Extent, e.Positive → parse e.text = .ok e ∧
      Json.decodeText (fun d => d.parsed parse) (Json.str e.text).compact = .ok e) ∧
    (∀ e f : Extent, e.Positive → f.Positive → e.text = f.text → e = f) := by
  refine ⟨fun text e => parse_eq_ok_iff, fun text fault => parse_eq_error_iff,
    fun text e hread => parse_text (positive_of_parse hread), fun e he => ⟨parse_text he, ?_⟩,
    fun e f he hf htext => ?_⟩
  · rw [Json.decodeText_parsed, parse_text he]
    rfl
  · have hread := parse_text he
    rw [htext, parse_text hf] at hread
    exact (Except.ok.inj hread).symm

end TileBench.Extent
