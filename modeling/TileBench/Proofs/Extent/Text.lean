import TileBench.Proofs.Extent.Products
import TileBench.Proofs.Text.Words

/-!
# Reading extents

An extent without a zero side is read as it was written, and no other extent can be read.
-/

namespace TileBench.Extent

open Text

variable {e : Extent} {n : UInt64} {s : List Char}

lemma toNat_pos_of_side? (h : side? s = some n) : 0 < n.toNat := by
  obtain ⟨-, hne⟩ := Option.filter_eq_some_iff.mp h
  rw [decide_eq_true_iff, Ne, ← UInt64.toNat_inj] at hne
  exact Nat.pos_of_ne_zero hne

lemma positive_of_ofChars? (h : ofChars? s = some e) : e.Positive := by
  unfold ofChars? at h
  split at h
  · simp only [bind, Option.bind_eq_some_iff] at h
    obtain ⟨x, hx, y, hy, z, hz, ⟨⟩⟩ := h
    exact ⟨toNat_pos_of_side? hx, toNat_pos_of_side? hy, toNat_pos_of_side? hz⟩
  · cases h

lemma positive_of_parse {text : String} (h : parse text = .ok e) : e.Positive := by
  unfold parse at h
  split at h
  · rename_i found hfound
    cases h
    exact positive_of_ofChars? hfound
  · cases h

lemma side?_toDigits (hn : 0 < n.toNat) : side? (Nat.toDigits 10 n.toNat) = some n := by
  have hne : n ≠ 0 := by
    rintro rfl
    exact absurd hn (by decide)
  rw [side?, (isWord_toDigits _).trim_eq, word64?, natural?_toDigits n.toNat_lt]
  simp [hne]

lemma toList_text (e : Extent) : e.text.toList =
    Nat.toDigits 10 e.x.toNat ++ 'x' :: (Nat.toDigits 10 e.y.toNat ++
      'x' :: Nat.toDigits 10 e.z.toNat) := by
  simp [text]

lemma isWord_text (e : Extent) : IsWord e.text.toList := by
  have hcross : IsWord ['x'] := by decide
  rw [toList_text]
  exact (isWord_toDigits _).append (hcross.append ((isWord_toDigits _).append
    (hcross.append (isWord_toDigits _))))

/-- An extent without a zero side is read back. -/
theorem parse_text (he : e.Positive) : parse e.text = .ok e := by
  have hcross : ∀ n, 'x' ∉ Nat.toDigits 10 n := by
    intro n hmem
    cases isDigit_of_mem_toDigits hmem
  have hsplit : e.text.toList.splitOn 'x' = [Nat.toDigits 10 e.x.toNat, Nat.toDigits 10 e.y.toNat,
      Nat.toDigits 10 e.z.toNat] := by
    rw [toList_text, List.splitOn_append_cons_self, List.splitOn_append_cons_self,
      List.splitOn_eq_singleton (hcross _), List.splitOn_eq_singleton (hcross _),
      List.splitOn_eq_singleton (hcross _)]
    rfl
  have hread : ofChars? e.text.toList = some e := by
    rw [ofChars?, (isWord_text e).trim_eq, hsplit]
    simp only [side?_toDigits he.x, side?_toDigits he.y, side?_toDigits he.z]
    rfl
  rw [parse, hread]

end TileBench.Extent
