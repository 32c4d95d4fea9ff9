import TileBench.Proofs.Except
import TileBench.Proofs.Text.Lines
import TileBench.Proofs.VarType.Text

/-!
# The list of variables

The list that the write executable is given has one line for each variable, between a first and a
last line that are always the same. The types can be read back from the lines, so the list tells how
many variables there are and which types they have.
-/

namespace TileBench

open Text

variable {n m : UInt32} {even odd even' odd' : VarType} {i : Nat}

/-! ### Lines -/

def typeAt (even odd : VarType) (i : Nat) : VarType := if i % 2 = 0 then even else odd

def varLine (even odd : VarType) (i : Nat) : List Char :=
  ("var_" ++ toString i ++ " " ++ (typeAt even odd i).text ++ " +").toList

def varLines (n : UInt32) (even odd : VarType) : List (List Char) :=
  "(fields)".toList :: (List.range n.toNat).map (varLine even odd) ++ ["(end)".toList]

lemma wellFormed_typeAt (heven : even.WellFormed) (hodd : odd.WellFormed) (i : Nat) :
    (typeAt even odd i).WellFormed := by
  unfold typeAt
  split
  · exact heven
  · exact hodd

/-- A line has the three words that it is made of, with one blank between them. -/
lemma varLine_eq_spread (even odd : VarType) (i : Nat) :
    varLine even odd i = spread ("var_".toList ++ Nat.toDigits 10 i)
      [(0, (typeAt even odd i).text.toList), (0, ['+'])] := by
  simp [varLine, spread]

lemma isWord_varName (i : Nat) : IsWord ("var_".toList ++ Nat.toDigits 10 i) := by
  have hvar : IsWord "var_".toList := by decide
  exact hvar.append (isWord_toDigits i)

lemma isWord_columns (heven : even.WellFormed) (hodd : odd.WellFormed) (i : Nat) :
    ∀ part ∈ [(0, (typeAt even odd i).text.toList), (0, ['+'])], IsWord part.2 := by
  rw [List.forall_mem_cons, List.forall_mem_singleton]
  exact ⟨(wellFormed_typeAt heven hodd i).isWord_text, by decide⟩

lemma words_varLine (heven : even.WellFormed) (hodd : odd.WellFormed) (i : Nat) :
    words (varLine even odd i) =
      ["var_".toList ++ Nat.toDigits 10 i, (typeAt even odd i).text.toList, ['+']] := by
  rw [varLine_eq_spread, words_spread (isWord_varName i) (isWord_columns heven hodd i)]
  rfl

/-- The only blanks of a line of the list are spaces. -/
lemma not_mem_of_mem_varLines {line : List Char} {c : Char} (heven : even.WellFormed)
    (hodd : odd.WellFormed) (hblank : isBlank c = true) (hspace : c ≠ ' ')
    (h : line ∈ varLines n even odd) : c ∉ line := by
  have hfields : IsWord "(fields)".toList := by decide
  have hend : IsWord "(end)".toList := by decide
  simp only [varLines, List.cons_append, List.mem_cons, List.mem_append, List.mem_map,
    List.not_mem_nil, or_false] at h
  rcases h with rfl | ⟨i, -, rfl⟩ | rfl
  · exact hfields.not_mem hblank
  · rw [varLine_eq_spread]
    exact not_mem_spread (isWord_varName i) (isWord_columns heven hodd i) hblank hspace
  · exact hend.not_mem hblank

/-! ### The text -/

lemma toList_varEntry (even odd : VarType) (i : Nat) :
    (varEntry even odd i).toList = varLine even odd i ++ ['\n'] := by
  simp [varEntry, varLine, typeAt]

/-- The list is put together from its lines. No newline follows the last one. -/
lemma toList_varList (n : UInt32) (even odd : VarType) :
    (varList n even odd).toList = ['\n'].intercalate (varLines n even odd) := by
  have hentries : ((List.range n.toNat).map (varEntry even odd)).flatMap String.toList =
      ((List.range n.toNat).map (varLine even odd)).flatMap fun line => line ++ ['\n'] := by
    rw [List.flatMap_map, List.flatMap_map]
    exact List.flatMap_congr fun i _ => toList_varEntry even odd i
  rw [varLines, intercalate_concat, List.flatMap_cons, ← hentries, varList, String.toList_append,
    String.toList_append, String.toList_join]
  rfl

lemma splitOn_varList (heven : even.WellFormed) (hodd : odd.WellFormed) (n : UInt32) :
    (varList n even odd).toList.splitOn '\n' = varLines n even odd :=
  (splitOn_eq_iff (List.concat_ne_nil _ _)).mpr ⟨toList_varList n even odd,
    fun _ => not_mem_of_mem_varLines heven hodd isBlank_newline (by decide)⟩

/-- Its lines are what stands between the newlines: none ends with a carriage return. -/
lemma lines_varList (heven : even.WellFormed) (hodd : odd.WellFormed) (n : UInt32) :
    lines (varList n even odd).toList = varLines n even odd := by
  have hplain : ∀ line ∈ varLines n even odd, '\n' ∉ line ∧ '\r' ∉ line := fun line hline =>
    ⟨not_mem_of_mem_varLines heven hodd isBlank_newline (by decide) hline,
      not_mem_of_mem_varLines heven hodd isBlank_return (by decide) hline⟩
  rw [toList_varList]
  exact lines_intercalate hplain (by decide)

lemma length_varLines (n : UInt32) (even odd : VarType) :
    (varLines n even odd).length = n.toNat + 2 := by
  simp [varLines]

/-! ### Reading the types -/

/-- Reads the type of a variable from its line. -/
def typeOfLine (line : List Char) : Except Fault VarType :=
  match words line with
  | [_, type, _] => VarType.parse (String.ofList type)
  | _ => .error (.invalidVarType (String.ofList line))

/-- Reads the types of all variables from the lines between the first and the last. -/
def typesOf (list : String) : Except Fault (List VarType) :=
  (lines list.toList).tail.dropLast.mapM typeOfLine

lemma typeOfLine_varLine (heven : even.WellFormed) (hodd : odd.WellFormed) (i : Nat) :
    typeOfLine (varLine even odd i) = .ok (typeAt even odd i) := by
  rw [typeOfLine, words_varLine heven hodd]
  dsimp only
  rw [String.ofList_toList, VarType.parse_text (wellFormed_typeAt heven hodd i)]

lemma typesOf_varList (heven : even.WellFormed) (hodd : odd.WellFormed) (n : UInt32) :
    typesOf (varList n even odd) = .ok ((List.range n.toNat).map (typeAt even odd)) := by
  rw [typesOf, lines_varList heven hodd, varLines, List.cons_append, List.tail_cons,
    List.dropLast_concat, List.mapM_map]
  apply mapM_eq_ok_map
  intro i _
  rw [Function.comp_apply, typeOfLine_varLine heven hodd]

/-! ### Equal lists -/

/-- Which types the first `n` variables have, a pair of types tells as far as they are used. -/
lemma forall_typeAt_iff : (∀ i ∈ List.range n.toNat, typeAt even odd i = typeAt even' odd' i) ↔
    (1 ≤ n → even = even') ∧ (2 ≤ n → odd = odd') := by
  have hone : 1 ≤ n ↔ 0 < n.toNat := UInt32.le_iff_toNat_le
  have htwo : 2 ≤ n ↔ 1 < n.toNat := UInt32.le_iff_toNat_le
  rw [hone, htwo]
  constructor
  · intro h
    exact ⟨fun hn => h 0 (List.mem_range.mpr hn), fun hn => h 1 (List.mem_range.mpr hn)⟩
  · rintro ⟨heven, hodd⟩ i hi
    have hin := List.mem_range.mp hi
    unfold typeAt
    split
    · exact heven (by omega)
    · exact hodd (by omega)

/-- Equal lists have the same types read from them, so they tell equally many variables and the same
type for each. -/
lemma varList_eq_iff (heven : even.WellFormed) (hodd : odd.WellFormed) (heven' : even'.WellFormed)
    (hodd' : odd'.WellFormed) : varList n even odd = varList m even' odd' ↔
      n = m ∧ (1 ≤ n → even = even') ∧ (2 ≤ n → odd = odd') := by
  constructor
  · intro h
    have htypes : (List.range n.toNat).map (typeAt even odd) =
        (List.range m.toNat).map (typeAt even' odd') := by
      apply Except.ok.inj (ε := Fault)
      rw [← typesOf_varList heven hodd, ← typesOf_varList heven' hodd', h]
    obtain rfl : n = m := by
      apply UInt32.toNat_inj.mp
      simpa using congrArg List.length htypes
    exact ⟨rfl, forall_typeAt_iff.mp (List.map_inj_left.mp htypes)⟩
  · rintro ⟨rfl, h⟩
    have hlines : ∀ i ∈ List.range n.toNat, varLine even odd i = varLine even' odd' i := by
      intro i hi
      rw [varLine, forall_typeAt_iff.mpr h i hi, varLine]
    apply String.toList_inj.mp
    rw [toList_varList, toList_varList, varLines, List.map_congr_left hlines, varLines]

/-- The list of `n` variables has a first line, a line of three words for each variable, in order, and
a last line without a newline behind it. The types can be read back, and so two lists are equal only
if they are lists of equally many variables whose types agree as far as they are used. -/
theorem varList_tells_types {s t : String} (heven : VarType.parse s = .ok even)
    (hodd : VarType.parse t = .ok odd) (n : UInt32) :
    (varList n even odd).toList.splitOn '\n' = varLines n even odd ∧
    lines (varList n even odd).toList = varLines n even odd ∧
    (varLines n even odd).length = n.toNat + 2 ∧
    (∀ i, words (varLine even odd i) =
      ["var_".toList ++ Nat.toDigits 10 i, (typeAt even odd i).text.toList, ['+']]) ∧
    typesOf (varList n even odd) = .ok ((List.range n.toNat).map (typeAt even odd)) ∧
    (∀ (m : UInt32) (s' t' : String) (even' odd' : VarType), VarType.parse s' = .ok even' →
      VarType.parse t' = .ok odd' →
      (varList n even odd = varList m even' odd' ↔
        n = m ∧ (1 ≤ n → even = even') ∧ (2 ≤ n → odd = odd'))) := by
  have heven := VarType.wellFormed_of_parse heven
  have hodd := VarType.wellFormed_of_parse hodd
  exact ⟨splitOn_varList heven hodd n, lines_varList heven hodd n, length_varLines n even odd,
    words_varLine heven hodd, typesOf_varList heven hodd n, fun m s' t' even' odd' heven' hodd' =>
    varList_eq_iff heven hodd (VarType.wellFormed_of_parse heven')
      (VarType.wellFormed_of_parse hodd')⟩

/-- Types whose spellings have blanks, a sign and a second star. -/
theorem varList_of_three :
    VarType.parse "1*float32" = .ok ⟨1, "float32"⟩ ∧
    VarType.parse " +3 * float64*16" = .ok ⟨3, "float64*16"⟩ ∧
    lines (varList 3 ⟨1, "float32"⟩ ⟨3, "float64*16"⟩).toList = ["(fields)".toList,
      "var_0 1*float32 +".toList, "var_1 3*float64*16 +".toList, "var_2 1*float32 +".toList,
      "(end)".toList] ∧
    typesOf (varList 3 ⟨1, "float32"⟩ ⟨3, "float64*16"⟩) =
      .ok [⟨1, "float32"⟩, ⟨3, "float64*16"⟩, ⟨1, "float32"⟩] := by
  have heven : VarType.parse "1*float32" = .ok ⟨1, "float32"⟩ := by decide
  have hodd : VarType.parse " +3 * float64*16" = .ok ⟨3, "float64*16"⟩ := by decide
  obtain ⟨-, hlines, -, -, htypes, -⟩ := varList_tells_types heven hodd 3
  refine ⟨heven, hodd, ?_, ?_⟩
  · rw [hlines]
    decide
  · rw [htypes]
    rfl

end TileBench
