import TileBench.Proofs.Text.Lines
import TileBench.SampleCount

/-!
# Reports in joined outputs

Outputs that are empty or end with a newline are joined line by line. So the last output with a
report decides, and what is joined to it without a report makes no difference.
-/

namespace TileBench.SampleCounts

open Text

variable {ls ls' : List (List Char)} {a b o : String} {outputs front back : List String}

/-- One of the lines of an output is a report. -/
def HasReport (output : String) : Prop :=
  ∃ line ∈ lines output.toList, ∃ counts, ofLine? line = some counts

lemma not_hasReport_iff : ¬ HasReport o ↔ (lines o.toList).filterMap ofLine? = [] := by
  simp only [HasReport, List.filterMap_eq_nil_iff, Option.eq_none_iff_forall_ne_some, not_exists,
    not_and, ne_eq]

/-! ### Two outputs -/

lemma ofLines_append_of_ne_nil (h : ls'.filterMap ofLine? ≠ []) :
    ofLines (ls ++ ls') = ofLines ls' := by
  rw [ofLines, ofLines, List.filterMap_append, List.getLastD_eq_getLast?,
    List.getLastD_eq_getLast?, List.getLast?_append_of_ne_nil _ h]

lemma ofLines_append_of_eq_nil (h : ls'.filterMap ofLine? = []) :
    ofLines (ls ++ ls') = ofLines ls := by
  rw [ofLines, ofLines, List.filterMap_append, h, List.append_nil]

lemma ofOutput_append_of_report (ha : Ended a.toList) (hb : HasReport b) :
    ofOutput (a ++ b) = ofOutput b := by
  rw [ofOutput, String.toList_append, lines_append ha]
  refine ofLines_append_of_ne_nil fun hnil => ?_
  exact not_hasReport_iff.mpr hnil hb

lemma ofOutput_append_of_no_report (ha : Ended a.toList) (hb : ¬ HasReport b) :
    ofOutput (a ++ b) = ofOutput a := by
  rw [ofOutput, String.toList_append, lines_append ha]
  exact ofLines_append_of_eq_nil (not_hasReport_iff.mp hb)

/-! ### Many outputs -/

lemma ended_join (h : ∀ o ∈ outputs, Ended o.toList) : Ended (String.join outputs).toList := by
  induction outputs with
  | nil => exact .inl rfl
  | cons o outputs ih =>
    obtain ⟨ho, houtputs⟩ := List.forall_mem_cons.mp h
    rw [String.join_cons, String.toList_append]
    exact ho.append (ih houtputs)

lemma ofOutput_append_join (ha : Ended a.toList) (hended : ∀ o ∈ outputs, Ended o.toList)
    (hnone : ∀ o ∈ outputs, ¬ HasReport o) : ofOutput (a ++ String.join outputs) = ofOutput a := by
  induction outputs generalizing a with
  | nil => rw [String.join_nil, String.append_empty]
  | cons o outputs ih =>
    obtain ⟨ho, hended⟩ := List.forall_mem_cons.mp hended
    obtain ⟨hno, hnone⟩ := List.forall_mem_cons.mp hnone
    have hao : Ended (a ++ o).toList := by
      rw [String.toList_append]
      exact ha.append ho
    rw [String.join_cons, ← String.append_assoc, ih hao hended hnone]
    exact ofOutput_append_of_no_report ha hno

/-- The last output with a report decides. -/
lemma ofOutput_join_of_report (hended : ∀ later ∈ front ++ o :: back, Ended later.toList)
    (ho : HasReport o) (hnone : ∀ later ∈ back, ¬ HasReport later) :
    ofOutput (String.join (front ++ o :: back)) = ofOutput o := by
  obtain ⟨hfront, hback⟩ := List.forall_mem_append.mp hended
  obtain ⟨hend, hback⟩ := List.forall_mem_cons.mp hback
  have hjoin : Ended (String.join front ++ o).toList := by
    rw [String.toList_append]
    exact (ended_join hfront).append hend
  rw [String.join_append, String.join_cons, ← String.append_assoc,
    ofOutput_append_join hjoin hback hnone]
  exact ofOutput_append_of_report (ended_join hfront) ho

lemma ofOutput_join_of_no_report (hended : ∀ o ∈ outputs, Ended o.toList)
    (hnone : ∀ o ∈ outputs, ¬ HasReport o) : ofOutput (String.join outputs) = unreported := by
  have hempty : Ended "".toList := .inl rfl
  have hjoin := ofOutput_append_join hempty hended hnone
  rw [String.empty_append] at hjoin
  exact hjoin.trans rfl

end TileBench.SampleCounts
