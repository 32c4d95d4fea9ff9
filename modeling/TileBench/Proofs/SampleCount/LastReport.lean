import TileBench.SampleCount
import Mathlib.Data.List.Basic

/-!
# The report that decides

A line is marked if it has the words of a report, and it is a report if the counts can be decoded
too. The last report of an output decides the verdict. The last marked line decides it only if it is
a report: one that was cut off or garbled is passed over, and an earlier report takes its place.
-/

namespace TileBench

open Text

namespace SampleCounts

/-- The lines of an output that have the words of a report. -/
def markedLines (output : String) : List (List Char) :=
  (lines output.toList).filter (occursIn marker)

variable {output : String} {line : List Char} {counts : SampleCounts} {expected : UInt64}

lemma occursIn_of_ofLine? (h : ofLine? line = some counts) : occursIn marker line = true := by
  unfold ofLine? at h
  split at h
  · assumption
  · cases h

/-- Only marked lines can be reports. -/
lemma filterMap_markedLines (output : String) :
    (markedLines output).filterMap ofLine? = (lines output.toList).filterMap ofLine? := by
  rw [markedLines, List.filterMap_filter]
  refine List.filterMap_congr fun line _ => ?_
  cases hline : ofLine? line with
  | none => exact ite_self none
  | some counts => exact if_pos (occursIn_of_ofLine? hline)

/-- The last report of some lines has other lines behind it, but no report. -/
lemma getLast?_filterMap_ofLine?_iff {ls : List (List Char)} :
    (ls.filterMap ofLine?).getLast? = some counts ↔
      ∃ front line back, ls = front ++ line :: back ∧ ofLine? line = some counts ∧
        ∀ later ∈ back, ofLine? later = none := by
  rw [List.getLast?_filterMap, List.findSome?_eq_some_iff]
  constructor
  · rintro ⟨back, line, front, hls, hline, hback⟩
    refine ⟨front.reverse, line, back.reverse, ?_, hline, fun later hlater => ?_⟩
    · rw [List.reverse_eq_append_iff.mp hls, List.reverse_cons, List.append_assoc]
      rfl
    · exact hback later (List.mem_reverse.mp hlater)
  · rintro ⟨front, line, back, rfl, hline, hback⟩
    refine ⟨back.reverse, line, front.reverse, ?_, hline, fun later hlater => ?_⟩
    · rw [List.reverse_append, List.reverse_cons, List.append_assoc]
      rfl
    · exact hback later (List.mem_reverse.mp hlater)

/-- A read passes with one pair of counts only. -/
lemma passes_iff : counts.passes expected = true ↔ counts = ⟨expected.toNat, 0⟩ := by
  cases counts
  simp only [passes, Bool.and_eq_true, beq_iff_eq, mk.injEq]

/-- An output without a report does not pass. -/
lemma passes_ofOutput_iff : (ofOutput output).passes expected = true ↔
    ((markedLines output).filterMap ofLine?).getLast? = some ⟨expected.toNat, 0⟩ := by
  rw [passes_iff, ofOutput, ofLines, ← filterMap_markedLines, List.getLastD_eq_getLast?]
  cases ((markedLines output).filterMap ofLine?).getLast? with
  | none => simp [unreported]
  | some counts => rw [Option.getD_some, Option.some.injEq]

end SampleCounts

namespace Verdict

open SampleCounts

/-- A read passes exactly if its last report has the counts that are expected; marked lines behind
it that are no reports are passed over. If the last marked line is a report, it decides. -/
theorem last_report_decides (expected : UInt64) (output : String) :
    (passed ⟨expected, ofOutput output⟩ = true ↔
      ∃ front line back, markedLines output = front ++ line :: back ∧
        ofLine? line = some ⟨expected.toNat, 0⟩ ∧ ∀ later ∈ back, ofLine? later = none) ∧
    ∀ line counts, (markedLines output).getLast? = some line → ofLine? line = some counts →
      (passed ⟨expected, ofOutput output⟩ = true ↔ counts = ⟨expected.toNat, 0⟩) := by
  have hpassed : passed ⟨expected, ofOutput output⟩ = true ↔
      ((markedLines output).filterMap ofLine?).getLast? = some ⟨expected.toNat, 0⟩ :=
    passes_ofOutput_iff
  refine ⟨hpassed.trans getLast?_filterMap_ofLine?_iff, fun line counts hlast hline => ?_⟩
  obtain ⟨front, hmarked⟩ := List.getLast?_eq_some_iff.mp hlast
  have hreport : ((markedLines output).filterMap ofLine?).getLast? = some counts :=
    getLast?_filterMap_ofLine?_iff.mpr ⟨front, line, [], hmarked, hline, List.forall_mem_nil _⟩
  rw [hpassed, hreport, Option.some.injEq]

/-- An output whose second report was cut off. -/
def truncatedOutput : String :=
  "Correct Sample Count 64 Incorrect Sample Count 0\nCorrect Sample Count\n"

/-- A read may pass although the last marked line is no report: the one in front of it decides. -/
theorem truncated_report_is_passed_over :
    passed ⟨64, ofOutput truncatedOutput⟩ = true ∧
      (markedLines truncatedOutput).getLast? = some "Correct Sample Count".toList ∧
      ofLine? "Correct Sample Count".toList = none := by
  refine ⟨by decide +kernel, by decide +kernel, by decide +kernel⟩

end Verdict

end TileBench
