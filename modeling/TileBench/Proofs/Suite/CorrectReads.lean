import TileBench.Proofs.SampleCount.LastReport
import TileBench.Proofs.Suite.Verdicts
import TileBench.Proofs.Text.Words

/-!
# Correct reads

A read that finds all of its samples correct reports their number, and that none was incorrect. How
many samples a case expects is a 64-bit word, but what a read reports is decoded as signed numbers
of 64 bits. So such a read passes if it has fewer than `2 ^ 63` samples. A report on more samples
cannot be decoded and is passed over, and then the read fails, whatever else stands in its output.
-/

namespace TileBench

open Text

namespace SampleCounts

variable {output : String} {line : List Char} {counts : SampleCounts}

/-- The report of a read with `n` samples that are all correct. -/
def allCorrect (n : Nat) : String :=
  "Correct Sample Count " ++ toString n ++ " Incorrect Sample Count 0"

/-- What stands behind the number of correct samples. -/
def noneIncorrect : List Char := "Incorrect Sample Count 0".toList

lemma toList_allCorrect (n : Nat) : (allCorrect n).toList =
    marker ++ ' ' :: (Nat.toDigits 10 n ++ ' ' :: noneIncorrect) := by
  have hfront : "Correct Sample Count ".toList = marker ++ [' '] := rfl
  have hback : " Incorrect Sample Count 0".toList = ' ' :: noneIncorrect := rfl
  have hdigits : (toString n).toList = Nat.toDigits 10 n := Nat.toList_repr
  unfold allCorrect
  rw [String.toList_append, String.toList_append, hfront, hdigits, hback]
  simp

lemma words_allCorrect (n : Nat) : words (allCorrect n).toList =
    words marker ++ Nat.toDigits 10 n :: words noneIncorrect := by
  rw [toList_allCorrect, words_append_blank isBlank_space, words_append_blank isBlank_space,
    (isWord_toDigits n).words_eq]
  rfl

/-- The report can be decoded if the number of samples fits. -/
lemma ofLine?_allCorrect (n : Nat) :
    ofLine? (allCorrect n).toList = if n < 2 ^ 63 then some ⟨n, 0⟩ else none := by
  have hmarked : occursIn marker (allCorrect n).toList = true := by
    rw [occursIn_iff, toList_allCorrect]
    exact (List.prefix_append _ _).isInfix
  have hcorrect : (words (allCorrect n).toList)[3]? = some (Nat.toDigits 10 n) := by
    rw [words_allCorrect]
    exact List.getElem?_append_right (show (words marker).length ≤ 3 by decide)
  have hincorrect : (words (allCorrect n).toList)[7]? = some ['0'] := by
    rw [words_allCorrect]
    exact List.getElem?_append_right (show (words marker).length ≤ 7 by decide)
  have hzero : signed64? ['0'] = some 0 := rfl
  rw [ofLine?, if_pos hmarked, hcorrect, hincorrect]
  by_cases hfits : n < 2 ^ 63
  · have hread : signed64? (Nat.toDigits 10 n) = some (n : Int) :=
      (signed64?_toDigits n).trans (if_pos hfits)
    rw [if_pos hfits]
    simp [hread, hzero]
  · have hread : signed64? (Nat.toDigits 10 n) = none :=
      (signed64?_toDigits n).trans (if_neg hfits)
    rw [if_neg hfits]
    simp [hread]

lemma correct_lt_of_ofLine? (h : ofLine? line = some counts) :
    counts.correct < signed64Limit := by
  rw [ofLine?, if_pos (occursIn_of_ofLine? h)] at h
  obtain ⟨_, -, h⟩ := Option.bind_eq_some_iff.mp h
  obtain ⟨correct, hcorrect, h⟩ := Option.bind_eq_some_iff.mp h
  obtain ⟨_, -, h⟩ := Option.bind_eq_some_iff.mp h
  obtain ⟨incorrect, -, ⟨⟩⟩ := Option.bind_eq_some_iff.mp h
  exact lt_of_signed64? hcorrect

/-- What a correct report at the end of an output is worth. -/
lemma passes_of_allCorrect {n : UInt64}
    (hlast : (markedLines output).getLast? = some (allCorrect n.toNat).toList) :
    (ofOutput output).passes n = true ↔ n.toNat < 2 ^ 63 := by
  rw [passes_ofOutput_iff, getLast?_filterMap_ofLine?_iff]
  constructor
  · rintro ⟨front, line, back, -, hline, -⟩
    have hlt := correct_lt_of_ofLine? hline
    exact Int.ofNat_lt.mp hlt
  · intro hfits
    obtain ⟨front, hmarked⟩ := List.getLast?_eq_some_iff.mp hlast
    refine ⟨front, _, [], hmarked, ?_, List.forall_mem_nil _⟩
    rw [ofLine?_allCorrect, if_pos hfits]

end SampleCounts

namespace Harness

open SampleCounts

/-- The verdict on a read whose last report says that all expected samples are correct. The read
passes if their number is below `2 ^ 63`, and only then; and every run of the case says so. -/
theorem correct_read_passes_iff (c : Case) (n : UInt64) (hexpected : c.expectedSamples = .ok n)
    (output : String)
    (hlast : (markedLines output).getLast? = some (allCorrect n.toNat).toList) :
    (Verdict.passed ⟨n, ofOutput output⟩ = true ↔ n.toNat < 2 ^ 63) ∧
    ∀ (h : Harness) (s : Session) (o : CaseOutcome), ((h.runCase c).run s).1 = .ok o →
      ∀ (k : Nat) (command : Command) (exitCode : Option Int),
        ((h.runCase c).trace s)[k]? = some ⟨.read, command, .ok ⟨true, exitCode, output⟩⟩ →
        ∃ r, o.notes[k]? = some (.read r) ∧ r.command = command ∧
          r.verdict = some ⟨n, ofOutput output⟩ ∧ (r.passed = true ↔ n.toNat < 2 ^ 63) := by
  refine ⟨passes_of_allCorrect hlast, fun h s o hrun k command exitCode hk => ?_⟩
  obtain ⟨-, rfl, hreports⟩ := ((h.runCase_follows c).trace s).2.2 o hrun
  obtain ⟨expected, r, hread, hnote, hcommand, hverdict⟩ := hreports.read_note hk
  rw [hexpected] at hread
  cases hread
  refine ⟨r, hnote, hcommand, hverdict, ?_⟩
  rw [ReadOutcome.passed, hverdict]
  exact passes_of_allCorrect hlast

/-- A rehearsal whose reads find the 6912 samples of the case correct. -/
theorem correct_rehearsal_passes :
    rehearsedCase.expectedSamples = .ok 6912 ∧
      ∃ o r, (((rehearsal 0 (allCorrect 6912)).runCase rehearsedCase).run (.start .empty)).1 =
          .ok o ∧
        o.notes[1]? = some (.read r) ∧ r.passed = true := by
  have hexpected : rehearsedCase.expectedSamples = .ok 6912 := rfl
  obtain ⟨o, hrun, htrace⟩ := exists_rehearsal 0 (allCorrect 6912)
  have hlast : (markedLines (allCorrect 6912)).getLast? = some (allCorrect 6912).toList := by
    decide +kernel
  obtain ⟨r, hnote, -, -, hpassed⟩ := (correct_read_passes_iff rehearsedCase 6912 hexpected
    (allCorrect 6912) hlast).2 _ _ o hrun 1 _ (some 0) (by rw [htrace]; rfl)
  exact ⟨hexpected, o, r, hrun, hnote, hpassed.mpr (by decide)⟩

/-- A case of four blocks with `2 ^ 63` samples together. -/
def vastCase : Case where
  writers := 4
  readers := 4
  box := ⟨4611686018427387904, 2, 1⟩
  block := ⟨2305843009213693952, 1, 1⟩
  restructureBox := ⟨2305843009213693952, 1, 1⟩
  timesteps := 1
  vars := 1
  varType := ⟨1, "float32"⟩
  label := none

/-- Its reads fail though they report that all of these samples are correct: they are taken for
reads without a report. -/
theorem correct_read_of_vastCase_fails :
    vastCase.expectedSamples = .ok 9223372036854775808 ∧
      (markedLines (allCorrect 9223372036854775808)).getLast? =
        some (allCorrect 9223372036854775808).toList ∧
      ∃ o r, (((rehearsal 0 (allCorrect 9223372036854775808)).runCase vastCase).run
          (.start .empty)).1 = .ok o ∧
        o.notes[1]? = some (.read r) ∧ r.passed = false ∧
        r.verdict = some ⟨9223372036854775808, unreported⟩ := by
  have hexpected : vastCase.expectedSamples = .ok 9223372036854775808 := rfl
  have hready : vastCase.Ready .standard := ⟨⟨[⟨2, 2, 1⟩], rfl⟩, _, hexpected⟩
  have hundecoded : ofOutput (allCorrect 9223372036854775808) = unreported := by decide +kernel
  obtain ⟨o, hrun, htrace⟩ :=
    exists_rehearsal_of_ready hready 0 (allCorrect 9223372036854775808)
  obtain ⟨-, hcase, hreports⟩ := ((Harness.runCase_follows _ vastCase).trace _).2.2 o hrun
  rw [htrace] at hreports
  -- The first read is the second launch, behind the write.
  have hread : (vastCase.requests .standard [])[1]? = some
      ⟨.read, (vastCase.plannedRead .standard [] ⟨2305843009213693952, 1, 1⟩ 1 0).command⟩ := rfl
  obtain ⟨expected, r, hexpected', hnote, -, hverdict⟩ := hreports.read_note
    ((List.getElem?_map ..).trans (congrArg (Option.map _) hread))
  rw [hcase, hexpected] at hexpected'
  cases hexpected'
  have hunreported : r.verdict = some ⟨9223372036854775808, unreported⟩ := by
    rw [hverdict, ← hundecoded]
    rfl
  refine ⟨hexpected, by decide +kernel, o, r, hrun, hnote, ?_, hunreported⟩
  rw [ReadOutcome.passed, hunreported]
  rfl

end Harness

end TileBench
