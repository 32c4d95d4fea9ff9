import TileBench.BenchLog.Collection
import TileBench.Proofs.BenchLog.Meaning
import TileBench.Proofs.Statistics
import TileBench.Proofs.Text.Encoding
import TileBench.Proofs.Text.Words

/-!
# The columns of the table

What is taken from a log are words of its lines, so a row has a word for each column of the header
and nothing but blanks between them. The table is cut into its rows at the line ends, and a row into
its columns at the blanks. Eight of the columns are means and one is a peak, each of them `nan` where
nothing was measured.
-/

namespace TileBench

open Text

/-! ### Cells -/

lemma Decimal.isWord_sign_append (negative : Bool) {text : String} (h : IsWord text.toList) :
    IsWord (signText negative ++ text).toList := by
  rw [String.toList_append]
  cases negative with
  | false => exact h
  | true => exact IsWord.append (by decide) h

lemma Decimal.isWord_pointed (places units : Nat) : IsWord (pointed places units).toList := by
  have hfraction : IsWord ((Nat.toDigits 10 (units % Nat.pow 10 places)).leftpad places '0') :=
    ⟨by simp [List.leftpad], List.forall_mem_append.mpr
      ⟨fun c hc => (List.eq_of_mem_replicate hc) ▸ by decide, (isWord_toDigits _).2⟩⟩
  simp only [pointed, String.toList_append, String.toList_ofList]
  exact ((isWord_toString _).append (by decide)).append hfraction

lemma Decimal.isWord_fixed (places : Nat) (x : Float) : IsWord (fixed places x).toList := by
  unfold fixed
  cases Parts.ofFloat x with
  | nan => exact (by decide : IsWord "NaN".toList)
  | infinite negative => exact isWord_sign_append negative (by decide)
  | finite negative m q => exact isWord_sign_append negative (isWord_pointed _ _)

namespace BenchLog

/-- A statistic as it stands in a row: six places, or `nan` if there is none. -/
def statisticText : Option Float → String
  | none => "nan"
  | some x => if x.isNaN then "nan" else Decimal.fixed 6 x

lemma isWord_statisticText (statistic : Option Float) : IsWord (statisticText statistic).toList := by
  cases statistic with
  | none => exact (by decide : IsWord "nan".toList)
  | some x =>
    rw [statisticText]
    split
    · decide
    · exact Decimal.isWord_fixed 6 x

/-- An empty series has no number in its cells. -/
lemma cell_of {values : List Float} {f : Statistics → Float} (h : (f (.of [])).isNaN = true) :
    cell (f (.of values)) = statisticText (if values = [] then none else some (f (.of values))) := by
  split_ifs with hempty
  · rw [hempty, cell, if_pos h]
    rfl
  · rfl

lemma cell_mean (values : List Float) :
    cell (Statistics.of values).mean = statisticText (Statistics.mean? values) := by
  rw [Statistics.mean?_eq, cell_of Statistics.isNaN_of_nil.1]

/-! ### Words of a log -/

/-- Everything that a row takes from the header of a log is a word. -/
structure IsWorded (log : BenchLog) : Prop where
  cores : IsWord log.problem.cores.toList
  extent : IsWord log.problem.extent.text.toList
  vars : IsWord log.problem.vars.toList
  restructureBox : IsWord log.restructureBox.text.toList
  blocksPerFile : IsWord log.layout.blocksPerFile.toList
  bitsPerBlock : IsWord log.layout.bitsPerBlock.toList
  fileCount : IsWord log.layout.fileCount.toList
  aggregatorFactor : IsWord log.layout.aggregatorFactor.toList
  aggregatorCount : IsWord log.layout.aggregatorCount.toList
  idxBox : IsWord log.problem.idxBox.text.toList

variable {line : List Char} {log : BenchLog} {logs : List BenchLog}

lemma isWord_of_wordOf? {index : Nat} {word : String} (h : wordOf? line index = some word) :
    IsWord word.toList := by
  obtain ⟨w, hw, rfl⟩ := Option.map_eq_some_iff.mp h
  rw [String.toList_ofList]
  exact isWord_of_mem_words (List.mem_of_getElem? hw)

lemma isWord_boxText {b : WordBox} (hx : IsWord b.x.toList) (hy : IsWord b.y.toList)
    (hz : IsWord b.z.toList) : IsWord b.text.toList := by
  have hcross : IsWord "x".toList := by decide
  simp only [WordBox.text, String.toList_append]
  exact (((hx.append hcross).append hy).append hcross).append hz

/-- What is read from a log is made of words. -/
lemma isWorded_of_parse {path : String} {bytes : Bytes} (h : parse path bytes = .ok log) :
    log.IsWorded := by
  obtain ⟨-, text, -, -, hmeans⟩ := parse_eq_ok_iff.mp h
  obtain ⟨line, -, hlayout⟩ := hmeans.layout
  obtain ⟨line', -, hproblem⟩ := hmeans.problem
  have hbox : IsWord log.restructureBox.text.toList := by
    rcases hlast : (taggedLines (lines text) .restructuringSize).getLast? with _ | line
    · rw [hmeans.no_restructureBox (List.getLast?_eq_none_iff.mp hlast)]
      decide
    · have hstands := hmeans.restructureBox line hlast
      exact isWord_boxText (isWord_of_wordOf? hstands.x) (isWord_of_wordOf? hstands.y)
        (isWord_of_wordOf? hstands.z)
  exact
    { cores := isWord_of_wordOf? hproblem.cores
      extent := isWord_boxText (isWord_of_wordOf? hproblem.extent_x)
        (isWord_of_wordOf? hproblem.extent_y) (isWord_of_wordOf? hproblem.extent_z)
      vars := isWord_of_wordOf? hproblem.vars
      restructureBox := hbox
      blocksPerFile := isWord_of_wordOf? hlayout.blocksPerFile
      bitsPerBlock := isWord_of_wordOf? hlayout.bitsPerBlock
      fileCount := isWord_of_wordOf? hlayout.fileCount
      aggregatorFactor := isWord_of_wordOf? hlayout.aggregatorFactor
      aggregatorCount := isWord_of_wordOf? hlayout.aggregatorCount
      idxBox := isWord_boxText (isWord_of_wordOf? hproblem.idxBox_x)
        (isWord_of_wordOf? hproblem.idxBox_y) (isWord_of_wordOf? hproblem.idxBox_z) }

/-! ### The header -/

def columnNames : List String :=
  ["#", "core", "g_x_g_y_g_z_v#", "Bx*By*Bz", "BPF_BPB", "FC", "AF", "AC", "x*y*z", "Time(m)",
    "Thpt(m)", "Thpt(max)", "Create(m)", "rst(m)", "brst(m)", "hz(m)", "agg(m)", "io(m)"]

/-- The header is a line with the names of the columns, without the tag of the layout. -/
lemma tableHeader_names : '\n' ∉ tableHeader.toList ∧ '\r' ∉ tableHeader.toList ∧
    words tableHeader.toList = columnNames.map String.toList ∧
    ¬ Reading.tagged .blocksPerFile tableHeader.toList = true := by
  decide +kernel

/-! ### Rows -/

/-- The columns of a row, given the peak of the throughput. -/
def columns (log : BenchLog) (peak : Option Float) : List String :=
  let mean (values : List Float) : String := statisticText (Statistics.mean? values)
  [toString log.iterations, log.problem.cores, log.problem.extent.text ++ "x" ++ log.problem.vars,
    log.restructureBox.text, log.layout.blocksPerFile ++ "x" ++ log.layout.bitsPerBlock,
    log.layout.fileCount, log.layout.aggregatorFactor, log.layout.aggregatorCount,
    log.problem.idxBox.text, mean log.timings.time, mean log.timings.throughput,
    statisticText peak, mean log.timings.fileCreate, mean log.timings.restructure,
    mean log.timings.blockRestructure, mean log.timings.hz, mean log.timings.aggregation,
    mean log.timings.io]

def peak? (log : BenchLog) : Option Float :=
  if log.timings.throughput = [] then none
  else some (Statistics.of log.timings.throughput).maximum

/-- The columns of a row after the first. -/
def otherColumns (log : BenchLog) : List (List Char) :=
  (log.columns log.peak?).tail.map String.toList

/-- How wide the gaps between the columns are, beyond one blank. -/
def gaps : List Nat := [1, 1, 0, 2, 5, 5, 5, 0, 7, 5, 5, 5, 5, 5, 5, 5, 5]

lemma toList_intercalate (gap first : String) (rest : List String) :
    (gap.intercalate (first :: rest)).toList =
      first.toList ++ rest.flatMap fun next => gap.toList ++ next.toList := by
  induction rest generalizing first with
  | nil => simp
  | cons next rest ih =>
    rw [String.intercalate_cons_cons, String.toList_append, String.toList_append, ih]
    simp

lemma map_cell_rowStatistics (log : BenchLog) :
    (rowStatistics log.summary).map cell = (log.columns log.peak?).drop 9 := by
  have hpeak : cell (Statistics.of log.timings.throughput).maximum = statisticText log.peak? :=
    cell_of Statistics.isNaN_of_nil.2
  simp only [rowStatistics, summary, Timings.summary, List.map_cons, List.map_nil, cell_mean, hpeak]
  rfl

/-- A row is its columns, with gaps between them. -/
lemma tableRow_eq_spread (log : BenchLog) : (tableRow log).toList =
    spread (toString log.iterations).toList (gaps.zip log.otherColumns) := by
  have hgap₁ : " ".toList = List.replicate (0 + 1) ' ' := rfl
  have hgap₂ : "  ".toList = List.replicate (1 + 1) ' ' := rfl
  have hgap₃ : "   ".toList = List.replicate (2 + 1) ' ' := rfl
  have hgap₆ : "      ".toList = List.replicate (5 + 1) ' ' := rfl
  have hgap₈ : "        ".toList = List.replicate (7 + 1) ' ' := rfl
  unfold tableRow
  rw [map_cell_rowStatistics]
  unfold otherColumns columns gaps
  simp only [List.drop_succ_cons, List.drop_zero, String.toList_append, List.map_cons,
    List.map_nil, toList_intercalate, spread, List.tail_cons, List.zip_cons_cons,
    List.zip_nil_right, List.flatMap_cons, List.flatMap_nil, List.append_assoc, List.append_nil]
  simp only [hgap₁, hgap₂, hgap₃, hgap₆, hgap₈]

lemma length_columns (log : BenchLog) (peak : Option Float) : (log.columns peak).length = 18 := rfl

lemma IsWorded.isWord_column (h : log.IsWorded) (peak : Option Float) :
    ∀ column ∈ log.columns peak, IsWord column.toList := by
  have hcross : IsWord "x".toList := by decide
  have hsize : IsWord (log.problem.extent.text ++ "x" ++ log.problem.vars).toList := by
    simpa using (h.extent.append hcross).append h.vars
  have hblocks : IsWord (log.layout.blocksPerFile ++ "x" ++ log.layout.bitsPerBlock).toList := by
    simpa using (h.blocksPerFile.append hcross).append h.bitsPerBlock
  intro column hcolumn
  simp only [columns, List.mem_cons, List.not_mem_nil, or_false] at hcolumn
  obtain rfl | rfl | rfl | rfl | rfl | rfl | rfl | rfl | rfl | hstatistic := hcolumn
  · exact isWord_toString _
  · exact h.cores
  · exact hsize
  · exact h.restructureBox
  · exact hblocks
  · exact h.fileCount
  · exact h.aggregatorFactor
  · exact h.aggregatorCount
  · exact h.idxBox
  · obtain rfl | rfl | rfl | rfl | rfl | rfl | rfl | rfl | rfl := hstatistic <;>
      exact isWord_statisticText _

lemma IsWorded.isWord_otherColumns (h : log.IsWorded) :
    ∀ part ∈ gaps.zip log.otherColumns, IsWord part.2 := by
  intro part hpart
  obtain ⟨column, hcolumn, hpart⟩ := List.mem_map.mp (List.of_mem_zip hpart).2
  rw [← hpart]
  exact h.isWord_column _ column (List.mem_of_mem_tail hcolumn)

lemma IsWorded.words_tableRow (h : log.IsWorded) :
    words (tableRow log).toList = (log.columns log.peak?).map String.toList := by
  have hlength : log.otherColumns.length ≤ gaps.length := Nat.le_refl 17
  rw [tableRow_eq_spread, words_spread (isWord_toString _) h.isWord_otherColumns,
    List.map_snd_zip hlength]
  rfl

/-! ### Lines -/

/-- Texts without line ends are the lines of what they make up with a newline behind each. -/
lemma lines_join {parts : List String}
    (h : ∀ part ∈ parts, '\n' ∉ part.toList ∧ '\r' ∉ part.toList) :
    lines (String.join (parts.map fun part => part ++ "\n")).toList = parts.map String.toList := by
  have hchars : (String.join (parts.map fun part => part ++ "\n")).toList =
      (parts.map String.toList).flatMap fun part => part ++ ['\n'] := by
    rw [String.toList_join, List.flatMap_map, List.flatMap_map]
    simp only [String.toList_append]
    rfl
  rw [hchars]
  exact lines_flatMap_newline (List.forall_mem_map.mpr h)

/-- The lines of a table are its header and a row for each log. -/
lemma lines_table (h : ∀ log ∈ logs, log.IsWorded) :
    lines (table logs).toList = (tableHeader :: logs.map tableRow).map String.toList := by
  refine lines_join (List.forall_mem_cons.mpr ⟨⟨tableHeader_names.1, tableHeader_names.2.1⟩,
    List.forall_mem_map.mpr fun log hlog => ?_⟩)
  have hends : ∀ c, isBlank c = true → c ≠ ' ' → c ∉ (tableRow log).toList := by
    rw [tableRow_eq_spread]
    exact fun c => not_mem_spread (isWord_toString _) (h log hlog).isWord_otherColumns
  exact ⟨hends '\n' (by decide) (by decide), hends '\r' (by decide) (by decide)⟩

/-- The table of logs that were read is cut at its line ends to the header and a row for each log,
and at the blanks to as many columns as the header has, none of which is empty. -/
theorem table_has_columns
    (h : ∀ log ∈ logs, ∃ path bytes, parse path bytes = .ok log) :
    lines (table logs).toList = (tableHeader :: logs.map tableRow).map String.toList ∧
    (lines (table logs).toList).length = 1 + logs.length ∧
    words tableHeader.toList = columnNames.map String.toList ∧ columnNames.length = 18 ∧
    ∀ log ∈ logs, ∃ peak, Statistics.IsPeak log.timings.throughput peak ∧
      words (tableRow log).toList = (log.columns peak).map String.toList ∧
      (log.columns peak).length = 18 ∧ "" ∉ log.columns peak := by
  have hworded : ∀ log ∈ logs, log.IsWorded := by
    intro log hlog
    obtain ⟨path, bytes, hparse⟩ := h log hlog
    exact isWorded_of_parse hparse
  have hlines := lines_table hworded
  refine ⟨hlines, ?_, tableHeader_names.2.2.1, rfl, fun log hlog => ⟨log.peak?, ?_, ?_⟩⟩
  · rw [hlines]
    simp [Nat.add_comm]
  · exact Statistics.isPeak_maximum _
  · have hlog := hworded log hlog
    exact ⟨hlog.words_tableRow, length_columns log _,
      fun hempty => (hlog.isWord_column _ "" hempty).1 rfl⟩

/-- The lines of a log with a warm-up and two iterations, in the second of which no files were
created. -/
def timedLines : List String :=
  ["64 a a 8 Blocks Per File 15 a a 4 a a 1 a a 32",
    "a 64 Global Data 24 24 12 a 2 a a 4 a 12 a 12 a 6",
    "Time Taken 9 a a 1", "Time Taken 1.5 a a 200", "Time Taken 2 a a 100",
    "File Create time a a a 9", "File Create time a a a 0.5",
    "Write time", "Write time a a a a a a a a a 0.25 a 0.125 a 3 a 1 a -1"]

def timedLog : Bytes := bytesOf (String.join (timedLines.map fun line => line ++ "\n"))

def timedColumns : List String :=
  ["2", "64", "24x24x12x2", "1x1x1", "8x15", "4", "1", "32", "12x12x6", "1.750000", "150.000000",
    "200.000000", "0.500000", "0.250000", "0.125000", "3.000000", "1.000000", "-1.000000"]

lemma parse_timedLog : ∃ log, parse "timed" timedLog = .ok log ∧
    log.timings.throughput = [200.0, 100.0] ∧ log.columns (some 200.0) = timedColumns := by
  have hlines : logLines timedLog = (timedLines.map String.toList).map some := by
    rw [timedLog, bytesOf, logLines_of_decode? (decode?_encode _), lines_join (by decide +kernel)]
  have hread : (parse "timed" timedLog).toOption.map
      (fun log => (log.timings.throughput, log.columns (some 200.0))) =
        some ([200.0, 100.0], timedColumns) := by
    rw [parse, hlines]
    decide +kernel
  rcases hlog : parse "timed" timedLog with _ | log <;> rw [hlog] at hread
  · cases hread
  · exact ⟨log, rfl, Prod.mk.inj (Option.some.inj hread)⟩

/-- A row shows the mean timings, and the greatest throughput. -/
theorem table_of_timedLog : ∃ log, parse "timed" timedLog = .ok log ∧
    (lines (table [log]).toList).length = 2 ∧
    words (tableRow log).toList = timedColumns.map String.toList := by
  obtain ⟨log, hlog, hthroughput, hshown⟩ := parse_timedLog
  obtain ⟨-, hlength, -, -, hcolumns⟩ := table_has_columns fun other hother =>
    ⟨"timed", timedLog, (List.mem_singleton.mp hother) ▸ hlog⟩
  obtain ⟨peak, hpeak, hwords, -⟩ := hcolumns log List.mem_cons_self
  obtain rfl : peak = some 200.0 := by
    rw [hthroughput] at hpeak
    cases hpeak with
    | empty hempty => cases hempty
    | number peak _ hmem _ hgreatest =>
      have hfirst := hgreatest 200.0 List.mem_cons_self
      simp only [List.mem_cons, List.not_mem_nil, or_false] at hmem
      obtain (rfl | rfl) | rfl := hmem
      · rfl
      · exact absurd (by decide +kernel) hfirst
      · exact absurd (by decide +kernel) hfirst
  exact ⟨log, hlog, hlength, hshown ▸ hwords⟩

/-! ### No table is a log -/

/-- The tag of the layout has a word between single blanks. -/
lemma infix_of_tagged (h : Reading.tagged .blocksPerFile line = true) :
    [false, false, false] <:+: (line.splitOn ' ').map List.isEmpty := by
  have htag : 's' :: ' ' :: "Per".toList ++ [' ', 'F'] <:+: LogMarker.blocksPerFile.text.toList :=
    ⟨"Block".toList, "ile".toList, by decide⟩
  exact infix_map_isEmpty_splitOn (by decide) (by decide) (by decide)
    (htag.trans (occursIn_iff.mp h))

/-- No row has a word between single blanks. -/
lemma IsWorded.not_tagged_tableRow (h : log.IsWorded) :
    ¬ Reading.tagged .blocksPerFile (tableRow log).toList = true := by
  intro htagged
  have hinfix := infix_of_tagged htagged
  have hfirst : (gaps.zip log.otherColumns).map (·.1) = gaps := List.map_fst_zip (Nat.le_refl 17)
  have hgaps : (gaps.zip log.otherColumns).flatMap
      (fun part => List.replicate part.1 true ++ [false]) =
        gaps.flatMap fun gap => List.replicate gap true ++ [false] := by
    rw [← hfirst, List.flatMap_map, hfirst]
  rw [tableRow_eq_spread, map_isEmpty_splitOn_spread (isWord_toString _) h.isWord_otherColumns,
    hgaps] at hinfix
  exact absurd hinfix (by decide +kernel)

/-- A table cannot be read as a log. -/
lemma parse_table_ne_ok (h : ∀ log ∈ logs, log.IsWorded) (path : String) (log : BenchLog) :
    parse path (bytesOf (table logs)) ≠ .ok log := by
  intro hparse
  obtain ⟨-, -, hmeans⟩ := (parse_eq_ok_iff_of_decode? (decode?_encode _)).mp hparse
  obtain ⟨line, hline, -⟩ := hmeans.layout
  obtain ⟨hmem, htagged⟩ := List.mem_filter.mp (List.mem_of_getLast? hline)
  rw [lines_table h] at hmem
  simp only [List.map_cons, List.map_map, List.mem_cons, List.mem_map] at hmem
  rcases hmem with hheader | ⟨log, hlog, rfl⟩
  · rw [hheader] at htagged
    exact absurd htagged tableHeader_names.2.2.2
  · exact (h log hlog).not_tagged_tableRow htagged

/-- Tables of a different number of logs differ. -/
lemma length_eq_of_table {logs' : List BenchLog} (h : ∀ log ∈ logs, log.IsWorded)
    (h' : ∀ log ∈ logs', log.IsWorded)
    (htable : bytesOf (table logs) = bytesOf (table logs')) : logs.length = logs'.length := by
  have htext : (table logs).toList = (table logs').toList := by
    have hdecoded := congrArg decode? htable
    simpa only [bytesOf, decode?_encode, Option.some.injEq] using hdecoded
  have hlength := congrArg List.length (congrArg lines htext)
  rw [lines_table h, lines_table h'] at hlength
  simpa using hlength

end BenchLog

end TileBench
