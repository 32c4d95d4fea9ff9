import TileBench.Proofs.BenchLog.Defects
import TileBench.Proofs.BenchLog.Meaning
import Mathlib.Data.List.Induction
import Mathlib.Tactic.ByContra

/-!
# The bad row that is blamed

Whether a row of a log is bad depends on the rows in front of it, because the first line with each
timing marker is not read. Reading ends at the first bad row and blames its first defect, so what
comes after this row makes no difference. A log without a bad row can only lack a header line.
-/

namespace TileBench

open Text

variable {rows earlier front back : List (Option (List Char))} {row : Option (List Char)}
  {marker : LogMarker} {line : List Char} {index : Nat}

/-! ### Bad rows -/

/-- One of the rows carries a marker. -/
def HasMarker (rows : List (Option (List Char))) (marker : LogMarker) : Prop :=
  ∃ line, some line ∈ rows ∧ Reading.tagged marker line = true

/-- A row is bad, where `earlier` are the rows in front of it: it is not UTF-8, it is a header line
with too few words, or it is a timing line after the warm-up line that lacks a number. -/
inductive BadRow (earlier : List (Option (List Char))) : Option (List Char) → Prop
  | notUtf8 : BadRow earlier none
  | layout {line : List Char} (htagged : Reading.tagged .blocksPerFile line = true)
    (hshort : (words line).length < 17) : BadRow earlier (some line)
  | restructureBox {line : List Char} (htagged : Reading.tagged .restructuringSize line = true)
    (hshort : (words line).length < 6) : BadRow earlier (some line)
  | problem {line : List Char} (htagged : Reading.tagged .globalData line = true)
    (hshort : (words line).length < 18) : BadRow earlier (some line)
  | timing {marker : LogMarker} {line : List Char} {index : Nat}
    (htiming : marker.isTiming = true) (htagged : Reading.tagged marker line = true)
    (hwarm : HasMarker earlier marker) (hfield : index ∈ marker.fields)
    (hnumber : numberOf? line index = none) : BadRow earlier (some line)

/-- No row is bad. -/
def AllGood (rows : List (Option (List Char))) : Prop :=
  ∀ front row back, rows = front ++ row :: back → ¬ BadRow front row

/-- `row` is the first bad one of the rows, and `front` are those before it. -/
structure FirstBad (rows front : List (Option (List Char))) (row : Option (List Char)) : Prop where
  stands : front ++ [row] <+: rows
  good : AllGood front
  bad : BadRow front row

/-- A field of a line is read, and is missing or is no number where one is wanted. -/
structure FailsAt (earlier : List (Option (List Char))) (line : List Char) (marker : LogMarker)
    (index : Nat) : Prop where
  tagged : Reading.tagged marker line = true
  warm : marker.isTiming = true → HasMarker earlier marker
  field : index ∈ marker.fields
  unreadable : wordOf? line index = none ∨ marker.isTiming = true ∧ numberOf? line index = none

/-- The field is the first one to fail for its marker, and the marker the first one with such a
field. -/
structure FailsFirst (earlier : List (Option (List Char))) (line : List Char) (marker : LogMarker)
    (index : Nat) : Prop where
  fails : FailsAt earlier line marker index
  marker_first : ∀ other i, FailsAt earlier line other i → marker.rank ≤ other.rank
  field_first : ∀ i, FailsAt earlier line marker i → index ≤ i

/-- The error tells about the first field of a bad row that fails. -/
inductive Blames (earlier : List (Option (List Char))) : Option (List Char) → RowError → Prop
  | notUtf8 : Blames earlier none .notUtf8
  | missing {line : List Char} {marker : LogMarker} {index : Nat}
    (hfirst : FailsFirst earlier line marker index) (hword : wordOf? line index = none) :
    Blames earlier (some line) (.line (.tooShort marker (words line).length index))
  | notNumber {line : List Char} {marker : LogMarker} {index : Nat} {word : String}
    (hfirst : FailsFirst earlier line marker index) (hword : wordOf? line index = some word) :
    Blames earlier (some line) (.line (.notNumber marker index word))

/-! ### Bad lines and fields that fail -/

/-- A line is too short if its last field is missing. -/
lemma badRow_some_iff :
    BadRow earlier (some line) ↔ ∃ marker index, FailsAt earlier line marker index := by
  constructor
  · intro hbad
    cases hbad with
    | layout htagged hshort =>
      exact ⟨.blocksPerFile, 16, htagged, nofun, by decide,
        .inl (wordOf?_eq_none_iff.mpr (by omega))⟩
    | restructureBox htagged hshort =>
      exact ⟨.restructuringSize, 5, htagged, nofun, by decide,
        .inl (wordOf?_eq_none_iff.mpr (by omega))⟩
    | problem htagged hshort =>
      exact ⟨.globalData, 17, htagged, nofun, by decide,
        .inl (wordOf?_eq_none_iff.mpr (by omega))⟩
    | @timing marker _ index htiming htagged hwarm hfield hnumber =>
      exact ⟨marker, index, htagged, fun _ => hwarm, hfield, .inr ⟨htiming, hnumber⟩⟩
  · rintro ⟨marker, index, htagged, hwarm, hfield, hunreadable⟩
    cases htiming : marker.isTiming with
    | true =>
      refine .timing htiming htagged (hwarm htiming) hfield ?_
      obtain hword | ⟨-, hnumber⟩ := hunreadable
      · rw [numberOf?, hword]
        rfl
      · exact hnumber
    | false =>
      have hmissing : (words line).length ≤ index := by
        obtain hword | ⟨htiming', -⟩ := hunreadable
        · exact wordOf?_eq_none_iff.mp hword
        · rw [htiming] at htiming'
          cases htiming'
      cases marker with
      | blocksPerFile =>
        refine .layout htagged ?_
        simp only [LogMarker.fields, List.mem_cons, List.not_mem_nil, or_false] at hfield
        omega
      | restructuringSize =>
        refine .restructureBox htagged ?_
        simp only [LogMarker.fields, List.mem_cons, List.not_mem_nil, or_false] at hfield
        omega
      | globalData =>
        refine .problem htagged ?_
        simp only [LogMarker.fields, List.mem_cons, List.not_mem_nil, or_false] at hfield
        omega
      | fileCreate | writeTime | timeTaken => cases htiming

lemma fieldDefect?_eq_some_iff {e : LineError} : fieldDefect? marker line index = some e ↔
    wordOf? line index = none ∧ e = .tooShort marker (words line).length index ∨
      ∃ word, wordOf? line index = some word ∧ marker.isTiming = true ∧
        numberOf? line index = none ∧ e = .notNumber marker index word := by
  unfold fieldDefect?
  cases wordOf? line index with
  | none => simp [eq_comm (b := e)]
  | some word => simp [eq_comm (b := e), and_assoc]

lemma exists_fieldDefect?_iff : (∃ e, fieldDefect? marker line index = some e) ↔
    wordOf? line index = none ∨ marker.isTiming = true ∧ numberOf? line index = none := by
  simp only [fieldDefect?_eq_some_iff]
  constructor
  · rintro ⟨_, ⟨hword, -⟩ | ⟨_, -, htiming, hnumber, -⟩⟩
    · exact .inl hword
    · exact .inr ⟨htiming, hnumber⟩
  · intro hunreadable
    cases hword : wordOf? line index with
    | none => exact ⟨_, .inl ⟨rfl, rfl⟩⟩
    | some word =>
      obtain hnone | ⟨htiming, hnumber⟩ := hunreadable
      · rw [hword] at hnone
        cases hnone
      · exact ⟨_, .inr ⟨word, rfl, htiming, hnumber, rfl⟩⟩

/-! ### Good rows -/

lemma allGood_nil : AllGood [] := by
  intro front row back h
  simp at h

lemma allGood_concat : AllGood (rows ++ [row]) ↔ AllGood rows ∧ ¬ BadRow rows row := by
  constructor
  · intro hgood
    refine ⟨fun front other back hrows => ?_, hgood rows row [] rfl⟩
    exact hgood front other (back ++ [row]) (by rw [hrows, List.append_assoc, List.cons_append])
  · rintro ⟨hgood, hrow⟩ front other back hrows
    rcases List.eq_nil_or_concat back with rfl | ⟨back, last, rfl⟩
    · obtain ⟨rfl, hlast⟩ := List.append_inj' hrows rfl
      obtain rfl := List.singleton_inj.mp hlast
      exact hrow
    · rw [List.concat_eq_append, ← List.cons_append, ← List.append_assoc] at hrows
      obtain ⟨hfront, -⟩ := List.append_inj' hrows rfl
      exact hgood front other back hfront

lemma exists_firstBad (h : ¬ AllGood rows) : ∃ front row, FirstBad rows front row := by
  -- From the right, because what is bad is said of a row and those in front of it.
  induction rows using List.reverseRecOn with
  | nil => exact absurd allGood_nil h
  | append_singleton rows row ih =>
    by_cases hgood : AllGood rows
    · refine ⟨rows, row, List.prefix_rfl, hgood, ?_⟩
      by_contra hrow
      exact h (allGood_concat.mpr ⟨hgood, hrow⟩)
    · obtain ⟨front, bad, hfirst⟩ := ih hgood
      exact ⟨front, bad, hfirst.stands.trans (List.prefix_append _ _), hfirst.good, hfirst.bad⟩

/-! ### What a reading knows -/

lemma hasMarker_concat :
    HasMarker (rows ++ [some line]) marker ↔
      HasMarker rows marker ∨ Reading.tagged marker line = true := by
  simp only [HasMarker, List.mem_append, List.mem_singleton, Option.some.injEq]
  constructor
  · rintro ⟨other, hmem | rfl, htagged⟩
    · exact .inl ⟨other, hmem, htagged⟩
    · exact .inr htagged
  · rintro (⟨other, hmem, htagged⟩ | htagged)
    · exact ⟨other, .inl hmem, htagged⟩
    · exact ⟨line, .inr rfl, htagged⟩

namespace Reading

variable {r last : Reading}

/-- What a reading knows about the rows that were read. -/
structure Recalls (r : Reading) (rows : List (Option (List Char))) : Prop where
  layout : r.layout.isSome = true ↔ HasMarker rows .blocksPerFile
  problem : r.problem.isSome = true ↔ HasMarker rows .globalData
  reads : ∀ marker, r.reads marker = true ↔ (marker.isTiming = true → HasMarker rows marker)

lemma not_hasMarker_nil : ¬ HasMarker [] marker := by
  rintro ⟨_, hmem, -⟩
  cases hmem

lemma start_recalls : start.Recalls [] where
  layout := by simp [start, not_hasMarker_nil]
  problem := by simp [start, not_hasMarker_nil]
  reads marker := by cases marker <;> simp [start, reads, LogMarker.isTiming, not_hasMarker_nil]

lemma Takes.isSome_iff {α : Type} {StandsOn : List Char → α → Prop} {old new : Option α}
    (h : Takes marker StandsOn some line old new) :
    new.isSome = true ↔ old.isSome = true ∨ tagged marker line = true := by
  unfold Takes at h
  split at h
  · rename_i htagged
    obtain ⟨a, -, rfl⟩ := h
    simp [htagged]
  · rename_i htagged
    simp [h, htagged]

lemma Recalls.concat {next : Reading} (hr : r.Recalls rows) (h : Adds line r next) :
    next.Recalls (rows ++ [some line]) where
  layout := by rw [h.layout.isSome_iff, hr.layout, hasMarker_concat]
  problem := by rw [h.problem.isSome_iff, hr.problem, hasMarker_concat]
  reads marker := by
    have hreads := hr.reads marker
    rw [hasMarker_concat]
    cases marker with
    | blocksPerFile | restructuringSize | globalData => simp [Reading.reads, LogMarker.isTiming]
    | fileCreate | writeTime | timeTaken =>
      simp only [Reading.reads, LogMarker.isTiming, true_implies] at hreads ⊢
      simp [h.createWarm, h.writeWarm, h.takenWarm, hreads]

lemma Recalls.failsAt_iff (hr : r.Recalls earlier) :
    FailsAt earlier line marker index ↔ (tagged marker line && r.reads marker) = true ∧
      index ∈ marker.fields ∧ ∃ e, fieldDefect? marker line index = some e := by
  rw [exists_fieldDefect?_iff, Bool.and_eq_true, hr.reads, and_assoc]
  constructor
  · rintro ⟨htagged, hwarm, hfield, hunreadable⟩
    exact ⟨htagged, hwarm, hfield, hunreadable⟩
  · rintro ⟨htagged, hwarm, hfield, hunreadable⟩
    exact ⟨htagged, hwarm, hfield, hunreadable⟩

lemma Recalls.exists_markerDefect?_iff (hr : r.Recalls earlier) :
    (∃ e, r.markerDefect? line marker = some e) ↔ ∃ index, FailsAt earlier line marker index := by
  simp only [hr.failsAt_iff, markerDefect?, fieldsDefect?, ← Option.isSome_iff_exists]
  cases tagged marker line && r.reads marker with
  | false => simp
  | true => simp [List.findSome?_isSome_iff]

lemma Recalls.exists_error_iff (hr : r.Recalls earlier) :
    (∃ e, r.addLine line = .error e) ↔ BadRow earlier (some line) := by
  simp only [addLine_failsWith r line _, badRow_some_iff, ← hr.exists_markerDefect?_iff]
  rw [← Option.isSome_iff_exists, List.findSome?_isSome_iff]
  simp [LogMarker.mem_all, Option.isSome_iff_exists]

/-- The defect that is found is that of the first field to fail. -/
lemma Recalls.blames (hr : r.Recalls earlier) {e : LineError} (h : r.addLine line = .error e) :
    Blames earlier (some line) (.line e) := by
  obtain ⟨marker, -, hmarker, hmarker_first⟩ :=
    exists_first_of_findSome? LogMarker.rank LogMarker.all_sorted
      ((addLine_failsWith r line e).mp h)
  unfold markerDefect? at hmarker
  split at hmarker
  · rename_i hread
    -- Markers and fields are both searched in ascending order, so what is found first is least.
    obtain ⟨index, hmem, hfield, hfield_first⟩ :=
      exists_first_of_findSome? id marker.fields_sorted hmarker
    have hfirst : FailsFirst earlier line marker index := by
      refine ⟨hr.failsAt_iff.mpr ⟨hread, hmem, e, hfield⟩, fun other i hfails => ?_,
        fun i hfails => ?_⟩
      · obtain ⟨e', he'⟩ := hr.exists_markerDefect?_iff.mpr ⟨i, hfails⟩
        exact hmarker_first other other.mem_all e' he'
      · obtain ⟨-, hi, e', he'⟩ := hr.failsAt_iff.mp hfails
        exact hfield_first i hi e' he'
    obtain ⟨hword, rfl⟩ | ⟨word, hword, -, -, rfl⟩ := fieldDefect?_eq_some_iff.mp hfield
    · exact .missing hfirst hword
    · exact .notNumber hfirst hword
  · cases hmarker

/-! ### Runs -/

lemma addRows_append (number : Nat) :
    r.addRows number (front ++ back) =
      r.addRows number front >>= fun next => next.addRows (number + front.length) back := by
  induction front generalizing r number with
  | nil => rfl
  | cons row front ih =>
    simp only [List.cons_append, addRows, List.length_cons]
    cases r.addRow row with
    | error e => rfl
    | ok next =>
      dsimp only
      rw [ih, Nat.add_assoc, Nat.add_comm 1]

/-- Good rows are read to the end. -/
lemma exists_addRows_of_allGood (h : AllGood rows) :
    ∃ last, start.addRows 1 rows = .ok last ∧ last.Recalls rows := by
  induction rows using List.reverseRecOn with
  | nil => exact ⟨start, rfl, start_recalls⟩
  | append_singleton rows row ih =>
    obtain ⟨hgood, hrow⟩ := allGood_concat.mp h
    obtain ⟨r, hrun, hr⟩ := ih hgood
    cases row with
    | none => exact absurd .notUtf8 hrow
    | some line =>
      cases hline : r.addLine line with
      | error e => exact absurd (hr.exists_error_iff.mp ⟨e, hline⟩) hrow
      | ok next =>
        refine ⟨next, ?_, hr.concat (addLine_eq_ok_iff.mp hline)⟩
        rw [addRows_append, hrun]
        simp [bind, Except.bind, addRows, addRow, hline, Except.mapError]

/-- A bad row after good ones ends the reading, whatever comes after it. -/
lemma exists_blamed (hgood : AllGood front) (hbad : BadRow front row) :
    ∃ e, Blames front row e ∧
      ∀ rows, front ++ [row] <+: rows → start.addRows 1 rows = .error (front.length + 1, e) := by
  obtain ⟨r, hrun, hr⟩ := exists_addRows_of_allGood hgood
  obtain ⟨e, hrow, hblames⟩ : ∃ e, r.addRow row = .error e ∧ Blames front row e := by
    cases row with
    | none => exact ⟨.notUtf8, rfl, .notUtf8⟩
    | some line =>
      obtain ⟨e, hline⟩ := hr.exists_error_iff.mpr hbad
      exact ⟨.line e, by rw [addRow, hline]; rfl, hr.blames hline⟩
  refine ⟨e, hblames, ?_⟩
  rintro _ ⟨back, rfl⟩
  rw [List.append_assoc, addRows_append, hrun]
  simp [bind, Except.bind, addRows, hrow, Nat.add_comm]

lemma allGood_iff : AllGood rows ↔ ∃ last, start.addRows 1 rows = .ok last := by
  constructor
  · intro hgood
    obtain ⟨last, hrun, -⟩ := exists_addRows_of_allGood hgood
    exact ⟨last, hrun⟩
  · rintro ⟨last, hrun⟩
    by_contra hbad
    obtain ⟨front, row, hfirst⟩ := exists_firstBad hbad
    obtain ⟨e, -, hblamed⟩ := exists_blamed hfirst.good hfirst.bad
    rw [hblamed rows hfirst.stands] at hrun
    cases hrun

/-! ### Headers -/

lemma Recalls.exists_finish_iff (hr : r.Recalls rows) (path : String) :
    (∃ log, r.finish path = .ok log) ↔
      HasMarker rows .blocksPerFile ∧ HasMarker rows .globalData := by
  rw [← hr.layout, ← hr.problem]
  unfold finish
  cases r.layout <;> cases r.problem <;> simp

/-- A log without a header lacks the first one that is missing. -/
lemma Recalls.finish_eq_error_iff (hr : r.Recalls rows) {path : String} {fault : Fault} :
    r.finish path = .error fault ↔
      (¬ HasMarker rows .blocksPerFile ∧ fault = .missingMarker path .blocksPerFile) ∨
        (HasMarker rows .blocksPerFile ∧ ¬ HasMarker rows .globalData ∧
          fault = .missingMarker path .globalData) := by
  rw [← hr.layout, ← hr.problem]
  unfold finish
  cases r.layout <;> cases r.problem <;> simp [eq_comm (b := fault)]

end Reading

/-! ### Bytes -/

lemma logLines_append_newline (head tail : Bytes) :
    logLines (head ++ 10 :: tail) = logLines (head ++ [10]) ++ logLines tail := by
  simp only [logLines_eq, rows_append_newline, rows_nil, List.append_nil, List.map_append,
    List.isEmpty_nil, if_true, List.append_assoc]

namespace BenchLog

variable {path : String} {bytes : Bytes}

lemma parse_of_error {number : Nat} {e : RowError}
    (h : Reading.start.addRows 1 (logLines bytes) = .error (number, e)) :
    parse path bytes = .error (e.fault path number) := by
  rw [parse, h]

lemma parse_of_ok {last : Reading} (h : Reading.start.addRows 1 (logLines bytes) = .ok last) :
    parse path bytes = last.finish path := by
  rw [parse, h]

lemma RowError.fault_ne_missingMarker (e : RowError) (number : Nat) {path' : String} :
    e.fault path number ≠ .missingMarker path' marker := by
  cases e <;> nofun

lemma exists_parse_iff :
    (∃ log, parse path bytes = .ok log) ↔ AllGood (logLines bytes) ∧
      HasMarker (logLines bytes) .blocksPerFile ∧ HasMarker (logLines bytes) .globalData := by
  constructor
  · rintro ⟨log, hparse⟩
    obtain ⟨last, hrun, hfinish⟩ := parse_eq_ok_iff_finish.mp hparse
    have hgood := Reading.allGood_iff.mpr ⟨last, hrun⟩
    obtain ⟨last', hrun', hrecalls⟩ := Reading.exists_addRows_of_allGood hgood
    cases hrun.symm.trans hrun'
    exact ⟨hgood, (hrecalls.exists_finish_iff path).mp ⟨log, hfinish⟩⟩
  · rintro ⟨hgood, hheaders⟩
    obtain ⟨last, hrun, hrecalls⟩ := Reading.exists_addRows_of_allGood hgood
    rw [parse_of_ok hrun]
    exact (hrecalls.exists_finish_iff path).mpr hheaders

/-- A header is missed only in a log without a bad row. -/
lemma parse_eq_missingMarker_iff {path' : String} :
    parse path bytes = .error (.missingMarker path' marker) ↔
      path' = path ∧ AllGood (logLines bytes) ∧
        (marker = .blocksPerFile ∧ ¬ HasMarker (logLines bytes) .blocksPerFile ∨
          marker = .globalData ∧ HasMarker (logLines bytes) .blocksPerFile ∧
            ¬ HasMarker (logLines bytes) .globalData) := by
  by_cases hgood : AllGood (logLines bytes)
  · obtain ⟨last, hrun, hrecalls⟩ := Reading.exists_addRows_of_allGood hgood
    rw [parse_of_ok hrun, hrecalls.finish_eq_error_iff]
    constructor
    · rintro (⟨hlayout, ⟨⟩⟩ | ⟨hlayout, hproblem, ⟨⟩⟩)
      · exact ⟨rfl, hgood, .inl ⟨rfl, hlayout⟩⟩
      · exact ⟨rfl, hgood, .inr ⟨rfl, hlayout, hproblem⟩⟩
    · rintro ⟨rfl, -, ⟨rfl, hlayout⟩ | ⟨rfl, hlayout, hproblem⟩⟩
      · exact .inl ⟨hlayout, rfl⟩
      · exact .inr ⟨hlayout, hproblem, rfl⟩
  · obtain ⟨front, row, hfirst⟩ := exists_firstBad hgood
    obtain ⟨e, -, hblamed⟩ := Reading.exists_blamed hfirst.good hfirst.bad
    rw [parse_of_error (hblamed _ hfirst.stands)]
    constructor
    · intro h
      exact absurd (Except.error.inj h) (RowError.fault_ne_missingMarker e _)
    · rintro ⟨-, h, -⟩
      exact absurd h hgood

/-- A log is read exactly if no row is bad and both headers are there. Otherwise the first bad row
is blamed, by its number and its first field that cannot be read, and what comes after it makes no
difference; or the first missing header is named, if no row is bad. -/
theorem parse_blames_first_bad_row (path : String) (bytes : Bytes) :
    ((∃ log, parse path bytes = .ok log) ↔ AllGood (logLines bytes) ∧
      HasMarker (logLines bytes) .blocksPerFile ∧ HasMarker (logLines bytes) .globalData) ∧
    (¬ AllGood (logLines bytes) → ∃ front row, FirstBad (logLines bytes) front row) ∧
    (∀ front row, FirstBad (logLines bytes) front row → ∃ e, Blames front row e ∧
      parse path bytes = .error (e.fault path (front.length + 1)) ∧
      ∀ bytes', front ++ [row] <+: logLines bytes' →
        parse path bytes' = .error (e.fault path (front.length + 1))) ∧
    (∀ head tail tail', ¬ AllGood (logLines (head ++ [10])) → bytes = head ++ 10 :: tail →
      parse path bytes = parse path (head ++ 10 :: tail')) ∧
    ∀ path' marker, parse path bytes = .error (.missingMarker path' marker) ↔
      path' = path ∧ AllGood (logLines bytes) ∧
        (marker = .blocksPerFile ∧ ¬ HasMarker (logLines bytes) .blocksPerFile ∨
          marker = .globalData ∧ HasMarker (logLines bytes) .blocksPerFile ∧
            ¬ HasMarker (logLines bytes) .globalData) := by
  refine ⟨exists_parse_iff, exists_firstBad, fun front row hfirst => ?_, ?_,
    fun path' marker => parse_eq_missingMarker_iff⟩
  · obtain ⟨e, hblames, hblamed⟩ := Reading.exists_blamed hfirst.good hfirst.bad
    exact ⟨e, hblames, parse_of_error (hblamed _ hfirst.stands),
      fun bytes' hstands => parse_of_error (hblamed _ hstands)⟩
  · rintro head tail tail' hbad rfl
    -- The first bad row of the part up to the newline is that of the whole, whatever comes after.
    obtain ⟨front, row, hfirst⟩ := exists_firstBad hbad
    obtain ⟨e, -, hblamed⟩ := Reading.exists_blamed hfirst.good hfirst.bad
    have hstands : ∀ tail, front ++ [row] <+: logLines (head ++ 10 :: tail) := fun tail => by
      rw [logLines_append_newline]
      exact hfirst.stands.trans (List.prefix_append _ _)
    rw [parse_of_error (hblamed _ (hstands tail)), parse_of_error (hblamed _ (hstands tail'))]

end BenchLog

end TileBench
