import TileBench.Proofs.BenchLog.Runs
import TileBench.Proofs.Text.Lines

/-!
# The meaning of a log

A log means what its tagged lines say. `BenchLog.Means` says it field by field, for the lines of
each tag on their own; `BenchLog.parse_eq_ok_iff` says that reading a log in one pass over its lines
finds just this meaning, if the tagged lines can be read.
-/

namespace TileBench

open Text

/-! ### Lines -/

variable {bytes : Bytes} {text : List Char}

lemma logLines_eq (bytes : Bytes) :
    logLines bytes = (rows 10 bytes).1.map (fun row => (decode? row).map dropReturn) ++
      if (rows 10 bytes).2.isEmpty then [] else [decode? (rows 10 bytes).2] := rfl

/-- The rows of a log are the lines of its text. -/
lemma logLines_of_decode? (h : decode? bytes = some text) :
    logLines bytes = (lines text).map some := by
  obtain ⟨hended, hrest⟩ := rows_of_decode? h
  have hrows : (rows 10 bytes).1.map (fun row => (decode? row).map dropReturn) =
      ((rows '\n' text).1.map dropReturn).map some := by
    have h := congrArg (List.map (Option.map dropReturn)) hended
    simpa only [List.map_map, Function.comp_def, Option.map_some] using h
  have hempty : (rows 10 bytes).2 = [] ↔ (rows '\n' text).2 = [] := by
    rw [← decode?_eq_some_nil_iff, hrest, Option.some.injEq]
  rw [logLines_eq, lines_eq, hrows, List.map_append, hrest]
  simp only [List.isEmpty_iff, hempty]
  split <;> rfl

/-- A log whose rows are all UTF-8 is UTF-8. -/
lemma exists_decode?_of_logLines {ls : List (List Char)} (h : logLines bytes = ls.map some) :
    ∃ text, decode? bytes = some text := by
  have hsome : ∀ row ∈ logLines bytes, ∃ line, row = some line := by
    intro row hrow
    rw [h] at hrow
    obtain ⟨line, -, rfl⟩ := List.mem_map.mp hrow
    exact ⟨line, rfl⟩
  rw [logLines_eq, List.forall_mem_append] at hsome
  obtain ⟨hended, hrest⟩ := hsome
  refine exists_decode?_of_rows (fun row hrow => ?_) ?_
  · obtain ⟨line, hline⟩ := hended _ (List.mem_map_of_mem hrow)
    obtain ⟨s, hs, -⟩ := Option.map_eq_some_iff.mp hline
    exact ⟨s, hs⟩
  · split at hrest
    · rename_i hempty
      rw [List.isEmpty_iff.mp hempty]
      exact ⟨[], rfl⟩
    · exact hrest _ (List.mem_singleton_self _)

/-! ### Meanings -/

/-- A log says what stands on its tagged lines, where `t` gives the lines of each tag: the header
stands on the last line of its tags, and every other tag has a warm-up line in front of those with
numbers. -/
structure BenchLog.Means (t : LogMarker → List (List Char)) (log : BenchLog) : Prop where
  layout : ∃ line, (t .blocksPerFile).getLast? = some line ∧ log.layout.StandsOn line
  restructureBox : ∀ line, (t .restructuringSize).getLast? = some line →
    log.restructureBox.StandsOn line
  no_restructureBox : t .restructuringSize = [] → log.restructureBox = ⟨"1", "1", "1"⟩
  problem : ∃ line, (t .globalData).getLast? = some line ∧ log.problem.StandsOn line
  fileCreate : log.timings.fileCreate.map some = ((t .fileCreate).drop 1).map (numberOf? · 6)
  restructure : log.timings.restructure.map some = ((t .writeTime).drop 1).map (numberOf? · 11)
  blockRestructure :
    log.timings.blockRestructure.map some = ((t .writeTime).drop 1).map (numberOf? · 13)
  hz : log.timings.hz.map some = ((t .writeTime).drop 1).map (numberOf? · 15)
  aggregation : log.timings.aggregation.map some = ((t .writeTime).drop 1).map (numberOf? · 17)
  io : log.timings.io.map some = ((t .writeTime).drop 1).map (numberOf? · 19)
  time : log.timings.time.map some = ((t .timeTaken).drop 1).map (numberOf? · 2)
  throughput : log.timings.throughput.map some = ((t .timeTaken).drop 1).map (numberOf? · 5)
  iterations : log.iterations = (t .timeTaken).length - 1

variable {t : LogMarker → List (List Char)} {log log' : BenchLog} {path : String}

lemma FileLayout.StandsOn.unique {line : List Char} {l l' : FileLayout} (h : l.StandsOn line)
    (h' : l'.StandsOn line) : l = l' :=
  Except.ok.inj ((ofLine_eq_ok_iff.mpr h).symm.trans (ofLine_eq_ok_iff.mpr h'))

lemma WordBox.StandsOn.unique {line : List Char} {b b' : WordBox} (h : b.StandsOn line)
    (h' : b'.StandsOn line) : b = b' :=
  Except.ok.inj ((ofLine_eq_ok_iff.mpr h).symm.trans (ofLine_eq_ok_iff.mpr h'))

lemma Problem.StandsOn.unique {line : List Char} {p p' : Problem} (h : p.StandsOn line)
    (h' : p'.StandsOn line) : p = p' :=
  Except.ok.inj ((ofLine_eq_ok_iff.mpr h).symm.trans (ofLine_eq_ok_iff.mpr h'))

attribute [ext] Timings BenchLog

namespace BenchLog

/-- Nothing but its path is left open by what a log says. -/
lemma Means.unique (hmeans : log.Means t) (hmeans' : log'.Means t) (hpath : log.path = log'.path) :
    log = log' := by
  obtain ⟨line, hline, hlayout⟩ := hmeans.layout
  obtain ⟨line', hline', hproblem⟩ := hmeans.problem
  obtain ⟨_, hsame, hlayout'⟩ := hmeans'.layout
  obtain ⟨_, hsame', hproblem'⟩ := hmeans'.problem
  cases hline.symm.trans hsame
  cases hline'.symm.trans hsame'
  have hbox : log.restructureBox = log'.restructureBox := by
    rcases hlast : (t .restructuringSize).getLast? with _ | line
    · have hnone := List.getLast?_eq_none_iff.mp hlast
      rw [hmeans.no_restructureBox hnone, hmeans'.no_restructureBox hnone]
    · exact (hmeans.restructureBox line hlast).unique (hmeans'.restructureBox line hlast)
  have hseries : ∀ {xs ys : List Float} {zs}, xs.map some = zs → ys.map some = zs → xs = ys :=
    fun hx hy => (List.map_inj_right fun _ _ => Option.some.inj).mp (hx.trans hy.symm)
  have htimings : log.timings = log'.timings :=
    Timings.ext (hseries hmeans.time hmeans'.time) (hseries hmeans.throughput hmeans'.throughput)
      (hseries hmeans.fileCreate hmeans'.fileCreate)
      (hseries hmeans.restructure hmeans'.restructure)
      (hseries hmeans.blockRestructure hmeans'.blockRestructure) (hseries hmeans.hz hmeans'.hz)
      (hseries hmeans.aggregation hmeans'.aggregation) (hseries hmeans.io hmeans'.io)
  exact BenchLog.ext hpath (hlayout.unique hlayout') hbox (hproblem.unique hproblem') htimings
    (hmeans.iterations.trans hmeans'.iterations.symm)

/-- There is a time and a throughput for every iteration. -/
lemma Means.lengths (hmeans : log.Means t) :
    log.timings.time.length = log.iterations ∧ log.timings.throughput.length = log.iterations := by
  have htime := congrArg List.length hmeans.time
  have hthroughput := congrArg List.length hmeans.throughput
  simp only [List.length_map, List.length_drop] at htime hthroughput
  rw [hmeans.iterations]
  exact ⟨htime, hthroughput⟩

/-! ### Reading a log -/

lemma finish_eq_ok_iff {r : Reading} : r.finish path = .ok log ↔
    ∃ layout problem, r.layout = some layout ∧ r.problem = some problem ∧
      log = ⟨path, layout, r.restructureBox, problem, r.timings, r.timings.time.length⟩ := by
  unfold Reading.finish
  split
  · rename_i hlayout
    simp [hlayout]
  · rename_i hlayout hproblem
    simp [hproblem]
  · rename_i layout problem hlayout hproblem
    constructor
    · rintro ⟨⟩
      exact ⟨layout, problem, hlayout, hproblem, rfl⟩
    · rintro ⟨_, _, hlayout', hproblem', rfl⟩
      cases hlayout.symm.trans hlayout'
      cases hproblem.symm.trans hproblem'
      rfl

/-- What was read from all lines of a log is what they say. -/
lemma means_of_addsAll {ls : List (List Char)} {last : Reading}
    (h : Reading.AddsAll ls .start last) (hfinish : last.finish path = .ok log) :
    log.Means (taggedLines ls) := by
  obtain ⟨layout, problem, hlayout, hproblem, rfl⟩ := finish_eq_ok_iff.mp hfinish
  obtain ⟨-, hlastBox, hnoBox⟩ := h.takes Reading.Adds.restructureBox
  have htime := h.numbers Reading.isSeries_time
  refine ⟨h.exists_last Reading.Adds.layout rfl hlayout, fun line hline => ?_, hnoBox,
    h.exists_last Reading.Adds.problem rfl hproblem, h.numbers Reading.isSeries_fileCreate,
    h.numbers Reading.isSeries_restructure, h.numbers Reading.isSeries_blockRestructure,
    h.numbers Reading.isSeries_hz, h.numbers Reading.isSeries_aggregation,
    h.numbers Reading.isSeries_io, htime, h.numbers Reading.isSeries_throughput, ?_⟩
  · obtain ⟨b, hb, hbox⟩ := hlastBox line hline
    rw [hbox]
    exact hb
  · have hlength := congrArg List.length htime
    simpa only [List.length_map, List.length_drop] using hlength

/-- What was read from lines with a header makes a log. -/
lemma exists_finish (path : String) {ls : List (List Char)} {last : Reading}
    (h : Reading.AddsAll ls .start last) {line line' : List Char}
    (hlayout : (taggedLines ls .blocksPerFile).getLast? = some line)
    (hproblem : (taggedLines ls .globalData).getLast? = some line') :
    ∃ log, last.finish path = .ok log := by
  obtain ⟨-, hlast, -⟩ := h.takes Reading.Adds.layout
  obtain ⟨-, hlast', -⟩ := h.takes Reading.Adds.problem
  obtain ⟨l, -, hl⟩ := hlast line hlayout
  obtain ⟨p, -, hp⟩ := hlast' line' hproblem
  exact ⟨_, finish_eq_ok_iff.mpr ⟨l, p, hl, hp, rfl⟩⟩

lemma parse_eq_ok_iff_finish : parse path bytes = .ok log ↔
    ∃ last, Reading.start.addRows 1 (logLines bytes) = .ok last ∧ last.finish path = .ok log := by
  unfold parse
  cases Reading.start.addRows 1 (logLines bytes) with
  | error e => simp
  | ok last => simp

lemma path_of_finish {r : Reading} (h : r.finish path = .ok log) : log.path = path := by
  obtain ⟨_, _, -, -, rfl⟩ := finish_eq_ok_iff.mp h
  rfl

/-- A log is read if it is UTF-8 with tagged lines that can be read, and what is read is what these
lines say. -/
lemma parse_eq_ok_iff : parse path bytes = .ok log ↔
    log.path = path ∧ ∃ text, decode? bytes = some text ∧
      Reading.start.Readable (taggedLines (lines text)) ∧ log.Means (taggedLines (lines text)) := by
  rw [parse_eq_ok_iff_finish]
  constructor
  · rintro ⟨last, hrun, hfinish⟩
    obtain ⟨ls, hls, hadds⟩ := Reading.addRows_eq_ok_iff.mp hrun
    obtain ⟨text, htext⟩ := exists_decode?_of_logLines hls
    have hlines : ls.map some = (lines text).map some := hls.symm.trans (logLines_of_decode? htext)
    obtain rfl := (List.map_inj_right fun _ _ => Option.some.inj).mp hlines
    exact ⟨path_of_finish hfinish, text, htext, hadds.readable, means_of_addsAll hadds hfinish⟩
  · rintro ⟨hpath, text, htext, hreadable, hmeans⟩
    obtain ⟨last, hadds⟩ := hreadable.exists_addsAll
    obtain ⟨line, hline, -⟩ := hmeans.layout
    obtain ⟨line', hline', -⟩ := hmeans.problem
    obtain ⟨log', hfinish⟩ := exists_finish path hadds hline hline'
    have hlog : log = log' := hmeans.unique (means_of_addsAll hadds hfinish)
      (hpath.trans (path_of_finish hfinish).symm)
    subst hlog
    exact ⟨last, Reading.addRows_eq_ok_iff.mpr ⟨_, logLines_of_decode? htext, hadds⟩, hfinish⟩

lemma parse_eq_ok_iff_of_decode? (h : decode? bytes = some text) : parse path bytes = .ok log ↔
    log.path = path ∧ Reading.start.Readable (taggedLines (lines text)) ∧
      log.Means (taggedLines (lines text)) := by
  rw [parse_eq_ok_iff]
  constructor
  · rintro ⟨hpath, _, hsame, hmeans⟩
    cases h.symm.trans hsame
    exact ⟨hpath, hmeans⟩
  · rintro ⟨hpath, hmeans⟩
    exact ⟨hpath, text, h, hmeans⟩

/-- Lines without a tag make no difference to the tagged ones. -/
lemma taggedLines_insert {front noise back : List (List Char)}
    (h : ∀ line ∈ noise, ∀ marker, Reading.tagged marker line = false) :
    taggedLines (front ++ noise ++ back) = taggedLines (front ++ back) := by
  funext marker
  have hnoise : noise.filter (Reading.tagged marker) = [] :=
    List.filter_eq_nil_iff.mpr fun line hline => by simp [h line hline marker]
  simp only [taggedLines, List.filter_append, hnoise, List.append_nil]

/-- A log is read exactly if it is UTF-8 with tagged lines that can be read, and what is read is
what these lines say, with a time and a throughput for each iteration. So it depends on the tagged
lines of each kind only: other lines may be put in or left out, and lines of different kinds may
change places. -/
theorem parse_means_tagged_lines (path : String) (bytes : Bytes) (log : BenchLog) :
    (parse path bytes = .ok log ↔ log.path = path ∧ ∃ text, decode? bytes = some text ∧
      Reading.start.Readable (taggedLines (lines text)) ∧ log.Means (taggedLines (lines text))) ∧
    (parse path bytes = .ok log →
      log.timings.time.length = log.iterations ∧ log.timings.throughput.length = log.iterations) ∧
    (∀ bytes' text text', decode? bytes = some text → decode? bytes' = some text' →
      taggedLines (lines text) = taggedLines (lines text') →
      (parse path bytes = .ok log ↔ parse path bytes' = .ok log)) ∧
    ∀ bytes' text text' front noise back, decode? bytes = some text →
      decode? bytes' = some text' → lines text = front ++ back →
      lines text' = front ++ noise ++ back →
      (∀ line ∈ noise, ∀ marker, Reading.tagged marker line = false) →
      (parse path bytes = .ok log ↔ parse path bytes' = .ok log) := by
  have hsame : ∀ bytes' text text', decode? bytes = some text → decode? bytes' = some text' →
      taggedLines (lines text) = taggedLines (lines text') →
      (parse path bytes = .ok log ↔ parse path bytes' = .ok log) := by
    intro bytes' text text' htext htext' htagged
    rw [parse_eq_ok_iff_of_decode? htext, parse_eq_ok_iff_of_decode? htext', htagged]
  refine ⟨parse_eq_ok_iff, fun hparse => ?_, hsame, ?_⟩
  · obtain ⟨-, text, -, -, hmeans⟩ := parse_eq_ok_iff.mp hparse
    exact hmeans.lengths
  · intro bytes' text text' front noise back htext htext' hlines hlines' hnoise
    refine hsame bytes' text text' htext htext' ?_
    rw [hlines, hlines', taggedLines_insert hnoise]

end BenchLog

end TileBench
