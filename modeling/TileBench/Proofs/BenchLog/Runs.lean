import TileBench.Proofs.BenchLog.Reading

/-!
# Reading the lines of a log

What all lines together do to what was read: a part of the header is what stands on its last tagged
line, and a series takes the numbers on its tagged lines but the first. Lines without a tag do
nothing, so only the tagged lines of each kind matter, and their order among themselves.
-/

namespace TileBench

open Text

def taggedLines (ls : List (List Char)) (marker : LogMarker) : List (List Char) :=
  ls.filter (Reading.tagged marker)

/-- The lines whose numbers are kept, of those with a tag: all of them if the first one has gone by
already. -/
def timedLines (warm : Bool) (ls : List (List Char)) : List (List Char) :=
  if warm then ls else ls.drop 1

namespace Reading

variable {marker : LogMarker} {line : List Char} {ls : List (List Char)} {r next last : Reading}

/-- What some lines do, one after the other. -/
inductive AddsAll : List (List Char) → Reading → Reading → Prop
  | nil (r : Reading) : AddsAll [] r r
  | cons {line : List Char} {ls : List (List Char)} {r next last : Reading} :
    Adds line r next → AddsAll ls next last → AddsAll (line :: ls) r last

variable {rows : List (Option (List Char))} {number : Nat}

lemma addRows_cons_eq_ok_iff : r.addRows number (some line :: rows) = .ok last ↔
    ∃ next, Adds line r next ∧ next.addRows (number + 1) rows = .ok last := by
  simp only [addRows, addRow, ← addLine_eq_ok_iff]
  cases r.addLine line with
  | error e =>
    constructor
    · nofun
    · rintro ⟨_, ⟨⟩, _⟩
  | ok next =>
    constructor
    · exact fun h => ⟨next, rfl, h⟩
    · rintro ⟨_, ⟨⟩, h⟩
      exact h

/-- Rows are read to the end exactly if they are lines that can be taken. -/
lemma addRows_eq_ok_iff :
    r.addRows number rows = .ok last ↔ ∃ ls, rows = ls.map some ∧ AddsAll ls r last := by
  induction rows generalizing r number with
  | nil =>
    constructor
    · rintro ⟨⟩
      exact ⟨[], rfl, .nil _⟩
    · rintro ⟨ls, hls, h⟩
      cases List.map_eq_nil_iff.mp hls.symm
      cases h
      rfl
  | cons row rows ih =>
    cases row with
    | none =>
      constructor
      · nofun
      · rintro ⟨_ | ⟨line, ls⟩, hls, -⟩ <;> cases hls
    | some line =>
      rw [addRows_cons_eq_ok_iff]
      constructor
      · rintro ⟨next, hline, hrest⟩
        obtain ⟨ls, rfl, h⟩ := ih.mp hrest
        exact ⟨line :: ls, rfl, .cons hline h⟩
      · rintro ⟨_ | ⟨_, ls⟩, hls, h⟩ <;> cases hls
        cases h with
        | cons hline hrest => exact ⟨_, hline, ih.mpr ⟨ls, rfl, hrest⟩⟩

/-! ### Tagged lines -/

lemma taggedLines_cons_of_tagged (h : tagged marker line = true) :
    taggedLines (line :: ls) marker = line :: taggedLines ls marker := List.filter_cons_of_pos h

lemma taggedLines_cons_of_not_tagged (h : tagged marker line = false) :
    taggedLines (line :: ls) marker = taggedLines ls marker :=
  List.filter_cons_of_neg (by simp [h])

/-- A tagged line is kept if it is not the first, and then those after it are kept as well. -/
lemma timedLines_cons (warm : Bool) :
    timedLines warm (taggedLines (line :: ls) marker) =
      (if tagged marker line && warm then [line] else []) ++
        timedLines (warm || tagged marker line) (taggedLines ls marker) := by
  cases htagged : tagged marker line with
  | false => simp [taggedLines_cons_of_not_tagged htagged]
  | true =>
    rw [taggedLines_cons_of_tagged htagged]
    cases warm <;> simp [timedLines]

/-! ### Parts -/

/-- Every tagged line has its part, of which the last one counts. -/
lemma AddsAll.takes {α σ : Type} {StandsOn : List Char → α → Prop} {wrap : α → σ}
    {part : Reading → σ} (hstep : ∀ {line r next}, Adds line r next →
      Takes marker StandsOn wrap line (part r) (part next)) (h : AddsAll ls r last) :
    (∀ line ∈ taggedLines ls marker, ∃ a, StandsOn line a) ∧
      (∀ line, (taggedLines ls marker).getLast? = some line →
        ∃ a, StandsOn line a ∧ part last = wrap a) ∧
      (taggedLines ls marker = [] → part last = part r) := by
  induction h with
  | nil r => exact ⟨nofun, nofun, fun _ => rfl⟩
  | @cons line ls r next last hline _ ih =>
    obtain ⟨hall, hlast, hnone⟩ := ih
    have htakes := hstep hline
    unfold Takes at htakes
    split at htakes
    · rename_i htagged
      obtain ⟨a, ha, hnext⟩ := htakes
      rw [taggedLines_cons_of_tagged htagged]
      refine ⟨List.forall_mem_cons.mpr ⟨⟨a, ha⟩, hall⟩, fun other hother => ?_, nofun⟩
      rw [List.getLast?_cons, Option.some.injEq] at hother
      rcases hrest : (taggedLines ls marker).getLast? with _ | rest
      · rw [hrest] at hother
        subst hother
        exact ⟨a, ha, (hnone (List.getLast?_eq_none_iff.mp hrest)).trans hnext⟩
      · rw [hrest] at hother
        subst hother
        exact hlast _ hrest
    · rename_i htagged
      rw [taggedLines_cons_of_not_tagged (by simpa using htagged), ← htakes]
      exact ⟨hall, hlast, hnone⟩

/-- A part that was not there at first stands on the last tagged line. -/
lemma AddsAll.exists_last {α : Type} {StandsOn : List Char → α → Prop} {part : Reading → Option α}
    (hstep : ∀ {line r next}, Adds line r next →
      Takes marker StandsOn some line (part r) (part next)) (hnone : part r = none)
    (h : AddsAll ls r last) {a : α} (ha : part last = some a) :
    ∃ line, (taggedLines ls marker).getLast? = some line ∧ StandsOn line a := by
  obtain ⟨-, hlast, hempty⟩ := h.takes hstep
  rcases hline : (taggedLines ls marker).getLast? with _ | line
  · rw [hempty (List.getLast?_eq_none_iff.mp hline), hnone] at ha
    cases ha
  · obtain ⟨b, hb, hpart⟩ := hlast line hline
    cases hpart.symm.trans ha
    exact ⟨line, rfl, hb⟩

/-! ### Series -/

/-- A series takes the numbers at an index of its tagged lines. It is empty at first, and the flag
`warm` tells whether a tagged line has gone by. -/
structure IsSeries (marker : LogMarker) (index : Nat) (warm : Reading → Bool)
    (series : Reading → List Float) : Prop where
  warm_start : warm .start = false
  warm_next : ∀ {line r next}, Adds line r next → warm next = (warm r || tagged marker line)
  start : series .start = []
  next : ∀ {line r next}, Adds line r next →
    Grows marker index (warm r) line (series r) (series next)

lemma isSeries_fileCreate : IsSeries .fileCreate 6 createWarm (·.timings.fileCreate) :=
  ⟨rfl, Adds.createWarm, rfl, Adds.fileCreate⟩

lemma isSeries_restructure : IsSeries .writeTime 11 writeWarm (·.timings.restructure) :=
  ⟨rfl, Adds.writeWarm, rfl, Adds.restructure⟩

lemma isSeries_blockRestructure : IsSeries .writeTime 13 writeWarm (·.timings.blockRestructure) :=
  ⟨rfl, Adds.writeWarm, rfl, Adds.blockRestructure⟩

lemma isSeries_hz : IsSeries .writeTime 15 writeWarm (·.timings.hz) :=
  ⟨rfl, Adds.writeWarm, rfl, Adds.hz⟩

lemma isSeries_aggregation : IsSeries .writeTime 17 writeWarm (·.timings.aggregation) :=
  ⟨rfl, Adds.writeWarm, rfl, Adds.aggregation⟩

lemma isSeries_io : IsSeries .writeTime 19 writeWarm (·.timings.io) :=
  ⟨rfl, Adds.writeWarm, rfl, Adds.io⟩

lemma isSeries_time : IsSeries .timeTaken 2 takenWarm (·.timings.time) :=
  ⟨rfl, Adds.takenWarm, rfl, Adds.time⟩

lemma isSeries_throughput : IsSeries .timeTaken 5 takenWarm (·.timings.throughput) :=
  ⟨rfl, Adds.takenWarm, rfl, Adds.throughput⟩

variable {index : Nat} {warm : Reading → Bool} {series : Reading → List Float}

/-- The numbers on the lines that are kept stand in their order. -/
lemma AddsAll.grows (hseries : IsSeries marker index warm series) (h : AddsAll ls r last) :
    ∃ xs, series last = series r ++ xs ∧
      xs.map some = (timedLines (warm r) (taggedLines ls marker)).map (numberOf? · index) := by
  induction h with
  | nil r => exact ⟨[], by simp, by simp [taggedLines, timedLines]⟩
  | @cons line ls r next last hline _ ih =>
    obtain ⟨xs, hlast, hxs⟩ := ih
    rw [hseries.warm_next hline] at hxs
    have hgrows := hseries.next hline
    rw [timedLines_cons, List.map_append, ← hxs]
    unfold Grows at hgrows
    split at hgrows
    · rename_i hkept
      obtain ⟨x, hx, hnext⟩ := hgrows
      refine ⟨x :: xs, by rw [hlast, hnext, List.append_assoc]; rfl, ?_⟩
      rw [if_pos hkept, List.map_singleton, hx]
      rfl
    · rename_i hkept
      refine ⟨xs, by rw [hlast, hgrows], ?_⟩
      rw [if_neg hkept]
      rfl

/-- From the start on, the numbers are those of all tagged lines but the first. -/
lemma AddsAll.numbers (hseries : IsSeries marker index warm series)
    (h : AddsAll ls .start last) :
    (series last).map some = ((taggedLines ls marker).drop 1).map (numberOf? · index) := by
  obtain ⟨xs, hlast, hxs⟩ := h.grows hseries
  rw [hlast, hseries.start, List.nil_append, hxs, hseries.warm_start]
  rfl

/-- There is a number on every line that was kept. -/
lemma AddsAll.exists_number (hseries : IsSeries marker index warm series)
    (h : AddsAll ls r last) :
    ∀ line ∈ timedLines (warm r) (taggedLines ls marker), ∃ x, numberOf? line index = some x := by
  intro line hline
  obtain ⟨xs, -, hxs⟩ := h.grows hseries
  have hmem : numberOf? line index ∈ xs.map some := hxs ▸ List.mem_map_of_mem hline
  obtain ⟨x, -, hx⟩ := List.mem_map.mp hmem
  exact ⟨x, hx.symm⟩

/-! ### Lines that can be read -/

/-- Every tagged line has what is read from it, where `t` gives the lines of each tag. -/
structure Readable (r : Reading) (t : LogMarker → List (List Char)) : Prop where
  layout : ∀ line ∈ t .blocksPerFile, ∃ l, FileLayout.StandsOn line l
  restructureBox : ∀ line ∈ t .restructuringSize, ∃ b, WordBox.StandsOn line b
  problem : ∀ line ∈ t .globalData, ∃ p, Problem.StandsOn line p
  create : ∀ line ∈ timedLines r.createWarm (t .fileCreate), ∃ x, numberOf? line 6 = some x
  write : ∀ line ∈ timedLines r.writeWarm (t .writeTime), ∀ index ∈ [11, 13, 15, 17, 19],
    ∃ x, numberOf? line index = some x
  taken : ∀ line ∈ timedLines r.takenWarm (t .timeTaken), ∀ index ∈ [2, 5],
    ∃ x, numberOf? line index = some x

lemma exists_takes {α σ : Type} {StandsOn : List Char → α → Prop} (wrap : α → σ) (old : σ)
    (h : ∀ line' ∈ taggedLines (line :: ls) marker, ∃ a, StandsOn line' a) :
    ∃ new, Takes marker StandsOn wrap line old new := by
  unfold Takes
  split
  · rename_i htagged
    rw [taggedLines_cons_of_tagged htagged] at h
    obtain ⟨a, ha⟩ := h line List.mem_cons_self
    exact ⟨wrap a, a, ha, rfl⟩
  · exact ⟨old, rfl⟩

lemma exists_grows {warm : Bool} (old : List Float)
    (h : ∀ line' ∈ timedLines warm (taggedLines (line :: ls) marker),
      ∃ x, numberOf? line' index = some x) :
    ∃ new, Grows marker index warm line old new := by
  unfold Grows
  split
  · rename_i hkept
    rw [timedLines_cons, if_pos hkept] at h
    obtain ⟨x, hx⟩ := h line List.mem_cons_self
    exact ⟨old ++ [x], x, hx, rfl⟩
  · exact ⟨old, rfl⟩

lemma mem_taggedLines_cons {other : List Char} (h : other ∈ taggedLines ls marker) :
    other ∈ taggedLines (line :: ls) marker := by
  cases htagged : tagged marker line with
  | false => rwa [taggedLines_cons_of_not_tagged htagged]
  | true =>
    rw [taggedLines_cons_of_tagged htagged]
    exact List.mem_cons_of_mem _ h

lemma mem_timedLines_cons {warm : Bool} {other : List Char}
    (h : other ∈ timedLines (warm || tagged marker line) (taggedLines ls marker)) :
    other ∈ timedLines warm (taggedLines (line :: ls) marker) := by
  rw [timedLines_cons]
  exact List.mem_append_right _ h

/-- A line that can be read is taken, and the lines after it can still be read. -/
lemma Readable.exists_adds (h : r.Readable (taggedLines (line :: ls))) :
    ∃ next, Adds line r next ∧ next.Readable (taggedLines ls) := by
  obtain ⟨layout, hlayout⟩ := exists_takes some r.layout h.layout
  obtain ⟨restructureBox, hbox⟩ := exists_takes id r.restructureBox h.restructureBox
  obtain ⟨problem, hproblem⟩ := exists_takes some r.problem h.problem
  obtain ⟨fileCreate, hcreate⟩ := exists_grows r.timings.fileCreate h.create
  have hwrite : ∀ index ∈ [11, 13, 15, 17, 19], ∀ old, ∃ new,
      Grows .writeTime index r.writeWarm line old new := fun index hindex old =>
    exists_grows old fun other hother => h.write other hother index hindex
  have htaken : ∀ index ∈ [2, 5], ∀ old, ∃ new,
      Grows .timeTaken index r.takenWarm line old new := fun index hindex old =>
    exists_grows old fun other hother => h.taken other hother index hindex
  obtain ⟨restructure, h11⟩ := hwrite 11 (by simp) r.timings.restructure
  obtain ⟨blockRestructure, h13⟩ := hwrite 13 (by simp) r.timings.blockRestructure
  obtain ⟨hz, h15⟩ := hwrite 15 (by simp) r.timings.hz
  obtain ⟨aggregation, h17⟩ := hwrite 17 (by simp) r.timings.aggregation
  obtain ⟨io, h19⟩ := hwrite 19 (by simp) r.timings.io
  obtain ⟨time, h2⟩ := htaken 2 (by simp) r.timings.time
  obtain ⟨throughput, h5⟩ := htaken 5 (by simp) r.timings.throughput
  refine ⟨⟨layout, restructureBox, problem, r.createWarm || tagged .fileCreate line,
    r.writeWarm || tagged .writeTime line, r.takenWarm || tagged .timeTaken line,
    ⟨time, throughput, fileCreate, restructure, blockRestructure, hz, aggregation, io⟩⟩,
    ⟨hlayout, hbox, hproblem, rfl, rfl, rfl, hcreate, h11, h13, h15, h17, h19, h2, h5⟩, ?_⟩
  exact ⟨fun other hother => h.layout other (mem_taggedLines_cons hother),
    fun other hother => h.restructureBox other (mem_taggedLines_cons hother),
    fun other hother => h.problem other (mem_taggedLines_cons hother),
    fun other hother => h.create other (mem_timedLines_cons hother),
    fun other hother => h.write other (mem_timedLines_cons hother),
    fun other hother => h.taken other (mem_timedLines_cons hother)⟩

lemma Readable.exists_addsAll (h : r.Readable (taggedLines ls)) : ∃ last, AddsAll ls r last := by
  induction ls generalizing r with
  | nil => exact ⟨r, .nil r⟩
  | cons line ls ih =>
    obtain ⟨next, hline, hrest⟩ := h.exists_adds
    obtain ⟨last, hlast⟩ := ih hrest
    exact ⟨last, .cons hline hlast⟩

/-- Lines that were taken can be read. -/
lemma AddsAll.readable (h : AddsAll ls r last) : r.Readable (taggedLines ls) where
  layout := (h.takes Adds.layout).1
  restructureBox := (h.takes Adds.restructureBox).1
  problem := (h.takes Adds.problem).1
  create := h.exists_number isSeries_fileCreate
  write line hline := by
    simp only [List.forall_mem_cons, List.not_mem_nil, false_implies, implies_true, and_true]
    exact ⟨h.exists_number isSeries_restructure line hline,
      h.exists_number isSeries_blockRestructure line hline,
      h.exists_number isSeries_hz line hline, h.exists_number isSeries_aggregation line hline,
      h.exists_number isSeries_io line hline⟩
  taken line hline := by
    simp only [List.forall_mem_cons, List.not_mem_nil, false_implies, implies_true, and_true]
    exact ⟨h.exists_number isSeries_time line hline, h.exists_number isSeries_throughput line hline⟩

end Reading

end TileBench
