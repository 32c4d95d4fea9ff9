import TileBench.BenchLog.Basic
import TileBench.Proofs.Except
import Mathlib.Tactic.SplitIfs

/-!
# Reading a line of a log

A line is taken by six functions in turn, of which each changes a part of its own. So what one line
does is said part by part (`Reading.addLine_eq_ok_iff`): a part of the header is read anew from a
tagged line, and a series of numbers grows by one number if its tag has been seen before.
-/

namespace TileBench

open Text

/-! ### Words and numbers -/

def wordOf? (line : List Char) (index : Nat) : Option String :=
  ((words line)[index]?).map String.ofList

def numberOf? (line : List Char) (index : Nat) : Option Float :=
  (wordOf? line index).bind fun word => Decimal.float? word.toList

variable {marker : LogMarker} {line : List Char} {index : Nat}

lemma wordAt_eq_ok_iff {word : String} :
    wordAt marker line index = .ok word ↔ wordOf? line index = some word := by
  unfold wordAt wordOf?
  cases (words line)[index]? <;> simp

lemma numberAt_eq_ok_iff {x : Float} :
    numberAt marker line index = .ok x ↔ numberOf? line index = some x := by
  simp only [numberAt, numberOf?, bind_eq_ok_iff, wordAt_eq_ok_iff, Option.bind_eq_some_iff]
  refine exists_congr fun word => and_congr_right fun _ => ?_
  cases Decimal.float? word.toList <;> simp

/-! ### Headers -/

structure FileLayout.StandsOn (line : List Char) (l : FileLayout) : Prop where
  blocksPerFile : wordOf? line 3 = some l.blocksPerFile
  bitsPerBlock : wordOf? line 7 = some l.bitsPerBlock
  fileCount : wordOf? line 10 = some l.fileCount
  aggregatorFactor : wordOf? line 13 = some l.aggregatorFactor
  aggregatorCount : wordOf? line 16 = some l.aggregatorCount

structure WordBox.StandsOn (line : List Char) (b : WordBox) : Prop where
  x : wordOf? line 3 = some b.x
  y : wordOf? line 4 = some b.y
  z : wordOf? line 5 = some b.z

structure Problem.StandsOn (line : List Char) (p : Problem) : Prop where
  cores : wordOf? line 1 = some p.cores
  extent_x : wordOf? line 4 = some p.extent.x
  extent_y : wordOf? line 5 = some p.extent.y
  extent_z : wordOf? line 6 = some p.extent.z
  vars : wordOf? line 8 = some p.vars
  idxCount : wordOf? line 11 = some p.idxCount
  idxBox_x : wordOf? line 13 = some p.idxBox.x
  idxBox_y : wordOf? line 15 = some p.idxBox.y
  idxBox_z : wordOf? line 17 = some p.idxBox.z

lemma FileLayout.ofLine_eq_ok_iff {l : FileLayout} : ofLine line = .ok l ↔ l.StandsOn line := by
  simp only [ofLine, bind_eq_ok_iff, wordAt_eq_ok_iff]
  constructor
  · rintro ⟨a, ha, b, hb, c, hc, d, hd, e, he, ⟨⟩⟩
    exact ⟨ha, hb, hc, hd, he⟩
  · rintro ⟨ha, hb, hc, hd, he⟩
    exact ⟨_, ha, _, hb, _, hc, _, hd, _, he, rfl⟩

lemma WordBox.ofLine_eq_ok_iff {b : WordBox} : ofLine line = .ok b ↔ b.StandsOn line := by
  simp only [ofLine, bind_eq_ok_iff, wordAt_eq_ok_iff]
  constructor
  · rintro ⟨x, hx, y, hy, z, hz, ⟨⟩⟩
    exact ⟨hx, hy, hz⟩
  · rintro ⟨hx, hy, hz⟩
    exact ⟨_, hx, _, hy, _, hz, rfl⟩

lemma Problem.ofLine_eq_ok_iff {p : Problem} : ofLine line = .ok p ↔ p.StandsOn line := by
  simp only [ofLine, bind_eq_ok_iff, wordAt_eq_ok_iff]
  constructor
  · rintro ⟨a, ha, b, hb, c, hc, d, hd, e, he, f, hf, g, hg, i, hi, j, hj, ⟨⟩⟩
    exact ⟨ha, hb, hc, hd, he, hf, hg, hi, hj⟩
  · rintro ⟨ha, hb, hc, hd, he, hf, hg, hi, hj⟩
    exact ⟨_, ha, _, hb, _, hc, _, hd, _, he, _, hf, _, hg, _, hi, _, hj, rfl⟩

/-! ### One line -/

namespace Reading

/-- A part of the header is what stands on a tagged line, and stays as it is on another one. -/
def Takes {α σ : Type} (marker : LogMarker) (StandsOn : List Char → α → Prop) (wrap : α → σ)
    (line : List Char) (old new : σ) : Prop :=
  if tagged marker line then ∃ a, StandsOn line a ∧ new = wrap a else new = old

/-- The number on a line stands at the end of the series. -/
def Appends (line : List Char) (index : Nat) (old new : List Float) : Prop :=
  ∃ x, numberOf? line index = some x ∧ new = old ++ [x]

/-- A series takes the number on a tagged line, if that is not the first. -/
def Grows (marker : LogMarker) (index : Nat) (warm : Bool) (line : List Char)
    (old new : List Float) : Prop :=
  if tagged marker line && warm then Appends line index old new else new = old

/-- What a line does to each part of what was read so far. -/
structure Adds (line : List Char) (r next : Reading) : Prop where
  layout : Takes .blocksPerFile FileLayout.StandsOn some line r.layout next.layout
  restructureBox : Takes .restructuringSize WordBox.StandsOn id line r.restructureBox
    next.restructureBox
  problem : Takes .globalData Problem.StandsOn some line r.problem next.problem
  createWarm : next.createWarm = (r.createWarm || tagged .fileCreate line)
  writeWarm : next.writeWarm = (r.writeWarm || tagged .writeTime line)
  takenWarm : next.takenWarm = (r.takenWarm || tagged .timeTaken line)
  fileCreate : Grows .fileCreate 6 r.createWarm line r.timings.fileCreate next.timings.fileCreate
  restructure : Grows .writeTime 11 r.writeWarm line r.timings.restructure next.timings.restructure
  blockRestructure : Grows .writeTime 13 r.writeWarm line r.timings.blockRestructure
    next.timings.blockRestructure
  hz : Grows .writeTime 15 r.writeWarm line r.timings.hz next.timings.hz
  aggregation : Grows .writeTime 17 r.writeWarm line r.timings.aggregation next.timings.aggregation
  io : Grows .writeTime 19 r.writeWarm line r.timings.io next.timings.io
  time : Grows .timeTaken 2 r.takenWarm line r.timings.time next.timings.time
  throughput : Grows .timeTaken 5 r.takenWarm line r.timings.throughput next.timings.throughput

variable {r next : Reading}

lemma take_eq_ok_iff {α σ : Type} {ofLine : List Char → Except LineError α}
    {StandsOn : List Char → α → Prop} (hread : ∀ a, ofLine line = .ok a ↔ StandsOn line a)
    (wrap : α → σ) (put : σ → Reading) {old : σ} (hold : put old = r) :
    (if tagged marker line then ofLine line >>= fun a => .ok (put (wrap a)) else .ok r) = .ok next ↔
      ∃ new, Takes marker StandsOn wrap line old new ∧ next = put new := by
  unfold Takes
  split
  · simp only [bind_eq_ok_iff, hread]
    constructor
    · rintro ⟨a, ha, ⟨⟩⟩
      exact ⟨_, ⟨a, ha, rfl⟩, rfl⟩
    · rintro ⟨_, ⟨a, ha, rfl⟩, rfl⟩
      exact ⟨a, ha, rfl⟩
  · subst hold
    constructor
    · rintro ⟨⟩
      exact ⟨old, rfl, rfl⟩
    · rintro ⟨_, rfl, rfl⟩
      rfl

lemma addLayout_eq_ok_iff : r.addLayout line = .ok next ↔
    ∃ layout, Takes .blocksPerFile FileLayout.StandsOn some line r.layout layout ∧
      next = { r with layout } :=
  take_eq_ok_iff (fun _ => FileLayout.ofLine_eq_ok_iff) some (fun layout => { r with layout }) rfl

lemma addBox_eq_ok_iff : r.addBox line = .ok next ↔
    ∃ restructureBox,
      Takes .restructuringSize WordBox.StandsOn id line r.restructureBox restructureBox ∧
      next = { r with restructureBox } :=
  take_eq_ok_iff (fun _ => WordBox.ofLine_eq_ok_iff) id
    (fun restructureBox => { r with restructureBox }) rfl

lemma addProblem_eq_ok_iff : r.addProblem line = .ok next ↔
    ∃ problem, Takes .globalData Problem.StandsOn some line r.problem problem ∧
      next = { r with problem } :=
  take_eq_ok_iff (fun _ => Problem.ofLine_eq_ok_iff) some (fun problem => { r with problem }) rfl

/-- The first tagged line is only marked; from the next one on the `body` reads numbers. -/
lemma time_eq_ok_iff {σ : Type} (tag warm : Bool) (old : σ) (Reads : σ → Prop)
    (put : Bool → σ → Reading) {body : Except LineError Reading} (hold : put warm old = r)
    (hbody : warm = true → (body = .ok next ↔ ∃ new, Reads new ∧ next = put true new)) :
    (if tag then if warm then body else .ok (put true old) else .ok r) = .ok next ↔
      ∃ new, (if tag && warm then Reads new else new = old) ∧ next = put (warm || tag) new := by
  cases tag with
  | false =>
    subst hold
    simp only [Bool.false_eq_true, if_false, Bool.false_and, Bool.or_false]
    constructor
    · rintro ⟨⟩
      exact ⟨old, rfl, rfl⟩
    · rintro ⟨_, rfl, rfl⟩
      rfl
  | true =>
    cases warm with
    | false =>
      simp only [if_true, Bool.false_eq_true, if_false, Bool.and_false, Bool.or_true]
      constructor
      · rintro ⟨⟩
        exact ⟨old, rfl, rfl⟩
      · rintro ⟨_, rfl, rfl⟩
        rfl
    | true => simpa using hbody rfl

lemma addCreate_eq_ok_iff : r.addCreate line = .ok next ↔
    ∃ fileCreate, Grows .fileCreate 6 r.createWarm line r.timings.fileCreate fileCreate ∧
      next = { r with
        createWarm := r.createWarm || tagged .fileCreate line
        timings := { r.timings with fileCreate } } := by
  refine time_eq_ok_iff _ r.createWarm r.timings.fileCreate (Appends line 6 _)
    (fun createWarm fileCreate => { r with createWarm, timings := { r.timings with fileCreate } })
    rfl fun hwarm => ?_
  simp only [bind_eq_ok_iff, numberAt_eq_ok_iff]
  constructor
  · rintro ⟨x, hx, ⟨⟩⟩
    exact ⟨_, ⟨x, hx, rfl⟩, by rw [← hwarm]⟩
  · rintro ⟨_, ⟨x, hx, rfl⟩, rfl⟩
    exact ⟨x, hx, by rw [← hwarm]; rfl⟩

/-- Series that grow under one condition grow together. -/
lemma ite_pair_iff {α β : Type} {c : Prop} [Decidable c] {p q : Prop} {x a : α} {y b : β} :
    (if c then p ∧ q else (x, y) = (a, b)) ↔ (if c then p else x = a) ∧ if c then q else y = b := by
  split <;> simp

lemma addWrite_eq_ok_iff : r.addWrite line = .ok next ↔
    ∃ restructure blockRestructure hz aggregation io,
      (Grows .writeTime 11 r.writeWarm line r.timings.restructure restructure ∧
      Grows .writeTime 13 r.writeWarm line r.timings.blockRestructure blockRestructure ∧
      Grows .writeTime 15 r.writeWarm line r.timings.hz hz ∧
      Grows .writeTime 17 r.writeWarm line r.timings.aggregation aggregation ∧
      Grows .writeTime 19 r.writeWarm line r.timings.io io) ∧
      next = { r with
        writeWarm := r.writeWarm || tagged .writeTime line
        timings := { r.timings with restructure, blockRestructure, hz, aggregation, io } } := by
  simp only [Grows, ← ite_pair_iff]
  refine (time_eq_ok_iff _ r.writeWarm
    (r.timings.restructure, r.timings.blockRestructure, r.timings.hz, r.timings.aggregation,
      r.timings.io)
    (fun new => Appends line 11 r.timings.restructure new.1 ∧
      Appends line 13 r.timings.blockRestructure new.2.1 ∧
      Appends line 15 r.timings.hz new.2.2.1 ∧
      Appends line 17 r.timings.aggregation new.2.2.2.1 ∧
      Appends line 19 r.timings.io new.2.2.2.2)
    (fun writeWarm new => { r with
      writeWarm
      timings := { r.timings with
        restructure := new.1
        blockRestructure := new.2.1
        hz := new.2.2.1
        aggregation := new.2.2.2.1
        io := new.2.2.2.2 } }) rfl fun hwarm => ?_).trans (by simp only [Prod.exists])
  simp only [bind_eq_ok_iff, numberAt_eq_ok_iff]
  constructor
  · rintro ⟨a, ha, b, hb, c, hc, d, hd, e, he, ⟨⟩⟩
    exact ⟨(_, _, _, _, _),
      ⟨⟨a, ha, rfl⟩, ⟨b, hb, rfl⟩, ⟨c, hc, rfl⟩, ⟨d, hd, rfl⟩, e, he, rfl⟩, by rw [← hwarm]⟩
  · rintro ⟨⟨_, _, _, _, _⟩,
      ⟨⟨a, ha, rfl⟩, ⟨b, hb, rfl⟩, ⟨c, hc, rfl⟩, ⟨d, hd, rfl⟩, e, he, rfl⟩, rfl⟩
    exact ⟨a, ha, b, hb, c, hc, d, hd, e, he, by rw [← hwarm]; rfl⟩

lemma addTaken_eq_ok_iff : r.addTaken line = .ok next ↔
    ∃ time throughput, (Grows .timeTaken 2 r.takenWarm line r.timings.time time ∧
      Grows .timeTaken 5 r.takenWarm line r.timings.throughput throughput) ∧
      next = { r with
        takenWarm := r.takenWarm || tagged .timeTaken line
        timings := { r.timings with time, throughput } } := by
  simp only [Grows, ← ite_pair_iff]
  refine (time_eq_ok_iff _ r.takenWarm (r.timings.time, r.timings.throughput)
    (fun new => Appends line 2 r.timings.time new.1 ∧ Appends line 5 r.timings.throughput new.2)
    (fun takenWarm new => { r with
      takenWarm
      timings := { r.timings with time := new.1, throughput := new.2 } }) rfl
    fun hwarm => ?_).trans (by simp only [Prod.exists])
  simp only [bind_eq_ok_iff, numberAt_eq_ok_iff]
  constructor
  · rintro ⟨x, hx, y, hy, ⟨⟩⟩
    exact ⟨(_, _), ⟨⟨x, hx, rfl⟩, y, hy, rfl⟩, by rw [← hwarm]⟩
  · rintro ⟨⟨_, _⟩, ⟨⟨x, hx, rfl⟩, y, hy, rfl⟩, rfl⟩
    exact ⟨x, hx, y, hy, by rw [← hwarm]; rfl⟩

/-- A line that can be taken does to each part what belongs to it, and nothing else. -/
theorem addLine_eq_ok_iff : r.addLine line = .ok next ↔ Adds line r next := by
  simp only [addLine, bind_eq_ok_iff]
  constructor
  · rintro ⟨_, h₁, _, h₂, _, h₃, _, h₄, _, h₅, h₆⟩
    obtain ⟨layout, hlayout, rfl⟩ := addLayout_eq_ok_iff.mp h₁
    obtain ⟨box, hbox, rfl⟩ := addBox_eq_ok_iff.mp h₂
    obtain ⟨problem, hproblem, rfl⟩ := addProblem_eq_ok_iff.mp h₃
    obtain ⟨fileCreate, hcreate, rfl⟩ := addCreate_eq_ok_iff.mp h₄
    obtain ⟨_, _, _, _, _, ⟨h11, h13, h15, h17, h19⟩, rfl⟩ := addWrite_eq_ok_iff.mp h₅
    obtain ⟨_, _, ⟨htime, hthroughput⟩, rfl⟩ := addTaken_eq_ok_iff.mp h₆
    exact ⟨hlayout, hbox, hproblem, rfl, rfl, rfl, hcreate, h11, h13, h15, h17, h19, htime,
      hthroughput⟩
  · rintro ⟨hlayout, hbox, hproblem, hwarm₁, hwarm₂, hwarm₃, hcreate, h11, h13, h15, h17, h19,
      htime, hthroughput⟩
    refine ⟨_, addLayout_eq_ok_iff.mpr ⟨_, hlayout, rfl⟩, _, addBox_eq_ok_iff.mpr ⟨_, hbox, rfl⟩,
      _, addProblem_eq_ok_iff.mpr ⟨_, hproblem, rfl⟩, _,
      addCreate_eq_ok_iff.mpr ⟨_, hcreate, rfl⟩, _,
      addWrite_eq_ok_iff.mpr ⟨_, _, _, _, _, ⟨h11, h13, h15, h17, h19⟩, rfl⟩,
      addTaken_eq_ok_iff.mpr ⟨_, _, ⟨htime, hthroughput⟩, ?_⟩⟩
    cases next
    rw [← hwarm₁, ← hwarm₂, ← hwarm₃]

end Reading

end TileBench
