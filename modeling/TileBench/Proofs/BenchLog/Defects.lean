import TileBench.Proofs.BenchLog.Runs

/-!
# Defects of a line

The fields of a line are read in a fixed order: marker by marker, and for each marker from left to
right. A line has a *defect* if a field that is read from it is missing, or is no number where a
number is wanted. `Reading.addLine_failsWith` says that taking a line fails exactly with the first
defect of this order, and `FailsFirst` says which one that is without going through the order again.
-/

namespace TileBench

open Text

namespace LogMarker

/-- The markers in the order in which a line is searched for them. -/
def all : List LogMarker :=
  [.blocksPerFile, .restructuringSize, .globalData, .fileCreate, .writeTime, .timeTaken]

/-- The place of a marker in that order. -/
def rank : LogMarker → Nat
  | .blocksPerFile => 0
  | .restructuringSize => 1
  | .globalData => 2
  | .fileCreate => 3
  | .writeTime => 4
  | .timeTaken => 5

/-- The words that are read from a line with a marker. -/
def fields : LogMarker → List Nat
  | .blocksPerFile => [3, 7, 10, 13, 16]
  | .restructuringSize => [3, 4, 5]
  | .globalData => [1, 4, 5, 6, 8, 11, 13, 15, 17]
  | .fileCreate => [6]
  | .writeTime => [11, 13, 15, 17, 19]
  | .timeTaken => [2, 5]

/-- Do numbers stand on the lines with the marker? The first of these lines is a warm-up then. -/
def isTiming : LogMarker → Bool
  | .blocksPerFile | .restructuringSize | .globalData => false
  | .fileCreate | .writeTime | .timeTaken => true

lemma mem_all (marker : LogMarker) : marker ∈ all := by cases marker <;> decide

lemma all_sorted : all.Pairwise fun marker other => marker.rank < other.rank := by decide

lemma fields_sorted (marker : LogMarker) : marker.fields.Pairwise (· < ·) := by
  cases marker <;> decide

end LogMarker

/-! ### The first defect -/

/-- What fails with an error exactly if it has a defect, and then with this one. -/
def FailsWith {ε α : Type} (x : Except ε α) (defect : Option ε) : Prop :=
  ∀ e, x = .error e ↔ defect = some e

section FailsWith

variable {ε α β : Type} {x : Except ε α} {f : α → Except ε β} {defect later : Option ε}

lemma failsWith_ok (a : α) : FailsWith (.ok a : Except ε α) none := by
  intro e
  constructor <;> nofun

lemma FailsWith.defect_eq_none {a : α} (h : FailsWith (.ok a : Except ε α) defect) :
    defect = none := by
  cases defect with
  | none => rfl
  | some e => cases (h e).mpr rfl

/-- Of two defects the first one counts. -/
lemma FailsWith.bind (hx : FailsWith x defect) (hf : ∀ a, x = .ok a → FailsWith (f a) later) :
    FailsWith (x >>= f) (defect.or later) := by
  cases x with
  | error e =>
    obtain rfl := (hx e).mp rfl
    intro e'
    constructor <;> rintro ⟨⟩ <;> rfl
  | ok a =>
    obtain rfl := hx.defect_eq_none
    exact hf a rfl

lemma FailsWith.map (hx : FailsWith x defect) (g : α → β) :
    FailsWith (x >>= fun a => .ok (g a)) defect := by
  have h := hx.bind fun a _ => failsWith_ok (g a)
  rwa [Option.or_none] at h

end FailsWith

/-- The first finding in a sorted list is the one of lowest rank. -/
lemma exists_first_of_findSome? {α β : Type} {l : List α} {find : α → Option β} (rank : α → Nat)
    {b : β} (hsorted : l.Pairwise fun a a' => rank a < rank a') (h : l.findSome? find = some b) :
    ∃ a ∈ l, find a = some b ∧ ∀ a' ∈ l, ∀ b', find a' = some b' → rank a ≤ rank a' := by
  obtain ⟨front, a, back, rfl, ha, hfront⟩ := List.findSome?_eq_some_iff.mp h
  refine ⟨a, by simp, ha, fun a' hmem b' hb' => ?_⟩
  rcases List.mem_append.mp hmem with hbefore | hafter
  · rw [hfront a' hbefore] at hb'
    cases hb'
  · rcases List.mem_cons.mp hafter with rfl | hback
    · exact Nat.le_refl _
    · have hpair := (List.pairwise_append.mp hsorted).2.1
      exact Nat.le_of_lt ((List.pairwise_cons.mp hpair).1 a' hback)

lemma findSome?_cons_eq_or {α β : Type} {a : α} {l : List α} {find : α → Option β} :
    (a :: l).findSome? find = (find a).or (l.findSome? find) := by
  rw [List.findSome?_cons]
  cases find a <;> rfl

/-! ### Defects of fields -/

/-- What is wrong with a field: it is missing, or is no number where one is wanted. -/
def fieldDefect? (marker : LogMarker) (line : List Char) (index : Nat) : Option LineError :=
  match wordOf? line index with
  | none => some (.tooShort marker (words line).length index)
  | some word =>
    if marker.isTiming && (numberOf? line index).isNone then some (.notNumber marker index word)
    else none

variable {marker : LogMarker} {line : List Char} {index : Nat}

lemma wordOf?_eq_none_iff : wordOf? line index = none ↔ (words line).length ≤ index := by
  rw [wordOf?, Option.map_eq_none_iff, List.getElem?_eq_none_iff]

lemma wordAt_failsWith (h : marker.isTiming = false) (line : List Char) (index : Nat) :
    FailsWith (wordAt marker line index) (fieldDefect? marker line index) := by
  intro e
  unfold wordAt fieldDefect? wordOf?
  cases (words line)[index]? <;> simp [h]

lemma numberAt_failsWith (h : marker.isTiming = true) (line : List Char) (index : Nat) :
    FailsWith (numberAt marker line index) (fieldDefect? marker line index) := by
  intro e
  simp only [numberAt, fieldDefect?, numberOf?, wordAt, wordOf?, h, Bool.true_and]
  cases hword : (words line)[index]? with
  | none => simp [bind, Except.bind]
  | some word =>
    cases hnumber : Decimal.float? word <;>
      simp [bind, Except.bind, hnumber]

/-- The first defect among the fields of a marker. -/
def fieldsDefect? (marker : LogMarker) (line : List Char) : Option LineError :=
  marker.fields.findSome? (fieldDefect? marker line)

lemma FileLayout.ofLine_failsWith :
    FailsWith (FileLayout.ofLine line) (fieldsDefect? .blocksPerFile line) := by
  have hword : ∀ index, FailsWith (wordAt .blocksPerFile line index) _ := wordAt_failsWith rfl line
  simp only [ofLine, fieldsDefect?, LogMarker.fields, findSome?_cons_eq_or, List.findSome?_nil]
  exact (hword 3).bind fun _ _ => (hword 7).bind fun _ _ => (hword 10).bind fun _ _ =>
    (hword 13).bind fun _ _ => (hword 16).bind fun _ _ => failsWith_ok _

lemma WordBox.ofLine_failsWith :
    FailsWith (WordBox.ofLine line) (fieldsDefect? .restructuringSize line) := by
  have hword : ∀ index, FailsWith (wordAt .restructuringSize line index) _ :=
    wordAt_failsWith rfl line
  simp only [ofLine, fieldsDefect?, LogMarker.fields, findSome?_cons_eq_or, List.findSome?_nil]
  exact (hword 3).bind fun _ _ => (hword 4).bind fun _ _ => (hword 5).bind fun _ _ =>
    failsWith_ok _

lemma Problem.ofLine_failsWith :
    FailsWith (Problem.ofLine line) (fieldsDefect? .globalData line) := by
  have hword : ∀ index, FailsWith (wordAt .globalData line index) _ := wordAt_failsWith rfl line
  simp only [ofLine, fieldsDefect?, LogMarker.fields, findSome?_cons_eq_or, List.findSome?_nil]
  exact (hword 1).bind fun _ _ => (hword 4).bind fun _ _ => (hword 5).bind fun _ _ =>
    (hword 6).bind fun _ _ => (hword 8).bind fun _ _ => (hword 11).bind fun _ _ =>
    (hword 13).bind fun _ _ => (hword 15).bind fun _ _ => (hword 17).bind fun _ _ =>
    failsWith_ok _

/-! ### Defects of lines -/

namespace Reading

variable {r next : Reading}

/-- Are the fields of a marker read from the next line that carries it? -/
def reads (r : Reading) : LogMarker → Bool
  | .blocksPerFile | .restructuringSize | .globalData => true
  | .fileCreate => r.createWarm
  | .writeTime => r.writeWarm
  | .timeTaken => r.takenWarm

/-- The first defect among the fields of a marker, if they are read. -/
def markerDefect? (r : Reading) (line : List Char) (marker : LogMarker) : Option LineError :=
  if tagged marker line && r.reads marker then fieldsDefect? marker line else none

lemma header_failsWith {α : Type} {ofLine : List Char → Except LineError α}
    (hread : FailsWith (ofLine line) (fieldsDefect? marker line)) (hreads : r.reads marker = true)
    (put : α → Reading) :
    FailsWith (if tagged marker line then ofLine line >>= fun a => .ok (put a) else .ok r)
      (r.markerDefect? line marker) := by
  rw [markerDefect?, hreads, Bool.and_true]
  split
  · exact hread.map put
  · exact failsWith_ok r

/-- A timing fails with the defects of its line, except on the warm-up line. -/
lemma timing_failsWith {body : Except LineError Reading} (warm : Reading)
    (hbody : FailsWith body (fieldsDefect? marker line)) :
    FailsWith (if tagged marker line then if r.reads marker then body else .ok warm else .ok r)
      (r.markerDefect? line marker) := by
  unfold markerDefect?
  cases tagged marker line with
  | false => exact failsWith_ok r
  | true =>
    cases r.reads marker with
    | false => exact failsWith_ok warm
    | true => exact hbody

lemma addLayout_failsWith (r : Reading) :
    FailsWith (r.addLayout line) (r.markerDefect? line .blocksPerFile) :=
  header_failsWith FileLayout.ofLine_failsWith rfl fun l => { r with layout := some l }

lemma addBox_failsWith (r : Reading) :
    FailsWith (r.addBox line) (r.markerDefect? line .restructuringSize) :=
  header_failsWith WordBox.ofLine_failsWith rfl fun b => { r with restructureBox := b }

lemma addProblem_failsWith (r : Reading) :
    FailsWith (r.addProblem line) (r.markerDefect? line .globalData) :=
  header_failsWith Problem.ofLine_failsWith rfl fun p => { r with problem := some p }

lemma addCreate_failsWith (r : Reading) :
    FailsWith (r.addCreate line) (r.markerDefect? line .fileCreate) := by
  have hnumber : ∀ index, FailsWith (numberAt .fileCreate line index) _ :=
    numberAt_failsWith rfl line
  refine timing_failsWith { r with createWarm := true } ?_
  simp only [fieldsDefect?, LogMarker.fields, findSome?_cons_eq_or, List.findSome?_nil]
  exact (hnumber 6).bind fun _ _ => failsWith_ok _

lemma addWrite_failsWith (r : Reading) :
    FailsWith (r.addWrite line) (r.markerDefect? line .writeTime) := by
  have hnumber : ∀ index, FailsWith (numberAt .writeTime line index) _ :=
    numberAt_failsWith rfl line
  refine timing_failsWith { r with writeWarm := true } ?_
  simp only [fieldsDefect?, LogMarker.fields, findSome?_cons_eq_or, List.findSome?_nil]
  exact (hnumber 11).bind fun _ _ => (hnumber 13).bind fun _ _ => (hnumber 15).bind fun _ _ =>
    (hnumber 17).bind fun _ _ => (hnumber 19).bind fun _ _ => failsWith_ok _

lemma addTaken_failsWith (r : Reading) :
    FailsWith (r.addTaken line) (r.markerDefect? line .timeTaken) := by
  have hnumber : ∀ index, FailsWith (numberAt .timeTaken line index) _ :=
    numberAt_failsWith rfl line
  refine timing_failsWith { r with takenWarm := true } ?_
  simp only [fieldsDefect?, LogMarker.fields, findSome?_cons_eq_or, List.findSome?_nil]
  exact (hnumber 2).bind fun _ _ => (hnumber 5).bind fun _ _ => failsWith_ok _

/-- A line fails with the first defect of its markers, in their order. -/
theorem addLine_failsWith (r : Reading) (line : List Char) :
    FailsWith (r.addLine line) (LogMarker.all.findSome? (r.markerDefect? line)) := by
  simp only [LogMarker.all, findSome?_cons_eq_or, List.findSome?_nil, Option.or_none]
  refine (addLayout_failsWith r).bind fun _ h₁ => ?_
  -- Only the parts that a step leaves alone are looked at by the next one.
  obtain ⟨_, -, rfl⟩ := addLayout_eq_ok_iff.mp h₁
  refine (addBox_failsWith _).bind fun _ h₂ => ?_
  obtain ⟨_, -, rfl⟩ := addBox_eq_ok_iff.mp h₂
  refine (addProblem_failsWith _).bind fun _ h₃ => ?_
  obtain ⟨_, -, rfl⟩ := addProblem_eq_ok_iff.mp h₃
  refine (addCreate_failsWith _).bind fun _ h₄ => ?_
  obtain ⟨_, -, rfl⟩ := addCreate_eq_ok_iff.mp h₄
  refine (addWrite_failsWith _).bind fun _ h₅ => ?_
  obtain ⟨_, _, _, _, _, -, rfl⟩ := addWrite_eq_ok_iff.mp h₅
  exact addTaken_failsWith _

end Reading

end TileBench
