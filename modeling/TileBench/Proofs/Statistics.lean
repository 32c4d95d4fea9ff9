import Mathlib
import TileBench.Statistics

/-!
# The mean and the peak of a series

The mean of a series is its sum by its length, where the sum is taken from left to right. Its peak is
a number of the series that no other one exceeds, or minus infinity if the series has no number. An
empty series has neither. The peak is found in one pass, which leaves out what is no number.
-/

namespace TileBench.Statistics

open Float.Model (UnpackedFloat)

/-! ### The order of numbers -/

section Order

variable {x y : UnpackedFloat} {a b c : Float}

/-- The place of a number among the others: its sign and whether it is infinite, then its exponent,
then its significand. -/
def rank : UnpackedFloat → Int × Int × Int
  | .infinity .negative => (-2, 0, 0)
  | .finite .negative m e _ => (-1, -e, -m)
  | .zero _ | .notANumber => (0, 0, 0)
  | .finite .positive m e _ => (1, e, m)
  | .infinity .positive => (2, 0, 0)

/-- Ranks are compared part by part. -/
def Before (p q : Int × Int × Int) : Prop :=
  p.1 < q.1 ∨ p.1 = q.1 ∧ (p.2.1 < q.2.1 ∨ p.2.1 = q.2.1 ∧ p.2.2 < q.2.2)

lemma compare_sign : compare UnpackedFloat.Sign.negative UnpackedFloat.Sign.positive = .lt := rfl

lemma unpacked_lt_iff :
    x.lt y = true ↔ x.isNaN = false ∧ y.isNaN = false ∧ Before (rank x) (rank y) := by
  rcases x with ⟨_ | _⟩ | _ | ⟨_ | _⟩ | ⟨_ | _, m, e, hm⟩ <;>
    rcases y with ⟨_ | _⟩ | _ | ⟨_ | _⟩ | ⟨_ | _, m', e', hm'⟩ <;>
    simp [UnpackedFloat.lt, UnpackedFloat.compare, UnpackedFloat.isNaN, rank, Before, compare_sign,
      Ordering.then_eq_lt, Ordering.then_eq_gt, Ordering.swap_eq_lt, Int.compare_eq_lt,
      Int.compare_eq_gt, Nat.compare_eq_lt, Nat.compare_eq_gt]

lemma lt_iff : a < b ↔ a.isNaN = false ∧ b.isNaN = false ∧
    Before (rank a.toModel.unpack) (rank b.toModel.unpack) := by
  refine Iff.trans ?_ unpacked_lt_iff
  exact decide_eq_true_iff

lemma lt_irrefl (a : Float) : ¬ a < a := by
  rw [lt_iff]
  unfold Before
  omega

lemma lt_trans (h : a < b) (h' : b < c) : a < c := by
  rw [lt_iff] at h h' ⊢
  obtain ⟨ha, -, hab⟩ := h
  obtain ⟨-, hc, hbc⟩ := h'
  refine ⟨ha, hc, ?_⟩
  unfold Before at hab hbc ⊢
  omega

/-- What exceeds a number exceeds every number that is not greater. -/
lemma lt_of_not_lt_of_lt (ha : a.isNaN = false) (h : ¬ b < a) (h' : b < c) : a < c := by
  rw [lt_iff] at h h' ⊢
  obtain ⟨hb, hc, hbc⟩ := h'
  refine ⟨ha, hc, ?_⟩
  have hba : ¬ Before (rank b.toModel.unpack) (rank a.toModel.unpack) := fun hba => h ⟨hb, ha, hba⟩
  unfold Before at hba hbc ⊢
  omega

end Order

/-! ### Means -/

variable {values : List Float}

def mean? (values : List Float) : Option Float :=
  if values = [] then none
  else some (values.foldl (· + ·) (-0.0) / Float.ofNat values.length)

lemma isNaN_of_nil : (of []).mean.isNaN = true ∧ (of []).maximum.isNaN = true := by decide

lemma mean?_eq (values : List Float) :
    mean? values = if values = [] then none else some (of values).mean := by
  unfold mean?
  split_ifs with hempty
  · rfl
  · rw [of, if_neg (mt List.isEmpty_iff.mp hempty)]
    rfl

/-! ### Peaks -/

/-- The peak of a series is a number of it, or minus infinity, and none of the series exceeds it. -/
inductive IsPeak (values : List Float) : Option Float → Prop
  | empty : values = [] → IsPeak values none
  | number (peak : Float) : values ≠ [] → peak ∈ values ∨ peak = -(1.0 / 0.0) →
    peak.isNaN = false → (∀ v ∈ values, ¬ peak < v) → IsPeak values (some peak)

lemma greater_eq {a b : Float} (ha : a.isNaN = false) : greater a b = if a < b then b else a := by
  simp only [greater, ha, Bool.false_or, decide_eq_true_eq, gt_iff_lt]

/-- The greatest of some numbers is one of them, and exceeded by none. -/
lemma foldl_greater {a : Float} (ha : a.isNaN = false) (values : List Float) :
    (values.foldl greater a = a ∨ values.foldl greater a ∈ values) ∧
    (values.foldl greater a).isNaN = false ∧ ¬ values.foldl greater a < a ∧
    ∀ v ∈ values, ¬ values.foldl greater a < v := by
  induction values generalizing a with
  | nil => exact ⟨.inl rfl, ha, lt_irrefl a, List.forall_mem_nil _⟩
  | cons v rest ih =>
    rw [List.foldl_cons, greater_eq ha, List.forall_mem_cons]
    split_ifs with hv
    · obtain ⟨hmem, hnumber, hfirst, hrest⟩ := ih (lt_iff.mp hv).2.1
      refine ⟨.inr ?_, hnumber, fun h => hfirst (lt_trans h hv), hfirst, hrest⟩
      exact List.mem_cons.mpr hmem
    · obtain ⟨hmem, hnumber, hfirst, hrest⟩ := ih ha
      refine ⟨hmem.imp_right (List.mem_cons_of_mem v), hnumber, hfirst, fun h => hv ?_, hrest⟩
      exact lt_of_not_lt_of_lt ha hfirst h

/-- The pass over a series finds its peak. -/
lemma isPeak_maximum (values : List Float) :
    IsPeak values (if values = [] then none else some (of values).maximum) := by
  split_ifs with hempty
  · exact .empty hempty
  · obtain ⟨hmem, hnumber, -, hgreatest⟩ :=
      foldl_greater (a := -(1.0 / 0.0)) (by decide) values
    rw [of, if_neg (mt List.isEmpty_iff.mp hempty)]
    exact .number _ hempty hmem.symm hnumber hgreatest

end TileBench.Statistics
