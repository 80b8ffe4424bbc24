import KairosRisk.Lib.PyNum
import Mathlib.Algebra.Order.BigOperators.Group.List
import Mathlib.Algebra.Order.Ring.Rat
import Mathlib.Order.Lattice

/-!
# `min` and `max` of exact numbers

On exact numbers Python's `min` and `max` are those of the order, so the order's
own lemmas apply to them: a bound on a minimum is a bound on everything it is
taken over, and both grow with their arguments.
-/

namespace PyLib

/-- Part of a list adds up to no more, of figures that are not negative. -/
theorem sum_le_of_subperm {α : Type} {l l' : List α} (h : l.Subperm l') {figure : α → Rat}
    (hfigure : ∀ a ∈ l', 0 ≤ figure a) : (l.map figure).sum ≤ (l'.map figure).sum := by
  obtain ⟨part, hperm, hsub⟩ := h
  rw [← (hperm.map figure).sum_eq]
  apply (hsub.map figure).sum_le_sum
  intro value hvalue
  obtain ⟨a, ha, rfl⟩ := List.mem_map.mp hvalue
  exact hfigure a ha

namespace PyFloat

theorem rat_abs_nonneg (v : Rat) : 0 ≤ PyFloat.abs v := by
  show 0 ≤ if v < 0 then -v else v
  split
  next h => exact neg_nonneg.mpr h.le
  next h => exact not_lt.mp h

/-- A minimum reaches a bound when everything it is taken over does. -/
theorem rat_le_min_iff {c x : Rat} {ys : List Rat} :
    c ≤ PyFloat.min x ys ↔ ∀ y ∈ x :: ys, c ≤ y := by
  constructor
  · intro h y hy
    by_contra hlt
    have hmin := (rat_min_le_iff x ys).mpr ⟨y, hy, le_refl y⟩
    exact hlt (le_trans h hmin)
  · intro h
    obtain ⟨y, hy, hle⟩ := (rat_min_le_iff x ys).mp (le_refl (PyFloat.min x ys))
    exact le_trans (h y hy) hle

theorem rat_min_le {x y : Rat} {ys : List Rat} (h : y ∈ x :: ys) : PyFloat.min x ys ≤ y :=
  rat_le_min_iff.mp (le_refl _) y h

/-- A minimum is below another when it is taken over something below each of the other's. -/
theorem rat_min_mono {x x' : Rat} {ys ys' : List Rat}
    (h : ∀ y' ∈ x' :: ys', ∃ y ∈ x :: ys, y ≤ y') : PyFloat.min x ys ≤ PyFloat.min x' ys' := by
  apply rat_le_min_iff.mpr
  intro y' hy'
  obtain ⟨y, hy, hle⟩ := h y' hy'
  exact le_trans (rat_min_le hy) hle

/-- A maximum is below a bound when everything it is taken over is. -/
theorem rat_max_le_iff {c : Rat} : ∀ {x : Rat} {ys : List Rat},
    PyFloat.max x ys ≤ c ↔ ∀ y ∈ x :: ys, y ≤ c
  | x, [] => by simp [PyFloat.max]
  | x, y :: ys => by
    show PyFloat.max (if x < y then y else x) ys ≤ c ↔ _
    rw [rat_max_le_iff]
    simp only [List.forall_mem_cons]
    by_cases h : x < y
    · rw [if_pos h]
      constructor
      · rintro ⟨hy, hys⟩
        exact ⟨le_trans h.le hy, hy, hys⟩
      · rintro ⟨_, hy, hys⟩
        exact ⟨hy, hys⟩
    · rw [if_neg h]
      constructor
      · rintro ⟨hx, hys⟩
        exact ⟨hx, le_trans (not_lt.mp h) hx, hys⟩
      · rintro ⟨hx, _, hys⟩
        exact ⟨hx, hys⟩

theorem rat_le_max {x y : Rat} {ys : List Rat} (h : y ∈ x :: ys) : y ≤ PyFloat.max x ys :=
  rat_max_le_iff.mp (le_refl _) y h

/-- A maximum is below another when each it is taken over is below one of the other's. -/
theorem rat_max_mono {x x' : Rat} {ys ys' : List Rat}
    (h : ∀ y ∈ x :: ys, ∃ y' ∈ x' :: ys', y ≤ y') : PyFloat.max x ys ≤ PyFloat.max x' ys' := by
  apply rat_max_le_iff.mpr
  intro y hy
  obtain ⟨y', hy', hle⟩ := h y hy
  exact le_trans hle (rat_le_max hy')

/-- `max(0, v)` is the order's. -/
theorem rat_max_eq (x y : Rat) : PyFloat.max x [y] = Max.max x y := by
  show (if x < y then y else x) = _
  split
  next h => exact (max_eq_right h.le).symm
  next h => exact (max_eq_left (not_lt.mp h)).symm

theorem rat_max_zero_pos_iff {v : Rat} : 0 < PyFloat.max 0 [v] ↔ 0 < v := by
  rw [rat_max_eq, lt_max_iff]
  simp

end PyFloat

namespace PyDecimal

/-- A minimum of exact decimals is that of exact floats. -/
theorem rat_min_eq (x : Rat) (ys : List Rat) : PyDecimal.min x ys = PyFloat.min x ys := by
  unfold PyDecimal.min PyFloat.min
  congr 1
  funext m y
  rw [rat_lt]
  by_cases h : y < m
  · rw [if_pos (decide_eq_true h), if_pos (show y < m from h)]
  · rw [if_neg (by simpa using h), if_neg (show ¬y < m from h)]

theorem rat_min_pair (x y : Rat) : PyDecimal.min x [y] = Min.min x y := by
  rw [rat_min_eq]
  apply le_antisymm
  · exact le_min (PyFloat.rat_min_le (by simp)) (PyFloat.rat_min_le (by simp))
  · apply PyFloat.rat_le_min_iff.mpr
    simp only [List.forall_mem_cons, List.not_mem_nil, false_implies, implies_true, and_true]
    exact ⟨min_le_left x y, min_le_right x y⟩

theorem rat_max_eq (x y : Rat) : PyDecimal.max x y = Max.max x y := by
  rw [← PyFloat.rat_max_eq, PyDecimal.max, rat_lt]
  show _ = if x < y then y else x
  by_cases h : x < y
  · rw [if_pos (decide_eq_true h), if_pos h]
  · rw [if_neg (by simpa using h), if_neg h]

end PyDecimal

end PyLib
