import KairosRisk.Lib.DecimalText
import Mathlib.Order.Bounds.Basic

/-!
# Grids

An exchange trades in whole numbers of a step. `Multiple step x` says that `x`
is one; over exact decimals that is what `x % step` tells, and rounding up to
whole steps gives the least one from a bound on.
-/

namespace PyLib

/-- A whole number of steps. -/
def Multiple (step x : Rat) : Prop := ∃ n : Int, x = n * step

variable {step x : Rat}

/-- What leaves no rest is a multiple. -/
theorem multiple_of_rem (h : PyDecimal.rem x step = .ok 0) : Multiple step x := by
  have hrem : (if step = 0 then Except.error ArithmeticSignal.invalidOperation
    else Except.ok (x - step * ((x.num * step.den).tdiv (x.den * step.num) : Int))) = .ok 0 := h
  split at hrem
  next => cases hrem
  next =>
    refine ⟨(x.num * step.den).tdiv (x.den * step.num), ?_⟩
    rw [mul_comm]
    exact sub_eq_zero.mp (Except.ok.inj hrem)

/-- The remainder of a whole number of steps, and of nothing else, is zero. -/
theorem rem_eq_zero_iff (hstep : step ≠ 0) : PyDecimal.rem x step = .ok 0 ↔ Multiple step x := by
  constructor
  · exact multiple_of_rem
  · rintro ⟨n, rfl⟩
    exact PyDecimal.rat_rem_mul n hstep

/-- Rounding up to whole steps gives the least multiple from a bound on. -/
theorem isLeast_ceil (hstep : 0 < step) (bound : Rat) :
    IsLeast {q | Multiple step q ∧ bound ≤ q} (((bound / step).ceil : Rat) * step) := by
  constructor
  · refine ⟨⟨_, rfl⟩, ?_⟩
    have hle : bound / step ≤ ((bound / step).ceil : Rat) := Rat.le_ceil
    exact (div_le_iff₀ hstep).mp hle
  · rintro q ⟨⟨n, rfl⟩, hq⟩
    have hn : bound / step ≤ (n : Rat) := (div_le_iff₀ hstep).mpr hq
    have hceil : (bound / step).ceil ≤ n := Rat.ceil_le_iff.mpr hn
    exact mul_le_mul_of_nonneg_right (Int.cast_le.mpr hceil) hstep.le

/-- Rounding down to whole steps gives the greatest multiple within a bound. -/
theorem isGreatest_floor (hstep : 0 < step) (bound : Rat) :
    IsGreatest {q | Multiple step q ∧ q ≤ bound} (((bound / step).floor : Rat) * step) := by
  constructor
  · refine ⟨⟨_, rfl⟩, ?_⟩
    exact (le_div_iff₀ hstep).mp (Rat.floor_le _)
  · rintro q ⟨⟨n, rfl⟩, hq⟩
    have hn : (n : Rat) ≤ bound / step := (le_div_iff₀ hstep).mpr hq
    exact mul_le_mul_of_nonneg_right (Int.cast_le.mpr (Rat.le_floor_iff.mpr hn)) hstep.le

/-- Rounding toward zero does the same within a bound that is not negative. -/
theorem isGreatest_truncate (hstep : 0 < step) {bound : Rat} (hbound : 0 ≤ bound) :
    IsGreatest {q | Multiple step q ∧ q ≤ bound} (PyDecimal.truncate (bound / step) * step) := by
  have hfloor : PyDecimal.truncate (bound / step) = ((bound / step).floor : Rat) := by
    show (((bound / step).num.tdiv (bound / step).den : Int) : Rat) = _
    rw [Rat.floor_def,
      Int.tdiv_eq_ediv_of_nonneg (Rat.num_nonneg.mpr (div_nonneg hbound hstep.le))]
  rw [hfloor]
  exact isGreatest_floor hstep bound

/-- From two bounds on, one of them on the grid, it is the greater of that one
and the other rounded up. -/
theorem isLeast_max (hstep : 0 < step) {least : Rat} (hleast : Multiple step least) (bound : Rat) :
    IsLeast {q | Multiple step q ∧ least ≤ q ∧ bound ≤ q}
      (PyDecimal.max least (((bound / step).ceil : Rat) * step)) := by
  obtain ⟨⟨hceil, hge⟩, hbelow⟩ := isLeast_ceil hstep bound
  rw [PyDecimal.max]
  by_cases hlt : least < ((bound / step).ceil : Rat) * step
  · rw [if_pos (by simpa using hlt)]
    refine ⟨⟨hceil, hlt.le, hge⟩, ?_⟩
    rintro q ⟨hq, _, hbound⟩
    exact hbelow ⟨hq, hbound⟩
  · rw [if_neg (by simpa using hlt)]
    refine ⟨⟨hleast, le_refl _, hge.trans (not_lt.mp hlt)⟩, ?_⟩
    rintro q ⟨_, hq, _⟩
    exact hq

end PyLib
