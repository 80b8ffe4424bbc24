import KairosRisk.CapitalTightening
import KairosRisk.Lib.FloatGrid

/-!
# Directed conversion needs one step

`_lower_float` converts to the nearest float, compares its decimal spelling with
the value, and takes at most one `nextafter`. Over any format that is enough: it
returns the greatest float spelled within the value (`lowerFloat_grid`), and
`_upper_float` the least one spelled from it on (`upperFloat_grid`).
`one_step_is_enough` says what follows for every ceiling and floor, and that the
floats of a format satisfy `DirectedConversion`.
-/

namespace KairosRisk

open PyLib GridFloat

section Grid

variable {g : FloatGrid} {v w : Rat}

/-- Within the threshold, `_lower_float` is the greatest float spelled within the value. -/
theorem lowerFloat_grid (hv : 0 ≤ v) (hlt : v < g.overflow) :
    lowerFloat v = (.ok (finite (g.below v)) : Except PyError (GridFloat g)) := by
  have hnearest : (Spelling.toFloat v : GridFloat g) = finite (g.nearest v) :=
    ofRat_of_within (by linarith [overflow_pos (g := g)]) hlt
  have hbelow : (floatBelow v : GridFloat g) = finite (g.below v) := by
    unfold floatBelow FloatGrid.below
    rw [hnearest, spell_finite, PyDecimal.rat_lt]
    by_cases h : v < g.spell (g.nearest v)
    · rw [if_pos (decide_eq_true h), if_pos h]
      -- zero is spelled within the value, so there is a float below the nearest
      have hpos := FloatGrid.zero_lt_nearest hv h
      exact if_neg fun h0 => absurd hpos (by rw [h0]; exact Fin.not_lt_zero _)
    · rw [if_neg (by simpa using h), if_neg h]
  unfold lowerFloat
  rw [hnearest, isFinite_finite, if_pos rfl, hbelow, lit_zero]
  congr 1
  show (if finite g.zero < finite (g.below v) then finite (g.below v) else finite g.zero) = _
  split
  next => rfl
  next h =>
    rw [finite_lt, not_lt] at h
    rw [le_antisymm h (FloatGrid.zero_le_below hv)]

/-- From the threshold on it raises. -/
theorem lowerFloat_overflow (h : g.overflow ≤ v) :
    lowerFloat v = (.error (.arithmetic .overflow) : Except PyError (GridFloat g)) := by
  have hinf : (Spelling.toFloat v : GridFloat g) = posInf := if_pos h
  unfold lowerFloat
  rw [hinf]
  rfl

/-- Up to the largest float's spelling, `_upper_float` is the least float
spelled from the value on. -/
theorem upperFloat_grid (hv : 0 ≤ v) (hmax : v ≤ g.spell g.largest) :
    upperFloat v = (.ok (finite (g.above v)) : Except PyError (GridFloat g)) := by
  have hnearest : (Spelling.toFloat v : GridFloat g) = finite (g.nearest v) :=
    ofRat_of_within (by linarith [overflow_pos (g := g)]) (hmax.trans_lt (g.spell_lt_overflow _))
  unfold upperFloat floatAbove FloatGrid.above
  rw [hnearest, isFinite_finite, if_pos rfl, spell_finite, PyDecimal.rat_lt]
  congr 1
  by_cases h : g.spell (g.nearest v) < v
  · rw [if_pos (decide_eq_true h), if_pos h]
    exact if_neg fun hlast => absurd hmax (by rw [← hlast]; exact not_le.mpr h)
  · rw [if_neg (by simpa using h), if_neg h]

/-- **One step is enough.** Up to the largest float's spelling both conversions
return; the float below is the greatest one spelled within the value and the
float above the least one spelled from it on, the conversion downward is
monotone, and a spelling converts back to its own float. -/
theorem one_step_is_enough (hv : 0 ≤ v) (hmax : v ≤ g.spell g.largest) :
    ∃ x y : g.Point,
      lowerFloat v = (.ok (finite x) : Except PyError (GridFloat g)) ∧
      upperFloat v = (.ok (finite y) : Except PyError (GridFloat g)) ∧
      g.spell x ≤ v ∧ v ≤ g.spell y ∧
      (∀ z, g.spell z ≤ v → z ≤ x) ∧ (∀ z, v ≤ g.spell z → y ≤ z) ∧
      (∀ w, v ≤ w → w ≤ g.spell g.largest →
        ∃ x', lowerFloat w = (.ok (finite x') : Except PyError (GridFloat g)) ∧ x ≤ x') ∧
      ∀ z, v = g.spell z → x = z := by
  have hbelow := FloatGrid.isGreatest_below (g := g) hv
  have habove := FloatGrid.isLeast_above hmax
  have hlt := hmax.trans_lt (g.spell_lt_overflow _)
  refine ⟨g.below v, g.above v, lowerFloat_grid hv hlt, upperFloat_grid hv hmax, hbelow.1, habove.1,
    fun z hz => hbelow.2 hz, fun z hz => habove.2 hz, ?_, ?_⟩
  · intro w hw hwmax
    exact ⟨g.below w, lowerFloat_grid (hv.trans hw) (hwmax.trans_lt (g.spell_lt_overflow _)),
      FloatGrid.below_mono hv hw⟩
  · rintro z rfl
    apply FloatGrid.below_spell
    rwa [← g.spell_zero, FloatGrid.spell_strictMono.le_iff_le] at hv

/-- Between the largest float's spelling and the threshold there is none above. -/
theorem upperFloat_beyond (hmax : g.spell g.largest < v) (hlt : v < g.overflow) :
    upperFloat v = (.ok posInf : Except PyError (GridFloat g)) := by
  have hnearest : (Spelling.toFloat v : GridFloat g) = finite (g.nearest v) :=
    ofRat_of_within ((g.neg_overflow_lt_spell _).trans hmax) hlt
  have hlast : g.nearest v = g.largest := by
    by_contra hne
    exact absurd (FloatGrid.lt_spell_of_nearest_lt (Fin.lt_last_iff_ne_last.mpr hne)) hmax.not_gt
  unfold upperFloat floatAbove
  rw [hnearest, isFinite_finite, if_pos rfl, spell_finite, PyDecimal.rat_lt, hlast,
    if_pos (decide_eq_true hmax)]
  congr 1
  exact if_pos rfl

theorem upperFloat_overflow (h : g.overflow ≤ v) :
    upperFloat v = (.error (.arithmetic .overflow) : Except PyError (GridFloat g)) := by
  have hinf : (Spelling.toFloat v : GridFloat g) = posInf := if_pos h
  unfold upperFloat
  rw [hinf]
  rfl

theorem lowerFloat_grid_ok {x : GridFloat g} (hv : 0 ≤ v) (h : lowerFloat v = .ok x) :
    v < g.overflow ∧ x = finite (g.below v) := by
  by_cases hlt : v < g.overflow
  · rw [lowerFloat_grid hv hlt] at h
    exact ⟨hlt, (Except.ok.inj h).symm⟩
  · rw [lowerFloat_overflow (not_lt.mp hlt)] at h
    cases h

/-- What `_upper_float` returns is the float above, or an infinity beyond them all. -/
theorem upperFloat_grid_ok {x : GridFloat g} (hv : 0 ≤ v) (h : upperFloat v = .ok x) :
    (v ≤ g.spell g.largest ∧ x = finite (g.above v)) ∨ x = posInf := by
  by_cases hmax : v ≤ g.spell g.largest
  · rw [upperFloat_grid hv hmax] at h
    exact Or.inl ⟨hmax, (Except.ok.inj h).symm⟩
  · by_cases hlt : v < g.overflow
    · rw [upperFloat_beyond (not_le.mp hmax) hlt] at h
      exact Or.inr (Except.ok.inj h).symm
    · rw [upperFloat_overflow (not_lt.mp hlt)] at h
      cases h

/-- A smaller value converts upward where a greater one does. -/
theorem upperFloat_grid_mono {y : GridFloat g} (hv : 0 ≤ v) (hle : v ≤ w)
    (h : upperFloat w = .ok y) : ∃ x : GridFloat g, upperFloat v = .ok x ∧ x ≤ y := by
  rcases upperFloat_grid_ok (hv.trans hle) h with ⟨hmax, rfl⟩ | rfl
  · exact ⟨_, upperFloat_grid hv (hle.trans hmax), finite_le.mpr (FloatGrid.above_mono hle hmax)⟩
  · by_cases hmax : v ≤ g.spell g.largest
    · exact ⟨_, upperFloat_grid hv hmax, finite_le_posInf _⟩
    · have hlt : v < g.overflow := by
        by_contra hge
        rw [upperFloat_overflow ((not_lt.mp hge).trans hle)] at h
        cases h
      exact ⟨_, upperFloat_beyond (not_le.mp hmax) hlt, posInf_le⟩

theorem isPositive_grid {x : GridFloat g} (hx : isPositive x = true) :
    ∃ i, g.zero ≤ i ∧ x = finite i := by
  unfold isPositive at hx
  rw [Bool.and_eq_true, decide_eq_true_eq, lit_zero] at hx
  obtain ⟨i, rfl⟩ := isFinite_iff.mp hx.1
  exact ⟨i, (finite_lt.mp hx.2).le, rfl⟩

/-- The floats of a format convert as the ceilings and floors ask. -/
instance (g : FloatGrid) : DirectedConversion (GridFloat g) where
  le_iff hx hy := by
    obtain ⟨i, rfl⟩ := isFinite_iff.mp hx
    obtain ⟨j, rfl⟩ := isFinite_iff.mp hy
    rw [finite_le, spell_finite, spell_finite, FloatGrid.spell_strictMono.le_iff_le]
  lt_iff hx hy := by
    obtain ⟨i, rfl⟩ := isFinite_iff.mp hx
    obtain ⟨j, rfl⟩ := isFinite_iff.mp hy
    rw [finite_lt, spell_finite, spell_finite, FloatGrid.spell_strictMono.lt_iff_lt]
  zero_finite := LawfulOrder.zero_finite
  spell_zero := LawfulSpelling.spell_zero
  lower_finite hv h := by
    rw [(lowerFloat_grid_ok hv h).2]
    rfl
  lower_le hv h := by
    rw [(lowerFloat_grid_ok hv h).2]
    exact (FloatGrid.isGreatest_below hv).1
  lower_mono hv hle h := by
    obtain ⟨hlt, rfl⟩ := lowerFloat_grid_ok (hv.trans hle) h
    exact ⟨_, lowerFloat_grid hv (hle.trans_lt hlt), finite_le.mpr (FloatGrid.below_mono hv hle)⟩
  lower_spell hx := by
    obtain ⟨i, hi, rfl⟩ := isPositive_grid hx
    have hpos : 0 ≤ g.spell i := by
      rw [← g.spell_zero]
      exact FloatGrid.spell_strictMono.monotone hi
    rw [spell_finite, lowerFloat_grid hpos (g.spell_lt_overflow i), FloatGrid.below_spell hi]
  le_upper hv h hfinite := by
    rcases upperFloat_grid_ok hv h with ⟨hmax, rfl⟩ | rfl
    · exact (FloatGrid.isLeast_above hmax).1
    · cases hfinite
  upper_mono := upperFloat_grid_mono
  upper_spell hx := by
    obtain ⟨i, hi, rfl⟩ := isPositive_grid hx
    have hpos : 0 ≤ g.spell i := by
      rw [← g.spell_zero]
      exact FloatGrid.spell_strictMono.monotone hi
    rw [spell_finite, upperFloat_grid hpos (FloatGrid.spell_strictMono.monotone (Fin.le_last i)),
      FloatGrid.above_spell]

end Grid

namespace Scenario

/-- A few binary64 floats with their spellings, among them the two nearest to a
sixth of a percent. -/
def someFloats : List (Rat × Rat) :=
  [(0, 0),
    (3843071682022823 / 2305843009213693952, 16666666666666666 / 10000000000000000000),
    (7686143364045647 / 4611686018427387904, 16666666666666668 / 10000000000000000000),
    (5764607523034235 / 2305843009213693952, 25 / 10000),
    (5764607523034235 / 576460752303423488, 1 / 100),
    (1, 1),
    (5, 5),
    (7504122879106089 / 562949953421312, 1333 / 100),
    (20, 20),
    (80, 80),
    (500, 500),
    (1000, 1000),
    (2000, 2000),
    (3000, 3000),
    (8000, 8000),
    (20000, 20000)]

def someValue (x : Fin 16) : Rat := (someFloats.getD x (0, 0)).1

def someSpelling (x : Fin 16) : Rat := (someFloats.getD x (0, 0)).2

/-- They are a format. -/
def someFormat : FloatGrid where
  size := 15
  value := someValue
  value_strictMono x y := by
    revert x y
    decide +kernel
  zero := 0
  value_zero := rfl
  nearest := FloatGrid.closest someValue
  nearest_le := FloatGrid.closest_le someValue
  spell := someSpelling
  spell_zero := rfl
  nearest_spell := by decide +kernel
  overflow := 30000
  spell_lt_overflow := by decide +kernel
  neg_overflow_lt_spell := by decide +kernel

/-- A sixth of a percent is between two floats, of which the nearer one is spelled above it. -/
theorem sixth_percent_enclosed :
    1 / 600 < someFormat.spell (someFormat.nearest (1 / 600)) ∧
    ∃ x y : someFormat.Point,
      lowerFloat (1 / 600 : Rat) = (.ok (finite x) : Except PyError (GridFloat someFormat)) ∧
      upperFloat (1 / 600 : Rat) = (.ok (finite y) : Except PyError (GridFloat someFormat)) ∧
      someFormat.spell x ≤ 1 / 600 ∧ 1 / 600 ≤ someFormat.spell y := by
  obtain ⟨x, y, hx, hy, hlow, hhigh, -⟩ :=
    one_step_is_enough (g := someFormat) (v := 1 / 600) (by decide +kernel) (by decide +kernel)
  exact ⟨by decide +kernel, x, y, hx, hy, hlow, hhigh⟩

end Scenario

end KairosRisk
