import KairosRisk.Lib.PyNum
import Mathlib.Algebra.Order.AbsoluteValue.Basic
import Mathlib.Algebra.Order.Field.Rat
import Mathlib.Algebra.Order.Group.Unbundled.Abs
import Mathlib.Data.List.MinMax
import Mathlib.Order.Bounds.Basic
import Mathlib.Order.Fin.Basic
import Mathlib.Tactic.Linarith

/-!
# Floats as a grid of rationals

The finite floats of a format are finitely many rationals in increasing order,
zero among them. A number converts to a point nearest to it, whichever way ties
go, and a point is spelled as a decimal that converts back to it, which need not
be its value. From the overflow threshold on a number converts to an infinity.

A number lies between the midpoints around its nearest point, and so does the
point's spelling. So the spellings of the two neighbours enclose the number
(`spell_lt_of_lt_nearest`, `lt_spell_of_nearest_lt`), and stepping by one point
from the nearest one, where its spelling is on the wrong side, gives the
greatest point spelled within a bound and the least one spelled from it on
(`isGreatest_below`, `isLeast_above`).

`GridFloat` adds the infinities and NaN, with arithmetic rounded to the grid: it
is a Python float whose conversions follow the laws of `float` and `repr`.
-/

namespace PyLib

/-- A format: its points in order, what a number converts to, and how a point is spelled. -/
structure FloatGrid where
  size : Nat
  value : Fin (size + 1) → Rat
  value_strictMono : StrictMono value
  zero : Fin (size + 1)
  value_zero : value zero = 0
  nearest : Rat → Fin (size + 1)
  nearest_le : ∀ v y, |v - value (nearest v)| ≤ |v - value y|
  spell : Fin (size + 1) → Rat
  spell_zero : spell zero = 0
  nearest_spell : ∀ x, nearest (spell x) = x
  /-- From here on a number is too large. -/
  overflow : Rat
  spell_lt_overflow : ∀ x, spell x < overflow
  neg_overflow_lt_spell : ∀ x, -overflow < spell x

namespace FloatGrid

variable (g : FloatGrid)

/-- A finite float of the format. -/
abbrev Point := Fin (g.size + 1)

/-- The largest finite float. -/
abbrev largest : g.Point := Fin.last g.size

/-- The float before a point. -/
def pred (x : g.Point) : g.Point := ⟨x - 1, by omega⟩

/-- The float after a point that is not the largest. -/
def succ (x : g.Point) : g.Point := ⟨min (x + 1) g.size, by omega⟩

/-- The nearest point, or the one below it where that is spelled above the number. -/
def below (v : Rat) : g.Point :=
  if v < g.spell (g.nearest v) then g.pred (g.nearest v) else g.nearest v

/-- The nearest point, or the one above it where that is spelled below the number. -/
def above (v : Rat) : g.Point :=
  if g.spell (g.nearest v) < v then g.succ (g.nearest v) else g.nearest v

variable {g} {v w : Rat} {x y : g.Point}

/-! ## Spellings and neighbours -/

/-- What converts to the upper of two points is not below their midpoint. -/
theorem midpoint_le_of_lt_nearest (h : y < g.nearest v) :
    g.value y + g.value (g.nearest v) ≤ 2 * v := by
  have hvalue := g.value_strictMono h
  have hnear := g.nearest_le v y
  by_contra hlt
  rw [abs_of_nonpos (by linarith)] at hnear
  rcases le_total v (g.value y) with hle | hle
  · rw [abs_of_nonpos (by linarith)] at hnear
    linarith
  · rw [abs_of_nonneg (by linarith)] at hnear
    linarith

/-- What converts to the lower of two points is not above their midpoint. -/
theorem le_midpoint_of_nearest_lt (h : g.nearest v < y) :
    2 * v ≤ g.value (g.nearest v) + g.value y := by
  have hvalue := g.value_strictMono h
  have hnear := g.nearest_le v y
  by_contra hlt
  rw [abs_of_nonneg (by linarith)] at hnear
  rcases le_total v (g.value y) with hle | hle
  · rw [abs_of_nonpos (by linarith)] at hnear
    linarith
  · rw [abs_of_nonneg (by linarith)] at hnear
    linarith

/-- A point under the nearest one is spelled below the number. -/
theorem spell_lt_of_lt_nearest (h : y < g.nearest v) : g.spell y < v := by
  have hv := midpoint_le_of_lt_nearest h
  have hy : 2 * g.spell y ≤ g.value (g.nearest (g.spell y)) + g.value (g.nearest v) :=
    le_midpoint_of_nearest_lt (by rwa [g.nearest_spell])
  rw [g.nearest_spell] at hy
  apply lt_of_le_of_ne (by linarith)
  -- spelled as the number, it would be its nearest point
  rintro rfl
  rw [g.nearest_spell] at h
  exact lt_irrefl y h

/-- A point over the nearest one is spelled above the number. -/
theorem lt_spell_of_nearest_lt (h : g.nearest v < y) : v < g.spell y := by
  have hv := le_midpoint_of_nearest_lt h
  have hy : g.value (g.nearest v) + g.value (g.nearest (g.spell y)) ≤ 2 * g.spell y :=
    midpoint_le_of_lt_nearest (by rwa [g.nearest_spell])
  rw [g.nearest_spell] at hy
  apply lt_of_le_of_ne (by linarith)
  rintro rfl
  rw [g.nearest_spell] at h
  exact lt_irrefl y h

theorem spell_strictMono : StrictMono g.spell := by
  intro x y h
  exact lt_spell_of_nearest_lt (by rwa [g.nearest_spell])

theorem nearest_mono (h : v ≤ w) : g.nearest v ≤ g.nearest w := by
  by_contra hlt
  rw [not_le] at hlt
  rcases lt_or_eq_of_le h with h | rfl
  · -- the midpoint of the two would be on both sides of both numbers
    have hmid : g.value (g.nearest w) + g.value (g.nearest v) ≤ 2 * v :=
      midpoint_le_of_lt_nearest hlt
    have hmid' : 2 * w ≤ g.value (g.nearest w) + g.value (g.nearest v) :=
      le_midpoint_of_nearest_lt hlt
    linarith
  · exact lt_irrefl _ hlt

theorem nearest_value (x : g.Point) : g.nearest (g.value x) = x := by
  have h := g.nearest_le (g.value x) x
  rw [sub_self, abs_zero] at h
  exact (g.value_strictMono.injective
    (sub_eq_zero.mp (abs_eq_zero.mp (le_antisymm h (abs_nonneg _))))).symm

/-- Nothing that is not negative converts to less than zero. -/
theorem zero_le_nearest (hv : 0 ≤ v) : g.zero ≤ g.nearest v := by
  by_contra h
  have hlt := lt_spell_of_nearest_lt (not_le.mp h)
  rw [g.spell_zero] at hlt
  exact absurd hv (not_le.mpr hlt)

/-! ## One step is enough -/

theorem pred_lt (h : g.zero < x) : g.pred x < x := by
  have hzero : (g.zero : Nat) < x := h
  show (x : Nat) - 1 < x
  omega

theorem le_pred_of_lt (h : y < x) : y ≤ g.pred x := by
  have hlt : (y : Nat) < x := h
  show (y : Nat) ≤ x - 1
  omega

theorem lt_succ (h : x < g.largest) : x < g.succ x := by
  have hlast : (x : Nat) < g.size := h
  show (x : Nat) < min ((x : Nat) + 1) g.size
  omega

theorem succ_le_of_lt (h : x < y) : g.succ x ≤ y := by
  have hlt : (x : Nat) < y := h
  show min ((x : Nat) + 1) g.size ≤ (y : Nat)
  omega

/-- A number spelled by the nearest point or above it has no step to take below zero. -/
theorem zero_lt_nearest (hv : 0 ≤ v) (h : v < g.spell (g.nearest v)) : g.zero < g.nearest v := by
  apply lt_of_le_of_ne (zero_le_nearest hv)
  intro hzero
  rw [← hzero, g.spell_zero] at h
  exact absurd hv (not_le.mpr h)

/-- **Downward**: the greatest float spelled within a number that is not negative. -/
theorem isGreatest_below (hv : 0 ≤ v) : IsGreatest {x | g.spell x ≤ v} (g.below v) := by
  unfold below
  split
  next hlt =>
    constructor
    · exact (spell_lt_of_lt_nearest (pred_lt (zero_lt_nearest hv hlt))).le
    · intro x hx
      apply le_pred_of_lt
      by_contra hle
      have hmono := (spell_strictMono (g := g)).monotone (not_lt.mp hle)
      exact absurd hlt (not_lt.mpr (hmono.trans hx))
  next hnlt =>
    constructor
    · exact not_lt.mp hnlt
    · intro x hx
      by_contra hlt
      exact absurd (lt_spell_of_nearest_lt (not_le.mp hlt)) (not_lt.mpr hx)

/-- **Upward**: the least float spelled from a number on, up to the largest one's spelling. -/
theorem isLeast_above (hv : v ≤ g.spell g.largest) : IsLeast {x | v ≤ g.spell x} (g.above v) := by
  unfold above
  split
  next hlt =>
    have hlast : g.nearest v < g.largest := by
      apply lt_of_le_of_ne (Fin.le_last _)
      intro hlast
      rw [hlast] at hlt
      exact absurd hv (not_le.mpr hlt)
    constructor
    · exact (lt_spell_of_nearest_lt (lt_succ hlast)).le
    · intro x hx
      apply succ_le_of_lt
      by_contra hle
      have hmono := (spell_strictMono (g := g)).monotone (not_lt.mp hle)
      exact absurd hlt (not_lt.mpr (le_trans hx hmono))
  next hnlt =>
    constructor
    · exact not_lt.mp hnlt
    · intro x hx
      by_contra hlt
      exact absurd (spell_lt_of_lt_nearest (not_le.mp hlt)) (not_lt.mpr hx)

theorem zero_le_below (hv : 0 ≤ v) : g.zero ≤ g.below v := by
  apply (isGreatest_below hv).2
  show g.spell g.zero ≤ v
  rwa [g.spell_zero]

theorem below_mono (hv : 0 ≤ v) (h : v ≤ w) : g.below v ≤ g.below w :=
  (isGreatest_below (hv.trans h)).2 ((isGreatest_below hv).1.trans h)

theorem below_spell (hx : g.zero ≤ x) : g.below (g.spell x) = x := by
  have hpos : 0 ≤ g.spell x := by
    rw [← g.spell_zero]
    exact spell_strictMono.monotone hx
  have hgreatest : IsGreatest {y | g.spell y ≤ g.spell x} x :=
    ⟨le_refl (g.spell x), fun y hy => spell_strictMono.le_iff_le.mp hy⟩
  exact (isGreatest_below hpos).unique hgreatest

theorem above_mono (h : v ≤ w) (hw : w ≤ g.spell g.largest) : g.above v ≤ g.above w :=
  (isLeast_above (h.trans hw)).2 (h.trans (isLeast_above hw).1)

theorem above_spell (x : g.Point) : g.above (g.spell x) = x := by
  have hlast : g.spell x ≤ g.spell g.largest := spell_strictMono.monotone (Fin.le_last x)
  have hleast : IsLeast {y | g.spell x ≤ g.spell y} x :=
    ⟨le_refl (g.spell x), fun y hy => spell_strictMono.le_iff_le.mp hy⟩
  exact (isLeast_above hlast).unique hleast

/-! ## A format given by a table -/

section Table

variable {n : Nat} (value : Fin (n + 1) → Rat)

/-- The first of the points nearest to a number. -/
def closest (v : Rat) : Fin (n + 1) :=
  ((List.finRange (n + 1)).argmin fun x => |v - value x|).getD 0

theorem closest_le (v : Rat) (y : Fin (n + 1)) : |v - value (closest value v)| ≤ |v - value y| := by
  unfold closest
  cases h : (List.finRange (n + 1)).argmin fun x => |v - value x| with
  | none =>
    rw [List.argmin_eq_none] at h
    have hmem := List.mem_finRange y
    rw [h] at hmem
    cases hmem
  | some x =>
    exact List.le_of_mem_argmin (f := fun x => |v - value x|) (List.mem_finRange y) h

end Table

end FloatGrid

/-! ## Floats with the infinities and NaN -/

/-- A float of a format. -/
inductive GridFloat (g : FloatGrid) where
  | finite (x : g.Point)
  | posInf
  | negInf
  | nan
  deriving DecidableEq

namespace GridFloat

variable {g : FloatGrid}

/-- `float(v)`. -/
def ofRat (v : Rat) : GridFloat g :=
  if g.overflow ≤ v then posInf else if v ≤ -g.overflow then negInf else finite (g.nearest v)

/-- An infinity with the sign of a number, which zero has none of. -/
def infinityOf (v : Rat) : GridFloat g := if 0 < v then posInf else if v < 0 then negInf else nan

def neg : GridFloat g → GridFloat g
  | finite x => ofRat (-g.value x)
  | posInf => negInf
  | negInf => posInf
  | nan => nan

def add : GridFloat g → GridFloat g → GridFloat g
  | finite x, finite y => ofRat (g.value x + g.value y)
  | posInf, finite _ | finite _, posInf | posInf, posInf => posInf
  | negInf, finite _ | finite _, negInf | negInf, negInf => negInf
  | _, _ => nan

def sub : GridFloat g → GridFloat g → GridFloat g
  | finite x, finite y => ofRat (g.value x - g.value y)
  | x, y => add x (neg y)

def mul : GridFloat g → GridFloat g → GridFloat g
  | finite x, finite y => ofRat (g.value x * g.value y)
  | posInf, finite x | finite x, posInf => infinityOf (g.value x)
  | negInf, finite x | finite x, negInf => infinityOf (-g.value x)
  | posInf, posInf | negInf, negInf => posInf
  | posInf, negInf | negInf, posInf => negInf
  | _, _ => nan

/-- A division by zero, which Python raises for, gives NaN here. -/
def div : GridFloat g → GridFloat g → GridFloat g
  | finite x, finite y => if g.value y = 0 then nan else ofRat (g.value x / g.value y)
  | finite _, posInf | finite _, negInf => ofRat 0
  | posInf, finite x => infinityOf (g.value x)
  | negInf, finite x => infinityOf (-g.value x)
  | _, _ => nan

/-- The place of a float in the order, in which NaN has none. -/
def rank : GridFloat g → Option Int
  | finite x => some x
  | posInf => some (g.size + 1)
  | negInf => some (-1)
  | nan => none

def le (x y : GridFloat g) : Prop := (x.rank.any fun a => y.rank.any fun b => decide (a ≤ b)) = true

def lt (x y : GridFloat g) : Prop := (x.rank.any fun a => y.rank.any fun b => decide (a < b)) = true

def isFinite : GridFloat g → Bool
  | finite _ => true
  | _ => false

def nextDown : GridFloat g → GridFloat g
  | finite x => if x = 0 then negInf else finite (g.pred x)
  | posInf => finite g.largest
  | x => x

def nextUp : GridFloat g → GridFloat g
  | finite x => if x = g.largest then posInf else finite (g.succ x)
  | negInf => finite 0
  | x => x

/-- `Decimal(str(x))`. An infinite decimal compares as the threshold it is beyond does. -/
def spell : GridFloat g → Rat
  | finite x => g.spell x
  | posInf => g.overflow
  | negInf => -g.overflow
  | nan => 0

end GridFloat

instance (g : FloatGrid) : PyFloat (GridFloat g) where
  lit := GridFloat.ofRat
  add := GridFloat.add
  sub := GridFloat.sub
  mul := GridFloat.mul
  div := GridFloat.div
  neg := GridFloat.neg
  lt := GridFloat.lt
  le := GridFloat.le
  ltDec _ _ := inferInstanceAs (Decidable (_ = true))
  leDec _ _ := inferInstanceAs (Decidable (_ = true))
  isFinite := GridFloat.isFinite
  sum xs := xs.foldl GridFloat.add (GridFloat.ofRat 0)
  intGt i
    | .finite x => decide (g.value x < i)
    | .negInf => true
    | _ => false
  nextDown := GridFloat.nextDown
  nextUp := GridFloat.nextUp
  timestampMs us :=
    match GridFloat.mul (GridFloat.ofRat (us / 1000000 : Rat))
      (GridFloat.ofRat 1000 : GridFloat g) with
    | .finite x => (g.value x).num.tdiv (g.value x).den
    | _ => 0

instance (g : FloatGrid) : Spelling (GridFloat g) Rat where
  spell := GridFloat.spell
  toFloat := GridFloat.ofRat

namespace GridFloat

variable {g : FloatGrid} {v : Rat} {x y z : GridFloat g}

@[simp] theorem finite_le {i j : g.Point} : (finite i : GridFloat g) ≤ finite j ↔ i ≤ j := by
  show le (finite i) (finite j) ↔ _
  simp [le, rank]

@[simp] theorem finite_lt {i j : g.Point} : (finite i : GridFloat g) < finite j ↔ i < j := by
  show lt (finite i) (finite j) ↔ _
  simp [lt, rank]

theorem le_iff : x ≤ y ↔ ∃ a ∈ x.rank, ∃ b ∈ y.rank, a ≤ b := by
  show le x y ↔ _
  simp [le, Option.any_eq_true]

theorem lt_iff : x < y ↔ ∃ a ∈ x.rank, ∃ b ∈ y.rank, a < b := by
  show lt x y ↔ _
  simp [lt, Option.any_eq_true]

theorem isFinite_iff : PyFloat.isFinite x = true ↔ ∃ i, x = finite i := by
  show isFinite x = true ↔ _
  cases x <;> simp [isFinite]

theorem ofRat_of_within (hv : -g.overflow < v) (hv' : v < g.overflow) :
    ofRat v = finite (g.nearest v) := by
  unfold ofRat
  rw [if_neg (not_le.mpr hv'), if_neg (not_le.mpr hv)]

/-- What converts to a finite float is under the threshold on both sides. -/
theorem ofRat_finite (h : PyFloat.isFinite (ofRat v : GridFloat g) = true) :
    -g.overflow < v ∧ v < g.overflow ∧ ofRat v = finite (g.nearest v) := by
  obtain ⟨i, hi⟩ := isFinite_iff.mp h
  unfold ofRat at hi
  split at hi
  next => cases hi
  next hlt =>
    split at hi
    next => cases hi
    next hlt' => exact ⟨not_le.mp hlt', not_le.mp hlt,
      ofRat_of_within (not_le.mp hlt') (not_le.mp hlt)⟩

/-- A point converts to itself. -/
theorem ofRat_spell (i : g.Point) : ofRat (g.spell i) = finite i := by
  rw [ofRat_of_within (g.neg_overflow_lt_spell i) (g.spell_lt_overflow i), g.nearest_spell]

theorem overflow_pos : 0 < g.overflow := by
  have h := g.spell_lt_overflow g.zero
  rwa [g.spell_zero] at h

@[simp] theorem lit_zero : (PyFloat.lit 0 : GridFloat g) = finite g.zero := by
  show ofRat 0 = _
  rw [← ofRat_spell, g.spell_zero]

@[simp] theorem isFinite_finite (i : g.Point) : PyFloat.isFinite (finite i : GridFloat g) = true :=
  rfl

@[simp] theorem spell_finite (i : g.Point) :
    (Spelling.spell (finite i : GridFloat g) : Rat) = g.spell i :=
  rfl

/-- What a float is spelled as is above what the one before its nearest is. -/
instance (g : FloatGrid) : LawfulSpelling (GridFloat g) where
  zero_le_zero := by
    rw [lit_zero]
    exact finite_le.mpr (le_refl _)
  spell_zero := by
    rw [lit_zero]
    exact g.spell_zero
  spell_pos x h := by
    rw [lit_zero] at h
    cases x with
    | finite i =>
      rw [spell_finite, ← g.spell_zero]
      exact FloatGrid.spell_strictMono (finite_lt.mp h)
    | posInf => exact overflow_pos
    | negInf =>
      obtain ⟨a, ha, b, hb, hlt⟩ := lt_iff.mp h
      cases ha
      cases hb
      omega
    | nan =>
      obtain ⟨_, _, _, hb, _⟩ := lt_iff.mp h
      cases hb
  below v h := by
    obtain ⟨hlow, -, hv⟩ := ofRat_finite h
    show spell (nextDown (ofRat v : GridFloat g)) ≤ v
    rw [hv]
    unfold nextDown
    dsimp only
    split
    next => exact hlow.le
    next hne =>
      have hpos : (g.nearest v : Nat) ≠ 0 := fun h0 => hne (Fin.ext h0)
      have hlt : g.pred (g.nearest v) < g.nearest v := by
        show (g.nearest v : Nat) - 1 < g.nearest v
        omega
      exact (FloatGrid.spell_lt_of_lt_nearest hlt).le
  above v h := by
    obtain ⟨-, hhigh, hv⟩ := ofRat_finite h
    show v ≤ spell (nextUp (ofRat v : GridFloat g))
    rw [hv]
    unfold nextUp
    dsimp only
    split
    next => exact hhigh.le
    next hne =>
      exact (FloatGrid.lt_spell_of_nearest_lt
        (FloatGrid.lt_succ (Fin.lt_last_iff_ne_last.mpr hne))).le

theorem ofRat_zero : (ofRat 0 : GridFloat g) = finite g.zero := by
  rw [← g.spell_zero, ofRat_spell]

/-- A sum of two points that are not negative is not below the first. -/
theorem finite_le_ofRat_add {i j : g.Point} (hi : g.zero ≤ i) (hj : g.zero ≤ j) :
    (finite i : GridFloat g) ≤ ofRat (g.value i + g.value j) := by
  have hvi := g.value_strictMono.monotone hi
  have hvj := g.value_strictMono.monotone hj
  rw [g.value_zero] at hvi hvj
  have hpos := overflow_pos (g := g)
  unfold ofRat
  split
  next =>
    refine le_iff.mpr ⟨i, rfl, g.size + 1, rfl, ?_⟩
    have hlt := i.isLt
    omega
  next =>
    rw [if_neg (by linarith), finite_le, ← FloatGrid.nearest_value i]
    apply FloatGrid.nearest_mono
    rw [FloatGrid.nearest_value]
    linarith

theorem add_comm (x y : GridFloat g) : add x y = add y x := by
  cases x with
  | finite i =>
    cases y with
    | finite j =>
      show ofRat _ = ofRat _
      rw [Rat.add_comm]
    | _ => rfl
  | _ => cases y <;> rfl

theorem zero_le_iff : (PyFloat.lit 0 : GridFloat g) ≤ x ↔
    (∃ i, g.zero ≤ i ∧ x = finite i) ∨ x = posInf := by
  rw [lit_zero]
  cases x with
  | finite i => simp
  | posInf =>
    simp only [reduceCtorEq, and_false, exists_false, or_true, iff_true]
    refine le_iff.mpr ⟨g.zero, rfl, g.size + 1, rfl, ?_⟩
    have hlt := g.zero.isLt
    omega
  | negInf =>
    simp only [reduceCtorEq, and_false, exists_false, or_false, iff_false]
    intro h
    obtain ⟨a, ha, b, hb, hab⟩ := le_iff.mp h
    cases ha
    cases hb
    omega
  | nan => simp [le_iff, rank]

theorem posInf_le : (posInf : GridFloat g) ≤ posInf := le_iff.mpr ⟨_, rfl, _, rfl, le_refl _⟩

theorem finite_le_posInf (i : g.Point) : (finite i : GridFloat g) ≤ posInf := by
  refine le_iff.mpr ⟨i, rfl, g.size + 1, rfl, ?_⟩
  have hlt := i.isLt
  omega

/-- Adding what is not negative does not take a float down. -/
theorem le_add (hx : PyFloat.lit 0 ≤ x) (hy : PyFloat.lit 0 ≤ y) : x ≤ add x y := by
  rcases zero_le_iff.mp hx with ⟨i, hi, rfl⟩ | rfl
  · rcases zero_le_iff.mp hy with ⟨j, hj, rfl⟩ | rfl
    · exact finite_le_ofRat_add hi hj
    · exact finite_le_posInf i
  · rcases zero_le_iff.mp hy with ⟨j, hj, rfl⟩ | rfl
    · exact posInf_le
    · exact posInf_le

theorem abs_zero : PyFloat.abs (PyFloat.lit 0 : GridFloat g) = finite g.zero := by
  unfold PyFloat.abs
  rw [lit_zero, if_neg]
  rw [finite_lt]
  exact lt_irrefl _

theorem zero_mul_finite (i : g.Point) : mul (finite g.zero) (finite i) = finite g.zero := by
  show ofRat (g.value g.zero * g.value i) = _
  rw [g.value_zero, Rat.zero_mul, ofRat_zero]

instance (g : FloatGrid) : LawfulOrder (GridFloat g) where
  zero_finite := by
    rw [lit_zero]
    rfl
  le_self h := by
    rcases zero_le_iff.mp h with ⟨i, -, rfl⟩ | rfl
    · exact finite_le.mpr (le_refl _)
    · exact posInf_le
  le_trans hxy hyz := by
    obtain ⟨a, ha, b, hb, hab⟩ := le_iff.mp hxy
    obtain ⟨b', hb', c, hc, hbc⟩ := le_iff.mp hyz
    cases hb.symm.trans hb'
    exact le_iff.mpr ⟨a, ha, c, hc, hab.trans hbc⟩
  not_lt_of_le hxy hyx := by
    obtain ⟨a, ha, b, hb, hab⟩ := le_iff.mp hxy
    obtain ⟨b', hb', a', ha', hba⟩ := lt_iff.mp hyx
    cases hb.symm.trans hb'
    cases ha.symm.trans ha'
    omega
  le_add_right := le_add
  le_add_left {x y} hx hy := by
    show y ≤ add x y
    rw [add_comm]
    exact le_add hy hx
  zero_le_zero := zero_le_iff.mpr (Or.inl ⟨g.zero, le_refl _, lit_zero⟩)
  zero_mul {x} h := by
    obtain ⟨i, rfl⟩ := isFinite_iff.mp h
    rw [abs_zero]
    show isFinite (mul (finite g.zero) (finite i)) = true ∧
      PyFloat.lit 0 ≤ mul (finite g.zero) (finite i) ∧
      mul (finite g.zero) (finite i) ≤ PyFloat.lit 0
    rw [zero_mul_finite, lit_zero]
    exact ⟨rfl, finite_le.mpr (le_refl _), finite_le.mpr (le_refl _)⟩
  finite_of_zero_mul {x} h := by
    rw [abs_zero] at h
    cases x with
    | finite i => rfl
    | nan => exact h
    | posInf =>
      -- zero times an infinity is NaN
      have hmul : mul (finite g.zero) posInf = nan := by
        show infinityOf (g.value g.zero) = nan
        rw [g.value_zero]
        rfl
      rw [show finite g.zero * posInf = mul (finite g.zero) posInf from rfl, hmul] at h
      exact h
    | negInf =>
      have hmul : mul (finite g.zero) negInf = nan := by
        show infinityOf (-g.value g.zero) = nan
        rw [g.value_zero]
        rfl
      rw [show finite g.zero * negInf = mul (finite g.zero) negInf from rfl, hmul] at h
      exact h

end GridFloat

end PyLib
