import KairosRisk.Lib.PyText
import Mathlib.Algebra.Order.Field.Rat

/-!
# Python's numbers, as parameters

A program over Python floats is modelled over a type `F` of its finite floats
and whatever arithmetic the interpreter gives them: `PyFloat F` names the
operations and assumes nothing about them, so a theorem about every `PyFloat F`
holds of IEEE doubles and of exact rationals alike. `PyDecimal D` does the
same for `decimal.Decimal` (whose `%`, `/` and parsing may signal), and
`Spelling F D` for the two conversions between them, `Decimal(str(x))` and
`float(v)`. `Rat` is the exact instance of all three.

Only where a result depends on the arithmetic does it name the instance or the
laws it needs; those of `float`/`repr` are collected in `LawfulSpelling`.
-/

namespace PyLib

/-- The exceptions that matter to a caller: which `except` clause stops them. -/
inductive ArithmeticSignal where
  | invalidOperation
  | divisionByZero
  | overflow
  deriving DecidableEq, Repr

/-- The operations of Python's `float`. -/
class PyFloat (F : Type) where
  /-- The float a decimal literal of the source denotes. -/
  lit : Rat → F
  add : F → F → F
  sub : F → F → F
  mul : F → F → F
  div : F → F → F
  neg : F → F
  lt : F → F → Prop
  le : F → F → Prop
  ltDec : DecidableRel lt
  leDec : DecidableRel le
  /-- `math.isfinite`. -/
  isFinite : F → Bool
  /-- The builtin `sum` over floats. -/
  sum : List F → F
  /-- `i > x` between an `int` and a `float`. -/
  intGt : Int → F → Bool
  /-- `math.nextafter(x, -math.inf)`. -/
  nextDown : F → F
  /-- `math.nextafter(x, math.inf)`. -/
  nextUp : F → F
  /-- `int(dt.timestamp() * 1_000)` of the instant `us` microseconds after the epoch. -/
  timestampMs : Int → Int

namespace PyFloat

variable {F : Type} [PyFloat F]

/-! A concrete type keeps its own arithmetic: these instances are the last resort. -/

instance (priority := low) : Add F := ⟨add⟩

instance (priority := low) : Sub F := ⟨sub⟩

instance (priority := low) : Mul F := ⟨mul⟩

instance (priority := low) : Div F := ⟨div⟩

instance (priority := low) : Neg F := ⟨neg⟩

instance (priority := low) : LT F := ⟨lt⟩

instance (priority := low) : LE F := ⟨le⟩

instance (priority := low) (x y : F) : Decidable (x < y) := ltDec x y

instance (priority := low) (x y : F) : Decidable (x ≤ y) := leDec x y

/-- `abs(x)`. -/
def abs (x : F) : F := if x < lit 0 then -x else x

/-- `max(x, *ys)`: a later argument wins only by being greater. -/
def max (x : F) (ys : List F) : F := ys.foldl (fun m y => if m < y then y else m) x

/-- `min(x, *ys)`: a later argument wins only by being smaller. -/
def min (x : F) (ys : List F) : F := ys.foldl (fun m y => if y < m then y else m) x

end PyFloat

/-- The operations of Python's `decimal.Decimal` on finite values. Sums and
differences of values in a float's range never signal. -/
class PyDecimal (D : Type) where
  /-- `Decimal(text)`, when the text is a finite decimal. -/
  parse : String → Option D
  /-- `format(v, "f")`. -/
  formatF : D → String
  ofInt : Int → D
  /-- The decimal `n` times ten to the minus `scale`. -/
  scaled : Int → Nat → D
  /-- `a == b`, by numeric value. -/
  eqv : D → D → Bool
  lt : D → D → Bool
  add : D → D → D
  sub : D → D → D
  neg : D → D
  abs : D → D
  mul : D → D → Except ArithmeticSignal D
  div : D → D → Except ArithmeticSignal D
  /-- `a % b`. -/
  rem : D → D → Except ArithmeticSignal D
  /-- `v.to_integral_value(rounding=ROUND_CEILING)`. -/
  ceil : D → D
  /-- `v.to_integral_value(rounding=ROUND_DOWN)`. -/
  truncate : D → D

namespace PyDecimal

variable {D : Type} [PyDecimal D]

/-- `max(x, y)`: the later argument wins only by being greater. -/
def max (x y : D) : D := if lt x y then y else x

/-- `min(x, *ys)`: a later argument wins only by being smaller. -/
def min (x : D) (ys : List D) : D := ys.foldl (fun m y => if lt y m then y else m) x

end PyDecimal

/-- The conversions between `float` and `Decimal`. -/
class Spelling (F D : Type) where
  /-- `Decimal(str(x))`. -/
  spell : F → D
  /-- `float(v)`. -/
  toFloat : D → F

/-! ## Exact arithmetic -/

/-- Floats without rounding. -/
instance : PyFloat Rat where
  lit := id
  add := Rat.add
  sub := Rat.sub
  mul := Rat.mul
  div := Rat.div
  neg := Rat.neg
  lt x y := x < y
  le x y := x ≤ y
  ltDec := inferInstance
  leDec := inferInstance
  isFinite _ := true
  sum := List.sum
  intGt i x := x < i
  nextDown := id
  nextUp := id
  timestampMs us := us.tdiv 1000

/-- The digits of `n`, with a decimal point before the last `scale` of them. -/
def withPoint (n scale : Nat) : List Char :=
  let digits := Nat.toDigits 10 n
  let padded := List.replicate (scale + 1 - digits.length) '0' ++ digits
  if scale = 0 then padded
  else padded.take (padded.length - scale) ++ '.' :: padded.drop (padded.length - scale)

/-- The least number of decimal places of a fraction over `den`, at most `fuel`. -/
def decimalPlaces (den : Nat) : Nat → Nat → Nat
  | 0, k => k
  | fuel + 1, k => if 10 ^ k % den = 0 then k else decimalPlaces den fuel (k + 1)

/-- An unsigned decimal: digits, perhaps a point and digits, perhaps an exponent. -/
def ratOfDecimal (cs : List Char) : Option Rat :=
  let isExponentMark := fun c : Char => c == 'e' || c == 'E'
  let mantissa := cs.takeWhile fun c => !isExponentMark c
  let whole := mantissa.takeWhile fun c => c != '.'
  let fraction := mantissa.drop (whole.length + 1)
  let exponent : Option Int := match cs.drop mantissa.length with
    | [] => some 0
    | _ :: e => intOfText (String.ofList e)
  match natOfDigits (whole ++ fraction) 0 false, exponent with
  | some n, some e => some ((n : Rat) * (10 : Rat) ^ (e - fraction.length))
  | _, _ => none

/-- Decimals without rounding: a value has one spelling, the shortest. -/
instance : PyDecimal Rat where
  parse text := match text.toList with
    | '-' :: cs => (ratOfDecimal cs).map fun q => -q
    | cs => ratOfDecimal cs
  formatF v :=
    let scale := decimalPlaces v.den v.den 0
    let digits := withPoint (v.num.natAbs * 10 ^ scale / v.den) scale
    String.ofList (if v < 0 then '-' :: digits else digits)
  ofInt i := i
  scaled n scale := (n : Rat) / (10 : Rat) ^ scale
  eqv a b := decide (a = b)
  lt a b := decide (a < b)
  add := Rat.add
  sub := Rat.sub
  neg := Rat.neg
  abs := Rat.abs
  mul a b := .ok (a * b)
  div a b :=
    if b = 0 then .error (if a = 0 then .invalidOperation else .divisionByZero) else .ok (a / b)
  rem a b :=
    if b = 0 then .error .invalidOperation
    else .ok (a - b * ((a.num * b.den).tdiv (a.den * b.num) : Int))
  ceil v := v.ceil
  truncate v := (v.num.tdiv v.den : Int)

/-- A spelling that is the value itself. -/
instance : Spelling Rat Rat where
  spell := id
  toFloat := id

namespace PyFloat

/-! The exact instance is ordinary rational arithmetic. -/

theorem rat_add (x y : Rat) : @HAdd.hAdd Rat Rat Rat (@instHAdd Rat instAdd) x y = x + y := rfl

theorem rat_sub (x y : Rat) : @HSub.hSub Rat Rat Rat (@instHSub Rat instSub) x y = x - y := rfl

theorem rat_mul (x y : Rat) : @HMul.hMul Rat Rat Rat (@instHMul Rat instMul) x y = x * y := rfl

theorem rat_lt (x y : Rat) : @LT.lt Rat instLT x y = (x < y) := rfl

theorem rat_lit (q : Rat) : PyFloat.lit (F := Rat) q = q := rfl

@[simp] theorem rat_isFinite (x : Rat) : PyFloat.isFinite x = true := rfl

/-- A minimum is within a bound when something it was taken over is. -/
theorem rat_min_le_iff {c : Rat} : ∀ (x : Rat) (ys : List Rat),
    PyFloat.min x ys ≤ c ↔ ∃ y ∈ x :: ys, y ≤ c
  | x, [] => by
    show x ≤ c ↔ _
    simp
  | x, z :: ys => by
    -- the fold goes on from the smaller of the first two
    have hfold : PyFloat.min x (z :: ys) = PyFloat.min (if z < x then z else x) ys := rfl
    rw [hfold, rat_min_le_iff _ ys]
    simp only [List.mem_cons, exists_eq_or_imp]
    have hsmaller : (if z < x then z else x) ≤ c ↔ x ≤ c ∨ z ≤ c := by
      split
      next hlt => exact ⟨Or.inr, fun h => h.elim (Rat.le_trans (Rat.le_of_lt hlt)) id⟩
      next hnlt =>
        have hle := Rat.not_lt.mp hnlt
        exact ⟨Or.inl, fun h => h.elim id (Rat.le_trans hle)⟩
    rw [hsmaller, or_assoc]

/-- A minimum exceeds a bound when everything it was taken over does. -/
theorem rat_lt_min_iff {c x : Rat} {ys : List Rat} :
    c < PyFloat.min x ys ↔ ∀ y ∈ x :: ys, c < y := by
  rw [← Rat.not_le, rat_min_le_iff]
  simp only [not_exists, not_and, Rat.not_le]

/-- `max(0, v)`, when it is positive, is `v`. -/
theorem rat_max_zero {v : Rat} (h : 0 < PyFloat.max 0 [v]) : PyFloat.max 0 [v] = v := by
  have hfold : PyFloat.max 0 [v] = if 0 < v then v else 0 := rfl
  rw [hfold] at h ⊢
  split
  next => rfl
  next hv =>
    rw [if_neg hv] at h
    exact absurd h Rat.lt_irrefl

end PyFloat

namespace PyDecimal

/-! The exact instance of the decimals is ordinary rational arithmetic too. -/

@[simp] theorem rat_ofInt (i : Int) : ofInt (D := Rat) i = (i : Rat) := rfl

@[simp] theorem rat_add (a b : Rat) : PyDecimal.add a b = a + b := rfl

@[simp] theorem rat_sub (a b : Rat) : PyDecimal.sub a b = a - b := rfl

@[simp] theorem rat_neg (a : Rat) : PyDecimal.neg a = -a := rfl

@[simp] theorem rat_mul (a b : Rat) : PyDecimal.mul a b = .ok (a * b) := rfl

@[simp] theorem rat_lt (a b : Rat) : PyDecimal.lt a b = decide (a < b) := rfl

@[simp] theorem rat_abs (a : Rat) : PyDecimal.abs a = a.abs := rfl

/-- A positive figure within `max(0, x)` is within `x`. -/
theorem le_of_le_max_zero {v x : Rat} (hv : 0 < v) (h : v ≤ PyDecimal.max 0 x) : v ≤ x := by
  rw [PyDecimal.max] at h
  split at h
  · exact h
  · exact absurd hv (Rat.not_lt.mpr h)

theorem le_max_right (a b : Rat) : b ≤ PyDecimal.max a b := by
  rw [PyDecimal.max]
  split
  next => exact Rat.le_refl
  next h => exact Rat.not_lt.mp (by simpa using h)

/-- A minimum is below everything it was taken over. -/
theorem min_le : ∀ (x : Rat) (ys : List Rat) {y : Rat}, y ∈ x :: ys → PyDecimal.min x ys ≤ y
  | x, [], y, h => by
    rw [List.mem_singleton.mp h]
    exact Rat.le_refl
  | x, z :: ys, y, h => by
    rw [PyDecimal.min, List.foldl_cons]
    -- the fold goes on from the smaller of the first two
    have hhead := min_le (if PyDecimal.lt z x then z else x) ys List.mem_cons_self
    rcases List.mem_cons.mp h with rfl | h
    · refine Rat.le_trans hhead ?_
      split
      next hlt => exact Rat.le_of_lt (by simpa using hlt)
      next => exact Rat.le_refl
    · rcases List.mem_cons.mp h with rfl | h
      · refine Rat.le_trans hhead ?_
        split
        next => exact Rat.le_refl
        next hlt => exact Rat.not_lt.mp (by simpa using hlt)
      · exact min_le _ ys (List.mem_cons_of_mem _ h)

end PyDecimal

/-! ## The laws of `float` and `repr`

A float prints as the shortest decimal that reads back as it, so a decimal
lies between the spellings of the two neighbours of its nearest float. -/

/-- A spelling of floats as exact decimals that follows these laws. -/
class LawfulSpelling (F : Type) [PyFloat F] [Spelling F Rat] : Prop where
  zero_le_zero : PyFloat.le (PyFloat.lit 0 : F) (PyFloat.lit 0)
  spell_zero : (Spelling.spell (PyFloat.lit 0 : F) : Rat) = 0
  spell_pos : ∀ x : F, PyFloat.lt (PyFloat.lit 0) x → (0 : Rat) < Spelling.spell x
  below : ∀ v : Rat, PyFloat.isFinite (Spelling.toFloat v : F) = true →
    Spelling.spell (PyFloat.nextDown (Spelling.toFloat v : F)) ≤ v
  above : ∀ v : Rat, PyFloat.isFinite (Spelling.toFloat v : F) = true →
    v ≤ Spelling.spell (PyFloat.nextUp (Spelling.toFloat v : F))

/-- The order of floats, and what sums and products by zero do in it. NaN is
below nothing and above nothing. -/
class LawfulOrder (F : Type) [PyFloat F] : Prop where
  zero_finite : PyFloat.isFinite (PyFloat.lit 0 : F) = true
  le_self : ∀ {x : F}, PyFloat.lit 0 ≤ x → x ≤ x
  le_trans : ∀ {x y z : F}, x ≤ y → y ≤ z → x ≤ z
  not_lt_of_le : ∀ {x y : F}, x ≤ y → ¬y < x
  le_add_right : ∀ {x y : F}, PyFloat.lit 0 ≤ x → PyFloat.lit 0 ≤ y → x ≤ x + y
  le_add_left : ∀ {x y : F}, PyFloat.lit 0 ≤ x → PyFloat.lit 0 ≤ y → y ≤ x + y
  zero_le_zero : (PyFloat.lit 0 : F) ≤ PyFloat.lit 0
  zero_mul : ∀ {x : F}, PyFloat.isFinite x = true →
    PyFloat.isFinite (PyFloat.abs (PyFloat.lit 0) * x) = true ∧
      PyFloat.lit 0 ≤ PyFloat.abs (PyFloat.lit 0) * x ∧
      PyFloat.abs (PyFloat.lit 0) * x ≤ PyFloat.lit 0
  finite_of_zero_mul : ∀ {x : F},
    PyFloat.isFinite (PyFloat.abs (PyFloat.lit 0) * x) = true → PyFloat.isFinite x = true

/-- The size of a finite float: it is positive unless the float is zero, and the
float goes away when it is taken off. -/
class LawfulSign (F : Type) [PyFloat F] : Prop where
  zero_le_zero : (PyFloat.lit 0 : F) ≤ PyFloat.lit 0
  not_le_of_pos : ∀ {x : F}, PyFloat.lit 0 < x → ¬x ≤ PyFloat.lit 0
  abs_finite : ∀ {x : F}, PyFloat.isFinite x = true → PyFloat.isFinite (PyFloat.abs x) = true
  abs_pos : ∀ {x : F}, PyFloat.isFinite x = true → x ≠ PyFloat.lit 0 →
    ¬PyFloat.abs x ≤ PyFloat.lit 0
  sub_abs : ∀ {x : F}, PyFloat.isFinite x = true → PyFloat.lit 0 < x →
    x - PyFloat.abs x = PyFloat.lit 0
  add_abs : ∀ {x : F}, PyFloat.isFinite x = true → ¬PyFloat.lit 0 < x → x ≠ PyFloat.lit 0 →
    x + PyFloat.abs x = PyFloat.lit 0

/-- Exact floats have exact sizes. -/
instance : LawfulSign Rat where
  zero_le_zero := Rat.le_refl
  not_le_of_pos h := Rat.not_le.mpr h
  abs_finite _ := rfl
  abs_pos {x} _ hx h := by
    have habs : (if x < 0 then -x else x) ≤ 0 := h
    split at habs
    next hneg =>
      have hge : 0 ≤ x := by simpa using Rat.neg_le_iff.mp habs
      exact absurd hge (Rat.not_le.mpr hneg)
    next hnneg => exact hx (Rat.le_antisymm habs (Rat.not_lt.mp hnneg))
  sub_abs {x} _ hx := by
    have habs : PyFloat.abs x = x := if_neg (Rat.not_lt.mpr (Rat.le_of_lt hx))
    rw [habs]
    exact Rat.sub_self
  add_abs {x} _ hx hne := by
    have hneg : x < 0 := Rat.lt_of_le_of_ne (Rat.not_lt.mp hx) hne
    have habs : PyFloat.abs x = -x := if_pos hneg
    rw [habs]
    exact Rat.add_neg_cancel x

/-- Exact floats are their own spelling. -/
instance : LawfulSpelling Rat where
  zero_le_zero := Rat.le_refl
  spell_zero := rfl
  spell_pos _ h := h
  below _ _ := Rat.le_refl
  above _ _ := Rat.le_refl

end PyLib
