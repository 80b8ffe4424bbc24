import KairosRisk.Lib.Grid
import Mathlib.Tactic.NormNum
import Mathlib.Tactic.Ring

/-!
# `decimal.Decimal` in the default context

A finite `Decimal` is a coefficient and a power of ten, so that one value has
many spellings. Comparisons are exact; an operation is done exactly and its
result rounded to 28 digits, half to even, between the context's exponents. A
result that is too large signals, and so does a remainder whose integer quotient
needs more than 28 digits.

Results keep their value and not their ideal exponent: spelled out without
trailing zeros, they are the same text.
-/

namespace PyLib

/-- A finite decimal: `coefficient` times ten to the `exponent`. -/
structure Decimal where
  coefficient : Int
  exponent : Int
  deriving DecidableEq, Repr

namespace Decimal

/-- The number it stands for. -/
def value (d : Decimal) : Rat := d.coefficient * (10 : Rat) ^ d.exponent

/-! ## The default context -/

/-- `getcontext().prec`. -/
def precision : Nat := 28

/-- `getcontext().Emax`. -/
def maxExponent : Int := 999999

/-- `getcontext().Etiny()`: the exponent of the smallest subnormal. -/
def tinyExponent : Int := -1000026

/-- The exponent of the first digit. -/
def adjusted (v : Rat) : Int :=
  let k : Int := (Nat.toDigits 10 v.num.natAbs).length - (Nat.toDigits 10 v.den).length
  if (10 : Rat) ^ k ≤ v.abs then k else k - 1

/-- The nearest integer, of two the even one. -/
def roundHalfEven (v : Rat) : Int :=
  let below := v.floor
  let rest := v - below
  if rest < 1 / 2 then below
  else if 1 / 2 < rest then below + 1
  else if below % 2 = 0 then below
  else below + 1

/-- A value at the precision of the context. -/
def rounded (v : Rat) : Decimal :=
  if v = 0 then ⟨0, 0⟩
  else
    let exponent := max (adjusted v - (precision - 1)) tinyExponent
    ⟨roundHalfEven (v / (10 : Rat) ^ exponent), exponent⟩

/-- The result of an operation: too large a value is the trapped `Overflow`. -/
def finalize (v : Rat) : Except ArithmeticSignal Decimal :=
  let result := rounded v
  if maxExponent < adjusted result.value then .error .overflow else .ok result

/-- The integer part of a quotient. -/
def integerQuotient (a b : Rat) : Int := (a / b).num.tdiv (a / b).den

/-- `a / b`. -/
def quotient (a b : Decimal) : Except ArithmeticSignal Decimal :=
  if b.value = 0 then .error (if a.value = 0 then .invalidOperation else .divisionByZero)
  else finalize (a.value / b.value)

/-- `a % b`. -/
def remainder (a b : Decimal) : Except ArithmeticSignal Decimal :=
  if b.value = 0 then .error .invalidOperation
  else
    let whole := integerQuotient a.value b.value
    if 10 ^ precision ≤ whole.natAbs then .error .invalidOperation
    else finalize (a.value - b.value * whole)

/-! ## Texts -/

/-- Digits, at least one. -/
def natOfText (cs : List Char) : Option Nat :=
  if cs ≠ [] ∧ cs.all Char.isDigit = true then some (Nat.ofDigitChars 10 cs 0) else none

/-- An exponent: digits, perhaps after a sign. -/
def exponentOfText : List Char → Option Int
  | '-' :: cs => (natOfText cs).map fun n => -(n : Int)
  | '+' :: cs => (natOfText cs).map fun n => (n : Int)
  | cs => (natOfText cs).map fun n => (n : Int)

/-- A decimal without its sign: digits, perhaps a point among them, perhaps an exponent. -/
def unsigned (cs : List Char) : Option Decimal :=
  let mantissa := cs.takeWhile fun c => !(c == 'e' || c == 'E')
  let whole := mantissa.takeWhile fun c => c != '.'
  let fraction := mantissa.drop (whole.length + 1)
  let exponent := match cs.drop mantissa.length with
    | [] => some 0
    | _ :: e => exponentOfText e
  match natOfText (whole ++ fraction), exponent with
  | some n, some e => some ⟨n, e - fraction.length⟩
  | _, _ => none

/-- `Decimal(text)`. Digits outside ASCII, which no canonical text has, are refused here. -/
def parse (text : String) : Option Decimal :=
  match (strip text).toList.filter fun c => c != '_' with
  | '-' :: cs => (unsigned cs).map fun d => { d with coefficient := -d.coefficient }
  | '+' :: cs => unsigned cs
  | cs => unsigned cs

/-- `format(v, "f")`. -/
def formatF (d : Decimal) : String :=
  let digits := withPoint (d.coefficient.natAbs * 10 ^ d.exponent.toNat) (-d.exponent).toNat
  String.ofList (if d.coefficient < 0 then '-' :: digits else digits)

end Decimal

instance : PyDecimal Decimal where
  parse := Decimal.parse
  formatF := Decimal.formatF
  ofInt i := ⟨i, 0⟩
  scaled n scale := ⟨n, -scale⟩
  eqv a b := decide (a.value = b.value)
  lt a b := decide (a.value < b.value)
  add a b := Decimal.rounded (a.value + b.value)
  sub a b := Decimal.rounded (a.value - b.value)
  neg a := Decimal.rounded (-a.value)
  abs a := Decimal.rounded a.value.abs
  mul a b := Decimal.finalize (a.value * b.value)
  div := Decimal.quotient
  rem := Decimal.remainder
  ceil a := ⟨a.value.ceil, 0⟩
  truncate a := ⟨a.value.num.tdiv a.value.den, 0⟩

/-- Exact floats, spelled to the precision of the context. -/
instance : Spelling Rat Decimal where
  spell := Decimal.rounded
  toFloat := Decimal.value

/-- A remainder depends on the values alone. -/
theorem Decimal.remainder_congr {a a' b b' : Decimal} (ha : a.value = a'.value)
    (hb : b.value = b'.value) : PyDecimal.rem a b = PyDecimal.rem a' b' := by
  show remainder a b = remainder a' b'
  rw [remainder, remainder, ha, hb]

/-- A multiple leaves no rest, while its quotient fits the context. -/
theorem Decimal.remainder_multiple {a b : Decimal} (ha : 0 ≤ a.value) (hb : 0 < b.value)
    (h : Multiple b.value a.value) (hfits : a.value / b.value < 10 ^ precision) :
    PyDecimal.rem a b = .ok ⟨0, 0⟩ := by
  obtain ⟨n, hn⟩ := h
  have hquotient : a.value / b.value = n := by
    rw [hn]
    exact mul_div_cancel_right₀ _ hb.ne'
  have hwhole : integerQuotient a.value b.value = n := by
    rw [integerQuotient, hquotient, Rat.num_intCast, Rat.den_intCast]
    exact Int.tdiv_one n
  have hnonneg : 0 ≤ n := by
    have hdiv : 0 ≤ a.value / b.value := div_nonneg ha hb.le
    rw [hquotient] at hdiv
    exact_mod_cast hdiv
  have hsmall : n.natAbs < 10 ^ precision := by
    rw [hquotient] at hfits
    have hlt : n < ((10 ^ precision : Nat) : Int) := by exact_mod_cast hfits
    omega
  have hrest : a.value - b.value * n = 0 := by
    rw [hn]
    ring
  show remainder a b = _
  rw [remainder, if_neg hb.ne']
  dsimp only
  rw [hwhole, if_neg (Nat.not_le.mpr hsmall), hrest]
  decide +kernel

/-! ## Texts without needless zeros

The zeros a fraction ends in say nothing. Without them, and without a point that
nothing follows, a text tells its value: `reduced_unique`. -/

/-- What is left of a text with a point, without the zeros it ends in. -/
def trimmed (cs : List Char) : List Char :=
  if cs.contains '.' then rstripChar '.' (rstripChar '0' cs) else cs

theorem rstripChar_append_self (ch : Char) (cs : List Char) :
    rstripChar ch (cs ++ [ch]) = rstripChar ch cs := by
  simp [rstripChar]

theorem point_not_mem {cs : List Char} (h : AllDigits cs) : '.' ∉ cs := by
  intro hmem
  exact absurd (h '.' hmem) (by decide)

theorem rstripChar_point {cs : List Char} (h : AllDigits cs) : rstripChar '.' cs = cs := by
  refine PlainDecimal.rstripChar_of_getLast? fun hlast => ?_
  exact point_not_mem h (List.mem_of_getLast? hlast)

/-- Digits that count are not trimmed. -/
theorem trimmed_digits {cs : List Char} (h : AllDigits cs) : trimmed cs = cs := by
  rw [trimmed, if_neg (by simpa using point_not_mem h)]

theorem PlainDecimal.trimmed_chars (d : PlainDecimal) : trimmed d.chars = d.chars := by
  rw [trimmed, d.contains_point]
  by_cases hnil : d.fraction = []
  · rw [if_neg (by simp [hnil])]
  · rw [if_pos (by simpa using hnil), d.rstrip_chars hnil]

theorem toDigits_ten_mul {n : Nat} (hn : 0 < n) :
    Nat.toDigits 10 (10 * n) = Nat.toDigits 10 n ++ ['0'] := by
  rw [Nat.toDigits_eq_if (by decide), if_neg (by omega), Nat.mul_div_cancel_left n (by decide),
    Nat.mul_mod_right]
  rfl

theorem padded_ten_mul {n : Nat} (hn : 0 < n) (scale : Nat) :
    padded (10 * n) (scale + 1) = padded n scale ++ ['0'] := by
  rw [padded, padded, toDigits_ten_mul hn, List.length_append, List.length_singleton,
    Nat.add_sub_add_right, List.append_assoc]

/-- One zero less, one place less. -/
theorem trimmed_withPoint_ten_mul {n : Nat} (hn : 0 < n) (scale : Nat) :
    trimmed (withPoint (10 * n) (scale + 1)) = trimmed (withPoint n scale) := by
  have hwithPoint (n scale : Nat) : withPoint n scale = if scale = 0 then padded n scale else
      (padded n scale).take ((padded n scale).length - scale)
        ++ '.' :: (padded n scale).drop ((padded n scale).length - scale) := rfl
  have hlt := lt_length_padded n scale
  have hsub : (padded n scale ++ ['0']).length - (scale + 1) = (padded n scale).length - scale := by
    rw [List.length_append, List.length_singleton, Nat.add_sub_add_right]
  rw [hwithPoint (10 * n), if_neg (Nat.succ_ne_zero scale), padded_ten_mul hn, hsub,
    List.take_append_of_le_length (Nat.sub_le _ _), List.drop_append_of_le_length (Nat.sub_le _ _),
    ← List.cons_append, ← List.append_assoc, trimmed, if_pos (by simp), rstripChar_append_self,
    hwithPoint n]
  by_cases hscale : scale = 0
  · subst hscale
    have hdigits := padded_digits n 0
    have hpoint : (padded n 0 ++ ['.']).getLast? ≠ some '0' := by simp
    rw [if_pos rfl, trimmed_digits hdigits, Nat.sub_zero, List.take_length, List.drop_length,
      PlainDecimal.rstripChar_of_getLast? hpoint, rstripChar_append_self, rstripChar_point hdigits]
  · rw [if_neg hscale, trimmed, if_pos (by simp)]

/-- A text is that of digits and a scale whose last place counts. -/
theorem exists_reduced : ∀ {n : Nat} (scale : Nat), 0 < n → ∃ m t, (0 < t → m % 10 ≠ 0) ∧
    m * 10 ^ scale = n * 10 ^ t ∧ trimmed (withPoint n scale) = withPoint m t
  | n, 0, _ => ⟨n, 0, fun h => absurd h (Nat.lt_irrefl 0), rfl, trimmed_digits (padded_digits n 0)⟩
  | n, scale + 1, hn => by
    by_cases hlast : n % 10 = 0
    · obtain ⟨k, rfl⟩ := Nat.dvd_of_mod_eq_zero hlast
      obtain ⟨m, t, hreduced, hvalue, htext⟩ := exists_reduced scale (show 0 < k by omega)
      refine ⟨m, t, hreduced, ?_, (trimmed_withPoint_ten_mul (by omega) scale).trans htext⟩
      rw [Nat.pow_succ', Nat.mul_left_comm, hvalue, Nat.mul_assoc]
    · have hplain := PlainDecimal.trimmed_chars (.ofScaled n (scale + 1) fun _ => hlast)
      rw [PlainDecimal.chars_ofScaled] at hplain
      exact ⟨n, scale + 1, fun _ => hlast, rfl, hplain⟩

/-- There is one such pair for a value. -/
theorem reduced_unique {m n s t : Nat} (hm : 0 < s → m % 10 ≠ 0) (hn : 0 < t → n % 10 ≠ 0)
    (h : m * 10 ^ t = n * 10 ^ s) : m = n ∧ s = t := by
  -- the longer scale would end in a zero
  have hle : ∀ {m n s t : Nat}, (0 < t → n % 10 ≠ 0) → m * 10 ^ t = n * 10 ^ s → t ≤ s := by
    intro m n s t hn h
    refine Nat.le_of_not_lt fun hlt => hn (by omega) ?_
    have hshift : 10 ^ t = 10 ^ s * (10 * 10 ^ (t - s - 1)) := by
      rw [← Nat.pow_succ', ← Nat.pow_add]
      congr 1
      omega
    rw [hshift, Nat.mul_left_comm, Nat.mul_comm n] at h
    have hcancel := Nat.eq_of_mul_eq_mul_left (Nat.pow_pos (by decide)) h
    rw [← hcancel, Nat.mul_left_comm, Nat.mul_mod_right]
  have hscale : s = t := Nat.le_antisymm (hle hm h.symm) (hle hn h)
  subst hscale
  exact ⟨Nat.eq_of_mul_eq_mul_right (Nat.pow_pos (by decide)) h, rfl⟩

/-! ## Reading a text back -/

theorem lstripSpaces_of_not_isSpace : ∀ {cs : List Char}, (∀ c ∈ cs, isSpace c = false) →
    lstripSpaces cs = cs
  | [], _ => rfl
  | c :: cs, h => by
    rw [lstripSpaces, h c List.mem_cons_self]
    rfl

/-- Nothing is stripped from a text without spaces. -/
theorem strip_of_not_isSpace {cs : List Char} (h : ∀ c ∈ cs, isSpace c = false) :
    strip (String.ofList cs) = String.ofList cs := by
  have hreverse : ∀ c ∈ cs.reverse, isSpace c = false := fun c hc => h c (List.mem_reverse.mp hc)
  rw [strip, String.toList_ofList, lstripSpaces_of_not_isSpace h,
    lstripSpaces_of_not_isSpace hreverse, List.reverse_reverse]

namespace PlainDecimal

variable (d : PlainDecimal)

theorem not_isSpace_chars {c : Char} (h : c ∈ d.chars) : isSpace c = false := by
  rcases d.mem_chars h with hdigit | rfl
  · exact not_isSpace_of_isDigit hdigit
  · decide

theorem ne_of_mem_chars {c e : Char} (h : c ∈ d.chars) (hdigit : e.isDigit = false)
    (hpoint : e ≠ '.') :
    c ≠ e := by
  rcases d.mem_chars h with hc | rfl
  · exact ne_of_isDigit hc hdigit
  · exact hpoint.symm

/-- The decimal it spells. -/
def decimal : Decimal :=
  ⟨(Nat.ofDigitChars 10 (d.whole ++ d.fraction) 0 : Nat), 0 - (d.fraction.length : Int)⟩

theorem unsigned_chars : Decimal.unsigned d.chars = some d.decimal := by
  -- there is no exponent mark, so the mantissa is all of it
  have hmantissa : d.chars.takeWhile (fun c => !(c == 'e' || c == 'E')) = d.chars := by
    rw [List.takeWhile_eq_self_iff]
    intro c hc
    have he := d.ne_of_mem_chars (e := 'e') hc rfl (by decide)
    have hE := d.ne_of_mem_chars (e := 'E') hc rfl (by decide)
    simp [he, hE]
  have hdigits := d.whole_digits.append d.fraction_digits
  have hread : Decimal.natOfText (d.whole ++ d.fraction)
      = some (Nat.ofDigitChars 10 (d.whole ++ d.fraction) 0) := by
    rw [Decimal.natOfText, if_pos]
    exact ⟨List.append_ne_nil_of_left_ne_nil d.whole_ne_nil _, List.all_eq_true.mpr hdigits⟩
  simp only [Decimal.unsigned, hmantissa, d.takeWhile_chars, d.drop_chars, List.drop_length, hread]
  rfl

/-- `Decimal(text)` of a plain decimal. -/
theorem decimal_parse_chars :
    (PyDecimal.parse (String.ofList d.chars) : Option Decimal) = some d.decimal := by
  have hkept : d.chars.filter (fun c => c != '_') = d.chars := by
    rw [List.filter_eq_self]
    intro c hc
    simpa using d.ne_of_mem_chars (e := '_') hc rfl (by decide)
  show Decimal.parse _ = _
  rw [Decimal.parse, strip_of_not_isSpace fun c hc => d.not_isSpace_chars hc, String.toList_ofList,
    hkept]
  split
  next cs hsign =>
    exact absurd rfl
      (d.ne_of_mem_chars (e := '-') (hsign ▸ List.mem_cons_self) rfl (by decide))
  next cs hsign =>
    exact absurd rfl
      (d.ne_of_mem_chars (e := '+') (hsign ▸ List.mem_cons_self) rfl (by decide))
  next => exact d.unsigned_chars

end PlainDecimal

namespace Decimal

variable {a b : Decimal}

theorem coefficient_pos (ha : 0 < a.value) : 0 < a.coefficient := by
  have hpow : (0 : Rat) < (10 : Rat) ^ a.exponent := zpow_pos (by norm_num) _
  exact Int.cast_pos.mp ((mul_pos_iff_of_pos_right hpow).mp ha)

/-- A value as a whole number over a power of ten. -/
theorem value_eq_div (ha : 0 < a.value) :
    a.value = ((a.coefficient.natAbs * 10 ^ a.exponent.toNat : Nat) : Rat)
      / (10 : Rat) ^ (-a.exponent).toNat := by
  have hcoefficient : ((a.coefficient.natAbs : Nat) : Rat) = a.coefficient := by
    have habs : (a.coefficient.natAbs : Int) = a.coefficient :=
      Int.natAbs_of_nonneg (coefficient_pos ha).le
    rw [← Int.cast_natCast, habs]
  have hexponent : a.exponent = (a.exponent.toNat : Int) - ((-a.exponent).toNat : Int) := by omega
  rw [value, Nat.cast_mul, hcoefficient, Nat.cast_pow, Nat.cast_ofNat, mul_div_assoc]
  congr 1
  conv_lhs => rw [hexponent, zpow_sub₀ (by norm_num), zpow_natCast, zpow_natCast]

/-- A positive decimal, trimmed, is written as digits and a scale whose last place counts. -/
theorem exists_reduced_formatF (ha : 0 < a.value) : ∃ m t : Nat, (0 < t → m % 10 ≠ 0) ∧
    a.value = (m : Rat) / (10 : Rat) ^ t ∧
    trimmed (PyDecimal.formatF a).toList = withPoint m t := by
  have hcoefficient := coefficient_pos ha
  have hdigits : 0 < a.coefficient.natAbs * 10 ^ a.exponent.toNat :=
    Nat.mul_pos (by omega) (Nat.pow_pos (by decide))
  obtain ⟨m, t, hreduced, hvalue, htext⟩ := exists_reduced (-a.exponent).toNat hdigits
  refine ⟨m, t, hreduced, ?_, ?_⟩
  · rw [value_eq_div ha, div_eq_div_iff (pow_ne_zero _ (by norm_num)) (pow_ne_zero _ (by norm_num))]
    exact_mod_cast hvalue.symm
  · show trimmed (formatF a).toList = _
    rw [formatF, if_neg (by omega), String.toList_ofList, htext]

/-- Equal positive decimals are written alike. -/
theorem trimmed_formatF_congr (ha : 0 < a.value) (hab : a.value = b.value) :
    trimmed (PyDecimal.formatF a).toList = trimmed (PyDecimal.formatF b).toList := by
  obtain ⟨m, t, hm, hvalue, htext⟩ := exists_reduced_formatF ha
  obtain ⟨n, s, hn, hvalue', htext'⟩ := exists_reduced_formatF (hab ▸ ha)
  have hcross : m * 10 ^ s = n * 10 ^ t := by
    have h := hvalue.symm.trans (hab.trans hvalue')
    rw [div_eq_div_iff (pow_ne_zero _ (by norm_num)) (pow_ne_zero _ (by norm_num))] at h
    exact_mod_cast h
  obtain ⟨hmn, hts⟩ := reduced_unique hm hn hcross
  rw [htext, htext', hmn, hts]

/-- A positive decimal, trimmed, is written as a plain decimal that means it. -/
theorem exists_plain_formatF (ha : 0 < a.value) : ∃ d : PlainDecimal,
    trimmed (PyDecimal.formatF a).toList = d.chars ∧ d.value = a.value := by
  obtain ⟨m, t, hreduced, hvalue, htext⟩ := exists_reduced_formatF ha
  refine ⟨.ofScaled m t hreduced, ?_, ?_⟩
  · rw [htext, PlainDecimal.chars_ofScaled]
  · rw [PlainDecimal.value_ofScaled, hvalue]

end Decimal

example : PyDecimal.parse " -1_0.50e+3 " = some (⟨-1050, 1⟩ : Decimal) := by decide +kernel

example : PyDecimal.formatF (⟨-1050, 1⟩ : Decimal) = "-10500" := by decide +kernel

example : PyDecimal.div (⟨2, 0⟩ : Decimal) ⟨3, 0⟩ = .ok ⟨6666666666666666666666666667, -28⟩ := by
  decide +kernel

example : PyDecimal.rem (⟨1, 0⟩ : Decimal) ⟨1, -28⟩ = .error .invalidOperation := by
  decide +kernel

end PyLib
