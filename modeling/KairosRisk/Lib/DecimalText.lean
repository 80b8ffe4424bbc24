import KairosRisk.Lib.PyNum
import Mathlib.Algebra.Order.Field.Basic
import Mathlib.Algebra.Order.Ring.Rat
import Mathlib.Data.List.TakeWhile
import Mathlib.Tactic.LinearCombination

/-!
# Decimals survive being written out

`format(v, "f")` of a positive decimal, read back by `Decimal(text)`, is the
decimal (`parse_formatF`), and `int(str(n))` is `n` (`intOfText_toString`).

A rational is a decimal when some power of ten clears its denominator. The
exact instance writes it with the least number of places that does, so its
last place is never zero and stripping zeros changes nothing. The last section
is about `%`: a multiple leaves no rest.
-/

namespace PyLib

/-! ## Digits -/

/-- Every character is a digit. -/
def AllDigits (cs : List Char) : Prop := ∀ c ∈ cs, c.isDigit = true

theorem allDigits_toDigits (n : Nat) : AllDigits (Nat.toDigits 10 n) := by
  intro c hc
  exact Nat.isDigit_of_mem_toDigits (by decide) (by decide) hc

theorem allDigits_zeros (n : Nat) : AllDigits (List.replicate n '0') := by
  intro c hc
  rw [List.eq_of_mem_replicate hc]
  rfl

theorem AllDigits.append {cs ds : List Char} (hc : AllDigits cs) (hd : AllDigits ds) :
    AllDigits (cs ++ ds) := by
  intro c hm
  rcases List.mem_append.mp hm with hm | hm
  · exact hc c hm
  · exact hd c hm

theorem AllDigits.sublist {cs ds : List Char} (hd : AllDigits ds) (h : cs.Sublist ds) :
    AllDigits cs := fun c hc => hd c (h.mem hc)

/-- Reading digits is folding them. -/
theorem natOfDigits_eq : ∀ {cs : List Char} {n : Nat} {afterDigit : Bool}, AllDigits cs →
    (cs ≠ [] ∨ afterDigit = true) → natOfDigits cs n afterDigit = some (Nat.ofDigitChars 10 cs n)
  | [], n, afterDigit, _, h => by
    have hafter : afterDigit = true := h.resolve_left fun hne => hne rfl
    rw [natOfDigits, if_pos hafter, Nat.ofDigitChars_nil]
  | c :: cs, n, afterDigit, hd, _ => by
    have hc : c.isDigit = true := hd c List.mem_cons_self
    have hcs : AllDigits cs := fun a ha => hd a (List.mem_cons_of_mem _ ha)
    rw [natOfDigits, if_pos hc, natOfDigits_eq hcs (Or.inr rfl), Nat.ofDigitChars_cons]
    rfl

theorem not_isSpace_of_isDigit {c : Char} (h : c.isDigit = true) : isSpace c = false := by
  have hrange : 48 ≤ c.toNat ∧ c.toNat ≤ 57 := by
    simpa [Char.isDigit, UInt32.le_iff_toNat_le] using h
  simp only [isSpace, Bool.or_eq_false_iff, Bool.and_eq_false_iff, decide_eq_false_iff_not,
    beq_eq_false_iff_ne]
  omega

/-- Nothing is stripped before a digit. -/
theorem lstripSpaces_digits : ∀ {cs : List Char}, AllDigits cs → lstripSpaces cs = cs
  | [], _ => rfl
  | c :: cs, hd => by
    have hspace := not_isSpace_of_isDigit (hd c List.mem_cons_self)
    rw [lstripSpaces, hspace]
    rfl

/-- `int(str(n))`, within the interpreter's bound on digits. -/
theorem intOfText_toString {n : Int} (hn : 0 ≤ n)
    (hlen : ((toString n).toList.filter Char.isDigit).length ≤ intMaxStrDigits) :
    intOfText (toString n) = some n := by
  obtain ⟨m, rfl⟩ := Int.eq_ofNat_of_zero_le hn
  have htext : (toString (m : Int)).toList = Nat.toDigits 10 m := by
    rw [Int.toString_eq_repr, Int.repr_eq_if, if_pos hn]
    exact Nat.toList_repr
  have hd := allDigits_toDigits m
  have hreverse : AllDigits (Nat.toDigits 10 m).reverse := by
    intro c hc
    exact hd c (List.mem_reverse.mp hc)
  have hshort : ¬((Nat.toDigits 10 m).filter Char.isDigit).length > intMaxStrDigits := by
    rw [← htext]
    exact Nat.not_lt.mpr hlen
  simp only [intOfText, htext, lstripSpaces_digits hd, lstripSpaces_digits hreverse,
    List.reverse_reverse]
  rw [if_neg hshort]
  -- the first character is a digit, so there is no sign
  split
  next cs hsign => exact absurd (hd '-' (hsign ▸ List.mem_cons_self)) (by decide)
  next cs hsign => exact absurd (hd '+' (hsign ▸ List.mem_cons_self)) (by decide)
  next =>
    rw [natOfDigits_eq hd (Or.inl Nat.toDigits_ne_nil), Nat.ofDigitChars_ten_toDigits]
    rfl

/-! ## Places -/

/-- What divides a power of ten divides the power with its own exponent. -/
theorem dvd_ten_pow_self {d k : Nat} (hpos : 0 < d) (h : d ∣ 10 ^ k) : d ∣ 10 ^ d := by
  induction d using Nat.strongRecOn with
  | ind d ih =>
    by_cases hone : d = 1
    · rw [hone]
      exact Nat.one_dvd _
    · -- a factor shared with ten comes off, and what is left is smaller
      have hshared : Nat.gcd d 10 ≠ 1 := by
        intro hcoprime
        have hpow : Nat.Coprime d (10 ^ k) := Nat.Coprime.pow_right k hcoprime
        exact hone (Nat.Coprime.eq_one_of_dvd hpow h)
      obtain ⟨e, he⟩ := Nat.gcd_dvd_left d 10
      have hgpos : 0 < Nat.gcd d 10 := Nat.gcd_pos_of_pos_left 10 hpos
      have hepos : 0 < e := by
        rcases Nat.eq_zero_or_pos e with h0 | h0
        · rw [h0, Nat.mul_zero] at he
          omega
        · exact h0
      have hlt : e < d := by
        calc e < 2 * e := by omega
          _ ≤ Nat.gcd d 10 * e := Nat.mul_le_mul_right e (by omega)
          _ = d := he.symm
      have hrest : e ∣ 10 ^ e := ih e hlt hepos (Nat.dvd_trans (he ▸ Nat.dvd_mul_left e _) h)
      calc d = Nat.gcd d 10 * e := he
        _ ∣ 10 * 10 ^ e := Nat.mul_dvd_mul (Nat.gcd_dvd_right d 10) hrest
        _ = 10 ^ (e + 1) := by rw [Nat.pow_succ, Nat.mul_comm]
        _ ∣ 10 ^ d := Nat.pow_dvd_pow 10 hlt

/-- The search for decimal places ends with enough of them. -/
theorem decimalPlaces_dvd {den : Nat} : ∀ {fuel k : Nat}, den ∣ 10 ^ (k + fuel) →
    den ∣ 10 ^ decimalPlaces den fuel k
  | 0, k, h => h
  | fuel + 1, k, h => by
    rw [decimalPlaces]
    split
    next hrest => exact Nat.dvd_of_mod_eq_zero hrest
    next =>
      apply decimalPlaces_dvd
      rwa [show k + 1 + fuel = k + (fuel + 1) by omega]

/-- One place fewer than the search ends with would not do. -/
theorem decimalPlaces_minimal {den : Nat} : ∀ {fuel k : Nat}, k < decimalPlaces den fuel k →
    ¬den ∣ 10 ^ (decimalPlaces den fuel k - 1)
  | 0, k, h => absurd h (Nat.lt_irrefl k)
  | fuel + 1, k, h => by
    rw [decimalPlaces] at h ⊢
    split at h
    next => exact absurd h (Nat.lt_irrefl k)
    next hrest =>
      rw [if_neg hrest]
      by_cases hnext : k + 1 < decimalPlaces den fuel (k + 1)
      · exact decimalPlaces_minimal hnext
      · -- the search ended one step on, where `k` places had just failed
        rw [show decimalPlaces den fuel (k + 1) - 1 = k by omega]
        exact fun hdvd => hrest (Nat.mod_eq_zero_of_dvd hdvd)

/-- Some power of ten clears the denominator. -/
def IsDecimal (v : Rat) : Prop := ∃ k, v.den ∣ 10 ^ k

theorem IsDecimal.ofInt (i : Int) : IsDecimal (i : Rat) := ⟨0, Nat.one_dvd _⟩

theorem IsDecimal.mul {a b : Rat} (ha : IsDecimal a) (hb : IsDecimal b) : IsDecimal (a * b) := by
  obtain ⟨j, hj⟩ := ha
  obtain ⟨k, hk⟩ := hb
  refine ⟨j + k, Nat.dvd_trans ?_ (Nat.pow_add 10 j k ▸ Nat.mul_dvd_mul hj hk)⟩
  rw [Rat.den_mul]
  exact Nat.div_dvd_of_dvd (Nat.gcd_dvd_right _ _)

/-! ## Plain decimals -/

/-- A decimal as `format` writes it: digits, and a fraction whose last digit is not zero. -/
structure PlainDecimal where
  whole : List Char
  fraction : List Char
  whole_digits : AllDigits whole
  fraction_digits : AllDigits fraction
  whole_ne_nil : whole ≠ []
  fraction_last : fraction.getLast? ≠ some '0'

namespace PlainDecimal

variable (d : PlainDecimal)

/-- What is written. -/
def chars : List Char := if d.fraction = [] then d.whole else d.whole ++ '.' :: d.fraction

/-- What is meant. -/
def value : Rat :=
  (Nat.ofDigitChars 10 (d.whole ++ d.fraction) 0 : Rat)
    * (10 : Rat) ^ (0 - (d.fraction.length : Int))

/-- Every character is a digit or the point. -/
theorem mem_chars {c : Char} (h : c ∈ d.chars) : c.isDigit = true ∨ c = '.' := by
  rw [chars] at h
  split at h
  next => exact Or.inl (d.whole_digits c h)
  next =>
    rcases List.mem_append.mp h with h | h
    · exact Or.inl (d.whole_digits c h)
    · rcases List.mem_cons.mp h with h | h
      · exact Or.inr h
      · exact Or.inl (d.fraction_digits c h)

theorem chars_ne_nil : d.chars ≠ [] := by
  rw [chars]
  split
  next => exact d.whole_ne_nil
  next => exact List.append_ne_nil_of_left_ne_nil d.whole_ne_nil _

theorem ne_of_isDigit {c e : Char} (hc : c.isDigit = true) (he : e.isDigit = false) : c ≠ e := by
  rintro rfl
  rw [hc] at he
  cases he

/-- The part before the point is what comes before the first point. -/
theorem takeWhile_chars : d.chars.takeWhile (fun c => c != '.') = d.whole := by
  have hwhole : ∀ c ∈ d.whole, (c != '.') = true := by
    intro c hc
    simpa using ne_of_isDigit (e := '.') (d.whole_digits c hc) rfl
  rw [chars]
  split
  next => exact List.takeWhile_eq_self_iff.mpr hwhole
  next => rw [List.takeWhile_append_of_pos hwhole, List.takeWhile_cons_of_neg (by simp),
    List.append_nil]

/-- What comes after it is the fraction. -/
theorem drop_chars : d.chars.drop (d.whole.length + 1) = d.fraction := by
  rw [chars]
  split
  next hnil => rw [hnil, List.drop_eq_nil_of_le (Nat.le_succ _)]
  next =>
    rw [List.drop_append, List.drop_eq_nil_of_le (Nat.le_succ _), List.nil_append,
      Nat.add_sub_cancel_left, List.drop_succ_cons, List.drop_zero]

/-- A plain decimal reads as what it means. -/
theorem ratOfDecimal_chars : ratOfDecimal d.chars = some d.value := by
  -- there is no exponent mark, so the mantissa is all of it
  have hmantissa : d.chars.takeWhile (fun c => !(c == 'e' || c == 'E')) = d.chars := by
    rw [List.takeWhile_eq_self_iff]
    intro c hc
    rcases d.mem_chars hc with hdigit | hpoint
    · have he := ne_of_isDigit (e := 'e') hdigit rfl
      have hE := ne_of_isDigit (e := 'E') hdigit rfl
      simp [he, hE]
    · rw [hpoint]
      rfl
  have hdigits := d.whole_digits.append d.fraction_digits
  have hne : d.whole ++ d.fraction ≠ [] := List.append_ne_nil_of_left_ne_nil d.whole_ne_nil _
  simp only [ratOfDecimal, hmantissa, d.takeWhile_chars, d.drop_chars, List.drop_length,
    natOfDigits_eq hdigits (Or.inl hne)]
  rfl

/-- `Decimal(text)` of a plain decimal. -/
theorem parse_chars : PyDecimal.parse (String.ofList d.chars) = some d.value := by
  have hread := d.ratOfDecimal_chars
  unfold PyDecimal.parse instPyDecimalRat
  dsimp only
  rw [String.toList_ofList]
  split
  next cs hsign =>
    -- a sign is neither a digit nor the point
    have hmem : '-' ∈ d.chars := hsign ▸ List.mem_cons_self
    rcases d.mem_chars hmem with h | h
    · exact absurd h (by decide)
    · exact absurd h (by decide)
  next => exact hread

/-- Nothing is stripped from an end that is something else. -/
theorem rstripChar_of_getLast? {ch : Char} {cs : List Char} (h : cs.getLast? ≠ some ch) :
    rstripChar ch cs = cs := by
  rw [← List.head?_reverse] at h
  rw [rstripChar, List.dropWhile_beq_eq_self_of_head?_ne h, List.reverse_reverse]

/-- There is a point when there is a fraction. -/
theorem contains_point : d.chars.contains '.' = !d.fraction.isEmpty := by
  have hwhole : '.' ∉ d.whole := fun h => absurd (d.whole_digits '.' h) (by decide)
  rw [chars]
  split
  next hnil => simp [hnil, hwhole]
  next hne => simp [hne]

/-- Stripping zeros, and a point after them, strips nothing. -/
theorem rstrip_chars (hne : d.fraction ≠ []) :
    rstripChar '.' (rstripChar '0' d.chars) = d.chars := by
  have hlast : d.chars.getLast? = d.fraction.getLast? := by
    rw [chars, if_neg hne, List.getLast?_append, List.getLast?_cons,
      List.getLast?_eq_some_getLast hne]
    rfl
  have hzero : d.chars.getLast? ≠ some '0' := hlast ▸ d.fraction_last
  have hpoint : d.chars.getLast? ≠ some '.' := by
    rw [hlast]
    intro h
    exact absurd (d.fraction_digits '.' (List.mem_of_getLast? h)) (by decide)
  rw [rstripChar_of_getLast? hzero, rstripChar_of_getLast? hpoint]

end PlainDecimal

/-! ## Writing a decimal out -/

theorem getLast?_toDigits (n : Nat) :
    (Nat.toDigits 10 n).getLast? = some (n % 10).digitChar := by
  rw [Nat.toDigits_eq_if (by decide)]
  split
  next h =>
    rw [Nat.mod_eq_of_lt h]
    rfl
  next => rw [List.getLast?_append, List.getLast?_singleton, Option.some_or]

/-- The digits of `n`, with zeros before them to make more than `scale`. -/
def padded (n scale : Nat) : List Char :=
  List.replicate (scale + 1 - (Nat.toDigits 10 n).length) '0' ++ Nat.toDigits 10 n

theorem padded_digits (n scale : Nat) : AllDigits (padded n scale) :=
  (allDigits_zeros _).append (allDigits_toDigits n)

theorem lt_length_padded (n scale : Nat) : scale < (padded n scale).length := by
  rw [padded, List.length_append, List.length_replicate]
  omega

theorem ofDigitChars_padded (n scale : Nat) : Nat.ofDigitChars 10 (padded n scale) 0 = n := by
  rw [padded, Nat.ofDigitChars_append, Nat.ofDigitChars_replicate_zero, Nat.mul_zero,
    Nat.ofDigitChars_ten_toDigits]

theorem getLast?_padded (n scale : Nat) :
    (padded n scale).getLast? = some (n % 10).digitChar := by
  rw [padded, List.getLast?_append, getLast?_toDigits, Option.some_or]

/-- `n` over ten to the `scale`, as `format` writes it when its last place counts. -/
def PlainDecimal.ofScaled (n scale : Nat) (hlast : 0 < scale → n % 10 ≠ 0) : PlainDecimal where
  whole := (padded n scale).take ((padded n scale).length - scale)
  fraction := (padded n scale).drop ((padded n scale).length - scale)
  whole_digits := (padded_digits n scale).sublist (List.take_sublist _ _)
  fraction_digits := (padded_digits n scale).sublist (List.drop_sublist _ _)
  whole_ne_nil := by
    have hlt := lt_length_padded n scale
    rw [← List.length_pos_iff, List.length_take]
    omega
  fraction_last := by
    have hlt := lt_length_padded n scale
    rw [List.getLast?_drop]
    split
    next => exact nofun
    next hle =>
      rw [getLast?_padded]
      intro h
      exact hlast (by omega) (Nat.digitChar_eq_zero.mp (Option.some.inj h))

theorem PlainDecimal.length_fraction {n scale : Nat} {hlast : 0 < scale → n % 10 ≠ 0} :
    (ofScaled n scale hlast).fraction.length = scale := by
  have hlt := lt_length_padded n scale
  show ((padded n scale).drop _).length = scale
  rw [List.length_drop]
  omega

theorem PlainDecimal.chars_ofScaled {n scale : Nat} {hlast : 0 < scale → n % 10 ≠ 0} :
    (ofScaled n scale hlast).chars = withPoint n scale := by
  have hlength : (ofScaled n scale hlast).fraction.length = scale := length_fraction
  show _ = if scale = 0 then padded n scale else
    (padded n scale).take _ ++ '.' :: (padded n scale).drop _
  rw [chars]
  by_cases hzero : scale = 0
  · subst hzero
    rw [if_pos (List.length_eq_zero_iff.mp hlength), if_pos rfl]
    exact List.take_length
  · rw [if_neg hzero, if_neg (fun hnil => hzero (by rw [← hlength, hnil]; rfl))]
    rfl

theorem PlainDecimal.value_ofScaled {n scale : Nat} {hlast : 0 < scale → n % 10 ≠ 0} :
    (ofScaled n scale hlast).value = (n : Rat) / (10 : Rat) ^ scale := by
  have hlength : (ofScaled n scale hlast).fraction.length = scale := length_fraction
  have hjoin : (ofScaled n scale hlast).whole ++ (ofScaled n scale hlast).fraction
      = padded n scale := List.take_append_drop _ _
  rw [value, hlength, hjoin, ofDigitChars_padded, Int.zero_sub, Rat.zpow_neg, Rat.zpow_natCast,
    Rat.div_def]

/-- Ten to the places found, over the denominator, is whole. -/
theorem IsDecimal.scale_dvd {v : Rat} (h : IsDecimal v) :
    v.den ∣ 10 ^ decimalPlaces v.den v.den 0 := by
  obtain ⟨k, hk⟩ := h
  apply decimalPlaces_dvd
  rw [Nat.zero_add]
  exact dvd_ten_pow_self v.den_pos hk

/-- The digits of a decimal, as a number, over the scale they are written to. -/
theorem scaled_eq {v : Rat} {scale : Nat} (hpos : 0 < v) (h : v.den ∣ 10 ^ scale) :
    ((v.num.natAbs * 10 ^ scale / v.den : Nat) : Rat) / (10 : Rat) ^ scale = v := by
  obtain ⟨m, hm⟩ := h
  have hden : (v.den : Rat) ≠ 0 := by
    exact_mod_cast v.den_pos.ne'
  have hten : (10 : Rat) ^ scale = (v.den : Rat) * m := by
    exact_mod_cast hm
  have hm0 : (m : Rat) ≠ 0 := by
    intro h0
    rw [h0, mul_zero] at hten
    exact absurd hten (pow_ne_zero _ (by decide))
  have hnum : (v.num.natAbs : Rat) = v.num := by
    have habs : (v.num.natAbs : Int) = v.num := Int.natAbs_of_nonneg (Rat.num_nonneg.mpr hpos.le)
    rw [← Int.cast_natCast, habs]
  have hwhole : v.num.natAbs * 10 ^ scale / v.den = v.num.natAbs * m := by
    rw [hm, Nat.mul_left_comm, Nat.mul_div_cancel_left _ v.den_pos]
  rw [hwhole, Nat.cast_mul, hnum, hten, mul_div_mul_right _ _ hm0]
  exact Rat.num_div_den v

/-- The last place counts: with a zero there, one place fewer would have done. -/
theorem scaled_last {v : Rat} (h : IsDecimal v) (hscale : 0 < decimalPlaces v.den v.den 0) :
    v.num.natAbs * 10 ^ decimalPlaces v.den v.den 0 / v.den % 10 ≠ 0 := by
  have hdvd := h.scale_dvd
  have hminimal := decimalPlaces_minimal hscale
  generalize decimalPlaces v.den v.den 0 = scale at *
  intro hzero
  apply hminimal
  obtain ⟨m, hm⟩ := Nat.dvd_of_mod_eq_zero hzero
  have hprod : v.num.natAbs * 10 ^ scale = v.den * (10 * m) := by
    rw [← hm, Nat.mul_div_cancel' (Nat.dvd_mul_left_of_dvd hdvd _)]
  have hten : 10 ^ scale = 10 * 10 ^ (scale - 1) := by
    rw [← Nat.pow_succ']
    congr 1
    omega
  have hless : v.num.natAbs * 10 ^ (scale - 1) = v.den * m := by
    rw [hten] at hprod
    have hcancel : 10 * (v.num.natAbs * 10 ^ (scale - 1)) = 10 * (v.den * m) := by
      rw [Nat.mul_left_comm, hprod, Nat.mul_left_comm]
    exact Nat.eq_of_mul_eq_mul_left (by decide) hcancel
  exact Nat.Coprime.dvd_of_dvd_mul_left v.reduced.symm (hless ▸ Nat.dvd_mul_right _ _)

/-- A positive decimal is written as a plain decimal that means it. -/
theorem exists_plainDecimal {v : Rat} (hpos : 0 < v) (h : IsDecimal v) :
    ∃ d : PlainDecimal, PyDecimal.formatF v = String.ofList d.chars ∧ d.value = v := by
  refine ⟨.ofScaled _ _ (scaled_last h), ?_, ?_⟩
  · rw [PlainDecimal.chars_ofScaled]
    show String.ofList (if v < 0 then _ else _) = _
    rw [if_neg (not_lt_of_gt hpos)]
  · rw [PlainDecimal.value_ofScaled, scaled_eq hpos h.scale_dvd]

/-- `Decimal(format(v, "f"))`. -/
theorem parse_formatF {v : Rat} (hpos : 0 < v) (h : IsDecimal v) :
    PyDecimal.parse (PyDecimal.formatF v) = some v := by
  obtain ⟨d, hformat, hvalue⟩ := exists_plainDecimal hpos h
  rw [hformat, d.parse_chars, hvalue]

/-! ## Multiples -/

/-- A multiple leaves no rest. -/
theorem PyDecimal.rat_rem_mul (m : Int) {b : Rat} (hb : b ≠ 0) :
    PyDecimal.rem ((m : Rat) * b) b = .ok 0 := by
  generalize ha : (m : Rat) * b = a
  have hnum (q : Rat) : (q.num : Rat) = q * q.den := by
    have hden : (q.den : Rat) ≠ 0 := Nat.cast_ne_zero.mpr q.den_nz
    exact (div_eq_iff hden).mp q.num_div_den
  have hcross : a.num * b.den = m * (a.den * b.num) := by
    have h : (a.num : Rat) * b.den = m * (a.den * b.num) := by
      rw [hnum a, hnum b]
      linear_combination -(a.den : Rat) * b.den * ha
    exact_mod_cast h
  have hnonzero : (a.den : Int) * b.num ≠ 0 :=
    Int.mul_ne_zero (Int.natCast_ne_zero.mpr a.den_nz) (Rat.num_ne_zero.mpr hb)
  show (if b = 0 then _ else Except.ok (a - b * ((a.num * b.den).tdiv (a.den * b.num) : Int))) = _
  rw [if_neg hb, hcross, Int.mul_tdiv_cancel _ hnonzero, ← ha, mul_comm b, sub_self]

end PyLib
