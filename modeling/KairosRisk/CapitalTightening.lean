import KairosRisk.CapitalBudgetProposal
import KairosRisk.Lib.ExactOrder
import KairosRisk.Lib.Grid
import KairosRisk.LiveProvenance

/-!
# A capital proposal only tightens

Each proposed ceiling takes a path of its own through a minimum, the cut to
whole cents and a conversion to a float. On every path the value only falls,
and it starts at the current ceiling, which its own spelling converts back to;
the one floor rises the same way.

What is asked of the conversions is `DirectedConversion`. `figures_ok_iff` says
when the figures are computed and which they are, `proposedLimits_ok_iff` which
limits they become, and `proposal_tightens` puts the paths together.
-/

namespace KairosRisk

open PyLib CapitalBudget

/-! ## Directed conversion -/

/-- Finite floats are ordered as they are spelled, and the conversions of
decimals that are not negative are conservative and monotone, and give a float
its own spelling back. A smaller decimal converts where a greater one does. -/
class DirectedConversion (F : Type) [PyFloat F] [Spelling F Rat] : Prop where
  le_iff : ∀ {x y : F}, PyFloat.isFinite x = true → PyFloat.isFinite y = true →
    (x ≤ y ↔ (Spelling.spell x : Rat) ≤ Spelling.spell y)
  lt_iff : ∀ {x y : F}, PyFloat.isFinite x = true → PyFloat.isFinite y = true →
    (x < y ↔ (Spelling.spell x : Rat) < Spelling.spell y)
  zero_finite : PyFloat.isFinite (PyFloat.lit 0 : F) = true
  spell_zero : (Spelling.spell (PyFloat.lit 0 : F) : Rat) = 0
  lower_finite : ∀ {v : Rat} {x : F}, 0 ≤ v → lowerFloat v = .ok x → PyFloat.isFinite x = true
  lower_le : ∀ {v : Rat} {x : F}, 0 ≤ v → lowerFloat v = .ok x → Spelling.spell x ≤ v
  lower_mono : ∀ {v w : Rat} {y : F}, 0 ≤ v → v ≤ w → lowerFloat w = .ok y →
    ∃ x : F, lowerFloat v = .ok x ∧ x ≤ y
  lower_spell : ∀ {x : F}, isPositive x = true → lowerFloat (Spelling.spell x : Rat) = .ok x
  le_upper : ∀ {v : Rat} {x : F}, 0 ≤ v → upperFloat v = .ok x → PyFloat.isFinite x = true →
    v ≤ Spelling.spell x
  upper_mono : ∀ {v w : Rat} {y : F}, 0 ≤ v → v ≤ w → upperFloat w = .ok y →
    ∃ x : F, upperFloat v = .ok x ∧ x ≤ y
  upper_spell : ∀ {x : F}, isPositive x = true → upperFloat (Spelling.spell x : Rat) = .ok x

section Conversion

variable {F : Type} [PyFloat F] [Spelling F Rat] [DirectedConversion F]

/-- A positive float is finite and spelled as a positive decimal. -/
theorem isPositive_float_iff {x : F} :
    isPositive x = true ↔ PyFloat.isFinite x = true ∧ (0 : Rat) < Spelling.spell x := by
  unfold isPositive
  rw [Bool.and_eq_true, decide_eq_true_eq]
  refine and_congr_right fun hfinite => ?_
  rw [DirectedConversion.lt_iff DirectedConversion.zero_finite hfinite,
    DirectedConversion.spell_zero]

theorem spell_pos {x : F} (hx : isPositive x = true) : (0 : Rat) < Spelling.spell x :=
  (isPositive_float_iff.mp hx).2

/-- Within the spelling of a float, what is converted downward is within the float. -/
theorem lowerFloat_le_of_le {v : Rat} {x y : F} (hy : isPositive y = true) (hv : 0 ≤ v)
    (hle : v ≤ Spelling.spell y) (h : lowerFloat v = .ok x) : x ≤ y := by
  obtain ⟨x', hx', hle⟩ :=
    DirectedConversion.lower_mono hv hle (DirectedConversion.lower_spell hy)
  rw [h] at hx'
  cases hx'
  exact hle

/-- From the spelling of a float on, what is converted upward is from the float on. -/
theorem le_upperFloat_of_le {v : Rat} {x y : F} (hy : isPositive y = true)
    (hle : Spelling.spell y ≤ v) (h : upperFloat v = .ok x) : y ≤ x := by
  obtain ⟨y', hy', hle⟩ := DirectedConversion.upper_mono (spell_pos hy).le hle h
  rw [DirectedConversion.upper_spell hy] at hy'
  cases hy'
  exact hle

end Conversion

section Exact

theorem rat_lowerFloat {v : Rat} (hv : 0 ≤ v) : lowerFloat v = (.ok v : Except PyError Rat) := by
  have hbelow : (floatBelow v : Rat) = v := if_neg (show ¬decide (v < v) = true by simp)
  show (.ok (PyFloat.max 0 [floatBelow v]) : Except PyError Rat) = _
  rw [hbelow, PyFloat.rat_max_eq, max_eq_right hv]

theorem rat_upperFloat (v : Rat) : upperFloat v = (.ok v : Except PyError Rat) :=
  congrArg Except.ok (if_neg (show ¬decide (v < v) = true by simp))

/-- Exact floats convert to themselves. -/
instance : DirectedConversion Rat where
  le_iff _ _ := Iff.rfl
  lt_iff _ _ := Iff.rfl
  zero_finite := rfl
  spell_zero := rfl
  lower_finite _ _ := rfl
  lower_le hv h := by
    rw [rat_lowerFloat hv] at h
    exact (Except.ok.inj h).ge
  lower_mono hv hle h := by
    rw [rat_lowerFloat (hv.trans hle)] at h
    exact ⟨_, rat_lowerFloat hv, hle.trans (Except.ok.inj h).le⟩
  lower_spell {x} hx := by
    have hpos : (0 : Rat) < x := of_decide_eq_true (Bool.and_eq_true_iff.mp hx).2
    exact rat_lowerFloat hpos.le
  le_upper _ h _ := by
    rw [rat_upperFloat] at h
    exact (Except.ok.inj h).le
  upper_mono _ hle h := by
    rw [rat_upperFloat] at h
    exact ⟨_, rat_upperFloat _, hle.trans (Except.ok.inj h).le⟩
  upper_spell _ := rat_upperFloat _

end Exact

/-! ## The limits -/

/-- The amounts that have to be positive are. -/
structure LiveRiskLimitsFields.Positive {F : Type} [PyFloat F] (l : LiveRiskLimitsFields F) :
    Prop where
  per_trade_fraction : isPositive l.perTradeRiskFraction = true
  aggregate_fraction : isPositive l.aggregateOpenRiskFraction = true
  per_trade : isPositive l.perTradeDollarCapUsd = true
  aggregate : isPositive l.aggregateDollarCapUsd = true
  daily : isPositive l.dailyLossCapUsd = true
  max_equity : isPositive l.maxAccountEquityUsd = true
  position : isPositive l.maxPositionNotionalUsd = true
  floor : isPositive l.minNotionalUsd = true

/-- What the limits' own checks say. -/
structure LiveRiskLimitsFields.Coherent {F : Type} [PyFloat F] (l : LiveRiskLimitsFields F) :
    Prop where
  positive : l.Positive
  per_trade : l.perTradeRiskFraction ≤ PyFloat.lit (25 / 10000)
  aggregate : l.aggregateOpenRiskFraction ≤ PyFloat.lit (1 / 100)
  leverage : PyFloat.lit 1 ≤ l.maxLeverage ∧ l.maxLeverage ≤ PyFloat.lit 1
  floor : ¬PyFloat.min l.aggregateDollarCapUsd [l.maxPositionNotionalUsd] < l.minNotionalUsd

theorem LiveRiskLimitsFields.check_ok_iff {F : Type} [PyFloat F] {l : LiveRiskLimitsFields F} :
    l.check = .ok () ↔ l.Coherent := by
  unfold check
  rw [raiseIf_bind_ok_iff, raiseIf_ok_iff]
  simp only [Bool.or_eq_false_iff, Bool.not_eq_false', decide_eq_true_eq, decide_eq_false_iff_not,
    List.all_cons, List.all_nil, Bool.and_true, Bool.and_eq_true]
  constructor
  · intro h
    obtain ⟨⟨⟨⟨⟨hpositive, hper⟩, hagg⟩, hfrom⟩, hto⟩, hfloor⟩ := h
    obtain ⟨h₁, h₂, h₃, h₄, h₅, h₆, h₇, h₈⟩ := hpositive
    exact ⟨⟨h₁, h₂, h₃, h₄, h₅, h₆, h₇, h₈⟩, hper, hagg, ⟨hfrom, hto⟩, hfloor⟩
  · intro h
    have hp := h.positive
    exact ⟨⟨⟨⟨⟨⟨hp.per_trade_fraction, hp.aggregate_fraction, hp.per_trade, hp.aggregate, hp.daily,
      hp.max_equity, hp.position, hp.floor⟩, h.per_trade⟩, h.aggregate⟩, h.leverage.1⟩,
      h.leverage.2⟩, h.floor⟩

theorem LiveRiskLimitsV1.coherent {F : Type} [PyFloat F] (l : LiveRiskLimitsV1 F) : l.Coherent :=
  LiveRiskLimitsFields.check_ok_iff.mp l.validated

namespace CapitalBudget

variable {F : Type} [PyFloat F] [Spelling F Rat]

/-! ## Cents -/

theorem usdFloor_isGreatest {v : Rat} (hv : 0 ≤ v) :
    IsGreatest {q | Multiple usdQuantum q ∧ q ≤ v} (usdFloor v) :=
  isGreatest_truncate (by decide +kernel) hv

/-- Cutting to cents takes something away. -/
theorem usdFloor_le {v : Rat} (hv : 0 ≤ v) : usdFloor v ≤ v := (usdFloor_isGreatest hv).1.2

theorem usdFloor_mono {v w : Rat} (hv : 0 ≤ v) (h : v ≤ w) : usdFloor v ≤ usdFloor w := by
  obtain ⟨hcents, hle⟩ := (usdFloor_isGreatest hv).1
  exact (usdFloor_isGreatest (hv.trans h)).2 ⟨hcents, hle.trans h⟩

theorem usdFloor_nonneg {v : Rat} (hv : 0 ≤ v) : 0 ≤ usdFloor v :=
  (usdFloor_isGreatest hv).2 ⟨⟨0, by simp⟩, hv⟩

/-- A minimum of two, cut to cents, is within both. -/
theorem usdFloor_min_le {a b : Rat} (ha : 0 ≤ a) (hb : 0 ≤ b) :
    usdFloor (PyDecimal.min a [b]) ≤ a ∧ usdFloor (PyDecimal.min a [b]) ≤ b := by
  have hmin : 0 ≤ PyDecimal.min a [b] := by
    rw [PyDecimal.rat_min_eq, PyFloat.rat_le_min_iff]
    simp [ha, hb]
  have hcents := usdFloor_le hmin
  exact ⟨hcents.trans (PyDecimal.min_le a [b] (by simp)),
    hcents.trans (PyDecimal.min_le a [b] (by simp))⟩

/-! ## The figures -/

/-- A float that became a decimal is finite, and became the one it is spelled as. -/
theorem decimal_float_ok {x : F} {name : String} {positive : Bool}
    {d : Checked positive} (h : decimal (.float x) name positive = .ok d) :
    PyFloat.isFinite x = true ∧ d.val = Spelling.spell x := by
  unfold decimal at h
  dsimp only at h
  split at h
  next hfinite =>
    split at h
    next =>
      cases h
      exact ⟨hfinite, rfl⟩
    next => cases h
  next => cases h

/-- A finite float that is spelled as a positive decimal becomes it. -/
theorem decimal_of_spell_pos {x : F} (hfinite : PyFloat.isFinite x = true)
    (hpos : (0 : Rat) < Spelling.spell x) (name : String) :
    decimal (.float x) name true = .ok ⟨Spelling.spell x, hpos.le, fun _ => hpos⟩ := by
  unfold decimal
  dsimp only
  rw [if_pos hfinite, dif_pos]

/-- A positive float becomes a positive decimal. -/
theorem decimal_float [DirectedConversion F] {x : F} (hx : isPositive x = true) (name : String) :
    ∃ d : Checked true, decimal (.float x) name true = .ok d ∧ d.val = Spelling.spell x := by
  obtain ⟨hfinite, hpos⟩ := isPositive_float_iff.mp hx
  exact ⟨_, decimal_of_spell_pos hfinite hpos name, rfl⟩

/-- The figures of an equity, whatever there is against them. -/
def computed (equity : Rat) (limits : LiveRiskLimitsV1 F) (policy : CapitalBudgetPolicyV1)
    (minimums : List VenueMinimumNotionalV1) : Figures :=
  let basis := PyDecimal.min equity [Spelling.spell limits.maxAccountEquityUsd]
  let aggregateCap := usdFloor
    (PyDecimal.min basis [Spelling.spell limits.aggregateDollarCapUsd])
  { baselineCeiling := Spelling.spell limits.maxAccountEquityUsd
    capitalBasis := basis
    venueMinimum := venueMinimum minimums
    proposalMinimum := PyDecimal.max (venueMinimum minimums) (Spelling.spell limits.minNotionalUsd)
    perTradeCap := usdFloor (PyDecimal.min (Spelling.spell limits.perTradeDollarCapUsd)
      [basis * policy.perTradeRiskFraction.val])
    dailyCap := usdFloor (PyDecimal.min (Spelling.spell limits.dailyLossCapUsd)
      [basis * policy.dailyLossFraction.val])
    aggregateNotionalCap := aggregateCap
    totalNotionalCap := usdFloor
      (PyDecimal.min aggregateCap [Spelling.spell limits.maxPositionNotionalUsd]) }

/-- The policy is within the current fractions, and there is enough for it. -/
structure Affordable (limits : LiveRiskLimitsV1 F) (policy : CapitalBudgetPolicyV1) (b : Figures) :
    Prop where
  per_trade_fraction :
    policy.perTradeRiskFraction.val ≤ Spelling.spell limits.perTradeRiskFraction
  aggregate_fraction :
    policy.aggregateOpenRiskFraction.val ≤ Spelling.spell limits.aggregateOpenRiskFraction
  per_trade : 0 < b.perTradeCap
  daily : 0 < b.dailyCap
  total : 0 < b.totalNotionalCap
  minimum : b.proposalMinimum ≤ b.totalNotionalCap

/-- **The figures** are computed where they are affordable. -/
theorem figures_ok_iff [DirectedConversion F] {equity : Rat} {limits : LiveRiskLimitsV1 F}
    {policy : CapitalBudgetPolicyV1} {minimums : List VenueMinimumNotionalV1} {b : Figures} :
    figures equity limits policy minimums = .ok b ↔
      b = computed equity limits policy minimums ∧ Affordable limits policy b := by
  have hpositive := limits.coherent.positive
  obtain ⟨baseline, hbaseline, hbase⟩ := decimal_float hpositive.max_equity
    "recorded initial budget ceiling"
  obtain ⟨currentMin, hcurrent, hmin⟩ := decimal_float hpositive.floor
    "current min_notional_usd"
  obtain ⟨perTrade, hperTrade, hper⟩ := decimal_float hpositive.per_trade
    "current per-trade cap"
  obtain ⟨daily, hdaily, hday⟩ := decimal_float hpositive.daily
    "current daily cap"
  obtain ⟨aggregate, haggregate, hagg⟩ := decimal_float hpositive.aggregate
    "current aggregate notional cap"
  obtain ⟨position, hposition, hpos⟩ := decimal_float hpositive.position
    "current position cap"
  unfold figures
  simp only [hbaseline, hcurrent, hperTrade, hdaily, haggregate, hposition, ok_bind,
    raiseIf_bind_ok_iff, decide_eq_false_iff_not, not_lt, not_le]
  rw [hbase, hmin, hper, hday, hagg, hpos, PyDecimal.rat_min_eq _ [_, _], PyFloat.rat_lt_min_iff]
  simp only [List.forall_mem_cons, List.not_mem_nil, false_implies, implies_true, and_true]
  constructor
  · rintro ⟨hfraction, haggregate, ⟨hper, hday, htotal⟩, hminimum, h⟩
    cases h
    exact ⟨rfl, hfraction, haggregate, hper, hday, htotal, hminimum⟩
  · rintro ⟨rfl, h⟩
    exact ⟨h.per_trade_fraction, h.aggregate_fraction, ⟨h.per_trade, h.daily, h.total⟩, h.minimum,
      rfl⟩

section Bounds

variable [DirectedConversion F] {equity : Rat} (limits : LiveRiskLimitsV1 F)
  (policy : CapitalBudgetPolicyV1) (minimums : List VenueMinimumNotionalV1)

theorem capitalBasis_pos (he : 0 < equity) :
    0 < (computed equity limits policy minimums).capitalBasis := by
  have hbaseline := spell_pos limits.coherent.positive.max_equity
  show 0 < PyDecimal.min _ _
  rw [PyDecimal.rat_min_eq, PyFloat.rat_lt_min_iff]
  simp [he, hbaseline]

/-- The per-trade cap is within the current one, and the policy's share of the basis. -/
theorem perTradeCap_le (he : 0 < equity) :
    (computed equity limits policy minimums).perTradeCap
      ≤ Spelling.spell limits.perTradeDollarCapUsd ∧
    (computed equity limits policy minimums).perTradeCap
      ≤ (computed equity limits policy minimums).capitalBasis
        * policy.perTradeRiskFraction.val := by
  have hcurrent := spell_pos limits.coherent.positive.per_trade
  have hbasis := capitalBasis_pos limits policy minimums he
  exact usdFloor_min_le hcurrent.le (mul_pos hbasis policy.perTradeRiskFraction.property.1).le

/-- So is the daily cap. -/
theorem dailyCap_le (he : 0 < equity) :
    (computed equity limits policy minimums).dailyCap ≤ Spelling.spell limits.dailyLossCapUsd ∧
    (computed equity limits policy minimums).dailyCap
      ≤ (computed equity limits policy minimums).capitalBasis * policy.dailyLossFraction.val := by
  have hcurrent := spell_pos limits.coherent.positive.daily
  have hbasis := capitalBasis_pos limits policy minimums he
  exact usdFloor_min_le hcurrent.le (mul_pos hbasis policy.dailyLossFraction.property.1).le

/-- The aggregate cap is within the basis and the current one. -/
theorem aggregateCap_le (he : 0 < equity) :
    (computed equity limits policy minimums).aggregateNotionalCap
      ≤ (computed equity limits policy minimums).capitalBasis ∧
    (computed equity limits policy minimums).aggregateNotionalCap
      ≤ Spelling.spell limits.aggregateDollarCapUsd := by
  have hcurrent := spell_pos limits.coherent.positive.aggregate
  exact usdFloor_min_le (capitalBasis_pos limits policy minimums he).le hcurrent.le

theorem aggregateCap_nonneg (he : 0 < equity) :
    0 ≤ (computed equity limits policy minimums).aggregateNotionalCap := by
  have hcurrent := spell_pos limits.coherent.positive.aggregate
  have hbasis := capitalBasis_pos limits policy minimums he
  apply usdFloor_nonneg
  rw [PyDecimal.rat_min_eq, PyFloat.rat_le_min_iff]
  simp only [List.forall_mem_cons, List.not_mem_nil, false_implies, implies_true, and_true]
  exact ⟨hbasis.le, hcurrent.le⟩

/-- The position cap is within the aggregate cap and the current one. -/
theorem totalCap_le (he : 0 < equity) :
    (computed equity limits policy minimums).totalNotionalCap
      ≤ (computed equity limits policy minimums).aggregateNotionalCap ∧
    (computed equity limits policy minimums).totalNotionalCap
      ≤ Spelling.spell limits.maxPositionNotionalUsd := by
  have hcurrent := spell_pos limits.coherent.positive.position
  exact usdFloor_min_le (aggregateCap_nonneg limits policy minimums he) hcurrent.le

omit [PyFloat F] [Spelling F Rat] [DirectedConversion F] in
/-- The venue's minimum covers each of them. -/
theorem le_venueMinimum {minimums : List VenueMinimumNotionalV1} {item : VenueMinimumNotionalV1}
    (h : item ∈ minimums) :
    item.minNotionalUsd.val ≤ venueMinimum minimums := by
  have hfold : ∀ (vs : List Rat) (first v : Rat), v ∈ first :: vs →
      v ≤ vs.foldl PyDecimal.max first := by
    intro vs
    induction vs with
    | nil =>
      intro first v hv
      rw [List.mem_singleton.mp hv]
      exact le_refl _
    | cons w vs ih =>
      intro first v hv
      rw [List.foldl_cons, PyDecimal.rat_max_eq]
      have hhead := ih (Max.max first w) _ List.mem_cons_self
      rcases List.mem_cons.mp hv with rfl | hv
      · exact (le_max_left _ _).trans hhead
      · rcases List.mem_cons.mp hv with rfl | hv
        · exact (le_max_right _ _).trans hhead
        · exact ih _ _ (List.mem_cons_of_mem _ hv)
  have hmem := List.mem_map_of_mem (f := fun item : VenueMinimumNotionalV1 =>
    item.minNotionalUsd.val) h
  unfold venueMinimum
  split
  next hnil =>
    rw [hnil] at hmem
    exact absurd hmem List.not_mem_nil
  next first others hcons =>
    rw [hcons] at hmem
    exact hfold others first _ hmem

omit [DirectedConversion F] in
/-- The floor covers the venue's minimum and the current one. -/
theorem le_proposalMinimum (equity : Rat) :
    venueMinimum minimums ≤ (computed equity limits policy minimums).proposalMinimum ∧
    Spelling.spell limits.minNotionalUsd
      ≤ (computed equity limits policy minimums).proposalMinimum := by
  show _ ≤ PyDecimal.max _ _ ∧ _ ≤ PyDecimal.max _ _
  rw [PyDecimal.rat_max_eq]
  exact ⟨le_max_left _ _, le_max_right _ _⟩

end Bounds

/-! ## The proposed limits -/

/-- The limits are the figures, each converted its own way. -/
structure Converted (policy : CapitalBudgetPolicyV1) (b : Figures) (l : LiveRiskLimitsFields F) :
    Prop where
  per_trade_fraction : lowerFloat policy.perTradeRiskFraction.val = .ok l.perTradeRiskFraction
  aggregate_fraction :
    lowerFloat policy.aggregateOpenRiskFraction.val = .ok l.aggregateOpenRiskFraction
  leverage : l.maxLeverage = PyFloat.lit 1
  per_trade : lowerFloat b.perTradeCap = .ok l.perTradeDollarCapUsd
  aggregate : lowerFloat b.aggregateNotionalCap = .ok l.aggregateDollarCapUsd
  daily : lowerFloat b.dailyCap = .ok l.dailyLossCapUsd
  equity : lowerFloat b.baselineCeiling = .ok l.maxAccountEquityUsd
  position : lowerFloat b.totalNotionalCap = .ok l.maxPositionNotionalUsd
  floor : upperFloat b.proposalMinimum = .ok l.minNotionalUsd

theorem proposedLimits_ok_iff {policy : CapitalBudgetPolicyV1} {b : Figures}
    {limits : LiveRiskLimitsV1 F} :
    proposedLimits policy b = .ok limits ↔ Converted policy b limits.toLiveRiskLimitsFields := by
  constructor
  · intro h
    unfold proposedLimits at h
    obtain ⟨x₁, hper, h⟩ := ok_of_bind h
    obtain ⟨x₂, hagg, h⟩ := ok_of_bind h
    obtain ⟨x₃, hperTrade, h⟩ := ok_of_bind h
    obtain ⟨x₄, haggregate, h⟩ := ok_of_bind h
    obtain ⟨x₅, hdaily, h⟩ := ok_of_bind h
    obtain ⟨x₆, hequity, h⟩ := ok_of_bind h
    obtain ⟨x₇, hposition, h⟩ := ok_of_bind h
    obtain ⟨x₈, hfloor, h⟩ := ok_of_bind h
    rw [LiveRiskLimitsV1.modelValidate_ok h]
    exact ⟨hper, hagg, rfl, hperTrade, haggregate, hdaily, hequity, hposition, hfloor⟩
  · intro h
    unfold proposedLimits
    rw [h.per_trade_fraction, ok_bind, h.aggregate_fraction, ok_bind, h.per_trade, ok_bind,
      h.aggregate, ok_bind, h.daily, ok_bind, h.equity, ok_bind, h.position, ok_bind, h.floor,
      ok_bind, ← h.leverage]
    exact LiveRiskLimitsV1.modelValidate_self limits

/-! ## The call -/

/-- What the inputs are when they pass revalidation: themselves, checked. -/
structure Revalidates (core : CapitalCore F) (x : CapitalBudgetCall F) (v : Revalidated core) :
    Prop where
  equity : decimal (.float x.verifiedAccount.account.equityUsd) "verified account equity" true
    = .ok v.equity
  account : v.account.toLiveAccountFacts = x.verifiedAccount
  scope : LiveRiskScopeV1.modelValidate core.toLiveCore x.expectedScope = .ok v.scope
  limits : v.limits.toLiveRiskLimitsFields = x.currentLimits
  policy : CapitalBudgetPolicyV1.make x.policy = .ok v.policy
  some_minimum : x.venueMinimums.isEmpty = false
  minimums : x.venueMinimums.mapM (VenueMinimumNotionalV1.make core.toLiveCore) = .ok v.minimums

theorem revalidate_ok_iff {core : CapitalCore F} {x : CapitalBudgetCall F} {v : Revalidated core} :
    revalidate core x = .ok v ↔ Revalidates core x v := by
  unfold revalidate
  constructor
  · intro h
    obtain ⟨equity, hequity, h⟩ := ok_of_bind h
    obtain ⟨account, haccount, h⟩ := ok_of_bind h
    obtain ⟨scope, hscope, h⟩ := ok_of_bind h
    obtain ⟨limits, hlimits, h⟩ := ok_of_bind h
    obtain ⟨policy, hpolicy, h⟩ := ok_of_bind h
    obtain ⟨hsome, h⟩ := ok_of_raiseIf h
    obtain ⟨minimums, hminimums, h⟩ := ok_of_bind h
    cases h
    exact ⟨hequity, VerifiedLiveAccountV1.modelValidate_ok haccount, hscope,
      LiveRiskLimitsV1.modelValidate_ok hlimits, hpolicy, hsome, hminimums⟩
  · intro h
    rw [h.equity, ok_bind, ← h.account, VerifiedLiveAccountV1.modelValidate_self, ok_bind, h.scope,
      ok_bind, ← h.limits, LiveRiskLimitsV1.modelValidate_self, ok_bind, h.policy, ok_bind,
      raiseIf_bind h.some_minimum, h.minimums, ok_bind]
    rfl

/-- **A call** that proposes something went through all of its stages. -/
theorem proposeCapitalBudget_ok_iff {core : CapitalCore F} {x : CapitalBudgetCall F}
    {r : CapitalBudgetProposalV1 F} :
    proposeCapitalBudget core x = .ok r ↔
      ∃ (v : Revalidated core) (b : Figures) (limits : LiveRiskLimitsV1 F),
        0 ≤ x.nowMs ∧ Revalidates core x v ∧ checkEvidence core v x.nowMs = .ok () ∧
        checkCoverage (v.scope.approvedProdSymbols.map Prod.snd) v.minimums x.nowMs = .ok () ∧
        figures v.equity.val v.limits v.policy v.minimums = .ok b ∧
        proposedLimits v.policy b = .ok limits ∧ r = report core v b limits := by
  have hcaught : ∀ v, revalidated core x = .ok v ↔ revalidate core x = .ok v := by
    intro v
    unfold revalidated
    split
    next e he => rw [he]; exact ⟨nofun, nofun⟩
    next v' hv => rw [hv]
  unfold proposeCapitalBudget
  constructor
  · intro h
    obtain ⟨hnow, h⟩ := ok_of_raiseIf h
    obtain ⟨v, hv, h⟩ := ok_of_bind h
    obtain ⟨⟨⟩, hevidence, h⟩ := ok_of_bind h
    obtain ⟨⟨⟩, hcoverage, h⟩ := ok_of_bind h
    obtain ⟨b, hb, h⟩ := ok_of_bind h
    obtain ⟨limits, hlimits, h⟩ := ok_of_bind h
    cases h
    exact ⟨v, b, limits, not_lt.mp (of_decide_eq_false hnow),
      revalidate_ok_iff.mp ((hcaught v).mp hv), hevidence, hcoverage, hb, hlimits, rfl⟩
  · rintro ⟨v, b, limits, hnow, hv, hevidence, hcoverage, hb, hlimits, rfl⟩
    rw [raiseIf_bind (decide_eq_false (not_lt.mpr hnow)),
      (hcaught v).mpr (revalidate_ok_iff.mpr hv), ok_bind, hevidence, ok_bind, hcoverage, ok_bind,
      hb, ok_bind, hlimits, ok_bind]
    rfl

/-! ## What the metadata cover -/

/-- The metadata cover the symbols, each once, and are at most five seconds old. -/
structure Covers (scopedSymbols : List String) (minimums : List VenueMinimumNotionalV1)
    (nowMs : Int) : Prop where
  once : (minimums.map VenueMinimumNotional.venueSymbol).Nodup
  symbols : ∀ s, s ∈ minimums.map VenueMinimumNotional.venueSymbol ↔ s ∈ scopedSymbols
  fresh : ∀ item ∈ minimums, item.observedAtMs ≤ nowMs ∧ nowMs - item.observedAtMs ≤ 5000

omit [PyFloat F] [Spelling F Rat] in
theorem checkCoverage_ok {scopedSymbols : List String} {minimums : List VenueMinimumNotionalV1}
    {nowMs : Int} (h : checkCoverage scopedSymbols minimums nowMs = .ok ()) :
    Covers scopedSymbols minimums nowMs := by
  unfold checkCoverage at h
  obtain ⟨_, h⟩ := ok_of_raiseIf h
  obtain ⟨hsymbols, hfresh⟩ := ok_of_raiseIf h
  rw [Bool.or_eq_false_iff, Bool.not_eq_false'] at hsymbols
  obtain ⟨hlength, hsame⟩ := hsymbols
  unfold sameSymbols at hsame
  rw [Bool.and_eq_true, List.all_eq_true, List.all_eq_true] at hsame
  constructor
  case once => exact nodup_of_length_eraseDups _ (by simpa using hlength)
  case symbols =>
    intro s
    constructor
    · intro hs
      simpa using hsame.1 s hs
    · intro hs
      simpa using hsame.2 s hs
  case fresh =>
    intro item hitem
    have hone := raiseIf_ok (ok_of_forM hfresh item hitem)
    rw [Bool.or_eq_false_iff, decide_eq_false_iff_not, decide_eq_false_iff_not,
      maxAccountAgeMs] at hone
    omega

end CapitalBudget

/-! ## The result -/

section Tightening

variable {F : Type} [PyFloat F] [Spelling F Rat]

/-- The new limits, under a policy and the venue's minimums, only tighten the
current ones, and budget at most the equity. -/
structure Tightens (equity : F) (current : LiveRiskLimitsFields F) (policy : CapitalBudgetPolicyV1)
    (minimums : List VenueMinimumNotionalV1) (new : LiveRiskLimitsFields F) : Prop where
  per_trade_fraction : new.perTradeRiskFraction ≤ current.perTradeRiskFraction
  aggregate_fraction : new.aggregateOpenRiskFraction ≤ current.aggregateOpenRiskFraction
  per_trade : new.perTradeDollarCapUsd ≤ current.perTradeDollarCapUsd
  aggregate : new.aggregateDollarCapUsd ≤ current.aggregateDollarCapUsd
  daily : new.dailyLossCapUsd ≤ current.dailyLossCapUsd
  position : new.maxPositionNotionalUsd ≤ current.maxPositionNotionalUsd
  max_equity : new.maxAccountEquityUsd = current.maxAccountEquityUsd
  floor : current.minNotionalUsd ≤ new.minNotionalUsd
  venue_floor : ∀ item ∈ minimums, item.minNotionalUsd.val ≤ Spelling.spell new.minNotionalUsd
  per_trade_share : (Spelling.spell new.perTradeDollarCapUsd : Rat)
    ≤ min (Spelling.spell equity) (Spelling.spell current.maxAccountEquityUsd)
      * policy.perTradeRiskFraction.val
  daily_share : (Spelling.spell new.dailyLossCapUsd : Rat)
    ≤ min (Spelling.spell equity) (Spelling.spell current.maxAccountEquityUsd)
      * policy.dailyLossFraction.val
  basis : (Spelling.spell new.aggregateDollarCapUsd : Rat)
    ≤ min (Spelling.spell equity) (Spelling.spell current.maxAccountEquityUsd)
  position_within : new.maxPositionNotionalUsd ≤ new.aggregateDollarCapUsd

variable [DirectedConversion F]

/-- Affordable figures, converted, tighten. -/
theorem CapitalBudget.Converted.tightens {e : F} {equity : Rat} {limits new : LiveRiskLimitsV1 F}
    {policy : CapitalBudgetPolicyV1} {minimums : List VenueMinimumNotionalV1}
    (hequity : equity = Spelling.spell e) (hpos : 0 < equity)
    (haffordable : Affordable limits policy (computed equity limits policy minimums))
    (h : Converted policy (computed equity limits policy minimums) new.toLiveRiskLimitsFields) :
    Tightens e limits.toLiveRiskLimitsFields policy minimums new.toLiveRiskLimitsFields := by
  have hcurrent := limits.coherent.positive
  obtain ⟨hper, hperShare⟩ := perTradeCap_le limits policy minimums hpos
  obtain ⟨hdaily, hdailyShare⟩ := dailyCap_le limits policy minimums hpos
  obtain ⟨hbasis, haggregate⟩ := aggregateCap_le limits policy minimums hpos
  obtain ⟨hwithin, hposition⟩ := totalCap_le limits policy minimums hpos
  have hnonneg := aggregateCap_nonneg limits policy minimums hpos
  have hmin : (computed equity limits policy minimums).capitalBasis
      = min (Spelling.spell e) (Spelling.spell limits.maxAccountEquityUsd) := by
    show PyDecimal.min equity [Spelling.spell limits.maxAccountEquityUsd] = _
    rw [PyDecimal.rat_min_pair, hequity]
  have hfloor := le_proposalMinimum limits policy minimums equity
  have hminimum := spell_pos limits.coherent.positive.floor
  have hnewFinite : PyFloat.isFinite new.minNotionalUsd = true :=
    (isPositive_float_iff.mp new.coherent.positive.floor).1
  rw [hmin] at hperShare hdailyShare hbasis
  constructor
  case per_trade_fraction =>
    exact lowerFloat_le_of_le hcurrent.per_trade_fraction
      policy.perTradeRiskFraction.property.1.le haffordable.per_trade_fraction h.per_trade_fraction
  case aggregate_fraction =>
    exact lowerFloat_le_of_le hcurrent.aggregate_fraction
      policy.aggregateOpenRiskFraction.property.1.le haffordable.aggregate_fraction
      h.aggregate_fraction
  case per_trade =>
    exact lowerFloat_le_of_le hcurrent.per_trade
      haffordable.per_trade.le hper h.per_trade
  case aggregate =>
    exact lowerFloat_le_of_le hcurrent.aggregate
      hnonneg haggregate h.aggregate
  case daily =>
    exact lowerFloat_le_of_le hcurrent.daily
      haffordable.daily.le hdaily h.daily
  case position =>
    exact lowerFloat_le_of_le hcurrent.position
      haffordable.total.le hposition h.position
  case max_equity =>
    have hsame := h.equity
    -- the recorded ceiling is spelled by the float it came from
    rw [show (computed equity limits policy minimums).baselineCeiling
        = Spelling.spell limits.maxAccountEquityUsd from rfl,
      DirectedConversion.lower_spell hcurrent.max_equity] at hsame
    exact (Except.ok.inj hsame).symm
  case floor =>
    exact le_upperFloat_of_le hcurrent.floor hfloor.2 h.floor
  case venue_floor =>
    intro item hitem
    exact ((le_venueMinimum hitem).trans hfloor.1).trans
      (DirectedConversion.le_upper (hminimum.le.trans hfloor.2) h.floor hnewFinite)
  case per_trade_share =>
    exact (DirectedConversion.lower_le haffordable.per_trade.le h.per_trade).trans hperShare
  case daily_share =>
    exact (DirectedConversion.lower_le haffordable.daily.le h.daily).trans hdailyShare
  case basis => exact (DirectedConversion.lower_le hnonneg h.aggregate).trans hbasis
  case position_within =>
    obtain ⟨x, hx, hle⟩ :=
      DirectedConversion.lower_mono haffordable.total.le hwithin h.aggregate
    rw [h.position] at hx
    cases hx
    exact hle

/-- **A capital proposal only tightens.** Where a call proposes limits, the
policy and the metadata passed their checks, the limits tighten the current
ones, and the metadata cover the scope's PROD symbols, each once and fresh. -/
theorem proposal_tightens {core : CapitalCore F} {x : CapitalBudgetCall F}
    {r : CapitalBudgetProposalV1 F} (h : proposeCapitalBudget core x = .ok r) :
    ∃ (policy : CapitalBudgetPolicyV1) (minimums : List VenueMinimumNotionalV1),
      CapitalBudgetPolicyV1.make x.policy = .ok policy ∧
      x.venueMinimums.mapM (VenueMinimumNotionalV1.make core.toLiveCore) = .ok minimums ∧
      Tightens x.verifiedAccount.account.equityUsd x.currentLimits policy minimums
        r.proposedLimits.toLiveRiskLimitsFields ∧
      Covers (x.expectedScope.approvedProdSymbols.map Prod.snd) minimums x.nowMs := by
  obtain ⟨v, b, limits, -, hv, -, hcoverage, hb, hlimits, rfl⟩ := proposeCapitalBudget_ok_iff.mp h
  obtain ⟨rfl, haffordable⟩ := figures_ok_iff.mp hb
  have htightens := (proposedLimits_ok_iff.mp hlimits).tightens (decimal_float_ok hv.equity).2
    (v.equity.property.2 rfl) haffordable
  rw [hv.limits] at htightens
  have hcovers := checkCoverage_ok hcoverage
  have hscope := LiveRiskScopeV1.modelValidate_symbols hv.scope
  refine ⟨v.policy, v.minimums, hv.policy, hv.minimums, htightens, hcovers.once, ?_, hcovers.fresh⟩
  intro s
  rw [hcovers.symbols s]
  simp only [List.mem_map, hscope]

end Tightening

namespace Scenario

/-- The contracts package for proposals. -/
def capitalCore : CapitalCore Rat where
  toLiveCore := liveCore
  itemsSha256 _ := digest '6'

/-- Verified facts of an account of some equity that holds nothing. -/
def capitalFacts (equityUsd : Rat) : LiveAccountFacts Rat where
  sourceId := "live-account"
  scopeSha256 := digest 'd'
  evidenceSha256 := digest '4'
  asOfMs := 60200
  account := { account 1 60200 with
    tradingMode := .live, evedexProfile := .prod, accountId := "kairos-live-01"
    equityUsd := equityUsd }
  aggregateOpenRiskUsd := 0
  aggregateOpenNotionalUsd := 0
  reservedOpenRiskUsd := 0
  reservedOpenNotionalUsd := 0
  strategyOpenNotionalUsd := 0
  strategyReservedNotionalUsd := 0
  dailyAdverseLossUsd := 0

/-- A call for a proposal, with the venue's minimum at five dollars. -/
def capitalCall (equityUsd : Rat) : CapitalBudgetCall Rat where
  verifiedAccount := capitalFacts equityUsd
  expectedScope := liveScope
  currentLimits := liveLimits
  policy :=
    { perTradeRiskFraction := .decimal (25 / 10000)
      aggregateOpenRiskFraction := .decimal (1 / 100)
      dailyLossFraction := .decimal (1 / 100) }
  venueMinimums :=
    [{ venueSymbol := "BTCUSD", sourceId := "venue-metadata", observedAtMs := 60100
       evidenceSha256 := digest '7', minNotionalUsd := .int 5 }]
  nowMs := 60400

/-- What is proposed for eight thousand dollars. -/
def eightThousand : CapitalBudgetProposalV1 Rat :=
  (proposeCapitalBudget capitalCore (capitalCall 8000)).toOption.get (by decide +kernel)

theorem eightThousand_returned :
    proposeCapitalBudget capitalCore (capitalCall 8000) = .ok eightThousand :=
  eq_ok_of_isSome _

/-- It has a per-trade cap of twenty dollars, and nothing above the current limits. -/
theorem eight_thousand_tightens :
    eightThousand.proposedLimits.perTradeDollarCapUsd = 20 ∧
    ∃ policy minimums,
      CapitalBudgetPolicyV1.make (capitalCall 8000).policy = .ok policy ∧
      (capitalCall 8000).venueMinimums.mapM (VenueMinimumNotionalV1.make capitalCore.toLiveCore)
        = .ok minimums ∧
      Tightens (capitalCall 8000).verifiedAccount.account.equityUsd (capitalCall 8000).currentLimits
        policy minimums eightThousand.proposedLimits.toLiveRiskLimitsFields ∧
      Covers ((capitalCall 8000).expectedScope.approvedProdSymbols.map Prod.snd) minimums
        (capitalCall 8000).nowMs :=
  ⟨by decide +kernel, proposal_tightens eightThousand_returned⟩

end Scenario

end KairosRisk
