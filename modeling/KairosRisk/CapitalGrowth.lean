import KairosRisk.CapitalTightening

/-!
# Proposals for a growing account

Two verified accounts that are the same evidence but for their equity are given
the same policy and the same venue. The figures grow with the equity
(`computed_mono`), so what was affordable stays so, and the conversions keep
the order; from the recorded ceiling on they do not depend on the equity at all
(`computed_saturates`). `proposal_grows` says so of the calls.
-/

namespace KairosRisk

open PyLib CapitalBudget

namespace CapitalBudget

variable {F : Type} [PyFloat F] [Spelling F Rat]

/-! ## The figures -/

theorem usdFloor_min_mono {a a' b b' : Rat} (ha : 0 ≤ a) (hb : 0 ≤ b) (haa : a ≤ a')
    (hbb : b ≤ b') : usdFloor (PyDecimal.min a [b]) ≤ usdFloor (PyDecimal.min a' [b']) := by
  rw [PyDecimal.rat_min_pair, PyDecimal.rat_min_pair]
  exact usdFloor_mono (le_min ha hb) (min_le_min haa hbb)

/-- One set of figures caps no less than another. -/
structure Figures.Below (b b' : Figures) : Prop where
  baseline : b'.baselineCeiling = b.baselineCeiling
  minimum : b'.proposalMinimum = b.proposalMinimum
  per_trade : b.perTradeCap ≤ b'.perTradeCap
  daily : b.dailyCap ≤ b'.dailyCap
  aggregate : b.aggregateNotionalCap ≤ b'.aggregateNotionalCap
  total : b.totalNotionalCap ≤ b'.totalNotionalCap

section Mono

variable [DirectedConversion F] (limits : LiveRiskLimitsV1 F) (policy : CapitalBudgetPolicyV1)
  (minimums : List VenueMinimumNotionalV1) {equity equity' : Rat}

/-- **The figures grow with the equity.** -/
theorem computed_mono (he : 0 < equity) (hle : equity ≤ equity') :
    (computed equity limits policy minimums).Below (computed equity' limits policy minimums) := by
  have hbasis := capitalBasis_pos limits policy minimums he
  have hgrows : (computed equity limits policy minimums).capitalBasis
      ≤ (computed equity' limits policy minimums).capitalBasis := by
    show PyDecimal.min _ _ ≤ PyDecimal.min _ _
    rw [PyDecimal.rat_min_pair, PyDecimal.rat_min_pair]
    exact min_le_min hle (le_refl _)
  have hperTrade := spell_pos limits.coherent.positive.per_trade
  have hdaily := spell_pos limits.coherent.positive.daily
  have haggregate := spell_pos limits.coherent.positive.aggregate
  have hposition := spell_pos limits.coherent.positive.position
  have hperShare := policy.perTradeRiskFraction.property.1
  have hdailyShare := policy.dailyLossFraction.property.1
  have hcap : (computed equity limits policy minimums).aggregateNotionalCap
      ≤ (computed equity' limits policy minimums).aggregateNotionalCap :=
    usdFloor_min_mono hbasis.le haggregate.le hgrows (le_refl _)
  constructor
  case baseline => rfl
  case minimum => rfl
  case per_trade =>
    exact usdFloor_min_mono hperTrade.le (mul_pos hbasis hperShare).le (le_refl _)
      (mul_le_mul_of_nonneg_right hgrows hperShare.le)
  case daily =>
    exact usdFloor_min_mono hdaily.le (mul_pos hbasis hdailyShare).le (le_refl _)
      (mul_le_mul_of_nonneg_right hgrows hdailyShare.le)
  case aggregate => exact hcap
  case total =>
    exact usdFloor_min_mono (aggregateCap_nonneg limits policy minimums he) hposition.le hcap
      (le_refl _)

omit [DirectedConversion F] in
/-- **From the recorded ceiling on** the equity does not matter. -/
theorem computed_saturates (h : Spelling.spell limits.maxAccountEquityUsd ≤ equity)
    (h' : Spelling.spell limits.maxAccountEquityUsd ≤ equity') :
    computed equity' limits policy minimums = computed equity limits policy minimums := by
  have hbasis : PyDecimal.min equity' [Spelling.spell limits.maxAccountEquityUsd]
      = PyDecimal.min equity [Spelling.spell limits.maxAccountEquityUsd] := by
    rw [PyDecimal.rat_min_pair, PyDecimal.rat_min_pair, min_eq_right h, min_eq_right h']
  unfold computed
  rw [hbasis]

end Mono

/-- What was affordable stays so with figures that cap no less. -/
theorem Affordable.mono {limits : LiveRiskLimitsV1 F}
    {policy : CapitalBudgetPolicyV1} {b b' : Figures} (h : Affordable limits policy b)
    (hbelow : b.Below b') : Affordable limits policy b' where
  per_trade_fraction := h.per_trade_fraction
  aggregate_fraction := h.aggregate_fraction
  per_trade := lt_of_lt_of_le h.per_trade hbelow.per_trade
  daily := lt_of_lt_of_le h.daily hbelow.daily
  total := lt_of_lt_of_le h.total hbelow.total
  minimum := by
    rw [hbelow.minimum]
    exact h.minimum.trans hbelow.total

/-! ## The limits -/

/-- Between a converted decimal and the spelling of a float, a decimal converts
to something that is not below. -/
theorem lowerFloat_of_between [DirectedConversion F] {v w : Rat} {x y : F}
    (hy : isPositive y = true) (hv : 0 ≤ v) (hvw : v ≤ w) (hw : w ≤ Spelling.spell y)
    (hx : isPositive x = true) (h : lowerFloat v = .ok x) :
    ∃ x' : F, lowerFloat w = .ok x' ∧ x ≤ x' ∧ isPositive x' = true := by
  obtain ⟨x', hx', -⟩ :=
    DirectedConversion.lower_mono (hv.trans hvw) hw (DirectedConversion.lower_spell hy)
  obtain ⟨x'', hx'', hle⟩ := DirectedConversion.lower_mono hv hvw hx'
  rw [h] at hx''
  cases hx''
  refine ⟨x', hx', hle, isPositive_float_iff.mpr ?_⟩
  have hfinite := DirectedConversion.lower_finite (hv.trans hvw) hx'
  obtain ⟨hxfinite, hxpos⟩ := isPositive_float_iff.mp hx
  exact ⟨hfinite, hxpos.trans_le ((DirectedConversion.le_iff hxfinite hfinite).mp hle)⟩

/-- A minimum of two floats is not below a third when neither is. -/
theorem not_min_lt_iff [DirectedConversion F] {a b m : F} (ha : isPositive a = true)
    (hb : isPositive b = true) (hm : isPositive m = true) :
    ¬PyFloat.min a [b] < m ↔ (Spelling.spell m : Rat) ≤ Spelling.spell a ∧
      (Spelling.spell m : Rat) ≤ Spelling.spell b := by
  have hfa := (isPositive_float_iff.mp ha).1
  have hfb := (isPositive_float_iff.mp hb).1
  have hfm := (isPositive_float_iff.mp hm).1
  have hmin : PyFloat.min a [b] = if b < a then b else a := rfl
  rw [hmin]
  split
  next hlt =>
    rw [DirectedConversion.lt_iff hfb hfa] at hlt
    rw [DirectedConversion.lt_iff hfb hfm, not_lt]
    exact ⟨fun h => ⟨h.trans hlt.le, h⟩, fun h => h.2⟩
  next hnlt =>
    rw [DirectedConversion.lt_iff hfb hfa, not_lt] at hnlt
    rw [DirectedConversion.lt_iff hfa hfm, not_lt]
    exact ⟨fun h => ⟨h, h.trans hnlt⟩, fun h => h.1⟩

end CapitalBudget

/-- One set of limits is nowhere above another, and has its floor. -/
structure LiveRiskLimitsFields.Below {F : Type} [PyFloat F] (l l' : LiveRiskLimitsFields F) :
    Prop where
  per_trade_fraction : l.perTradeRiskFraction ≤ l'.perTradeRiskFraction
  aggregate_fraction : l.aggregateOpenRiskFraction ≤ l'.aggregateOpenRiskFraction
  per_trade : l.perTradeDollarCapUsd ≤ l'.perTradeDollarCapUsd
  aggregate : l.aggregateDollarCapUsd ≤ l'.aggregateDollarCapUsd
  daily : l.dailyLossCapUsd ≤ l'.dailyLossCapUsd
  max_equity : l.maxAccountEquityUsd ≤ l'.maxAccountEquityUsd
  position : l.maxPositionNotionalUsd ≤ l'.maxPositionNotionalUsd
  floor : l'.minNotionalUsd = l.minNotionalUsd

namespace CapitalBudget

variable {F : Type} [PyFloat F] [Spelling F Rat]

section Grows

variable [DirectedConversion F]

theorem spell_mono {x y : F} (hx : isPositive x = true) (hy : isPositive y = true) (h : x ≤ y) :
    (Spelling.spell x : Rat) ≤ Spelling.spell y :=
  (DirectedConversion.le_iff (isPositive_float_iff.mp hx).1 (isPositive_float_iff.mp hy).1).mp h

theorem float_le_refl {x : F} (hx : isPositive x = true) : x ≤ x :=
  (DirectedConversion.le_iff (isPositive_float_iff.mp hx).1 (isPositive_float_iff.mp hx).1).mpr
    (le_refl _)

/-- Coherent limits stay so with other positive caps, when the two that bound
the notional are no lower. -/
theorem coherent_grow {l : LiveRiskLimitsFields F} (h : l.Coherent)
    {perTrade aggregate daily position : F} (hperTrade : isPositive perTrade = true)
    (haggregate : isPositive aggregate = true) (hdaily : isPositive daily = true)
    (hposition : isPositive position = true) (haggregateLe : l.aggregateDollarCapUsd ≤ aggregate)
    (hpositionLe : l.maxPositionNotionalUsd ≤ position) :
    { l with
      perTradeDollarCapUsd := perTrade, aggregateDollarCapUsd := aggregate
      dailyLossCapUsd := daily, maxPositionNotionalUsd := position }.Coherent := by
  have hpositive := h.positive
  have hfloor := (not_min_lt_iff hpositive.aggregate hpositive.position hpositive.floor).mp h.floor
  constructor
  case positive =>
    exact { hpositive with
      per_trade := hperTrade, aggregate := haggregate, daily := hdaily, position := hposition }
  case per_trade => exact h.per_trade
  case aggregate => exact h.aggregate
  case leverage => exact h.leverage
  case floor =>
    show ¬PyFloat.min aggregate [position] < l.minNotionalUsd
    rw [not_min_lt_iff haggregate hposition hpositive.floor]
    exact ⟨hfloor.1.trans (spell_mono hpositive.aggregate haggregate haggregateLe),
      hfloor.2.trans (spell_mono hpositive.position hposition hpositionLe)⟩

/-- **The limits grow with the figures**: more equity converts as well, to
limits that are coherent too and nowhere below. -/
theorem Converted.grows {limits proposed : LiveRiskLimitsV1 F}
    {policy : CapitalBudgetPolicyV1} {minimums : List VenueMinimumNotionalV1}
    {equity equity' : Rat} (he : 0 < equity) (hle : equity ≤ equity')
    (haffordable : Affordable limits policy (computed equity limits policy minimums))
    (h : Converted policy (computed equity limits policy minimums)
      proposed.toLiveRiskLimitsFields) :
    ∃ proposed' : LiveRiskLimitsV1 F,
      Converted policy (computed equity' limits policy minimums)
        proposed'.toLiveRiskLimitsFields ∧
      proposed.toLiveRiskLimitsFields.Below proposed'.toLiveRiskLimitsFields := by
  have hcurrent := limits.coherent.positive
  have hproposed := proposed.coherent.positive
  have hgrown := computed_mono limits policy minimums he hle
  have he' := lt_of_lt_of_le he hle
  obtain ⟨perTrade, hperTrade, hperTradeLe, hperTradePos⟩ := lowerFloat_of_between
    hcurrent.per_trade haffordable.per_trade.le hgrown.per_trade
    (perTradeCap_le limits policy minimums he').1 hproposed.per_trade h.per_trade
  obtain ⟨daily, hdaily, hdailyLe, hdailyPos⟩ := lowerFloat_of_between
    hcurrent.daily haffordable.daily.le hgrown.daily
    (dailyCap_le limits policy minimums he').1 hproposed.daily h.daily
  obtain ⟨aggregate, haggregate, haggregateLe, haggregatePos⟩ := lowerFloat_of_between
    hcurrent.aggregate (aggregateCap_nonneg limits policy minimums he) hgrown.aggregate
    (aggregateCap_le limits policy minimums he').2 hproposed.aggregate h.aggregate
  obtain ⟨position, hposition, hpositionLe, hpositionPos⟩ := lowerFloat_of_between
    hcurrent.position haffordable.total.le hgrown.total
    (totalCap_le limits policy minimums he').2 hproposed.position h.position
  have hcoherent := coherent_grow proposed.coherent hperTradePos haggregatePos hdailyPos
    hpositionPos haggregateLe hpositionLe
  refine ⟨⟨_, LiveRiskLimitsFields.check_ok_iff.mpr hcoherent⟩, ?_, ?_⟩
  · exact ⟨h.per_trade_fraction, h.aggregate_fraction, h.leverage, hperTrade, haggregate, hdaily,
      h.equity, hposition, h.floor⟩
  · exact ⟨float_le_refl hproposed.per_trade_fraction, float_le_refl hproposed.aggregate_fraction,
      hperTradeLe, haggregateLe, hdailyLe, float_le_refl hproposed.max_equity, hpositionLe, rfl⟩

end Grows

/-! ## The evidence -/

/-- What the call checks of the evidence beyond what a verified account says of itself. -/
structure Evidenced {core : CapitalCore F} (v : Revalidated core) (nowMs : Int) : Prop where
  limits : v.scope.riskLimitsSha256 = v.limits.limitsSha256 core.toLiveCore
  scope : v.account.scopeSha256 = v.scope.scopeSha256
  account : v.account.account.accountId = v.scope.accountId
  not_future : v.account.asOfMs ≤ nowMs
  fresh : nowMs - v.account.asOfMs ≤ maxAccountAgeMs

theorem checkEvidence_ok_iff {core : CapitalCore F} {v : Revalidated core} {nowMs : Int} :
    checkEvidence core v nowMs = .ok () ↔ Evidenced v nowMs := by
  have hcomplete := v.account.complete
  unfold checkEvidence
  constructor
  · intro h
    obtain ⟨hlimits, h⟩ := ok_of_raiseIf_ne h
    obtain ⟨hscope, h⟩ := ok_of_raiseIf_ne h
    obtain ⟨haccount, h⟩ := ok_of_raiseIf_ne h
    obtain ⟨_, h⟩ := ok_of_raiseIf h
    obtain ⟨_, h⟩ := ok_of_raiseIf h
    obtain ⟨_, h⟩ := ok_of_raiseIf h
    have hage := raiseIf_ok h
    rw [Bool.or_eq_false_iff, decide_eq_false_iff_not, decide_eq_false_iff_not] at hage
    exact ⟨hlimits, hscope, haccount, not_lt.mp hage.1, not_lt.mp hage.2⟩
  · intro h
    have hsequence := hcomplete.sequence
    rw [raiseIf_ne_bind h.limits, raiseIf_ne_bind h.scope]
    dsimp only
    rw [raiseIf_ne_bind h.account, raiseIf_bind (by simp [hcomplete.reconciled, hsequence]),
      raiseIf_bind (by simp [hcomplete.live, hcomplete.prod]),
      raiseIf_ne_bind hcomplete.captured.symm]
    have hfuture := not_lt.mpr h.not_future
    have hfresh := not_lt.mpr h.fresh
    simp [raiseIf, hfuture, hfresh]

/-- Two accounts' facts are the same evidence: of one account, time and scope.
What they differ in is the equity and what goes with it. -/
structure SameEvidence (facts facts' : LiveAccountFacts F) : Prop where
  scope : facts'.scopeSha256 = facts.scopeSha256
  account : facts'.account.accountId = facts.account.accountId
  asOf : facts'.asOfMs = facts.asOfMs

end CapitalBudget

variable {F : Type} [PyFloat F] [Spelling F Rat] [DirectedConversion F]

/-- **Proposals grow with the equity, up to the recorded ceiling.** Where a call
proposes limits, the call with the facts of a verified account of no less
equity does so too, with limits nowhere below and the same floor; and once the
smaller equity has reached the current ceiling, with the same limits. -/
theorem proposal_grows {core : CapitalCore F} {x : CapitalBudgetCall F}
    (facts : LiveAccountFacts F) {r : CapitalBudgetProposalV1 F}
    (hsame : SameEvidence x.verifiedAccount facts)
    (hverified : facts.check Rat core.toLiveCore = .ok ())
    (hfinite : PyFloat.isFinite facts.account.equityUsd = true)
    (hle : x.verifiedAccount.account.equityUsd ≤ facts.account.equityUsd)
    (h : proposeCapitalBudget core x = .ok r) :
    ∃ r' : CapitalBudgetProposalV1 F,
      proposeCapitalBudget core { x with verifiedAccount := facts } = .ok r' ∧
      r.proposedLimits.toLiveRiskLimitsFields.Below r'.proposedLimits.toLiveRiskLimitsFields ∧
      (x.currentLimits.maxAccountEquityUsd ≤ x.verifiedAccount.account.equityUsd →
        r'.proposedLimits = r.proposedLimits) := by
  obtain ⟨v, b, proposed, hnow, hv, hevidence, hcoverage, hb, hproposed, rfl⟩ :=
    proposeCapitalBudget_ok_iff.mp h
  obtain ⟨rfl, haffordable⟩ := figures_ok_iff.mp hb
  obtain ⟨hfiniteEquity, hequity⟩ := decimal_float_ok hv.equity
  have hpos := v.equity.property.2 rfl
  have hgrows : v.equity.val ≤ Spelling.spell facts.account.equityUsd := by
    rw [hequity]
    exact (DirectedConversion.le_iff hfiniteEquity hfinite).mp hle
  have hpos' := lt_of_lt_of_le hpos hgrows
  -- the same inputs, with the other account
  let v' : Revalidated core :=
    { v with
      equity := ⟨Spelling.spell facts.account.equityUsd, hpos'.le, fun _ => hpos'⟩
      account := ⟨facts, hverified⟩ }
  have hv' : Revalidates core { x with verifiedAccount := facts } v' :=
    ⟨decimal_of_spell_pos hfinite hpos' _, rfl, hv.scope, hv.limits, hv.policy, hv.some_minimum,
      hv.minimums⟩
  rw [← hv.account] at hsame
  have hevidenced := checkEvidence_ok_iff.mp hevidence
  have hevidence' : checkEvidence core v' x.nowMs = .ok () := by
    apply checkEvidence_ok_iff.mpr
    have hasOf : v'.account.asOfMs = v.account.asOfMs := hsame.asOf
    refine ⟨hevidenced.limits, hsame.scope.trans hevidenced.scope,
      hsame.account.trans hevidenced.account, ?_, ?_⟩
    · rw [hasOf]
      exact hevidenced.not_future
    · rw [hasOf]
      exact hevidenced.fresh
  obtain ⟨proposed', hconverted, hbelow⟩ :=
    (proposedLimits_ok_iff.mp hproposed).grows hpos hgrows haffordable
  have hb' := figures_ok_iff.mpr ⟨rfl, haffordable.mono
    (computed_mono v.limits v.policy v.minimums hpos hgrows)⟩
  have hproposed' := proposedLimits_ok_iff.mpr hconverted
  refine ⟨report core v' _ proposed', proposeCapitalBudget_ok_iff.mpr ⟨v', _, proposed', hnow, hv',
    hevidence', hcoverage, hb', hproposed', rfl⟩, hbelow, ?_⟩
  intro hceiling
  have hfiniteCeiling : PyFloat.isFinite v.limits.maxAccountEquityUsd = true :=
    (isPositive_float_iff.mp v.limits.coherent.positive.max_equity).1
  rw [← hv.limits, DirectedConversion.le_iff hfiniteCeiling hfiniteEquity, ← hequity] at hceiling
  rw [computed_saturates v.limits v.policy v.minimums hceiling (hceiling.trans hgrows),
    hproposed] at hproposed'
  exact (Except.ok.inj hproposed').symm

namespace Scenario

/-- A balance of 25000 gets no less than one of 8000, and one of 30000 the same
as it: the recorded ceiling is at 20000. -/
theorem growth_ends_at_the_ceiling :
    ∃ r r' : CapitalBudgetProposalV1 Rat,
      proposeCapitalBudget capitalCore (capitalCall 25000) = .ok r ∧
      proposeCapitalBudget capitalCore (capitalCall 30000) = .ok r' ∧
      eightThousand.proposedLimits.toLiveRiskLimitsFields.Below
        r.proposedLimits.toLiveRiskLimitsFields ∧
      r'.proposedLimits = r.proposedLimits := by
  obtain ⟨r, hr, hbelow, -⟩ := proposal_grows (capitalFacts 25000) ⟨rfl, rfl, rfl⟩
    (by decide +kernel) rfl (by decide +kernel) eightThousand_returned
  obtain ⟨r', hr', -, hceiling⟩ := proposal_grows (capitalFacts 30000) ⟨rfl, rfl, rfl⟩
    (by decide +kernel) rfl (by decide +kernel) hr
  exact ⟨r, r', hr, hr', hbelow, hceiling (by decide +kernel)⟩

end Scenario

end KairosRisk
