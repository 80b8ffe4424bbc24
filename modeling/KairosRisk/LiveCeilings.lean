import KairosRisk.LiveProvenance

/-!
# LIVE hard ceilings

Over exact decimals and a lawful spelling of floats, an approved LIVE decision
keeps every ceiling in the decimal spelling of its own figures. The loss budget
is a minimum converted downward (`lossBudget_le`); a quantity leaves the
correction loop only through a pass that broke no bound (`correct_ok`), and
that pass compared the emitted spellings themselves (`attempt_ok`). A ceiling
of the form `max(0, x)` is `x`, because something positive fits under it.
-/

namespace KairosRisk

open PyLib PaperRiskPipeline

variable {F E : Type} [PyFloat F] [Spelling F Rat] {core : LiveCore F}

/-! ## Directed conversion -/

section Conversion

variable [LawfulSpelling F] {value : Rat} {x : F}

theorem floatBelow_le (h : PyFloat.isFinite (Spelling.toFloat value : F) = true) :
    Spelling.spell (floatBelow value : F) ≤ value := by
  rw [floatBelow]
  split
  next => exact LawfulSpelling.below value h
  next hle => exact Rat.not_lt.mp (by simpa using hle)

theorem le_floatAbove (h : PyFloat.isFinite (Spelling.toFloat value : F) = true) :
    value ≤ Spelling.spell (floatAbove value : F) := by
  rw [floatAbove]
  split
  next => exact LawfulSpelling.above value h
  next hle => exact Rat.not_lt.mp (by simpa using hle)

/-- What was converted downward is zero, or positive and within the value. -/
theorem lowerFloat_ok (h : lowerFloat value = .ok x) :
    x = PyFloat.lit 0 ∨ PyFloat.lt (PyFloat.lit 0) x ∧ Spelling.spell x ≤ value := by
  unfold lowerFloat at h
  split at h
  next hfinite =>
    cases h
    rw [PyFloat.max, List.foldl_cons, List.foldl_nil]
    split
    next hpositive => exact Or.inr ⟨hpositive, floatBelow_le hfinite⟩
    next => exact Or.inl rfl
  next => cases h

/-- What was converted upward covers the value. -/
theorem upperFloat_ok (h : upperFloat value = .ok x) : value ≤ Spelling.spell x := by
  unfold upperFloat at h
  split at h
  next hfinite =>
    cases h
    exact le_floatAbove hfinite
  next => cases h

/-- A positive spelling converted downward is within the value. -/
theorem lowerFloat_le (h : lowerFloat value = .ok x) (hpos : (0 : Rat) < Spelling.spell x) :
    Spelling.spell x ≤ value := by
  rcases lowerFloat_ok h with rfl | ⟨_, hle⟩
  · rw [LawfulSpelling.spell_zero] at hpos
    exact absurd hpos (Rat.not_lt.mpr Rat.le_refl)
  · exact hle

end Conversion

namespace LiveRiskEvaluator

/-! ## The ceilings -/

/-- The ceilings of the loss budget. -/
def riskCeilings (e : LiveRiskEvaluator F Rat E core) (v : VerifiedLiveAccountV1 F Rat core) :
    List Rat :=
  let d : F → Rat := Spelling.spell
  let equity := d v.account.equityUsd
  let openRisk := d v.aggregateOpenRiskUsd
  let reserved := d v.reservedOpenRiskUsd
  [equity * d e.limits.perTradeRiskFraction,
    d e.limits.perTradeDollarCapUsd,
    equity * d e.limits.aggregateOpenRiskFraction - openRisk - reserved,
    d e.limits.dailyLossCapUsd - d v.dailyAdverseLossUsd - openRisk - reserved]

/-- The ceilings of the notional, for the strategy's weight. -/
def notionalCeilings (e : LiveRiskEvaluator F Rat E core) (x : LiveInputs F E)
    (allocation : StrategicAllocation F) (v : VerifiedLiveAccountV1 F Rat core) (weight : F) :
    List Rat :=
  let d : F → Rat := Spelling.spell
  let equity := d v.account.equityUsd
  let openNotional := d v.aggregateOpenNotionalUsd
  let reserved := d v.reservedOpenNotionalUsd
  [d e.limits.maxPositionNotionalUsd,
    d e.limits.aggregateDollarCapUsd - openNotional - reserved,
    d x.venue.assessedNotionalUsd,
    d x.venue.depthUsd,
    d v.account.availableBalanceUsd - reserved,
    equity * (1 - d allocation.stableReservePct) * PyDecimal.min 1 [d allocation.maxGrossLeverage]
      - openNotional - reserved,
    equity * d weight - d v.strategyOpenNotionalUsd - d v.strategyReservedNotionalUsd]

/-- The emitted figures, as they are spelled, keep every ceiling. -/
structure WithinCeilings (e : LiveRiskEvaluator F Rat E core) (x : LiveInputs F E)
    (allocation : StrategicAllocation F) (v : VerifiedLiveAccountV1 F Rat core) (weight : F)
    (d : RiskTradeDecisionV1 F) : Prop where
  quantity : PyFloat.lt (PyFloat.lit 0) d.quantity
  leverage : d.leverage = PyFloat.lit 1
  entry : d.worstEntryPrice = worstEntry x.review.intent x.venue
  loss : (Spelling.spell d.worstCaseLossUsd : Rat) ≤ Spelling.spell d.lossBudgetUsd
  budget : ∀ ceiling ∈ e.riskCeilings v, Spelling.spell d.lossBudgetUsd ≤ ceiling
  notional : ∀ ceiling ∈ e.notionalCeilings x allocation v weight,
    Spelling.spell d.notionalUsd ≤ ceiling ∧
    Spelling.spell d.quantity * Spelling.spell d.worstEntryPrice ≤ ceiling
  cover : Spelling.spell d.quantity
      * (Spelling.spell d.worstEntryPrice - Spelling.spell d.exitPlan.stopPrice : Rat).abs
      + Spelling.spell d.estimatedFeesUsd + Spelling.spell d.estimatedSlippageUsd
    ≤ (Spelling.spell d.worstCaseLossUsd : Rat)

/-! ## The loss budget -/

variable {e : LiveRiskEvaluator F Rat E core} {x : LiveInputs F E}
  {v : VerifiedLiveAccountV1 F Rat core}

/-- A positive figure within a remaining room is within the difference itself. -/
theorem le_of_le_remaining {y cap taken reserved : Rat} (hy : 0 < y)
    (h : y ≤ remaining cap taken reserved) : y ≤ cap - taken - reserved :=
  PyDecimal.le_of_le_max_zero hy h

/-- **A positive loss budget** keeps every risk ceiling. -/
theorem lossBudget_le [LawfulSpelling F] {budget : F} (h : e.lossBudget v = .ok budget)
    (hpos : (0 : Rat) < Spelling.spell budget) :
    ∀ ceiling ∈ e.riskCeilings v, Spelling.spell budget ≤ ceiling := by
  have hmin := lowerFloat_le h hpos
  have hle : ∀ {y : Rat}, y ∈ _ :: _ → Spelling.spell budget ≤ y :=
    fun hy => Rat.le_trans hmin (PyDecimal.min_le _ _ hy)
  intro ceiling hceiling
  simp only [riskCeilings, List.mem_cons, List.not_mem_nil, or_false] at hceiling
  rcases hceiling with rfl | rfl | rfl | rfl
  · exact hle (by simp)
  · exact hle (by simp)
  · exact le_of_le_remaining hpos (hle (by simp))
  · exact le_of_le_remaining hpos (hle (by simp))

/-! ## One size -/

section Sizing

variable {c : UnitCosts Rat} {budget cap exact : Rat} {sizing : LiveSizing F}
  {rules : Option (VerifiedLiveInstrumentRulesV1 Rat core)}

/-- The decimal economics of a quantity: what the correction loop compares. -/
theorem economics_notional {priced : DecimalEconomics Rat} (h : c.economics exact = .ok priced) :
    priced.notional = exact * c.entry := by
  unfold UnitCosts.economics at h
  cases h
  rfl

/-- What a pass of the correction loop leaves when it breaks no bound. -/
structure Fits (c : UnitCosts Rat) (budget cap exact : Rat) (sizing : LiveSizing F) : Prop where
  quantity : lowerFloat exact = .ok sizing.quantity
  exactNotional : exact * c.entry ≤ cap
  loss : Spelling.spell sizing.worstLoss ≤ budget
  notional : Spelling.spell sizing.notional ≤ cap
  displayed : Spelling.spell sizing.quantity * c.entry ≤ cap
  cover : Spelling.spell sizing.quantity * (c.entry - c.stop).abs
      + Spelling.spell sizing.fees + Spelling.spell sizing.slippage
    ≤ Spelling.spell sizing.worstLoss

/-- **A pass without a violation** compared the emitted spellings themselves. -/
theorem attempt_ok [LawfulSpelling F] (h : attempt c budget cap rules exact = .ok (sizing, false)) :
    Fits c budget cap exact sizing := by
  unfold attempt at h
  obtain ⟨priced, hpriced, h⟩ := ok_of_bind h
  obtain ⟨quantity, hquantity, h⟩ := ok_of_bind h
  obtain ⟨_, _, h⟩ := ok_of_bind h
  obtain ⟨_, ⟨⟩, h⟩ := ok_of_bind h
  obtain ⟨_, ⟨⟩, h⟩ := ok_of_bind h
  obtain ⟨notional, _, h⟩ := ok_of_bind h
  obtain ⟨fees, _, h⟩ := ok_of_bind h
  obtain ⟨slippage, _, h⟩ := ok_of_bind h
  obtain ⟨worstLoss, hworst, h⟩ := ok_of_bind h
  obtain ⟨rfl, hviolates⟩ := Prod.mk.inj (Except.ok.inj h)
  simp only [PyDecimal.rat_lt, Bool.or_eq_false_iff, decide_eq_false_iff_not, Rat.not_lt]
    at hviolates
  obtain ⟨⟨⟨⟨_, hloss⟩, hexact⟩, hnotional⟩, hshown⟩ := hviolates
  rw [economics_notional hpriced] at hexact
  refine ⟨hquantity, hexact, hloss, hnotional, hshown, ?_⟩
  exact Rat.le_trans (PyDecimal.le_max_right _ _) (upperFloat_ok hworst)

/-- **The correction loop** ends with no position or with a pass that broke no bound. -/
theorem correct_ok : ∀ (corrections : Nat) {exact : Rat},
    correct c budget cap rules corrections exact = .ok sizing →
    sizing = LiveSizing.zero ∨
      ∃ exact, 0 < exact ∧ attempt c budget cap rules exact = .ok (sizing, false)
  | 0, _, h => Or.inl (Except.ok.inj h).symm
  | corrections + 1, exact, h => by
    rw [correct] at h
    split at h
    next => exact Or.inl (Except.ok.inj h).symm
    next hpositive =>
      obtain ⟨⟨attempted, violates⟩, hattempt, h⟩ := ok_of_bind h
      cases violates with
      | true => exact correct_ok corrections h
      | false =>
        cases h
        refine Or.inr ⟨exact, ?_, hattempt⟩
        simpa [decimalLe] using hpositive

omit [PyFloat F] in
theorem unitCosts_ok {intent : StrategyIntentV1 F} {venue : VenueQualityV1 F} {worstEntry : F}
    (h : unitCosts intent venue worstEntry = .ok c) :
    c.entry = Spelling.spell worstEntry ∧ c.stop = Spelling.spell intent.exitPlan.stopPrice := by
  unfold unitCosts at h
  obtain ⟨_, _, h⟩ := ok_of_bind h
  obtain ⟨_, _, h⟩ := ok_of_bind h
  obtain ⟨_, _, h⟩ := ok_of_bind h
  obtain ⟨_, _, h⟩ := ok_of_bind h
  cases h
  exact ⟨rfl, rfl⟩

omit [PyFloat F] [Spelling F Rat] in
theorem strategyWeight_ok {allocation : StrategicAllocation F} {strategyId : String} {weight : F}
    (h : strategyWeight allocation strategyId = .ok weight) :
    allocation.strategyWeights.lookup strategyId = some weight := by
  unfold strategyWeight at h
  split at h
  next => cases h
  next w hw =>
    cases h
    exact hw

omit [PyFloat F] [Spelling F Rat] in
/-- The instrument's own cap only lowers a cap. -/
theorem withInstrumentCap_le {y : Rat} (h : cap ≤ y) : withInstrumentCap rules cap ≤ y := by
  unfold withInstrumentCap
  split
  next => exact h
  next => exact Rat.le_trans (PyDecimal.min_le _ _ List.mem_cons_self) h

/-- **A positive notional cap** keeps every notional ceiling. -/
theorem notionalCap_le {allocation : StrategicAllocation F}
    (h : e.notionalCap x allocation v rules = .ok cap) (hcap : 0 < cap) :
    ∃ weight, allocation.strategyWeights.lookup x.review.intent.strategyId = some weight ∧
      ∀ ceiling ∈ e.notionalCeilings x allocation v weight, cap ≤ ceiling := by
  unfold notionalCap at h
  obtain ⟨_, ⟨⟩, h⟩ := ok_of_bind h
  obtain ⟨_, ⟨⟩, h⟩ := ok_of_bind h
  obtain ⟨weight, hweight, h⟩ := ok_of_bind h
  obtain ⟨_, ⟨⟩, h⟩ := ok_of_bind h
  refine ⟨weight, strategyWeight_ok hweight, ?_⟩
  cases h
  intro ceiling hceiling
  simp only [notionalCeilings, List.mem_cons, List.not_mem_nil, or_false] at hceiling
  rcases hceiling with rfl | rfl | rfl | rfl | rfl | rfl | rfl
  · exact withInstrumentCap_le (PyDecimal.min_le _ _ (by simp))
  · exact le_of_le_remaining hcap (withInstrumentCap_le (PyDecimal.min_le _ _ (by simp)))
  · exact withInstrumentCap_le (PyDecimal.min_le _ _ (by simp))
  · exact withInstrumentCap_le (PyDecimal.min_le _ _ (by simp))
  · exact PyDecimal.le_of_le_max_zero hcap
      (withInstrumentCap_le (PyDecimal.min_le _ _ (by simp)))
  · exact le_of_le_remaining hcap (withInstrumentCap_le (PyDecimal.min_le _ _ (by simp)))
  · exact le_of_le_remaining hcap (withInstrumentCap_le (PyDecimal.min_le _ _ (by simp)))

/-- **A size that is a position** left the loop under a positive budget and the notional cap. -/
theorem size_ok [LawfulSpelling F] {allocation : StrategicAllocation F} {lossBudget entry : F}
    (h : e.size x allocation v lossBudget entry rules = .ok sizing)
    (hquantity : ¬sizing.quantity ≤ PyFloat.lit 0) :
    ∃ (c : UnitCosts Rat) (cap exact : Rat),
      unitCosts x.review.intent x.venue entry = .ok c ∧ (0 : Rat) < Spelling.spell lossBudget ∧
      e.notionalCap x allocation v rules = .ok cap ∧ 0 < exact ∧
      attempt c (Spelling.spell lossBudget) cap rules exact = .ok (sizing, false) := by
  have hposition : sizing ≠ LiveSizing.zero := by
    rintro rfl
    exact hquantity (LawfulSpelling.zero_le_zero)
  unfold size at h
  obtain ⟨c, hc, h⟩ := ok_of_bind h
  dsimp only at h
  split at h
  next => exact absurd (Except.ok.inj h).symm hposition
  next hpositive =>
    obtain ⟨cap, hcap, h⟩ := ok_of_bind h
    obtain ⟨start, _, h⟩ := ok_of_bind h
    rcases correct_ok 3 h with hzero | ⟨exact, hexact, hattempt⟩
    · exact absurd hzero hposition
    · rw [Bool.not_eq_true, Bool.or_eq_false_iff] at hpositive
      refine ⟨c, cap, exact, hc, ?_, hcap, hexact, hattempt⟩
      simpa [decimalLe] using hpositive.2

end Sizing

/-! ## The decision -/

section Decision

variable {D : Type} [PyDecimal D] [Spelling F D] {e : LiveRiskEvaluator F D E core}
  {rules : Option (VerifiedLiveInstrumentRulesV1 D core)}

omit [PyFloat F] [Spelling F Rat] in
theorem instrumentEntry_ok {intent : StrategyIntentV1 F} {entry entry' : F}
    {rules : VerifiedLiveInstrumentRulesV1 D core}
    (h : instrumentEntry intent entry rules = .ok entry') : entry' = entry := by
  unfold instrumentEntry at h
  obtain ⟨_, _, h⟩ := ok_of_bind h
  obtain ⟨_, _, h⟩ := ok_of_bind h
  obtain ⟨_, _, h⟩ := ok_of_bind h
  obtain ⟨_, h⟩ := ok_of_raiseIf h
  obtain ⟨_, h⟩ := ok_of_raiseIf h
  exact (Except.ok.inj h).symm

omit [PyFloat F] [Spelling F Rat] in
/-- The entry price is the book's, whatever the instrument's rules say. -/
theorem entryStage_ok {entry : F} {reasons : List String}
    (h : entryStage x rules = .ok (entry, reasons)) :
    entry = worstEntry x.review.intent x.venue := by
  unfold entryStage at h
  split at h
  next =>
    cases h
    rfl
  next =>
    dsimp only at h
    split at h
    next entry' hentry =>
      cases h
      exact instrumentEntry_ok hentry
    next =>
      split at h
      next =>
        cases h
        rfl
      next => cases h

omit [Spelling F Rat] [PyDecimal D] [Spelling F D] in
/-- The venue measurement of a call that went through is valid. -/
theorem checkCall_venue (h : e.checkCall x = .ok ()) : core.venueValid x.venue = true := by
  unfold checkCall at h
  obtain ⟨_, h⟩ := ok_of_raiseIf h
  obtain ⟨_, h⟩ := ok_of_raiseIf h
  obtain ⟨hvenue, _⟩ := ok_of_raiseIf h
  simpa using hvenue

omit [Spelling F Rat] [PyDecimal D] [Spelling F D] in
/-- Gates that passed over an allocation found it valid. -/
theorem allocationReasons_valid {allocation : StrategicAllocation F}
    (h : e.allocationReasons x allocation = []) : allocationError allocation = none := by
  simp only [allocationReasons, List.append_eq_nil_iff, reasonIf_eq_nil] at h
  simpa using h.1.1.1.1

/-- What an approval emits: the figures of a size at the book's entry, computed
for a verified account and the allocation of the call. -/
structure Emits (e : LiveRiskEvaluator F D E core) (x : LiveInputs F E)
    (v : VerifiedLiveAccountV1 F D core) (allocation : StrategicAllocation F) (lossBudget : F)
    (sizing : LiveSizing F) (d : RiskTradeDecisionV1 F) : Prop where
  verified : (e.verifiedAccount x).1 = some v
  allocated : x.allocation = some allocation
  budgeted : e.lossBudget v = .ok lossBudget
  sized : ∃ rules, e.size x allocation v lossBudget (worstEntry x.review.intent x.venue) rules
    = .ok sizing
  position : ¬sizing.quantity ≤ PyFloat.lit 0
  quantity : d.quantity = sizing.quantity
  leverage : d.leverage = PyFloat.lit 1
  notional : d.notionalUsd = sizing.notional
  budget : d.lossBudgetUsd = lossBudget
  worstLoss : d.worstCaseLossUsd = sizing.worstLoss
  entry : d.worstEntryPrice = worstEntry x.review.intent x.venue
  fees : d.estimatedFeesUsd = sizing.fees
  slippage : d.estimatedSlippageUsd = sizing.slippage
  exitPlan : d.exitPlan = x.review.intent.exitPlan

/-- The size went, without an objection, through the instrument rules in force. -/
structure SizedUnder (e : LiveRiskEvaluator F D E core) (x : LiveInputs F E)
    (v : VerifiedLiveAccountV1 F D core) (allocation : StrategicAllocation F) (lossBudget : F)
    (sizing : LiveSizing F) (rules : Option (VerifiedLiveInstrumentRulesV1 D core)) : Prop where
  entry : entryStage x rules = .ok (worstEntry x.review.intent x.venue, [])
  sized : e.size x allocation v lossBudget (worstEntry x.review.intent x.venue) rules = .ok sizing
  capacity : e.capacityReasons sizing (worstEntry x.review.intent x.venue) rules = .ok []

omit [Spelling F Rat] in
/-- **An approval** emits what was sized under the rules of the verified inputs. -/
theorem evaluate_emits [DecidableEq F] {r : LiveRiskEvaluationV1 F D core}
    (h : e.evaluate x = .ok r) (happroved : r.decision.approved = true) :
    ∃ v allocation lossBudget sizing, e.Emits x v allocation lossBudget sizing r.decision ∧
      e.SizedUnder x v allocation lossBudget sizing
        ((e.verifiedInputs x).1.bind (·.instrumentRules)) := by
  obtain ⟨_, a, c, hadmission, hcapital, _, hfields⟩ := evaluate_ok h
  have hempty : c.reasons.isEmpty = true := by
    rw [hfields] at happroved
    exact happroved
  have hnil : c.reasons = [] := List.isEmpty_iff.mp hempty
  obtain ⟨hinputs, hrules, haccount, entryReasons, hentry, hreasons⟩ := admission_ok hadmission
  have hgates := capital_reasons hcapital hnil
  rw [hreasons] at hgates
  simp only [List.append_eq_nil_iff] at hgates
  obtain ⟨v, allocation, hv, hallocation, _, _, hagainst⟩ := admissionGates_eq_nil hgates.1.2
  have hbook := entryStage_ok hentry
  rw [hv, hbook] at hcapital
  rw [hbook, hgates.2] at hentry
  obtain ⟨hbudget, hsize, hposition, hcapacity⟩ :=
    capital_sized hallocation (allocationReasons_valid hagainst) hcapital hnil
  rw [← hinputs, ← hrules]
  refine ⟨v, allocation, c.lossBudget, c.sizing, ⟨haccount.symm.trans hv, hallocation, hbudget,
    ⟨a.rules, hsize⟩, hposition, ?_, ?_, ?_, ?_, ?_, ?_, ?_, ?_, ?_⟩, hentry, hsize, hcapacity⟩
  all_goals rw [hfields, decisionFields, hempty]
  case refine_6 => exact hbook
  all_goals rfl

end Decision

/-- **LIVE hard ceilings.** Where valid venue measurements have positive prices,
an approved decision keeps every ceiling of its limits and its verified account
in the decimal spelling of its figures, with no tolerance. -/
theorem hard_ceilings [DecidableEq F] [LawfulSpelling F]
    (hprices : ∀ venue : VenueQualityV1 F, core.venueValid venue = true →
      PyFloat.lt (PyFloat.lit 0) venue.bestBid ∧ PyFloat.lt (PyFloat.lit 0) venue.bestAsk)
    {r : LiveRiskEvaluationV1 F Rat core} (h : e.evaluate x = .ok r)
    (happroved : r.decision.approved = true) :
    ∃ v allocation weight, (e.AccountVouched x v ∧ e.AccountBound x v) ∧
      x.allocation = some allocation ∧
      allocation.strategyWeights.lookup x.review.intent.strategyId = some weight ∧
      e.WithinCeilings x allocation v weight r.decision := by
  obtain ⟨v, allocation, lossBudget, sizing, hemits, _⟩ := evaluate_emits h happroved
  obtain ⟨rules, hsize⟩ := hemits.sized
  obtain ⟨costs, cap, exact, hcosts, hpos, hcap, hexact, hattempt⟩ := size_ok hsize hemits.position
  have hfits := attempt_ok hattempt
  obtain ⟨hentry, hstop⟩ := unitCosts_ok hcosts
  -- the entry is positive, so the exact notional under the cap makes the cap positive
  have hentryPos : (0 : Rat) < costs.entry := by
    rw [hentry, worstEntry]
    obtain ⟨hbid, hask⟩ := hprices x.venue (checkCall_venue (evaluate_ok h).1)
    split
    · exact LawfulSpelling.spell_pos _ hask
    · exact LawfulSpelling.spell_pos _ hbid
  have hcapPos : 0 < cap :=
    Std.lt_of_lt_of_le (Rat.mul_pos hexact hentryPos) hfits.exactNotional
  obtain ⟨weight, hweight, hceilings⟩ := notionalCap_le hcap hcapPos
  refine ⟨v, allocation, weight, verifiedAccount_eq_some.mp hemits.verified, hemits.allocated,
    hweight, ?_⟩
  constructor
  · rw [hemits.quantity]
    rcases lowerFloat_ok hfits.quantity with hzero | ⟨hpositive, _⟩
    · have hposition := hemits.position
      rw [hzero] at hposition
      exact absurd LawfulSpelling.zero_le_zero hposition
    · exact hpositive
  · exact hemits.leverage
  · exact hemits.entry
  · rw [hemits.worstLoss, hemits.budget]
    exact hfits.loss
  · rw [hemits.budget]
    exact lossBudget_le hemits.budgeted hpos
  · intro ceiling hceiling
    have hwithin := hceilings ceiling hceiling
    rw [hemits.notional, hemits.quantity, hemits.entry, ← hentry]
    exact ⟨Rat.le_trans hfits.notional hwithin, Rat.le_trans hfits.displayed hwithin⟩
  · rw [hemits.quantity, hemits.entry, hemits.exitPlan, hemits.fees, hemits.slippage,
      hemits.worstLoss, ← hentry, ← hstop]
    exact hfits.cover

end LiveRiskEvaluator

namespace Scenario

open LiveRiskEvaluator

/-- The idea's decision keeps every ceiling. -/
theorem liveEvaluation_within :
    ∃ v allocation weight,
      (liveEvaluator.AccountVouched liveCall v ∧ liveEvaluator.AccountBound liveCall v) ∧
      liveCall.allocation = some allocation ∧
      allocation.strategyWeights.lookup liveCall.review.intent.strategyId = some weight ∧
      liveEvaluator.WithinCeilings liveCall allocation v weight liveEvaluation.decision := by
  have hprices : ∀ venue : VenueQualityV1 Rat, liveCore.venueValid venue = true →
      PyFloat.lt (PyFloat.lit 0) venue.bestBid ∧ PyFloat.lt (PyFloat.lit 0) venue.bestAsk := by
    intro venue hvalid
    have hboth := Bool.and_eq_true_iff.mp hvalid
    have hbid : 0 < venue.bestBid := of_decide_eq_true hboth.1
    have hask : 0 < venue.bestAsk := of_decide_eq_true hboth.2
    exact ⟨hbid, hask⟩
  exact hard_ceilings hprices liveEvaluation_returned liveEvaluation_approved

end Scenario

end KairosRisk
