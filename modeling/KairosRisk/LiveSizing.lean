import KairosRisk.Live

/-!
# LIVE sizing, and `evaluate`

Sizing is done in decimals against a loss budget and a notional cap, then
converted to floats that err on the safe side: the quantity down, the costs
up. Where the converted figures break a bound, the quantity gives up one
quantum and the conversion is tried again, three times at most.
-/

namespace KairosRisk

open PyLib PaperRiskPipeline

/-- The figures one unit of quantity is priced with. -/
structure UnitCosts (D : Type) where
  entry : D
  stop : D
  mid : D
  feeRate : D
  slippageRate : D
  lossPerUnit : D

/-- What a quantity costs, in decimals. -/
structure DecimalEconomics (D : Type) where
  notional : D
  fees : D
  slippage : D
  loss : D

section Pricing

variable {F D : Type} [PyDecimal D]

/-- `economics`. -/
def UnitCosts.economics (c : UnitCosts D) (quantity : D) :
    Except PyError (DecimalEconomics D) := do
  let notional ← liftSignal (PyDecimal.mul quantity c.entry)
  let gross ← liftSignal (PyDecimal.mul quantity (PyDecimal.add c.entry c.stop))
  let fees ← liftSignal (PyDecimal.mul gross c.feeRate)
  let atMid ← liftSignal (PyDecimal.mul quantity c.mid)
  let slippage ← liftSignal (PyDecimal.mul atMid c.slippageRate)
  let stopLoss ← liftSignal (PyDecimal.mul quantity (PyDecimal.abs (PyDecimal.sub c.entry c.stop)))
  return ⟨notional, fees, slippage, PyDecimal.add (PyDecimal.add stopLoss fees) slippage⟩

variable [PyFloat F] [Spelling F D]

/-- The unit figures `_size` starts from. -/
def unitCosts (intent : StrategyIntentV1 F) (venue : VenueQualityV1 F) (worstEntry : F) :
    Except PyError (UnitCosts D) := do
  let entry : D := Spelling.spell worstEntry
  let stop : D := Spelling.spell intent.exitPlan.stopPrice
  let mid : D := Spelling.spell venue.venueMidPrice
  let bps : D := PyDecimal.ofInt 10000
  let feeRate ← liftSignal (PyDecimal.div (Spelling.spell venue.takerFeeBps) bps)
  let slippageRate ←
    liftSignal (PyDecimal.div (Spelling.spell (sideSlippageBps intent.side venue)) bps)
  let fees ← liftSignal (PyDecimal.mul (PyDecimal.add entry stop) feeRate)
  let slippage ← liftSignal (PyDecimal.mul mid slippageRate)
  let distance := PyDecimal.abs (PyDecimal.sub entry stop)
  return { entry, stop, mid, feeRate, slippageRate
           lossPerUnit := PyDecimal.add (PyDecimal.add distance fees) slippage }

end Pricing

variable {F D E : Type} [PyFloat F] [PyDecimal D] {core : LiveCore F}

/-- No position. -/
def LiveSizing.zero : LiveSizing F :=
  ⟨PyFloat.lit 0, PyFloat.lit 0, PyFloat.lit 0, PyFloat.lit 0, PyFloat.lit 0⟩

namespace LiveRiskEvaluator

variable [Spelling F D]

/-! ## `_size` -/

/-- `max(Decimal(0), cap - open - reserved)`. -/
def remaining (cap taken reserved : D) : D :=
  PyDecimal.max (PyDecimal.ofInt 0) (PyDecimal.sub (PyDecimal.sub cap taken) reserved)

/-- `allocation.strategy_weights[strategy_id]`. -/
def strategyWeight (allocation : StrategicAllocation F) (strategyId : String) : Except PyError F :=
  match allocation.strategyWeights.lookup strategyId with
  | none => .error (.external "KeyError")
  | some weight => .ok weight

/-- The instrument's own notional cap, where it has one. -/
def withInstrumentCap (rules : Option (VerifiedLiveInstrumentRulesV1 D core)) (cap : D) : D :=
  match rules.bind (·.maxNotionalUsd) with
  | none => cap
  | some instrumentCap => PyDecimal.min cap [instrumentCap]

/-- `notional_cap`. -/
def notionalCap (e : LiveRiskEvaluator F D E core) (x : LiveInputs F E)
    (allocation : StrategicAllocation F) (verified : VerifiedLiveAccountV1 F D core)
    (rules : Option (VerifiedLiveInstrumentRulesV1 D core)) : Except PyError D := do
  let openNotional : D := Spelling.spell verified.aggregateOpenNotionalUsd
  let reserved : D := Spelling.spell verified.reservedOpenNotionalUsd
  let equity : D := Spelling.spell verified.account.equityUsd
  let one : D := PyDecimal.ofInt 1
  let deployable ← liftSignal
    (PyDecimal.mul equity (PyDecimal.sub one (Spelling.spell allocation.stableReservePct)))
  let gross ← liftSignal
    (PyDecimal.mul deployable (PyDecimal.min one [Spelling.spell allocation.maxGrossLeverage]))
  let weight ← strategyWeight allocation x.review.intent.strategyId
  let strategy ← liftSignal (PyDecimal.mul equity (Spelling.spell weight))
  return withInstrumentCap rules
    (PyDecimal.min (Spelling.spell e.limits.maxPositionNotionalUsd)
      [remaining (Spelling.spell e.limits.aggregateDollarCapUsd) openNotional reserved,
        Spelling.spell x.venue.assessedNotionalUsd,
        Spelling.spell x.venue.depthUsd,
        PyDecimal.max (PyDecimal.ofInt 0)
          (PyDecimal.sub (Spelling.spell verified.account.availableBalanceUsd) reserved),
        remaining gross openNotional reserved,
        remaining strategy (Spelling.spell verified.strategyOpenNotionalUsd)
          (Spelling.spell verified.strategyReservedNotionalUsd)])

/-- `quantum`. -/
def quantum (rules : Option (VerifiedLiveInstrumentRulesV1 D core)) : D :=
  match rules with
  | none => quantityQuantum
  | some rules => rules.quantityIncrement

/-- The quantity the correction loop starts from, a whole number of quanta. -/
def startQuantity (c : UnitCosts D) (lossBudget cap : D)
    (rules : Option (VerifiedLiveInstrumentRulesV1 D core)) : Except PyError D := do
  let byLoss ← liftSignal (PyDecimal.div lossBudget c.lossPerUnit)
  let byCap ← liftSignal (PyDecimal.div cap c.entry)
  let unrounded := PyDecimal.min byLoss [byCap]
  let unrounded := match rules with
    | none => unrounded
    | some rules => PyDecimal.min unrounded [rules.maxQuantity]
  let lots ← liftSignal (PyDecimal.div unrounded (quantum rules))
  liftSignal (PyDecimal.mul (PyDecimal.truncate lots) (quantum rules))

/-- A nextafter float is not an instrument lot. -/
def checkLot (rules : Option (VerifiedLiveInstrumentRulesV1 D core)) (displayed exact : D) :
    Except PyError Unit :=
  match rules with
  | none => .ok ()
  | some rules => do
    let unrepresentable := "instrument quantity cannot be represented exactly in Core"
    raiseIf (!PyDecimal.eqv displayed exact) unrepresentable
    let rest ← liftSignal (PyDecimal.rem displayed rules.quantityIncrement)
    raiseIf (!decimalIsZero rest) unrepresentable
    raiseIf (PyDecimal.lt rules.maxQuantity displayed) unrepresentable

/-- One pass of the correction loop: the floats, and whether they break a bound. -/
def attempt (c : UnitCosts D) (lossBudget cap : D)
    (rules : Option (VerifiedLiveInstrumentRulesV1 D core)) (exact : D) :
    Except PyError (LiveSizing F × Bool) := do
  let priced ← c.economics exact
  let quantity : F ← lowerFloat exact
  let displayed : D := Spelling.spell quantity
  checkLot rules displayed exact
  let stopLoss ← liftSignal (PyDecimal.mul displayed (PyDecimal.abs (PyDecimal.sub c.entry c.stop)))
  let displayedNotional ← liftSignal (PyDecimal.mul displayed c.entry)
  let notional : F ← upperFloat (PyDecimal.max priced.notional displayedNotional)
  let fees : F ← upperFloat priced.fees
  let slippage : F ← upperFloat priced.slippage
  let worstLoss : F ← upperFloat
    (PyDecimal.max priced.loss
      (PyDecimal.add (PyDecimal.add stopLoss (Spelling.spell fees)) (Spelling.spell slippage)))
  return (⟨quantity, notional, fees, slippage, worstLoss⟩,
    PyDecimal.lt lossBudget priced.loss || PyDecimal.lt lossBudget (Spelling.spell worstLoss)
      || PyDecimal.lt cap priced.notional || PyDecimal.lt cap (Spelling.spell notional)
      || PyDecimal.lt cap displayedNotional)

/-- `for correction in range(n)`: each pass that breaks a bound gives up one quantum. -/
def correct (c : UnitCosts D) (lossBudget cap : D)
    (rules : Option (VerifiedLiveInstrumentRulesV1 D core)) :
    Nat → D → Except PyError (LiveSizing F)
  | 0, _ => .ok LiveSizing.zero
  | corrections + 1, exact =>
    if decimalLe exact (PyDecimal.ofInt 0) then .ok LiveSizing.zero
    else do
      let (sizing, violates) ← attempt c lossBudget cap rules exact
      if violates then
        correct c lossBudget cap rules corrections (PyDecimal.sub exact (quantum rules))
      else return sizing

/-- `_size`. -/
def size (e : LiveRiskEvaluator F D E core) (x : LiveInputs F E)
    (allocation : StrategicAllocation F) (verified : VerifiedLiveAccountV1 F D core)
    (lossBudget worstEntry : F) (rules : Option (VerifiedLiveInstrumentRulesV1 D core)) :
    Except PyError (LiveSizing F) := do
  let c : UnitCosts D ← unitCosts x.review.intent x.venue worstEntry
  let budget : D := Spelling.spell lossBudget
  if decimalLe c.lossPerUnit (PyDecimal.ofInt 0) || decimalLe budget (PyDecimal.ofInt 0) then
    return LiveSizing.zero
  else
    let cap ← e.notionalCap x allocation verified rules
    let exact ← startQuantity c budget cap rules
    correct c budget cap rules 3 exact

/-! ## The sizing stage -/

/-- `loss_budget`: the least of the risk ceilings, converted downward. -/
def lossBudget (e : LiveRiskEvaluator F D E core) (verified : VerifiedLiveAccountV1 F D core) :
    Except PyError F := do
  let equity : D := Spelling.spell verified.account.equityUsd
  let openRisk : D := Spelling.spell verified.aggregateOpenRiskUsd
  let reserved : D := Spelling.spell verified.reservedOpenRiskUsd
  let afterLosses : D := PyDecimal.sub (Spelling.spell e.limits.dailyLossCapUsd)
    (Spelling.spell verified.dailyAdverseLossUsd)
  let aggregate ←
    liftSignal (PyDecimal.mul equity (Spelling.spell e.limits.aggregateOpenRiskFraction))
  let perTrade ← liftSignal (PyDecimal.mul equity (Spelling.spell e.limits.perTradeRiskFraction))
  lowerFloat
    (PyDecimal.min perTrade
      [Spelling.spell e.limits.perTradeDollarCapUsd, remaining aggregate openRisk reserved,
        remaining afterLosses openRisk reserved])

/-- What a size leaves to say against it: too little for the limits or the instrument. -/
def capacityReasons (e : LiveRiskEvaluator F D E core) (sizing : LiveSizing F) (worstEntry : F)
    (rules : Option (VerifiedLiveInstrumentRulesV1 D core)) : Except PyError (List String) := do
  let belowMinimum := PyDecimal.lt (Spelling.spell sizing.notional : D)
    (Spelling.spell e.limits.minNotionalUsd)
  let reasons := if sizing.quantity ≤ PyFloat.lit 0 then ["position_capacity_exhausted"]
    else reasonIf belowMinimum "position_below_minimum_notional"
  match rules with
  | none => return reasons
  | some rules =>
    if PyFloat.lit 0 < sizing.quantity then
      let displayed : D := Spelling.spell sizing.quantity
      -- actual order notional, not the conservatively rounded display cost
      let notional ← liftSignal (PyDecimal.mul displayed (Spelling.spell worstEntry))
      return reasons
        ++ reasonIf (PyDecimal.lt displayed rules.minQuantity)
          "position_below_instrument_minimum_quantity"
        ++ reasonIf (PyDecimal.lt notional rules.minNotionalUsd)
          "position_below_instrument_minimum_notional"
    else return reasons

/-- `_size` inside its `try`. -/
def caughtSize (e : LiveRiskEvaluator F D E core) (x : LiveInputs F E)
    (allocation : StrategicAllocation F) (verified : VerifiedLiveAccountV1 F D core)
    (lossBudget worstEntry : F) (rules : Option (VerifiedLiveInstrumentRulesV1 D core)) :
    Except PyError (LiveSizing F × List String) :=
  match e.size x allocation verified lossBudget worstEntry rules with
  | .ok sizing => .ok (sizing, [])
  | .error err =>
    if err.isNumeric then .ok (LiveSizing.zero, ["sizing_numeric_invalid"]) else .error err

/-- A size, if nothing speaks against the trade, and what is then said against the size. -/
def sizeStage (e : LiveRiskEvaluator F D E core) (x : LiveInputs F E)
    (allocation : StrategicAllocation F) (verified : VerifiedLiveAccountV1 F D core)
    (lossBudget worstEntry : F) (rules : Option (VerifiedLiveInstrumentRulesV1 D core))
    (against : List String) : Except PyError (LiveSizing F × List String) :=
  if against.isEmpty then do
    let (sizing, reasons) ← e.caughtSize x allocation verified lossBudget worstEntry rules
    let capacity ← e.capacityReasons sizing worstEntry rules
    return (sizing, reasons ++ capacity)
  else .ok (LiveSizing.zero, [])

/-- The budget, the size, and every reason by then. -/
structure Capital (F : Type) where
  lossBudget : F
  sizing : LiveSizing F
  reasons : List String

/-- `evaluate` from the loss budget on: sized only without a reason. -/
def capital (e : LiveRiskEvaluator F D E core) (x : LiveInputs F E) (reasons : List String)
    (verified : Option (VerifiedLiveAccountV1 F D core)) (worstEntry : F)
    (rules : Option (VerifiedLiveInstrumentRulesV1 D core)) : Except PyError (Capital F) :=
  match verified, x.allocation with
  | some verified, some allocation =>
    -- an invalid allocation has its rejection from the gates already
    if (allocationError allocation).isSome then .ok ⟨PyFloat.lit 0, LiveSizing.zero, reasons⟩
    else do
      let lossBudget ← e.lossBudget verified
      let reasons := reasons ++ reasonIf (lossBudget ≤ PyFloat.lit 0) "risk_budget_exhausted"
      let (sizing, sizeReasons) ←
        e.sizeStage x allocation verified lossBudget worstEntry rules reasons
      return ⟨lossBudget, sizing, reasons ++ sizeReasons
        ++ reasonIf (lossBudget < sizing.worstLoss) "computed_loss_exceeds_budget"⟩
  | _, _ => .ok ⟨PyFloat.lit 0, LiveSizing.zero, reasons⟩

/-! ## `evaluate` -/

/-- What is verified, what the entry costs, and every reason so far. -/
structure Admission (F D : Type) [PyFloat F] [PyDecimal D] [Spelling F D] (core : LiveCore F) where
  inputs : Option (VerifiedLiveInputsV1 D core)
  rules : Option (VerifiedLiveInstrumentRulesV1 D core)
  account : Option (VerifiedLiveAccountV1 F D core)
  worstEntry : F
  reasons : List String

/-- `_instrument_entry` inside its `try`. -/
def entryStage (x : LiveInputs F E) (rules : Option (VerifiedLiveInstrumentRulesV1 D core)) :
    Except PyError (F × List String) :=
  let entry := worstEntry x.review.intent x.venue
  match rules with
  | none => .ok (entry, [])
  | some rules => match instrumentEntry x.review.intent entry rules with
    | .ok entry => .ok (entry, [])
    | .error err =>
      if err.isNumeric then .ok (entry, ["instrument_price_geometry_invalid"]) else .error err

/-- `evaluate` up to the loss budget. -/
def admission [DecidableEq F] (e : LiveRiskEvaluator F D E core) (x : LiveInputs F E) :
    Except PyError (Admission F D core) := do
  let (inputs, inputReasons) := e.verifiedInputs x
  let (rules, ruleReasons) := e.instrumentRules inputs
  let (account, accountReasons) := e.verifiedAccount x
  let (worstEntry, entryReasons) ← entryStage x rules
  return { inputs, rules, account, worstEntry
           reasons := inputReasons ++ ruleReasons ++ accountReasons ++ e.admissionGates x account
             ++ entryReasons }

/-- What `evaluate` passes to the decision's constructor. -/
def decisionFields (e : LiveRiskEvaluator F D E core) (x : LiveInputs F E) (worstEntry : F)
    (capital : Capital F) : RiskTradeDecisionFields F :=
  let approved := capital.reasons.isEmpty
  let sizing := if approved then capital.sizing else LiveSizing.zero
  { source := "kairos-live-risk-evaluator"
    correlationId := x.review.intent.intentId
    causationId := x.review.messageId
    intent := x.review.intent
    review := x.review
    venueQuality := x.venue
    approved := approved
    rejectionReasons := capital.reasons
    decidedAtMs := max x.decidedAtMs x.review.reviewedAtMs
    entryPolicy := .nextBarMarket
    tradingMode := .live
    evedexProfile := .prod
    accountId := e.scope.accountId
    venueSymbol := x.venue.symbol
    quantity := sizing.quantity
    leverage := PyFloat.lit 1
    notionalUsd := sizing.notional
    lossBudgetUsd := if approved then capital.lossBudget else PyFloat.lit 0
    worstCaseLossUsd := sizing.worstLoss
    worstEntryPrice := worstEntry
    estimatedFeesUsd := sizing.fees
    estimatedSlippageUsd := sizing.slippage
    exitPlan := x.review.intent.exitPlan }

/-- The evaluation around a decision: provenance only of what was verified. -/
def report (e : LiveRiskEvaluator F D E core) (x : LiveInputs F E) (a : Admission F D core)
    (decision : RiskTradeDecisionV1 F) : LiveRiskEvaluationV1 F D core :=
  { decision
    scopeSha256 := e.scope.scopeSha256
    sourceId := match a.account with
      | some verified => some verified.sourceId
      | none => if x.sourceId = "" then none else some x.sourceId
    evidenceSha256 := a.account.map (·.evidenceSha256)
    accountSnapshotSha256 := a.account.map (·.account.snapshotId)
    accountAsOfMs := a.account.map (·.asOfMs)
    aggregateOpenRiskUsd := a.account.map (·.aggregateOpenRiskUsd)
    aggregateOpenNotionalUsd := a.account.map (·.aggregateOpenNotionalUsd)
    reservedOpenRiskUsd := a.account.map (·.reservedOpenRiskUsd)
    reservedOpenNotionalUsd := a.account.map (·.reservedOpenNotionalUsd)
    strategyOpenNotionalUsd := a.account.map (·.strategyOpenNotionalUsd)
    strategyReservedNotionalUsd := a.account.map (·.strategyReservedNotionalUsd)
    dailyAdverseLossUsd := a.account.map (·.dailyAdverseLossUsd)
    accountEquityUsd := a.account.map (·.account.equityUsd)
    inputsSourceId := a.inputs.map (·.sourceId)
    inputsEvidenceSha256 := a.inputs.map (·.evidenceSha256)
    inputsObservedAtMs := a.inputs.map (·.observedAtMs)
    instrumentRules := a.rules }

/-- The call is about a PROD venue of the scope, and its models are valid. -/
def checkCall (e : LiveRiskEvaluator F D E core) (x : LiveInputs F E) : Except PyError Unit := do
  raiseIf (x.decidedAtMs < 0) "decided_at_ms must be a non-negative integer"
  raiseIf (!core.reviewValid x.review) "CandidateReviewV1 validation failed"
  raiseIf (!core.venueValid x.venue) "VenueQualityV1 validation failed"
  raiseIf (x.venue.profile ≠ .prod) "LIVE risk requires an EVEDEX PROD venue measurement"
  match e.scope.venueSymbolFor x.review.intent.symbol with
  | none => .error (.valueError "LIVE risk symbol is outside the frozen PROD scope")
  | some expected =>
    raiseIf (x.venue.symbol ≠ expected) "LIVE venue symbol differs from frozen PROD scope"

/-- `LiveRiskEvaluator.evaluate`. -/
def evaluate [DecidableEq F] (e : LiveRiskEvaluator F D E core) (x : LiveInputs F E) :
    Except PyError (LiveRiskEvaluationV1 F D core) := do
  e.checkCall x
  let a ← e.admission x
  let capital ← e.capital x a.reasons a.account a.worstEntry a.rules
  let decision ← core.riskTradeDecisionV1 (e.decisionFields x a.worstEntry capital)
  return e.report x a decision


/-! ## What a returned evaluation went through -/

section Returned

variable {e : LiveRiskEvaluator F D E core} {x : LiveInputs F E}

theorem admission_ok [DecidableEq F] {a : Admission F D core} (h : e.admission x = .ok a) :
    a.inputs = (e.verifiedInputs x).1 ∧ a.rules = a.inputs.bind (·.instrumentRules) ∧
    a.account = (e.verifiedAccount (D := D) x).1 ∧
    ∃ entryReasons, entryStage x a.rules = .ok (a.worstEntry, entryReasons) ∧
      a.reasons = (e.verifiedInputs x).2 ++ (e.instrumentRules a.inputs).2
        ++ (e.verifiedAccount (D := D) x).2 ++ e.admissionGates x a.account ++ entryReasons := by
  unfold admission at h
  obtain ⟨⟨entry, entryReasons⟩, hentry, h⟩ := ok_of_bind h
  cases h
  exact ⟨rfl, rfl, rfl, entryReasons, hentry, rfl⟩

/-- Every returned evaluation reports a decision the contract accepted. -/
theorem evaluate_ok [DecidableEq F] {r : LiveRiskEvaluationV1 F D core}
    (h : e.evaluate x = .ok r) :
    e.checkCall x = .ok () ∧ ∃ a c, e.admission x = .ok a ∧
      e.capital x a.reasons a.account a.worstEntry a.rules = .ok c ∧
      r = e.report x a r.decision ∧
      r.decision.toRiskTradeDecisionFields = e.decisionFields x a.worstEntry c := by
  unfold evaluate at h
  obtain ⟨_, hcall, h⟩ := ok_of_bind h
  obtain ⟨a, hadmission, h⟩ := ok_of_bind h
  obtain ⟨c, hcapital, h⟩ := ok_of_bind h
  obtain ⟨decision, hdecision, h⟩ := ok_of_bind h
  obtain ⟨hfields, _⟩ := KairosCore.riskTradeDecisionV1_ok hdecision
  cases h
  exact ⟨hcall, a, c, hadmission, hcapital, rfl, hfields⟩

/-- A size nobody objected to was computed, is a position, and has the capacity asked for. -/
theorem sizeStage_no_reasons {allocation : StrategicAllocation F}
    {verified : VerifiedLiveAccountV1 F D core} {lossBudget worstEntry : F}
    {rules : Option (VerifiedLiveInstrumentRulesV1 D core)} {sizing : LiveSizing F}
    (h : e.sizeStage x allocation verified lossBudget worstEntry rules [] = .ok (sizing, [])) :
    e.size x allocation verified lossBudget worstEntry rules = .ok sizing ∧
    ¬sizing.quantity ≤ PyFloat.lit 0 ∧
    e.capacityReasons sizing worstEntry rules = .ok [] := by
  rw [sizeStage, List.isEmpty_nil, if_pos rfl] at h
  obtain ⟨⟨sized, reasons⟩, hsize, h⟩ := ok_of_bind h
  obtain ⟨capacity, hcapacity, h⟩ := ok_of_bind h
  obtain ⟨hsizing, hreasons⟩ := Prod.mk.inj (Except.ok.inj h)
  obtain ⟨rfl, rfl⟩ := List.append_eq_nil_iff.mp hreasons
  subst hsizing
  have hcomputed : e.size x allocation verified lossBudget worstEntry rules = .ok sized := by
    unfold caughtSize at hsize
    split at hsize
    next s hs =>
      obtain ⟨rfl, _⟩ := Prod.mk.inj (Except.ok.inj hsize)
      exact hs
    next =>
      split at hsize
      · cases hsize
      · cases hsize
  refine ⟨hcomputed, ?_, hcapacity⟩
  intro hnone
  -- a quantity that is no position has a reason, which the instrument's rules only add to
  simp only [capacityReasons, if_pos hnone] at hcapacity
  split at hcapacity
  next => cases hcapacity
  next =>
    split at hcapacity
    next =>
      obtain ⟨_, _, hcapacity⟩ := ok_of_bind hcapacity
      cases hcapacity
    next => cases hcapacity

/-- Without a reason in the end there was none to begin with. -/
theorem capital_reasons {reasons : List String} {account : Option (VerifiedLiveAccountV1 F D core)}
    {worstEntry : F} {rules : Option (VerifiedLiveInstrumentRulesV1 D core)} {c : Capital F}
    (h : e.capital x reasons account worstEntry rules = .ok c) (hnil : c.reasons = []) :
    reasons = [] := by
  unfold capital at h
  split at h
  next =>
    split at h
    next =>
      cases h
      exact hnil
    next =>
      obtain ⟨lossBudget, _, h⟩ := ok_of_bind h
      obtain ⟨⟨sizing, sizeReasons⟩, _, h⟩ := ok_of_bind h
      cases h
      simp only [List.append_eq_nil_iff] at hnil
      exact hnil.1.1.1
  next =>
    cases h
    exact hnil

/-- An approved size: the budget it fits, and how it was computed. -/
theorem capital_sized {reasons : List String} {verified : VerifiedLiveAccountV1 F D core}
    {worstEntry : F} {rules : Option (VerifiedLiveInstrumentRulesV1 D core)} {c : Capital F}
    {allocation : StrategicAllocation F} (hallocation : x.allocation = some allocation)
    (hvalid : allocationError allocation = none)
    (h : e.capital x reasons (some verified) worstEntry rules = .ok c) (hnil : c.reasons = []) :
    e.lossBudget verified = .ok c.lossBudget ∧
    e.size x allocation verified c.lossBudget worstEntry rules = .ok c.sizing ∧
    ¬c.sizing.quantity ≤ PyFloat.lit 0 ∧
    e.capacityReasons c.sizing worstEntry rules = .ok [] := by
  simp only [capital, hallocation, hvalid, Option.isSome_none, Bool.false_eq_true, if_false] at h
  obtain ⟨lossBudget, hbudget, h⟩ := ok_of_bind h
  obtain ⟨⟨sizing, sizeReasons⟩, hstage, h⟩ := ok_of_bind h
  cases h
  simp only [List.append_eq_nil_iff] at hnil
  obtain ⟨⟨⟨hreasons, hpositive⟩, hsize⟩, _⟩ := hnil
  rw [hreasons, hpositive, List.append_nil, hsize] at hstage
  obtain ⟨hcomputed, hquantity, hcapacity⟩ := sizeStage_no_reasons hstage
  exact ⟨hbudget, hcomputed, hquantity, hcapacity⟩

end Returned

end LiveRiskEvaluator

end KairosRisk
