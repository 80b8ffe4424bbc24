import KairosRisk.CanaryInstrument
import KairosRisk.Config
import KairosRisk.Strategy

/-!
# The pure PAPER risk policy

`PaperRiskPipeline.evaluate` has no bus, clock or exchange in it: it collects
rejection reasons from its gates, sizes only when there is none, and builds one
`RiskTradeDecisionV1`. It is written here in the same stages, each a function
of the call's arguments (`PaperInputs`), and the lemmas at the end read an
approval back: no gate fired, the budget was positive, the loss fits it.

A list of reasons is built by appending, so that "no reasons" is a conjunction
over the gates (`reasonIf_eq_nil`).
-/

namespace KairosRisk

open PyLib

/-! ## Reservations -/

/-- Risk already approved but not yet represented by reconciliation. -/
structure PaperReservations (F : Type) where
  symbols : List String
  openRiskUsd : F
  notionalUsd : F
  strategyNotionalUsd : List (String × F)
  activeCanaryIdeas : Int

variable {F : Type} [PyFloat F]

/-- `__post_init__`. -/
def PaperReservations.postInit (r : PaperReservations F) :
    Except PyError (PaperReservations F) := do
  raiseIf (r.symbols.any fun symbol => !isPaperDevVenueSymbol symbol)
    "reserved PAPER symbols must belong to the fixed DEV universe"
  raiseIf (!PyFloat.isFinite r.openRiskUsd || r.openRiskUsd < PyFloat.lit 0)
    "reserved open risk must be finite and non-negative"
  raiseIf (!PyFloat.isFinite r.notionalUsd || r.notionalUsd < PyFloat.lit 0)
    "reserved notional must be finite and non-negative"
  raiseIf (r.activeCanaryIdeas < 0)
    "reserved active canary ideas must be a non-negative integer"
  let names := r.strategyNotionalUsd.map Prod.fst
  raiseIf (names.length ≠ names.eraseDups.length)
    "reserved strategy notional names must be unique"
  raiseIf (names.any fun name => !isNormalized name)
    "reserved strategy names must be normalized"
  let values := r.strategyNotionalUsd.map Prod.snd
  raiseIf (values.any fun value => !PyFloat.isFinite value || value < PyFloat.lit 0)
    "reserved strategy notional must be finite and non-negative"
  raiseIf (r.notionalUsd + PyFloat.lit (1 / 1000000) < PyFloat.sum values)
    "reserved strategy notional cannot exceed total reserved notional"
  return { r with strategyNotionalUsd := sortedPairs r.strategyNotionalUsd }

/-- `notional_for_strategy`. -/
def PaperReservations.notionalForStrategy (r : PaperReservations F) (strategyId : String) : F :=
  (r.strategyNotionalUsd.lookup strategyId).getD (PyFloat.lit 0)

/-- The running totals of `reservation_view`. -/
def strategyTotals (decisions : List (RiskTradeDecisionV1 F)) : OrderedDict String F :=
  decisions.foldl
    (fun totals d =>
      totals.set d.intent.strategyId
        ((totals.get? d.intent.strategyId).getD (PyFloat.lit 0) + d.notionalUsd))
    OrderedDict.empty

/-- `reservation_view`: aggregate un-reconciled approvals. -/
def reservationView (decisions : List (RiskTradeDecisionV1 F)) :
    Except PyError (PaperReservations F) :=
  let approved := decisions.filter (·.approved)
  PaperReservations.postInit
    { symbols := approved.map (·.venueSymbol)
      openRiskUsd := PyFloat.sum (approved.map (·.worstCaseLossUsd))
      notionalUsd := PyFloat.sum (approved.map (·.notionalUsd))
      strategyNotionalUsd := sortedPairs (strategyTotals approved).items
      activeCanaryIdeas :=
        (approved.filter fun d => d.intent.strategyId == paperCanaryStrategyId).length }

/-- A checked reservation view holds what it was given, its names sorted. -/
theorem PaperReservations.postInit_ok {r r' : PaperReservations F} (h : r.postInit = .ok r') :
    r' = { r with strategyNotionalUsd := sortedPairs r.strategyNotionalUsd } := by
  unfold postInit at h
  obtain ⟨_, h⟩ := ok_of_raiseIf h
  obtain ⟨_, h⟩ := ok_of_raiseIf h
  obtain ⟨_, h⟩ := ok_of_raiseIf h
  obtain ⟨_, h⟩ := ok_of_raiseIf h
  obtain ⟨_, h⟩ := ok_of_raiseIf h
  obtain ⟨_, h⟩ := ok_of_raiseIf h
  obtain ⟨_, h⟩ := ok_of_raiseIf h
  obtain ⟨_, h⟩ := ok_of_raiseIf h
  exact (Except.ok.inj h).symm

/-- The view of approved decisions covers all of them. -/
theorem reservationView_ok {decisions : List (RiskTradeDecisionV1 F)} {view : PaperReservations F}
    (h : reservationView decisions = .ok view) (happ : ∀ d ∈ decisions, d.approved = true) :
    view.symbols = decisions.map (·.venueSymbol) ∧
    view.openRiskUsd = PyFloat.sum (decisions.map (·.worstCaseLossUsd)) ∧
    view.activeCanaryIdeas =
      (decisions.filter fun d => d.intent.strategyId == paperCanaryStrategyId).length := by
  have hall : decisions.filter (·.approved) = decisions := List.filter_eq_self.mpr happ
  have hview := PaperReservations.postInit_ok h
  rw [hall] at hview
  rw [hview]
  exact ⟨rfl, rfl, rfl⟩

/-! ## The call and its metrics -/

/-- The pipeline, over the Decimal type the canary's rules are read in. -/
structure PaperRiskPipeline (F D : Type) [PyFloat F] where
  core : KairosCore F
  settings : RiskSettings F
  regimePolicy : Option (RegimeCapabilityPolicyV1 F)

/-- The arguments of `evaluate`. -/
structure PaperInputs (F : Type) where
  review : CandidateReviewV1 F
  venue : VenueQualityV1 F
  account : Option (AccountSnapshotV2 F)
  allocation : Option (StrategicAllocation F)
  decidedAtMs : Int
  systemMode : SystemMode
  reservations : PaperReservations F
  admissionRejectionReasons : List String
  regimeAllocation : Option (RegimeBoundAllocationV1 F)

structure AccountMetrics (F : Type) where
  equityUsd : F
  availableBalanceUsd : F
  totalOpenRiskUsd : F
  grossNotionalUsd : F
  strategyNotionalUsd : F

structure AllocationMetrics (F : Type) where
  strategyId : String
  stableReserveFraction : F
  strategyWeight : F
  maxGrossLeverage : F

/-- `_position_stop_risk`. -/
def positionStopRisk (position : PositionSnapshotV2 F) : F :=
  let quantity := PyFloat.abs position.signedQuantity
  let entry := position.entryPrice
  let stop := position.exitPlan.stopPrice
  if position.side = .long then quantity * PyFloat.max (PyFloat.lit 0) [entry - stop]
  else quantity * PyFloat.max (PyFloat.lit 0) [stop - entry]

/-- The loop over the open orders: reasons, gross and strategy notional so far. -/
def pendingOrder (strategyId : String) (acc : List String × F × F) (order : OpenOrderSnapshotV2 F) :
    List String × F × F :=
  let (reasons, gross, strategy) := acc
  if order.orderRole ≠ .entry then acc
  else if order.quantity ≤ order.filledQuantity then
    -- a transient full fill keeps admission blocked all the same
    (reasons ++ ["pending_entry_order_present"], gross, strategy)
  else match order.price with
    | none =>
      (reasons ++ ["pending_entry_order_present", "unvalued_pending_entry_order"], gross, strategy)
    | some price =>
      let pending := (order.quantity - order.filledQuantity) * price
      (reasons ++ ["pending_entry_order_present"], gross + pending,
        if order.strategyId = strategyId then strategy + pending else strategy)

/-- The distinct trades the account holds for the canary. -/
def activeCanaryTradeIds (account : AccountSnapshotV2 F) : List String :=
  ((account.positions.filter fun q => q.strategyId == paperCanaryStrategyId).map (·.tradeId)
    ++ (account.openOrders.filter fun o =>
      o.strategyId == paperCanaryStrategyId && o.orderRole == .entry).map (·.tradeId)).eraseDups

/-- The worse of the daily loss and the drawdown from the peak, as a fraction. -/
def dailyDrawdown (account : AccountSnapshotV2 F) : F :=
  PyFloat.max (PyFloat.lit 0)
    [(account.durableDayStartEquityUsd - account.equityUsd) / account.durableDayStartEquityUsd,
      -account.dailyRealizedPnlUsd / account.durableDayStartEquityUsd,
      (account.durablePeakEquityUsd - account.equityUsd) / account.durablePeakEquityUsd]

namespace PaperRiskPipeline

variable [DecidableEq F] {D : Type}

/-! ## The gates -/

/-- The account's identity, clock and age. -/
def accountScopeReasons (p : PaperRiskPipeline F D) (account : AccountSnapshotV2 F)
    (decidedAtMs : Int) : List String :=
  let ageMs := decidedAtMs - account.capturedAtMs
  reasonIf (account.tradingMode ≠ .paper || account.evedexProfile ≠ .dev)
      "account_environment_mismatch"
    ++ reasonIf (account.accountId ≠ p.settings.paperAccountId) "account_id_mismatch"
    ++ reasonIf (!account.reconciled) "account_not_reconciled"
    ++ reasonIf (account.reconciliationSeq ≤ 0) "account_reconciliation_sequence_invalid"
    ++ if ageMs < 0 then ["account_snapshot_from_future"]
      else reasonIf
        (PyFloat.intGt ageMs (p.settings.paperAccountSnapshotMaxAgeS * PyFloat.lit 1000))
        "account_snapshot_stale"

/-- One idea for each symbol, one canary in all. -/
def exclusivityReasons (account : AccountSnapshotV2 F) (venueSymbol strategyId : String)
    (reservations : PaperReservations F) : List String :=
  reasonIf (reservations.symbols.contains venueSymbol) "symbol_has_reserved_idea"
    ++ reasonIf (account.positions.any fun q => q.venueSymbol == venueSymbol)
      "symbol_has_active_position"
    ++ reasonIf (account.openOrders.any fun o => o.venueSymbol == venueSymbol)
      "symbol_has_open_order"
    ++ reasonIf (strategyId == paperCanaryStrategyId
        && decide (1 ≤ (activeCanaryTradeIds account).length + reservations.activeCanaryIdeas))
      "global_canary_idea_limit_reached"

/-- Open risk and drawdown against their limits. -/
def riskLimitReasons (p : PaperRiskPipeline F D) (account : AccountSnapshotV2 F)
    (reservations : PaperReservations F) : List String :=
  let positionRisk := PyFloat.sum (account.positions.map positionStopRisk)
  reasonIf (account.totalOpenRiskUsd + PyFloat.lit (1 / 1000000) < positionRisk)
      "account_open_risk_understated"
    ++ reasonIf (account.equityUsd * p.settings.paperMaxTotalOpenRiskFraction
          - PyFloat.lit (1 / 1000000000)
        ≤ account.totalOpenRiskUsd + reservations.openRiskUsd)
      "portfolio_open_risk_limit_exhausted"
    ++ reasonIf (p.settings.maxDailyDrawdownPct ≤ dailyDrawdown account * PyFloat.lit 100)
      "daily_drawdown_limit_reached"

/-- `_account_gate`. -/
def accountGate (p : PaperRiskPipeline F D) (account : Option (AccountSnapshotV2 F))
    (venueSymbol strategyId : String) (decidedAtMs : Int) (reservations : PaperReservations F) :
    List String × Option (AccountMetrics F) :=
  match account with
  | none => (["account_snapshot_missing"], none)
  | some account =>
    let notional := fun q : PositionSnapshotV2 F => PyFloat.abs q.signedQuantity * q.markPrice
    let gross := PyFloat.sum (account.positions.map notional)
    let strategy := PyFloat.sum
      ((account.positions.filter fun q => q.strategyId == strategyId).map notional)
    let (pending, gross, strategy) :=
      account.openOrders.foldl (pendingOrder strategyId) ([], gross, strategy)
    (p.accountScopeReasons account decidedAtMs
        ++ exclusivityReasons account venueSymbol strategyId reservations
        ++ p.riskLimitReasons account reservations ++ pending,
      some
        { equityUsd := account.equityUsd
          availableBalanceUsd := account.availableBalanceUsd
          totalOpenRiskUsd := account.totalOpenRiskUsd
          grossNotionalUsd := gross
          strategyNotionalUsd := strategy })

/-- `_allocation_gate`. -/
def allocationGate (p : PaperRiskPipeline F D) (allocation : Option (StrategicAllocation F))
    (strategyId : String) (side : Side) (decidedAtMs : Int) (enforceLegacyRegime : Bool) :
    List String × Option (AllocationMetrics F) :=
  match allocation with
  | none => (["strategic_allocation_missing"], none)
  | some allocation =>
    let naive := !allocation.producedAt.aware
    let producedAtMs :=
      if naive then decidedAtMs + 1 else PyFloat.timestampMs F allocation.producedAt.us
    let ageMs := decidedAtMs - producedAtMs
    let weight := (allocation.strategyWeights.lookup strategyId).getD (PyFloat.lit 0)
    (reasonIf (allocationError allocation).isSome "strategic_allocation_invalid"
        ++ reasonIf naive "strategic_allocation_naive_timestamp"
        ++ (if ageMs < 0 then ["strategic_allocation_from_future"]
          else reasonIf
            (PyFloat.intGt ageMs (p.settings.strategicAllocationMaxAgeS * PyFloat.lit 1000))
            "strategic_allocation_stale")
        ++ reasonIf (weight ≤ PyFloat.lit 0) "strategy_has_no_macro_allocation"
        ++ (if enforceLegacyRegime && allocation.regime == .chop then ["macro_regime_chop"]
          else if enforceLegacyRegime && allocation.regime == .bear && side == .long then
            ["macro_regime_forbids_long"]
          else reasonIf (enforceLegacyRegime && allocation.regime == .bull && side == .short)
            "macro_regime_forbids_short"),
      some
        { strategyId
          stableReserveFraction := allocation.stableReservePct
          strategyWeight := weight
          maxGrossLeverage := allocation.maxGrossLeverage })

/-- The closed envelope of a regime binding is exact for this intent and account. -/
def regimeBindingAdmits (p : PaperRiskPipeline F D) (allocation : RegimeBoundAllocationV1 F)
    (intent : StrategyIntentV1 F) (account : Option (AccountSnapshotV2 F)) (decidedAtMs : Int) :
    Bool :=
  let basis := allocation.capitalBasis
  let observation := allocation.observation
  p.core.regimeBindingValid allocation
    && (match p.regimePolicy with
      | none => false
      | some policy =>
        policy.validateObservation observation && basis.policySha256 == policy.policySha256)
    && observation.intent == intent
    && allocation.source == p.settings.paperRegimeMacroSource
    && basis.accountId == p.settings.paperAccountId
    && (match account with
      | none => false
      | some account => basis.accountId == account.accountId)
    && decide (basis.accountCapturedAtMs ≤ intent.decisionTsMs)
    && (decide (allocation.boundAtMs ≤ decidedAtMs)
      && decide (decidedAtMs ≤ observation.expiresAtMs))

/-- `_adaptive_allocation_gate`. -/
def adaptiveAllocationGate (p : PaperRiskPipeline F D)
    (allocation : Option (RegimeBoundAllocationV1 F)) (intent : StrategyIntentV1 F)
    (account : Option (AccountSnapshotV2 F)) (decidedAtMs : Int) :
    List String × Option (AllocationMetrics F) :=
  match allocation with
  | none => (["regime_bound_allocation_missing"], none)
  | some allocation =>
    if p.regimeBindingAdmits allocation intent account decidedAtMs then
      p.allocationGate (some allocation.capitalBasis.allocation) intent.strategyId intent.side
        decidedAtMs false
    else (["regime_bound_allocation_invalid"], none)

/-- The regime policy applies: adaptive profile, and not the canary. -/
def adaptive (p : PaperRiskPipeline F D) (intent : StrategyIntentV1 F) : Bool :=
  p.regimePolicy.isSome && intent.strategyId != paperCanaryStrategyId

/-- The allocation gate `evaluate` selects. -/
def selectedAllocationGate (p : PaperRiskPipeline F D) (x : PaperInputs F) :
    List String × Option (AllocationMetrics F) :=
  let intent := x.review.intent
  if p.adaptive intent then
    p.adaptiveAllocationGate x.regimeAllocation intent x.account x.decidedAtMs
  else p.allocationGate x.allocation intent.strategyId intent.side x.decidedAtMs true

/-- What the review, the clock and the venue say against the trade. -/
def reviewReasons (p : PaperRiskPipeline F D) (x : PaperInputs F) : List String :=
  let review := x.review
  let intent := review.intent
  let venue := x.venue
  reasonIf (review.route.intent ≠ intent) "immutable_intent_mismatch"
    ++ reasonIf (intent.contractVersion == "strategy-intent.observed-sim.v2") "SIM_ONLY_INTENT"
    ++ reasonIf (review.decision ≠ .allow) ("review_" ++ review.decision.lower)
    ++ reasonIf (!p.settings.paperStrategyAllowed intent.strategyId intent.strategyRevision)
      "strategy_not_paper_approved"
    ++ reasonIf (x.systemMode ≠ .normal) ("system_mode_" ++ x.systemMode.lower)
    ++ reasonIf (x.decidedAtMs < review.reviewedAtMs) "decision_clock_precedes_review"
    ++ reasonIf (x.decidedAtMs < intent.entryEligibleTsMs) "candidate_not_yet_eligible"
    ++ reasonIf (intent.entryExpiresTsMs < x.decidedAtMs) "candidate_expired"
    ++ (match paperDevSymbol intent.symbol with
      | none => ["unsupported_signal_symbol"]
      | some expected => reasonIf (venue.symbol ≠ expected) "venue_symbol_mismatch")
    ++ reasonIf (x.decidedAtMs < venue.observedAtMs) "venue_observation_from_future"
    ++ reasonIf (venue.expiresAtMs < x.decidedAtMs) "venue_quality_stale"
    ++ if venue.entryAllowed then []
      else "venue_entry_blocked" :: venue.reasonCodes.map ("venue_" ++ ·)

/-- `worst_entry`: the side of the book the entry has to cross. -/
def worstEntry (intent : StrategyIntentV1 F) (venue : VenueQualityV1 F) : F :=
  if intent.side = .long then venue.bestAsk else venue.bestBid

/-- The entry has to lie between the stop and the target. -/
def geometryReasons (intent : StrategyIntentV1 F) (entry : F) : List String :=
  let stop := intent.exitPlan.stopPrice
  let target := intent.exitPlan.targetPrice
  match intent.side with
  | .long => reasonIf (!(decide (stop < entry) && decide (entry < target)))
      "long_entry_exit_geometry_invalid"
  | .short => reasonIf (!(decide (target < entry) && decide (entry < stop)))
      "short_entry_exit_geometry_invalid"
  | .flat => []

/-! ## Budget, size and cost -/

/-- `remaining_open_risk`. -/
def remainingOpenRisk (p : PaperRiskPipeline F D) (account : AccountMetrics F)
    (reservations : PaperReservations F) : F :=
  PyFloat.max (PyFloat.lit 0)
    [account.equityUsd * p.settings.paperMaxTotalOpenRiskFraction - account.totalOpenRiskUsd
      - reservations.openRiskUsd]

/-- The loss budget and the leverage, with the reasons their limits give. -/
structure Budget (F : Type) where
  lossBudget : F
  leverage : F
  reasons : List String

/-- The budget stage of `evaluate`. -/
def budget (p : PaperRiskPipeline F D) (reservations : PaperReservations F)
    (account : Option (AccountMetrics F)) (allocation : Option (AllocationMetrics F)) : Budget F :=
  match account, allocation with
  | some account, some allocation =>
    let lossBudget := PyFloat.min (account.equityUsd * p.settings.paperPerTradeRiskFraction)
      [p.remainingOpenRisk account reservations]
    let leverage := PyFloat.min p.settings.paperMaxLeverage [allocation.maxGrossLeverage]
    let belowOne := decide (leverage < PyFloat.lit 1)
    { lossBudget
      leverage := if belowOne then PyFloat.lit 1 else leverage
      reasons := reasonIf (lossBudget ≤ PyFloat.lit 0) "portfolio_open_risk_limit_exhausted"
        ++ reasonIf belowOne "macro_leverage_below_one" }
  | _, _ => { lossBudget := PyFloat.lit 0, leverage := PyFloat.lit 1, reasons := [] }

/-- The slippage of the side the entry takes. -/
def sideSlippageBps (side : Side) (venue : VenueQualityV1 F) : F :=
  if side = .long then venue.buySlippageBps else venue.sellSlippageBps

/-- `_size_quantity`. -/
def sizeQuantity (p : PaperRiskPipeline F D) (side : Side) (stopPrice worstEntry : F)
    (venue : VenueQualityV1 F) (lossBudget leverage : F) (account : AccountMetrics F)
    (allocation : AllocationMetrics F) (reservations : PaperReservations F) : F :=
  let zero : F := PyFloat.lit 0
  let one : F := PyFloat.lit 1
  let lossPerUnit := PyFloat.abs (worstEntry - stopPrice)
    + (worstEntry + stopPrice) * venue.takerFeeBps / PyFloat.lit 10000
    + venue.venueMidPrice * sideSlippageBps side venue / PyFloat.lit 10000
  if !PyFloat.isFinite lossPerUnit || decide (lossPerUnit ≤ zero) || decide (lossBudget ≤ zero) then
    zero
  else
    let riskQuantity := lossBudget / lossPerUnit
    let deployableEquity := PyFloat.min account.availableBalanceUsd
      [account.equityUsd * (one - allocation.stableReserveFraction)]
    let marginNotionalCap :=
      PyFloat.max zero [deployableEquity * leverage - reservations.notionalUsd]
    let grossCap :=
      account.equityUsd * (one - allocation.stableReserveFraction) * allocation.maxGrossLeverage
    let remainingGross :=
      PyFloat.max zero [grossCap - account.grossNotionalUsd - reservations.notionalUsd]
    let strategyCap := account.equityUsd * allocation.strategyWeight * allocation.maxGrossLeverage
    let remainingStrategy := PyFloat.max zero
      [strategyCap - account.strategyNotionalUsd
        - reservations.notionalForStrategy allocation.strategyId]
    let notionalCap := PyFloat.min p.settings.paperMaxPositionNotionalUsd
      [venue.assessedNotionalUsd, venue.depthUsd, marginNotionalCap, remainingGross,
        remainingStrategy]
    if !PyFloat.isFinite notionalCap || decide (notionalCap ≤ zero) then zero
    else PyFloat.max zero [PyFloat.min riskQuantity [notionalCap / worstEntry]]

/-- Fees, slippage and the loss at the stop. -/
structure Economics (F : Type) where
  fees : F
  slippage : F
  worstLoss : F

/-- No position, no cost. -/
def Economics.zero : Economics F := ⟨PyFloat.lit 0, PyFloat.lit 0, PyFloat.lit 0⟩

/-- `_economics`. -/
def economics (quantity stopPrice worstEntry : F) (side : Side) (venue : VenueQualityV1 F) :
    Economics F :=
  let fees := quantity * (worstEntry + stopPrice) * venue.takerFeeBps / PyFloat.lit 10000
  let slippage := quantity * venue.venueMidPrice * sideSlippageBps side venue / PyFloat.lit 10000
  ⟨fees, slippage, quantity * PyFloat.abs (worstEntry - stopPrice) + fees + slippage⟩

/-! ## `evaluate` -/

/-- What the gates and the budget leave: every reason so far and the metrics. -/
structure Gates (F : Type) where
  reasons : List String
  allocationReasons : List String
  accountMetrics : Option (AccountMetrics F)
  allocationMetrics : Option (AllocationMetrics F)
  lossBudget : F
  leverage : F

/-- `evaluate` up to the point where it would size. -/
def gates (p : PaperRiskPipeline F D) (x : PaperInputs F) : Gates F :=
  let intent := x.review.intent
  let (accountReasons, accountMetrics) :=
    p.accountGate x.account x.venue.symbol intent.strategyId x.decidedAtMs x.reservations
  let (allocationReasons, allocationMetrics) := p.selectedAllocationGate x
  let budget := p.budget x.reservations accountMetrics allocationMetrics
  { reasons := x.admissionRejectionReasons.eraseDups ++ p.reviewReasons x ++ accountReasons
      ++ allocationReasons ++ geometryReasons intent (worstEntry intent x.venue) ++ budget.reasons
    allocationReasons, accountMetrics, allocationMetrics
    lossBudget := budget.lossBudget
    leverage := budget.leverage }

/-- The canary trades the exact lot bound in its intent, or nothing. -/
def canaryQuantity [PyDecimal D] [Spelling F D] (p : PaperRiskPipeline F D) (x : PaperInputs F)
    (leverage capacityQuantity : F) : Except PyError (List String × F) :=
  let entry := worstEntry x.review.intent x.venue
  match boundCanaryQuantity D p.core x.review.intent p.settings.paperAccountId entry with
  | .error (.valueError _) => .ok (["canary_instrument_binding_invalid"], PyFloat.lit 0)
  | .error e => .error e
  | .ok required =>
    if !decide (PyFloat.abs (leverage - PyFloat.lit 1) ≤ PyFloat.lit (1 / 1000000000000)) then
      .ok (["canary_leverage_must_equal_one"], PyFloat.lit 0)
    else if capacityQuantity + PyFloat.lit (1 / 1000000000000) < required then
      .ok (["canary_minimum_exceeds_risk_capacity"], PyFloat.lit 0)
    else .ok ([], required)

/-- The quantity the sizing branch selects, with the reasons of its own. -/
def selectQuantity [PyDecimal D] [Spelling F D] (p : PaperRiskPipeline F D) (x : PaperInputs F)
    (leverage capacityQuantity : F) : Except PyError (List String × F) :=
  if x.review.intent.strategyId = paperCanaryStrategyId then
    p.canaryQuantity x leverage capacityQuantity
  else .ok ([], capacityQuantity)

/-- The sizing stage of `evaluate`, entered only without reasons. -/
def size [PyDecimal D] [Spelling F D] (p : PaperRiskPipeline F D) (x : PaperInputs F)
    (g : Gates F) : Except PyError (List String × F) :=
  match g.reasons, g.accountMetrics, g.allocationMetrics with
  | [], some account, some allocation => do
    let intent := x.review.intent
    let entry := worstEntry intent x.venue
    let capacityQuantity := p.sizeQuantity intent.side intent.exitPlan.stopPrice entry x.venue
      g.lossBudget g.leverage account allocation x.reservations
    let (reasons, quantity) ← p.selectQuantity x g.leverage capacityQuantity
    let notional := quantity * entry
    if quantity ≤ PyFloat.lit 0 then
      return (reasons ++ ["position_capacity_exhausted"], quantity)
    else if notional + PyFloat.lit (1 / 1000000000) < p.settings.paperMinNotionalUsd then
      return (reasons ++ ["position_below_minimum_notional"], PyFloat.lit 0)
    else return (reasons, quantity)
  | reasons, _, _ => return (reasons, PyFloat.lit 0)

/-- What `evaluate` passes to the decision's constructor, once sized. -/
def decisionFields (p : PaperRiskPipeline F D) (x : PaperInputs F) (g : Gates F)
    (sizedReasons : List String) (sizedQuantity : F) : RiskTradeDecisionFields F :=
  let intent := x.review.intent
  let entry := worstEntry intent x.venue
  let priced := economics sizedQuantity intent.exitPlan.stopPrice entry intent.side x.venue
  let overBudget := decide (g.lossBudget + PyFloat.lit (1 / 1000000) < priced.worstLoss)
  let reasons := sizedReasons ++ reasonIf overBudget "computed_loss_exceeds_budget"
  let approved := reasons.isEmpty
  let quantity := if approved then sizedQuantity else PyFloat.lit 0
  -- a rejected quantity of zero keeps the costs computed for it
  let economics :=
    if overBudget || (!approved && sizedQuantity != PyFloat.lit 0) then Economics.zero else priced
  { source := p.settings.serviceName
    correlationId := intent.intentId
    causationId := match x.regimeAllocation with
      | some binding =>
        if p.adaptive intent && g.allocationReasons.isEmpty then binding.messageId
        else x.review.messageId
      | none => x.review.messageId
    intent := intent
    review := x.review
    venueQuality := x.venue
    approved := approved
    rejectionReasons := reasons
    decidedAtMs := max x.decidedAtMs x.review.reviewedAtMs
    entryPolicy := .nextBarMarket
    tradingMode := .paper
    evedexProfile := .dev
    accountId := p.settings.paperAccountId
    venueSymbol := x.venue.symbol
    quantity := quantity
    leverage := g.leverage
    notionalUsd := quantity * entry
    lossBudgetUsd := g.lossBudget
    worstCaseLossUsd := economics.worstLoss
    worstEntryPrice := entry
    estimatedFeesUsd := economics.fees
    estimatedSlippageUsd := economics.slippage
    exitPlan := intent.exitPlan }

/-- `PaperRiskPipeline.evaluate`. -/
def evaluate [PyDecimal D] [Spelling F D] (p : PaperRiskPipeline F D) (x : PaperInputs F) :
    Except PyError (RiskTradeDecisionV1 F) := do
  raiseIf (x.decidedAtMs < 0) "decided_at_ms must be a non-negative integer"
  raiseIf (x.venue.profile ≠ .dev) "PAPER risk accepts only EVEDEX DEV venue measurements"
  raiseIf (x.admissionRejectionReasons.any fun reason => !isNormalized reason)
    "admission rejection reasons must be normalized non-empty strings"
  let g := p.gates x
  let (reasons, quantity) ← p.size x g
  p.core.riskTradeDecisionV1 (p.decisionFields x g reasons quantity)

/-! ## What a returned decision says -/

/-- What every decision copies from the call, approved or not. -/
structure DecidesOn (p : PaperRiskPipeline F D) (x : PaperInputs F) (d : RiskTradeDecisionV1 F) :
    Prop where
  validated : p.core.Validated d
  intent : d.intent = x.review.intent
  review : d.review = x.review
  venueSymbol : d.venueSymbol = x.venue.symbol
  venueProfile : x.venue.profile = .dev
  decidedAtMs : d.decidedAtMs = max x.decidedAtMs x.review.reviewedAtMs
  tradingMode : d.tradingMode = .paper
  evedexProfile : d.evedexProfile = .dev
  accountId : d.accountId = p.settings.paperAccountId
  exitPlan : d.exitPlan = x.review.intent.exitPlan
  approved_iff : d.approved = true ↔ d.rejectionReasons = []

/-- What an approval adds: no gate fired, and the loss fits the budget. -/
structure Approves (p : PaperRiskPipeline F D) (x : PaperInputs F) (d : RiskTradeDecisionV1 F) :
    Prop extends DecidesOn p x d where
  gates : (p.gates x).reasons = []
  lossBudget : d.lossBudgetUsd = (p.gates x).lossBudget
  leverage : d.leverage = (p.gates x).leverage
  loss : ¬(p.gates x).lossBudget + PyFloat.lit (1 / 1000000) < d.worstCaseLossUsd

section Returned

variable [PyDecimal D] [Spelling F D] {p : PaperRiskPipeline F D} {x : PaperInputs F}
  {d : RiskTradeDecisionV1 F}

theorem evaluate_ok (h : p.evaluate x = .ok d) :
    x.venue.profile = .dev ∧ p.core.Validated d ∧
    ∃ reasons quantity, p.size x (p.gates x) = .ok (reasons, quantity) ∧
      d.toRiskTradeDecisionFields = p.decisionFields x (p.gates x) reasons quantity := by
  unfold evaluate at h
  obtain ⟨_, h⟩ := ok_of_raiseIf h
  obtain ⟨hprofile, h⟩ := ok_of_raiseIf h
  obtain ⟨_, h⟩ := ok_of_raiseIf h
  obtain ⟨⟨reasons, quantity⟩, hsize, h⟩ := ok_of_bind h
  obtain ⟨hfields, hvalid⟩ := KairosCore.riskTradeDecisionV1_ok h
  have hdev : x.venue.profile = .dev := by simpa using hprofile
  exact ⟨hdev, hvalid, reasons, quantity, hsize, hfields⟩

omit [DecidableEq F] in
/-- Sizing without a reason started without one. -/
theorem size_no_reasons {g : Gates F} {quantity : F} (h : p.size x g = .ok ([], quantity)) :
    g.reasons = [] := by
  unfold size at h
  split at h
  next hnil _ _ => exact hnil
  next => exact (Prod.mk.inj (Except.ok.inj h)).1

/-- **Every decision** is about the call it answers. -/
theorem evaluate_decidesOn (h : p.evaluate x = .ok d) : DecidesOn p x d := by
  obtain ⟨hdev, hvalid, reasons, quantity, _, hf⟩ := evaluate_ok h
  have copied : ∀ {α : Type} (field : RiskTradeDecisionFields F → α),
      field d.toRiskTradeDecisionFields = field (p.decisionFields x (p.gates x) reasons quantity) :=
    fun field => congrArg field hf
  refine ⟨hvalid, copied (·.intent), copied (·.review), copied (·.venueSymbol), hdev,
    copied (·.decidedAtMs), copied (·.tradingMode), copied (·.evedexProfile), copied (·.accountId),
    copied (·.exitPlan), ?_⟩
  rw [copied (·.approved), copied (·.rejectionReasons)]
  exact List.isEmpty_iff

/-- **An approval** passed every gate and its loss fits the budget. -/
theorem evaluate_approves (h : p.evaluate x = .ok d) (ha : d.approved = true) :
    Approves p x d := by
  have hdecides := evaluate_decidesOn h
  obtain ⟨_, _, reasons, quantity, hsize, hf⟩ := evaluate_ok h
  have hreasons := hdecides.approved_iff.mp ha
  rw [hf] at hreasons
  obtain ⟨hnil, hloss⟩ := List.append_eq_nil_iff.mp hreasons
  have hwithin := reasonIf_eq_nil.mp hloss
  subst hnil
  refine ⟨hdecides, size_no_reasons hsize, by rw [hf]; rfl, by rw [hf]; rfl, ?_⟩
  have hworst : d.worstCaseLossUsd = (economics quantity x.review.intent.exitPlan.stopPrice
      (worstEntry x.review.intent x.venue) x.review.intent.side x.venue).worstLoss := by
    rw [hf]
    simp only [decisionFields, hwithin, List.nil_append]
    rfl
  rw [hworst]
  exact of_decide_eq_false hwithin

omit [DecidableEq F] in
/-- The canary's branch gives no reason exactly when the bound lot is what the
venue asks for, at leverage one, and the capacity has room for it. -/
theorem canaryQuantity_nil_iff {leverage capacity quantity : F} :
    p.canaryQuantity x leverage capacity = .ok ([], quantity) ↔
      boundCanaryQuantity D p.core x.review.intent p.settings.paperAccountId
          (worstEntry x.review.intent x.venue) = .ok quantity ∧
        PyFloat.abs (leverage - PyFloat.lit 1) ≤ PyFloat.lit (1 / 1000000000000) ∧
        ¬capacity + PyFloat.lit (1 / 1000000000000) < quantity := by
  unfold canaryQuantity
  dsimp only
  constructor
  · intro h
    split at h
    next => cases h
    next => cases h
    next required hrequired =>
      split at h
      next => cases h
      next hleverage =>
        split at h
        next => cases h
        next hfits =>
          cases h
          exact ⟨hrequired, by simpa using hleverage, hfits⟩
  · rintro ⟨hrequired, hleverage, hfits⟩
    rw [hrequired]
    dsimp only
    rw [if_neg (by simpa using hleverage), if_neg hfits]

omit [DecidableEq F] in
/-- Sizing gives no reason exactly when it was entered without one, the branch
selected a positive quantity without one, and the notional reaches the minimum. -/
theorem size_nil_iff {g : Gates F} {account : AccountMetrics F} {allocation : AllocationMetrics F}
    {quantity : F} (haccount : g.accountMetrics = some account)
    (hallocation : g.allocationMetrics = some allocation) :
    p.size x g = .ok ([], quantity) ↔ g.reasons = [] ∧
      p.selectQuantity x g.leverage (p.sizeQuantity x.review.intent.side
          x.review.intent.exitPlan.stopPrice (worstEntry x.review.intent x.venue) x.venue
          g.lossBudget g.leverage account allocation x.reservations) = .ok ([], quantity) ∧
      ¬quantity ≤ PyFloat.lit 0 ∧
      ¬quantity * worstEntry x.review.intent x.venue + PyFloat.lit (1 / 1000000000)
        < p.settings.paperMinNotionalUsd := by
  constructor
  · intro h
    have hnil := size_no_reasons h
    unfold size at h
    rw [hnil, haccount, hallocation] at h
    obtain ⟨⟨reasons, selected⟩, hselect, h⟩ := ok_of_bind h
    dsimp only at h
    split at h
    next => simp [pure, Except.pure] at h
    next hpositive =>
      split at h
      next => simp [pure, Except.pure] at h
      next hminimum =>
        cases h
        exact ⟨hnil, hselect, hpositive, hminimum⟩
  · rintro ⟨hnil, hselect, hpositive, hminimum⟩
    unfold size
    rw [hnil, haccount, hallocation]
    dsimp only
    rw [hselect, ok_bind]
    dsimp only
    rw [if_neg hpositive, if_neg hminimum]
    rfl

omit [PyDecimal D] [Spelling F D] in
/-- A loss within the budget leaves the quantity as it was sized. -/
theorem decisionFields_quantity {g : Gates F} {quantity : F}
    (h : ¬g.lossBudget + PyFloat.lit (1 / 1000000)
      < (economics quantity x.review.intent.exitPlan.stopPrice
        (worstEntry x.review.intent x.venue) x.review.intent.side x.venue).worstLoss) :
    (p.decisionFields x g [] quantity).quantity = quantity := by
  show (if List.isEmpty ([] ++ reasonIf _ _) = true then quantity else PyFloat.lit 0) = quantity
  rw [reasonIf_eq_nil.mpr (decide_eq_false h)]
  rfl

/-- `evaluate` returns an approval exactly when the call is well formed, sizing
gave no reason, the loss fits, and the contract constructs the decision. -/
theorem evaluate_approved_iff : p.evaluate x = .ok d ∧ d.approved = true ↔
    0 ≤ x.decidedAtMs ∧ x.venue.profile = .dev ∧
    (∀ reason ∈ x.admissionRejectionReasons, isNormalized reason = true) ∧
    ∃ quantity, p.size x (p.gates x) = .ok ([], quantity) ∧
      ¬(p.gates x).lossBudget + PyFloat.lit (1 / 1000000)
        < (economics quantity x.review.intent.exitPlan.stopPrice
          (worstEntry x.review.intent x.venue) x.review.intent.side x.venue).worstLoss ∧
      p.core.riskTradeDecisionV1 (p.decisionFields x (p.gates x) [] quantity) = .ok d := by
  constructor
  · rintro ⟨h, ha⟩
    have hreasons := (evaluate_decidesOn h).approved_iff.mp ha
    unfold evaluate at h
    obtain ⟨hclock, h⟩ := ok_of_raiseIf h
    obtain ⟨hprofile, h⟩ := ok_of_raiseIf h
    obtain ⟨hnormalized, h⟩ := ok_of_raiseIf h
    obtain ⟨⟨reasons, quantity⟩, hsize, h⟩ := ok_of_bind h
    rw [(KairosCore.riskTradeDecisionV1_ok h).1] at hreasons
    obtain ⟨hnil, hloss⟩ := List.append_eq_nil_iff.mp hreasons
    subst hnil
    refine ⟨?_, by simpa using hprofile, by simpa using hnormalized, quantity, hsize, ?_, h⟩
    · exact Int.not_lt.mp (of_decide_eq_false hclock)
    · exact of_decide_eq_false (reasonIf_eq_nil.mp hloss)
  · rintro ⟨hclock, hprofile, hnormalized, quantity, hsize, hloss, hbuilt⟩
    constructor
    · unfold evaluate
      rw [raiseIf_bind (decide_eq_false (Int.not_lt.mpr hclock)), raiseIf_ne_bind hprofile,
        raiseIf_bind (by simpa using hnormalized)]
      dsimp only
      rw [hsize, ok_bind]
      exact hbuilt
    · rw [(KairosCore.riskTradeDecisionV1_ok hbuilt).1]
      show List.isEmpty ([] ++ reasonIf _ _) = true
      rw [reasonIf_eq_nil.mpr (decide_eq_false hloss)]
      rfl

/-- What an approval was sized to, and its budget. -/
theorem approved_sized (h : p.evaluate x = .ok d) (ha : d.approved = true) :
    ∃ quantity, p.size x (p.gates x) = .ok ([], quantity) ∧
      ¬(p.gates x).lossBudget + PyFloat.lit (1 / 1000000)
        < (economics quantity x.review.intent.exitPlan.stopPrice
          (worstEntry x.review.intent x.venue) x.review.intent.side x.venue).worstLoss ∧
      d.quantity = quantity ∧ d.notionalUsd = quantity * worstEntry x.review.intent x.venue ∧
      d.lossBudgetUsd = (p.gates x).lossBudget := by
  obtain ⟨_, _, _, quantity, hsize, hloss, hbuilt⟩ := evaluate_approved_iff.mp ⟨h, ha⟩
  have hfields := (KairosCore.riskTradeDecisionV1_ok hbuilt).1
  have hquantity : d.quantity = quantity := by
    rw [hfields]
    exact decisionFields_quantity hloss
  have hnotional : d.notionalUsd = d.quantity * worstEntry x.review.intent x.venue := by
    rw [hfields]
    rfl
  refine ⟨quantity, hsize, hloss, hquantity, ?_, ?_⟩
  · rw [hnotional, hquantity]
  · rw [hfields]
    rfl

end Returned

/-! ## What "no gate fired" says -/

section Gates

variable {p : PaperRiskPipeline F D} {x : PaperInputs F}

/-- The gates are silent exactly when each stage is. -/
theorem gates_silent_iff : (p.gates x).reasons = [] ↔
    x.admissionRejectionReasons.eraseDups = [] ∧ p.reviewReasons x = [] ∧
    (p.accountGate x.account x.venue.symbol x.review.intent.strategyId x.decidedAtMs
      x.reservations).1 = [] ∧
    (p.selectedAllocationGate x).1 = [] ∧
    geometryReasons x.review.intent (worstEntry x.review.intent x.venue) = [] ∧
    (p.budget x.reservations (p.gates x).accountMetrics (p.gates x).allocationMetrics).reasons
      = [] := by
  unfold gates
  simp only [List.append_eq_nil_iff, and_assoc]

/-- The stages of `gates`, each without a reason. -/
theorem gates_reasons_eq_nil (h : (p.gates x).reasons = []) :
    x.admissionRejectionReasons.eraseDups = [] ∧ p.reviewReasons x = [] ∧
    (p.accountGate x.account x.venue.symbol x.review.intent.strategyId x.decidedAtMs
      x.reservations).1 = [] ∧
    (p.selectedAllocationGate x).1 = [] ∧
    (p.budget x.reservations (p.gates x).accountMetrics (p.gates x).allocationMetrics).reasons
      = [] := by
  obtain ⟨hadmission, hreview, haccount, hallocation, _, hbudget⟩ := gates_silent_iff.mp h
  exact ⟨hadmission, hreview, haccount, hallocation, hbudget⟩

/-- Nobody outside the pipeline objected. -/
theorem gates_admission (h : (p.gates x).reasons = []) : x.admissionRejectionReasons = [] := by
  have hdups := (gates_reasons_eq_nil h).1
  cases hl : x.admissionRejectionReasons with
  | nil => rfl
  | cons reason rest =>
    rw [hl, List.eraseDups_cons] at hdups
    cases hdups

omit [DecidableEq F] in
/-- The account gate was given a snapshot and found nothing against it. -/
theorem accountGate_eq_nil {account : Option (AccountSnapshotV2 F)}
    {venueSymbol strategyId : String} {decidedAtMs : Int} {reservations : PaperReservations F}
    (h : (p.accountGate account venueSymbol strategyId decidedAtMs reservations).1 = []) :
    ∃ a, account = some a ∧ p.accountScopeReasons a decidedAtMs = [] ∧
      exclusivityReasons a venueSymbol strategyId reservations = [] ∧
      p.riskLimitReasons a reservations = [] := by
  cases account with
  | none => cases h
  | some a =>
    simp only [accountGate, List.append_eq_nil_iff] at h
    obtain ⟨⟨⟨hscope, hexclusive⟩, hrisk⟩, _⟩ := h
    exact ⟨a, rfl, hscope, hexclusive, hrisk⟩

omit [PyFloat F] [DecidableEq F] in
/-- The venue's symbol is free of reservations, positions and orders, and a
canary is the only one. -/
theorem exclusivityReasons_eq_nil_iff {account : AccountSnapshotV2 F}
    {venueSymbol strategyId : String} {reservations : PaperReservations F} :
    exclusivityReasons account venueSymbol strategyId reservations = []
      ↔ venueSymbol ∉ reservations.symbols ∧
        (∀ q ∈ account.positions, q.venueSymbol ≠ venueSymbol) ∧
        (∀ o ∈ account.openOrders, o.venueSymbol ≠ venueSymbol) ∧
        (strategyId = paperCanaryStrategyId →
          ((activeCanaryTradeIds account).length : Int) + reservations.activeCanaryIdeas < 1) := by
  have hcanary : (strategyId == paperCanaryStrategyId
      && decide (1 ≤ (activeCanaryTradeIds account).length + reservations.activeCanaryIdeas))
      = false
      ↔ (strategyId = paperCanaryStrategyId →
        ((activeCanaryTradeIds account).length : Int) + reservations.activeCanaryIdeas < 1) := by
    rw [Bool.and_eq_false_imp, beq_iff_eq]
    simp only [decide_eq_false_iff_not, Int.not_le]
  simp only [exclusivityReasons, List.append_eq_nil_iff, reasonIf_eq_nil, hcanary, and_assoc]
  refine and_congr (by simp) (and_congr (by simp) (and_congr (by simp) Iff.rfl))

omit [DecidableEq F] in
/-- The snapshot is no older than the settings allow and not from the future. -/
theorem accountScopeReasons_age {account : AccountSnapshotV2 F} {decidedAtMs : Int}
    (h : p.accountScopeReasons account decidedAtMs = []) :
    0 ≤ decidedAtMs - account.capturedAtMs ∧
    PyFloat.intGt (decidedAtMs - account.capturedAtMs)
      (p.settings.paperAccountSnapshotMaxAgeS * PyFloat.lit 1000) = false := by
  simp only [accountScopeReasons, List.append_eq_nil_iff] at h
  obtain ⟨_, hage⟩ := h
  split at hage
  next => cases hage
  next hnonneg => exact ⟨by omega, reasonIf_eq_nil.mp hage⟩

omit [DecidableEq F] in
/-- An allocation gate without a reason has metrics. -/
theorem allocationGate_metrics {allocation : Option (StrategicAllocation F)} {strategyId : String}
    {side : Side} {decidedAtMs : Int} {legacy : Bool}
    (h : (p.allocationGate allocation strategyId side decidedAtMs legacy).1 = []) :
    ∃ m, (p.allocationGate allocation strategyId side decidedAtMs legacy).2 = some m := by
  cases allocation with
  | none => cases h
  | some allocation => exact ⟨_, rfl⟩

theorem selectedAllocationGate_metrics (h : (p.selectedAllocationGate x).1 = []) :
    ∃ m, (p.selectedAllocationGate x).2 = some m := by
  unfold selectedAllocationGate at h ⊢
  by_cases ha : p.adaptive x.review.intent = true
  · rw [if_pos ha] at h ⊢
    unfold adaptiveAllocationGate at h ⊢
    split at h
    next => cases h
    next binding hbinding =>
      split at h
      next hadmits =>
        rw [if_pos hadmits]
        exact allocationGate_metrics h
      next => cases h
  · rw [if_neg ha] at h ⊢
    exact allocationGate_metrics h

/-- An account has metrics, with its own equity and open risk. -/
theorem gates_accountMetrics {account : AccountSnapshotV2 F} (hacc : x.account = some account) :
    ∃ m, (p.gates x).accountMetrics = some m ∧ m.equityUsd = account.equityUsd ∧
      m.totalOpenRiskUsd = account.totalOpenRiskUsd := by
  unfold gates accountGate
  rw [hacc]
  exact ⟨_, rfl, rfl, rfl⟩

/-- Silent gates have the metrics sizing asks for. -/
theorem gates_metrics (h : (p.gates x).reasons = []) :
    ∃ account allocation, (p.gates x).accountMetrics = some account ∧
      (p.gates x).allocationMetrics = some allocation := by
  obtain ⟨_, _, haccount, hallocation, _⟩ := gates_reasons_eq_nil h
  obtain ⟨a, hacc, _⟩ := accountGate_eq_nil haccount
  obtain ⟨allocation, hal⟩ := selectedAllocationGate_metrics hallocation
  obtain ⟨account, ham, _⟩ := gates_accountMetrics (p := p) hacc
  exact ⟨account, allocation, ham, hal⟩

/-- The loss budget an approval was sized with. -/
theorem gates_lossBudget (h : (p.gates x).reasons = []) :
    ∃ account, x.account = some account ∧
      (p.gates x).lossBudget =
        PyFloat.min (account.equityUsd * p.settings.paperPerTradeRiskFraction)
          [PyFloat.max (PyFloat.lit 0)
            [account.equityUsd * p.settings.paperMaxTotalOpenRiskFraction
              - account.totalOpenRiskUsd - x.reservations.openRiskUsd]] ∧
      ¬(p.gates x).lossBudget ≤ PyFloat.lit 0 := by
  obtain ⟨_, _, haccount, hallocation, hbudget⟩ := gates_reasons_eq_nil h
  obtain ⟨account, hacc, _⟩ := accountGate_eq_nil haccount
  obtain ⟨m, hm⟩ := selectedAllocationGate_metrics hallocation
  have hmetrics : (p.gates x).allocationMetrics = some m := hm
  have hgates : (p.gates x).lossBudget =
      (p.budget x.reservations (p.gates x).accountMetrics
        (p.gates x).allocationMetrics).lossBudget :=
    rfl
  obtain ⟨am, ham, hequity, htotal⟩ := gates_accountMetrics (p := p) hacc
  rw [hmetrics, ham] at hgates hbudget
  have hlossBudget : (p.gates x).lossBudget =
      PyFloat.min (account.equityUsd * p.settings.paperPerTradeRiskFraction)
        [PyFloat.max (PyFloat.lit 0)
          [account.equityUsd * p.settings.paperMaxTotalOpenRiskFraction
            - account.totalOpenRiskUsd - x.reservations.openRiskUsd]] := by
    rw [hgates, ← hequity, ← htotal]
    rfl
  refine ⟨account, hacc, hlossBudget, ?_⟩
  obtain ⟨hpositive, _⟩ := List.append_eq_nil_iff.mp hbudget
  rw [hgates]
  exact of_decide_eq_false (reasonIf_eq_nil.mp hpositive)

end Gates

end PaperRiskPipeline

end KairosRisk
