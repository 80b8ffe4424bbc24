import KairosRisk.CanaryAuthorization
import KairosRisk.Lib.Decimal
import KairosRisk.Strategy

/-!
# The manually armed, deterministic technical canary

`prepare_canary` checks the latest durable facts and builds the two messages of
one canary from them: the review that carries the intent, and the allocation
bound to it. Nothing is read back here; what the builder wrote is checked by
`validate_canary_binding` before the arm and after it.

Decimals are exact. A plan and an instrument rule are ones that passed their
own `__post_init__`.
-/

namespace KairosRisk

open PyLib

/-! ## What the contracts package is given -/

/-- What the program passes to the `StrategyIntentV1` constructor. -/
structure StrategyIntentFields (F : Type) where
  source : String
  strategyId : String
  strategyRevision : String
  symbol : String
  side : Side
  decisionTsMs : Int
  entryEligibleTsMs : Int
  entryExpiresTsMs : Int
  referencePrice : F
  signalStrength : F
  grossRewardBps : F
  exitPlan : ExitPlanV1 F
  provenance : StrategyProvenanceV1
  evidence : List EvidenceReferenceV1
  metadata : List (String × String)
  deriving DecidableEq

/-- What the program passes to the `CandidateReviewV1` constructor. -/
structure CandidateReviewFields (F : Type) where
  source : String
  route : CandidateRouteV1 F
  intent : StrategyIntentV1 F
  decision : ReviewDecision
  priority : Int
  reviewedAtMs : Int
  reviewer : String
  reasonCodes : List String
  evidence : List EvidenceReferenceV1

/-- What the program passes to the `StrategicAllocation` constructor. -/
structure StrategicAllocationFields (F : Type) where
  source : String
  messageId : String
  correlationId : Option String
  causationId : Option String
  producedAt : DateTime
  regime : MarketRegime
  stableReservePct : F
  strategyWeights : List (String × F)
  maxGrossLeverage : F
  triggeredBy : StrategicTrigger
  rationale : String

/-- The intent that keeps these fields, under one canonical id. -/
def StrategyIntentFields.intent {F : Type} (f : StrategyIntentFields F)
    (contractVersion id : String) : StrategyIntentV1 F :=
  { f with messageId := id, intentId := some id, contractVersion, intentId_isSome := rfl }

/-- The review that keeps these fields, under one canonical id. -/
def CandidateReviewFields.review {F : Type} (f : CandidateReviewFields F) (id : String) :
    CandidateReviewV1 F :=
  { f with messageId := id, reviewId := some id, modelProvenance := none, reviewId_isSome := rfl }

/-- The allocation that keeps these fields, at the default schema version. -/
def StrategicAllocationFields.allocation {F : Type} (f : StrategicAllocationFields F) :
    StrategicAllocation F :=
  { f with schemaVersion := "1.0" }

/-- The contracts package and the interpreter, as far as a canary asks them.
A constructor gives `none` where the strict contract refuses. -/
structure CanaryCore (F : Type) extends KairosCore F where
  /-- `StrategyIntentV1(...)`. -/
  strategyIntentV1 : StrategyIntentFields F → Option (StrategyIntentV1 F)
  /-- `CandidateRouteV1(...)` of the values a route is given. -/
  candidateRouteV1 : CandidateRouteV1 F → Option (CandidateRouteV1 F)
  /-- `CandidateReviewV1(...)`. -/
  candidateReviewV1 : CandidateReviewFields F → Option (CandidateReviewV1 F)
  /-- `StrategicAllocation(...)`. -/
  strategicAllocation : StrategicAllocationFields F → Option (StrategicAllocation F)
  /-- `datetime_from_unix_ms`. -/
  datetimeFromUnixMs : Int → Option DateTime
  /-- `datetime.fromtimestamp(seconds, tz=UTC)`. -/
  fromTimestamp : F → Option DateTime
  /-- `str(v)` of a decimal. -/
  decimalText : Rat → String
  /-- `_strategy_code_sha256()`. -/
  strategyCodeSha256 : String

/-- What the program relies on of the contracts package. -/
structure CanaryCore.Contract {F : Type} [PyFloat F] (core : CanaryCore F) : Prop where
  /-- An intent keeps what it was given; its message id is its canonical id. -/
  intent : ∀ f intent, core.strategyIntentV1 f = some intent →
    ∃ contractVersion id, intent = f.intent contractVersion id
  /-- A route keeps what it was given, and stores its evidence ids sorted. -/
  route : ∀ f route, core.candidateRouteV1 f = some route →
    route = { f with evidenceIds := sortedNames f.evidenceIds }
  /-- A review keeps what it was given; its message id is its canonical id. -/
  review : ∀ f review, core.candidateReviewV1 f = some review → ∃ id, review = f.review id
  /-- An allocation keeps what it was given. -/
  allocation : ∀ f allocation, core.strategicAllocation f = some allocation →
    allocation = f.allocation
  /-- A millisecond timestamp survives the round trip through a datetime. -/
  datetime : ∀ ms at', core.datetimeFromUnixMs ms = some at' →
    at'.aware = true ∧ at'.epochMs F = ms

/-- A constructor's result, or its validation error. -/
def orInvalid {α : Type} (contract : String) : Option α → Except PyError α
  | some a => .ok a
  | none => .error (.valueError (contract ++ " validation failed"))

theorem orInvalid_ok {α : Type} {contract : String} {x : Option α} {a : α}
    (h : orInvalid contract x = .ok a) : x = some a := by
  cases x with
  | none => cases h
  | some b =>
    cases h
    rfl

/-! ## Plans, facts and messages -/

section Plan

variable {F : Type} [PyFloat F]

/-- `CANARY_STRATEGY_REF`. -/
def canaryStrategyRef : String := paperCanaryStrategyId ++ "@" ++ canaryStrategyRevision

/-- The fields of a `CanaryPlan`. -/
structure CanaryPlanFields (F : Type) where
  symbol : String
  side : Side
  stopDistanceBps : F
  targetDistanceBps : F
  maxHoldingMs : Int
  entryWindowMs : Int

/-- `CanaryPlan.__post_init__`. -/
def CanaryPlanFields.postInit (core : KairosCore F) (plan : CanaryPlanFields F) :
    Except PyError Unit := do
  let symbol := core.upper (strip plan.symbol)
  raiseIf (plan.symbol ≠ symbol || (paperDevSymbol symbol).isNone)
    "symbol must be one of BTCUSDT, ETHUSDT, SOLUSDT, BNBUSDT, XRPUSDT"
  raiseIf (plan.side = .flat) "technical canary side must be LONG or SHORT"
  raiseIf (!PyFloat.isFinite plan.stopDistanceBps) "stop_distance_bps must be a finite number"
  raiseIf (!PyFloat.isFinite plan.targetDistanceBps) "target_distance_bps must be a finite number"
  raiseIf (!(decide (PyFloat.lit 25 ≤ plan.stopDistanceBps)
      && decide (plan.stopDistanceBps ≤ PyFloat.lit 100)))
    "stop distance must be in [25, 100] bps"
  raiseIf (!(decide (PyFloat.lit 25 ≤ plan.targetDistanceBps)
      && decide (plan.targetDistanceBps ≤ PyFloat.lit 150)))
    "target distance must be in [25, 150] bps"
  raiseIf (decide (plan.stopDistanceBps * PyFloat.lit 2 < plan.targetDistanceBps))
    "target distance cannot exceed 2x the bounded stop distance"
  raiseIf (!(decide (60000 ≤ plan.maxHoldingMs) && decide (plan.maxHoldingMs ≤ 15 * 60000)))
    "holding timeout must be between 60 and 900 seconds"
  raiseIf (!(decide (5000 ≤ plan.entryWindowMs) && decide (plan.entryWindowMs ≤ 30000)))
    "entry window must be between 5 and 30 seconds"

/-- `CanaryPlan`: the bounded lifecycle of one technical candidate. -/
structure CanaryPlan (core : KairosCore F) extends CanaryPlanFields F where
  valid : toCanaryPlanFields.postInit core = .ok ()

/-- A plan is for a symbol that has an EVEDEX DEV instrument. -/
theorem CanaryPlan.symbol_mapped {core : KairosCore F} (plan : CanaryPlan core) :
    (paperDevSymbol plan.symbol).isSome = true := by
  have h := plan.valid
  unfold CanaryPlanFields.postInit at h
  obtain ⟨hsymbol, _⟩ := ok_of_raiseIf h
  rw [Bool.or_eq_false_iff] at hsymbol
  have hsame : plan.symbol = core.upper (strip plan.symbol) := by simpa using hsymbol.1
  rw [← hsame] at hsymbol
  cases hmapped : paperDevSymbol plan.symbol with
  | none =>
    rw [hmapped] at hsymbol
    exact absurd hsymbol.2 (by decide)
  | some _ => rfl

/-- `PAPER_DEV_SYMBOL_MAP[plan.symbol]`. -/
def CanaryPlan.venueSymbol {core : KairosCore F} (plan : CanaryPlan core) : String :=
  (paperDevSymbol plan.symbol).get plan.symbol_mapped

/-- `identity_payload`. -/
def CanaryPlanFields.identityPayload (plan : CanaryPlanFields F) :
    List (String × PayloadValue F) :=
  [("entry_window_ms", .int plan.entryWindowMs), ("max_holding_ms", .int plan.maxHoldingMs),
    ("side", .text plan.side.value), ("stop_distance_bps", .number plan.stopDistanceBps),
    ("strategy_ref", .text canaryStrategyRef), ("symbol", .text plan.symbol),
    ("target_distance_bps", .number plan.targetDistanceBps)]

/-- An instrument rule as it is loaded: valid, and of finite decimals. -/
structure InstrumentRule (core : KairosCore F) extends EvedexDevInstrumentRule Rat where
  valid : toEvedexDevInstrumentRule.postInit core = .ok ()
  decimals : ∀ v ∈ toEvedexDevInstrumentRule.figures, IsDecimal v

/-- `CanaryInputs`: the latest durable facts at one preflight boundary. -/
structure CanaryInputs (core : KairosCore F) where
  bar : ClosedBarEventV1 F
  venue : VenueQualityV1 F
  account : AccountSnapshotV2 F
  instrument : InstrumentRule core
  currentAllocation : Option (StrategicAllocation F)
  activeReservationIds : List String

/-- `PreparedCanary`: the two deterministic messages and the readiness beside them. -/
structure PreparedCanary (F : Type) where
  allocation : StrategicAllocation F
  review : CandidateReviewV1 F
  currentAllocationReady : Bool
  currentAllocationReason : String

/-- The worst entry price of a side: what a marketable order pays first. -/
def canaryWorstEntry (side : Side) (venue : VenueQualityV1 F) : F :=
  if side = .long then venue.bestAsk else venue.bestBid

end Plan

/-! ## `prepare_canary` -/

section Prepare

variable {F : Type} [PyFloat F] [Spelling F Rat]

/-- `raise CanaryPreflightError(message)` when the test holds. -/
def preflightIf (test : Bool) (message : String) : Except PyError Unit :=
  if test then .error (.runtimeError message) else .ok ()

/-- Facts that were prepared from passed their first check. -/
theorem ok_of_preflightIf {β : Type} {test : Bool} {message : String} {f : Unit → Except PyError β}
    {b : β} (h : (preflightIf test message >>= f) = .ok b) : test = false ∧ f () = .ok b := by
  cases test with
  | true => cases h
  | false => exact ⟨rfl, h⟩

/-- `_validate_inputs`. -/
def validateInputs {core : KairosCore F} (plan : CanaryPlan core) (inputs : CanaryInputs core)
    (accountId : String) (nowMs accountMaxAgeMs : Int) : Except PyError Unit := do
  let bar := inputs.bar
  preflightIf (bar.symbol ≠ plan.symbol) "latest closed bar belongs to a different signal symbol"
  let eligibleAtMs := bar.closeTimeMs + 1
  let expiresAtMs := eligibleAtMs + plan.entryWindowMs
  preflightIf (decide (nowMs ≤ bar.closeTimeMs))
    "current clock has not advanced past the selected closed bar"
  -- the clock is past the close, so this holds already
  preflightIf (decide (nowMs < eligibleAtMs)) "NEXT_BAR_MARKET entry is not yet eligible"
  preflightIf (decide (expiresAtMs ≤ nowMs))
    "latest closed bar is stale for the bounded canary entry window"
  let venue := inputs.venue
  preflightIf (venue.profile ≠ .dev || venue.symbol ≠ plan.venueSymbol)
    "venue quality is not the exact mapped EVEDEX DEV instrument"
  preflightIf (decide (nowMs < venue.observedAtMs)) "venue quality observation is from the future"
  preflightIf (decide (venue.expiresAtMs - nowMs < 1000))
    "venue quality is stale or has insufficient remaining TTL"
  preflightIf (!venue.entryAllowed) "venue quality gate does not allow entry"
  let account := inputs.account
  preflightIf (account.tradingMode ≠ .paper || account.evedexProfile ≠ .dev
      || account.accountId ≠ accountId)
    "account snapshot is not authoritative for the dedicated PAPER/DEV account"
  preflightIf (!account.reconciled || decide (account.reconciliationSeq ≤ 0))
    "account snapshot is not a completed authoritative reconciliation"
  let accountAgeMs := nowMs - account.capturedAtMs
  preflightIf (decide (accountAgeMs < 0)) "account snapshot is from the future"
  preflightIf (decide (accountMaxAgeMs < accountAgeMs)) "account snapshot is stale"
  preflightIf (account.positions.any fun position =>
      position.strategyId == paperCanaryStrategyId || position.venueSymbol == plan.venueSymbol)
    "an active canary or same-symbol position already exists"
  preflightIf (account.openOrders.any fun order =>
      order.strategyId == paperCanaryStrategyId || order.venueSymbol == plan.venueSymbol)
    "an active canary or same-symbol open order already exists"
  preflightIf (!inputs.activeReservationIds.isEmpty)
    "another durable technical-canary approval is still reserved"
  let instrument := inputs.instrument
  preflightIf (instrument.venueSymbol ≠ plan.venueSymbol)
    "instrument rule belongs to a different EVEDEX DEV instrument"
  let fetchAgeMs := nowMs - instrument.fetchedAtMs
  preflightIf (decide (fetchAgeMs < -2000)) "instrument rule fetch time is from the future"
  preflightIf (decide (5000 < fetchAgeMs)) "instrument rule fetch is stale"
  preflightIf (decide (nowMs + 2000 < instrument.updatedAtMs))
    "instrument rule update time is from the future"

/-- `v.quantize(Decimal("0.00000001"), rounding=ROUND_HALF_EVEN)`. -/
def quantizePrice (v : Rat) : Rat := (Decimal.roundHalfEven (v * 10 ^ 8) : Rat) / 10 ^ 8

/-- The stop and target prices of a plan around a reference price. -/
def exitPrices (plan : CanaryPlanFields F) (reference : Rat) : Rat × Rat :=
  let stopFraction := Spelling.spell plan.stopDistanceBps / 10000
  let targetFraction := Spelling.spell plan.targetDistanceBps / 10000
  if plan.side = .long then (reference * (1 - stopFraction), reference * (1 + targetFraction))
  else (reference * (1 + stopFraction), reference * (1 - targetFraction))

/-- `BINANCE_UM:{bar.symbol}:{bar.open_time_ms}`. -/
def barReference (bar : ClosedBarEventV1 F) : Except PyError String := do
  let openTime ← intText bar.openTimeMs
  return "BINANCE_UM:" ++ bar.symbol ++ ":" ++ openTime

/-- `bar.bar_sha256`, which strict validation always assigns. -/
def closedBarSha256 (bar : ClosedBarEventV1 F) : Except PyError String :=
  match bar.barSha256 with
  | none => .error (.runtimeError "closed bar has no canonical SHA-256")
  | some hash => .ok hash

/-- `_build_intent`. -/
def buildIntent (core : CanaryCore F) (plan : CanaryPlan core.toKairosCore)
    (bar : ClosedBarEventV1 F) (venue : VenueQualityV1 F)
    (instrument : InstrumentRule core.toKairosCore) (accountId : String) :
    Except PyError (StrategyIntentV1 F) := do
  let reference : Rat := Spelling.spell bar.close
  let exits := exitPrices plan.toCanaryPlanFields reference
  -- the prices leave exact arithmetic here; the quantity never does
  let stopPrice : F := Spelling.toFloat (quantizePrice exits.1)
  let targetPrice : F := Spelling.toFloat (quantizePrice exits.2)
  let referencePrice : F := Spelling.toFloat reference
  let grossRewardBps :=
    PyFloat.abs (targetPrice - referencePrice) / referencePrice * PyFloat.lit 10000
  let barHash ← closedBarSha256 bar
  let rule := instrument.toEvedexDevInstrumentRule
  let canaryQuantity ← rule.effectiveMinQuantity (Spelling.spell (canaryWorstEntry plan.side venue))
  let features : List (String × PayloadValue F) :=
    [("canary_quantity", .text (core.decimalText canaryQuantity)),
      ("gross_reward_bps", .number grossRewardBps),
      ("instrument_rules_sha256", .text (rule.rulesSha256 core.toKairosCore)),
      ("reference_price", .number referencePrice), ("side", .text plan.side.value),
      ("stop_price", .number stopPrice), ("target_price", .number targetPrice)]
  let reference ← barReference bar
  let metadata ← rule.metadata core.toKairosCore canaryQuantity
  orInvalid "StrategyIntentV1" (core.strategyIntentV1
    { source := canarySource
      strategyId := paperCanaryStrategyId
      strategyRevision := canaryStrategyRevision
      symbol := bar.symbol
      side := plan.side
      decisionTsMs := bar.closeTimeMs
      entryEligibleTsMs := bar.closeTimeMs + 1
      entryExpiresTsMs := bar.closeTimeMs + 1 + plan.entryWindowMs
      referencePrice
      signalStrength := PyFloat.lit 0
      grossRewardBps
      exitPlan := { stopPrice, targetPrice, maxHoldingMs := plan.maxHoldingMs }
      provenance :=
        { strategyCodeSha256 := core.strategyCodeSha256
          configSha256 := core.canonicalSha256 plan.identityPayload
          inputWindowSha256 := core.canonicalSha256 [("bar_sha256s", .texts [barHash])]
          featuresSha256 := core.canonicalSha256 features
          inputBarSha256s := [barHash] }
      evidence :=
        [{ kind := "closed_bar", reference, contentSha256 := some barHash
           observedAtMs := bar.closeTimeMs },
          rule.evidence core.toKairosCore]
      metadata := [("account_id", accountId), ("alpha_claim", "false"),
        ("entry_policy", "NEXT_BAR_MARKET"), ("purpose", "technical_execution_canary")]
          ++ metadata })

/-- `_validate_executable_geometry`. -/
def validateExecutableGeometry (intent : StrategyIntentV1 F) (venue : VenueQualityV1 F) :
    Except PyError Unit := do
  let exits := intent.exitPlan
  preflightIf (intent.side = .long && !(decide (exits.stopPrice < venue.bestAsk)
      && decide (venue.bestAsk < exits.targetPrice)))
    "LONG stop/target do not protect the current EVEDEX worst entry"
  preflightIf (intent.side = .short && !(decide (exits.targetPrice < venue.bestBid)
      && decide (venue.bestBid < exits.stopPrice)))
    "SHORT stop/target do not protect the current EVEDEX worst entry"

/-- What `_build_canary_allocation` passes to the `StrategicAllocation` constructor. -/
def preparedAllocation (core : CanaryCore F) (intent : StrategyIntentV1 F)
    (plan : CanaryPlan core.toKairosCore) (producedAt : DateTime) : StrategicAllocationFields F :=
  let regime := if plan.side = .long then MarketRegime.bull else MarketRegime.bear
  let stableReservePct : F := PyFloat.lit 1 - PyFloat.lit canaryAllocationWeight
  let strategyWeights : List (String × F) :=
    [(paperCanaryStrategyId, PyFloat.lit canaryAllocationWeight)]
  let identity : List (String × PayloadValue F) :=
    [("causation_id", .text intent.messageId),
      ("contract_version", .text "technical-canary-allocation.v1"),
      ("correlation_id", .ofOption intent.intentId),
      ("max_gross_leverage", .number (PyFloat.lit 1)),
      ("produced_at_ms", .int intent.entryEligibleTsMs),
      ("regime", .text regime.value),
      ("rationale", .text canaryAllocationRationale),
      ("schema_version", .text "1.0"),
      ("source", .text canarySource),
      ("stable_reserve_pct", .number stableReservePct),
      ("strategy_weights", .weights strategyWeights),
      ("triggered_by", .text StrategicTrigger.schedule.value)]
  { source := canarySource
    messageId := core.canonicalSha256 identity
    correlationId := intent.intentId
    causationId := some intent.messageId
    producedAt
    regime
    stableReservePct
    strategyWeights
    maxGrossLeverage := PyFloat.lit 1
    triggeredBy := .schedule
    rationale := canaryAllocationRationale }

/-- `_build_canary_allocation`. -/
def buildCanaryAllocation (core : CanaryCore F) (intent : StrategyIntentV1 F)
    (plan : CanaryPlan core.toKairosCore) : Except PyError (StrategicAllocation F) := do
  let producedAt ← orInvalid "datetime" (core.datetimeFromUnixMs intent.entryEligibleTsMs)
  orInvalid "StrategicAllocation"
    (core.strategicAllocation (preparedAllocation core intent plan producedAt))

/-- `_allocation_status`: whether the current allocation would permit the
canary by itself, and why not. -/
def allocationStatus (core : CanaryCore F) (allocation : Option (StrategicAllocation F))
    (plan : CanaryPlan core.toKairosCore) (nowMs : Int) (maxAgeS : F) :
    Except PyError (Bool × String) := do
  match allocation with
  | none =>
    return (false, "missing; an armed review will carry a bound deterministic canary allocation")
  | some allocation =>
    match allocationError allocation with
    | some invalid => return (false, invalid)
    | none =>
      -- a true division, so the milliseconds stay
      let now ← orInvalid "datetime" (core.fromTimestamp (PyFloat.lit (nowMs / 1000 : Rat)))
      if !isFresh allocation maxAgeS now then return (false, "stale")
      let weight :=
        (allocation.strategyWeights.lookup paperCanaryStrategyId).getD (PyFloat.lit 0)
      if weight ≤ PyFloat.lit 0 then return (false, "technical-canary has no positive weight")
      if PyFloat.lit 1 < allocation.maxGrossLeverage then
        return (false, "current allocation exceeds 1x canary leverage")
      if allocation.regime = .chop then return (false, "CHOP blocks canary entry")
      if allocation.regime = .bear ∧ plan.side = .long then return (false, "BEAR blocks LONG")
      if allocation.regime = .bull ∧ plan.side = .short then return (false, "BULL blocks SHORT")
      return (true, "current allocation already permits this canary")

/-- What `prepare_canary` passes to the `CandidateRouteV1` constructor. -/
def preparedRoute (bar : ClosedBarEventV1 F) (intent : StrategyIntentV1 F) :
    CandidateRouteV1 F where
  source := canarySource
  intent := intent
  reviewTier := .normal
  requestedReasoningEffort := .medium
  routedAtMs := bar.closeTimeMs
  reviewDeadlineMs := intent.entryExpiresTsMs
  evidenceIds := intent.evidence.filterMap fun item => item.contentSha256

/-- What `prepare_canary` passes to the `CandidateReviewV1` constructor. -/
def preparedReview (intent : StrategyIntentV1 F) (route : CandidateRouteV1 F) :
    CandidateReviewFields F where
  source := canarySource
  route := route
  intent := intent
  decision := .allow
  priority := 0
  reviewedAtMs := intent.entryEligibleTsMs
  reviewer := "DETERMINISTIC"
  reasonCodes := ["TECHNICAL_CANARY_MANUAL_POLICY"]
  evidence := intent.evidence

/-- `prepare_canary`: the facts are validated and the two messages are built. -/
def prepareCanary (core : CanaryCore F) (plan : CanaryPlan core.toKairosCore)
    (inputs : CanaryInputs core.toKairosCore) (accountId : String) (nowMs accountMaxAgeMs : Int)
    (allocationMaxAgeS : F) : Except PyError (PreparedCanary F) := do
  raiseIf (decide (nowMs < 0)) "now_ms must be a non-negative integer"
  validateInputs plan inputs accountId nowMs accountMaxAgeMs
  let intent ← buildIntent core plan inputs.bar inputs.venue inputs.instrument accountId
  validateExecutableGeometry intent inputs.venue
  let route ← orInvalid "CandidateRouteV1" (core.candidateRouteV1 (preparedRoute inputs.bar intent))
  let review ← orInvalid "CandidateReviewV1" (core.candidateReviewV1 (preparedReview intent route))
  let allocation ← buildCanaryAllocation core intent plan
  -- reported beside the messages; it does not decide whether they are built
  let (ready, reason) ←
    allocationStatus core inputs.currentAllocation plan nowMs allocationMaxAgeS
  return { allocation, review, currentAllocationReady := ready, currentAllocationReason := reason }

end Prepare

end KairosRisk
