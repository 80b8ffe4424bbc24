import KairosRisk.LiveContracts
import KairosRisk.Paper

/-!
# The opt-in LIVE risk evaluator

`LiveRiskEvaluator.evaluate` decides from what registered verifiers vouch for.
It runs in four stages, each a function of the call's arguments: verify the
upstream inputs, verify the account, collect what the gates say against the
trade, and (without a reason so far) size it in decimals. A verifier may
return anything or raise; `none` is a call that raised, or whose result has no
dump of the model's shape. Whatever goes wrong while verifying leaves nothing
verified and one reason.

Decimal arithmetic that signals is a value of the sizing stage
(`sizing_numeric_invalid`), but leaves `evaluate` as an exception where the
source has no `try` around it.
-/

namespace KairosRisk

open PyLib PaperRiskPipeline

/-- `_MAX_ACCOUNT_AGE_MS`. -/
def maxAccountAgeMs : Int := 5000

/-- `_MAX_VENUE_AGE_MS`. -/
def maxVenueAgeMs : Int := 2000

/-- `_MAX_ALLOCATION_AGE_MS`. -/
def maxAllocationAgeMs : Int := 26 * 60 * 60 * 1000

/-- `_QUANTITY_QUANTUM`. -/
def quantityQuantum {D : Type} [PyDecimal D] : D := PyDecimal.scaled 1 8

/-! ## Decimal spellings and directed conversion -/

section Floats

variable {F D : Type} [PyFloat F] [PyDecimal D] [Spelling F D]

/-- The nearest float, or the one below it where that is spelled above the value. -/
def floatBelow (value : D) : F :=
  if PyDecimal.lt value (Spelling.spell (Spelling.toFloat value : F)) then
    PyFloat.nextDown (Spelling.toFloat value)
  else Spelling.toFloat value

/-- The nearest float, or the one above it where that is spelled below the value. -/
def floatAbove (value : D) : F :=
  if PyDecimal.lt (Spelling.spell (Spelling.toFloat value : F)) value then
    PyFloat.nextUp (Spelling.toFloat value)
  else Spelling.toFloat value

/-- `_lower_float`: downward, so that the decimal spelling cannot inflate the cap. -/
def lowerFloat (value : D) : Except PyError F :=
  if PyFloat.isFinite (Spelling.toFloat value : F) then
    .ok (PyFloat.max (PyFloat.lit 0) [floatBelow value])
  else .error (.arithmetic .overflow)

/-- `_upper_float`: upward, conservative for the checks downstream. -/
def upperFloat (value : D) : Except PyError F :=
  if PyFloat.isFinite (Spelling.toFloat value : F) then .ok (floatAbove value)
  else .error (.arithmetic .overflow)

end Floats

/-! ## The evaluator and its calls -/

/-- `LiveAccountSourceVerifier.verify`, of evidence of any kind. -/
abbrev LiveAccountSourceVerifier (F E : Type) (core : LiveCore F) :=
  E → String → LiveRiskScopeV1 core → Option (LiveAccountFacts F)

/-- `LiveInputsSourceVerifier.verify`. -/
abbrev LiveInputsSourceVerifier (F D E : Type) (core : LiveCore F) :=
  E → LiveRiskScopeV1 core → CandidateReviewV1 F → VenueQualityV1 F →
    Option (StrategicAllocation F) → SystemMode → Int →
    Option (LiveInputsFacts (LiveInstrumentRules D))

/-- Pure fail-closed LIVE evaluator; no implicit source is trusted. -/
structure LiveRiskEvaluator (F D E : Type) [PyFloat F] (core : LiveCore F) where
  scope : LiveRiskScopeV1 core
  limits : LiveRiskLimitsV1 F
  accountVerifiers : OrderedDict String (LiveAccountSourceVerifier F E core)
  inputVerifier : Option (LiveInputsSourceVerifier F D E core)
  requireInstrumentRules : Bool
  limits_bound : scope.riskLimitsSha256 = limits.limitsSha256 core
  sources_normalized : accountVerifiers.keys.all isNormalized = true

/-- The arguments of `evaluate`. -/
structure LiveInputs (F E : Type) where
  rawAccountEvidence : E
  sourceId : String
  review : CandidateReviewV1 F
  venue : VenueQualityV1 F
  allocation : Option (StrategicAllocation F)
  decidedAtMs : Int
  systemMode : SystemMode
  rawInputsEvidence : Option E

/-- What sizing gives: a quantity and what it costs. -/
structure LiveSizing (F : Type) where
  quantity : F
  notional : F
  fees : F
  slippage : F
  worstLoss : F

/-- Decision plus provenance facts used by an upstream LIVE producer. -/
structure LiveRiskEvaluationV1 (F D : Type) [PyDecimal D] (core : LiveCore F) where
  decision : RiskTradeDecisionV1 F
  scopeSha256 : String
  sourceId : Option String
  evidenceSha256 : Option String
  accountSnapshotSha256 : Option String
  accountAsOfMs : Option Int
  aggregateOpenRiskUsd : Option F
  aggregateOpenNotionalUsd : Option F
  reservedOpenRiskUsd : Option F
  reservedOpenNotionalUsd : Option F
  strategyOpenNotionalUsd : Option F
  strategyReservedNotionalUsd : Option F
  dailyAdverseLossUsd : Option F
  accountEquityUsd : Option F
  inputsSourceId : Option String
  inputsEvidenceSha256 : Option String
  inputsObservedAtMs : Option Int
  instrumentRules : Option (VerifiedLiveInstrumentRulesV1 D core)

/-- `except (ArithmeticError, ValueError)`. -/
def PyError.isNumeric : PyError → Bool
  | .arithmetic _ => true
  | .valueError _ => true
  | _ => false

/-- What a verifier returned, or that it did not. -/
def verifierResult {α : Type} (verifier : String) : Option α → Except PyError α
  | none => .error (.external verifier)
  | some facts => .ok facts

theorem verifierResult_ok {α : Type} {verifier : String} {result : Option α} {facts : α}
    (h : verifierResult verifier result = .ok facts) : result = some facts := by
  cases result with
  | none => cases h
  | some _ => rw [Except.ok.inj h]

namespace LiveRiskEvaluator

variable {F D E : Type} [PyFloat F] {core : LiveCore F}

/-- `LiveRiskEvaluator(...)`. -/
def init (D : Type) (core : LiveCore F) (scope : LiveRiskScopeFields)
    (limits : LiveRiskLimitsFields F)
    (accountVerifiers : OrderedDict String (LiveAccountSourceVerifier F E core))
    (inputVerifier : Option (LiveInputsSourceVerifier F D E core))
    (requireInstrumentRules : Bool) : Except PyError (LiveRiskEvaluator F D E core) := do
  let scope ← LiveRiskScopeV1.modelValidate core scope
  let limits ← LiveRiskLimitsV1.modelValidate limits
  if hbound : scope.riskLimitsSha256 = limits.limitsSha256 core then
    if hkeys : accountVerifiers.keys.all isNormalized = true then
      return ⟨scope, limits, accountVerifiers, inputVerifier, requireInstrumentRules, hbound, hkeys⟩
    else throw (.valueError "registered account source IDs must be normalized")
  else throw (.valueError "LIVE scope is not bound to the supplied immutable risk limits")

/-! ### Verification -/

section Verification

variable [PyDecimal D]

/-- The rules belong to the receipt, the scope and the symbol, and are as fresh. -/
def checkRules (e : LiveRiskEvaluator F D E core) (x : LiveInputs F E)
    (verified : VerifiedLiveInputsV1 D core) : Except PyError Unit :=
  match verified.instrumentRules with
  | none => .ok ()
  | some rules => do
    raiseIf (rules.sourceId ≠ verified.sourceId || rules.scopeSha256 ≠ e.scope.scopeSha256
        || rules.evidenceSha256 ≠ verified.evidenceSha256 || rules.venueSymbol ≠ x.venue.symbol)
      "instrument rules differ from authenticated input scope/source/symbol"
    let ageMs := x.decidedAtMs - rules.observedAtMs
    raiseIf (ageMs < 0 || maxAccountAgeMs < ageMs || verified.observedAtMs < rules.observedAtMs)
      "original instrument capture is future-dated or stale"

/-- The `try` block around the input verifier. -/
def verifyInputs (e : LiveRiskEvaluator F D E core) (x : LiveInputs F E)
    (verify : LiveInputsSourceVerifier F D E core) (raw : E) :
    Except PyError (VerifiedLiveInputsV1 D core) := do
  let facts ← verifierResult "input verifier"
    (verify raw e.scope x.review x.venue x.allocation x.systemMode x.decidedAtMs)
  let verified ← VerifiedLiveInputsV1.modelValidate core facts
  raiseIf (verified.scopeSha256 ≠ e.scope.scopeSha256)
    "verified inputs belong to another LIVE scope"
  raiseIf (verified.reviewSha256 ≠ core.reviewSha256 x.review)
    "verified inputs bind another candidate review"
  raiseIf (verified.venueSha256 ≠ core.venueSha256 x.venue)
    "verified inputs bind another venue measurement"
  raiseIf (verified.allocationSha256 ≠ x.allocation.map core.allocationSha256)
    "verified inputs bind another strategic allocation"
  raiseIf (verified.systemMode ≠ x.systemMode) "verified inputs bind another system mode"
  let ageMs := x.decidedAtMs - verified.observedAtMs
  raiseIf (ageMs < 0 || maxAccountAgeMs < ageMs) "upstream input receipt is future-dated or stale"
  e.checkRules x verified
  return verified

/-- The inputs as far as they are verified, and what there is against them. -/
def verifiedInputs (e : LiveRiskEvaluator F D E core) (x : LiveInputs F E) :
    Option (VerifiedLiveInputsV1 D core) × List String :=
  match e.inputVerifier, x.rawInputsEvidence with
  | none, _ => (none, ["input_source_unregistered"])
  | some _, none => (none, ["input_source_proof_missing"])
  | some verify, some raw => match e.verifyInputs x verify raw with
    | .error _ => (none, ["input_source_verification_failed"])
    | .ok verified => (some verified, [])

/-- The instrument rules in force, and whether they are missed. -/
def instrumentRules (e : LiveRiskEvaluator F D E core)
    (verified : Option (VerifiedLiveInputsV1 D core)) :
    Option (VerifiedLiveInstrumentRulesV1 D core) × List String :=
  let rules := verified.bind (·.instrumentRules)
  (rules, reasonIf (e.requireInstrumentRules && rules.isNone) "instrument_rules_missing")

variable [Spelling F D]

/-- The `try` block around an account verifier. -/
def verifyAccount (e : LiveRiskEvaluator F D E core) (x : LiveInputs F E)
    (verify : LiveAccountSourceVerifier F E core) :
    Except PyError (VerifiedLiveAccountV1 F D core) := do
  let facts ← verifierResult "account verifier" (verify x.rawAccountEvidence x.sourceId e.scope)
  let verified ← VerifiedLiveAccountV1.modelValidate D core facts
  raiseIf (verified.sourceId ≠ x.sourceId) "verifier returned a different source identity"
  raiseIf (verified.scopeSha256 ≠ e.scope.scopeSha256)
    "verified account is bound to another LIVE scope"
  raiseIf (verified.account.accountId ≠ e.scope.accountId)
    "verified account ID differs from LIVE scope"
  return verified

/-- The account as far as it is verified, and what there is against it. -/
def verifiedAccount (e : LiveRiskEvaluator F D E core) (x : LiveInputs F E) :
    Option (VerifiedLiveAccountV1 F D core) × List String :=
  match e.accountVerifiers.get? x.sourceId with
  | none => (none, ["account_source_unregistered"])
  | some verify => match e.verifyAccount x verify with
    | .error _ => (none, ["account_source_verification_failed"])
    | .ok verified => (some verified, [])

end Verification

/-! ### `_admission_gates` -/

/-- A timestamp in the future, or too old. -/
def ageReasons (ageMs maxAgeMs : Int) (future stale : String) : List String :=
  if ageMs < 0 then [future] else reasonIf (maxAgeMs < ageMs) stale

section Gates

variable [DecidableEq F]

/-- What the candidate and the mode say against the trade. -/
def candidateReasons (e : LiveRiskEvaluator F D E core) (x : LiveInputs F E) : List String :=
  let review := x.review
  let intent := review.intent
  reasonIf (review.route.intent ≠ intent) "immutable_intent_mismatch"
    ++ reasonIf (intent.contractVersion == "strategy-intent.observed-sim.v2") "SIM_ONLY_INTENT"
    ++ reasonIf (intent.strategyId ≠ e.scope.strategyId
        || intent.strategyRevision ≠ e.scope.strategyRevision) "strategy_scope_mismatch"
    ++ reasonIf (review.decision ≠ .allow) ("review_" ++ review.decision.lower)
    ++ reasonIf (x.systemMode ≠ .normal) ("system_mode_" ++ x.systemMode.lower)
    ++ reasonIf (x.decidedAtMs < review.reviewedAtMs || x.decidedAtMs < intent.entryEligibleTsMs)
      "candidate_not_yet_eligible"
    ++ reasonIf (intent.entryExpiresTsMs < x.decidedAtMs) "candidate_expired"

end Gates

/-- What the venue measurement says against the trade. -/
def venueReasons (x : LiveInputs F E) : List String :=
  let venue := x.venue
  (if venue.entryAllowed then []
      else "venue_entry_blocked" :: venue.reasonCodes.map ("venue_" ++ ·))
    ++ ageReasons (x.decidedAtMs - venue.observedAtMs) maxVenueAgeMs
      "venue_observation_from_future" "venue_quality_stale"
    ++ ageReasons (x.decidedAtMs - venue.bookTimestampMs) maxVenueAgeMs
      "venue_book_from_future" "venue_book_stale"
    ++ ageReasons (x.decidedAtMs - venue.referenceTimestampMs) maxVenueAgeMs
      "venue_reference_from_future" "venue_reference_stale"
    ++ reasonIf (venue.expiresAtMs < x.decidedAtMs) "venue_quality_expired"

/-- `strategy_snapshot_notional`: the strategy's positions and its priced entry orders. -/
def strategySnapshotNotional (e : LiveRiskEvaluator F D E core) (account : AccountSnapshotV2 F) :
    F :=
  let held := (account.positions.filter fun q => q.strategyId == e.scope.strategyId).map
    fun q => PyFloat.abs q.signedQuantity * q.markPrice
  let pending := account.openOrders.filterMap fun order =>
    if order.orderRole = .entry ∧ order.strategyId = e.scope.strategyId then
      order.price.map fun price => (order.quantity - order.filledQuantity) * price
    else none
  PyFloat.sum held + PyFloat.sum pending

/-- What a verified account says against the trade. -/
def accountReasons [PyDecimal D] [Spelling F D] (e : LiveRiskEvaluator F D E core)
    (x : LiveInputs F E) (verified : VerifiedLiveAccountV1 F D core) : List String :=
  let account := verified.account
  reasonIf (account.tradingMode ≠ .live || account.evedexProfile ≠ .prod)
      "account_environment_mismatch"
    ++ reasonIf (account.accountId ≠ e.scope.accountId) "account_id_mismatch"
    ++ reasonIf (e.limits.maxAccountEquityUsd < account.equityUsd)
      "account_equity_above_release_ceiling"
    ++ ageReasons (x.decidedAtMs - verified.asOfMs) maxAccountAgeMs
      "account_snapshot_from_future" "account_snapshot_stale"
    ++ reasonIf (account.positions.any fun q => q.venueSymbol == x.venue.symbol)
      "symbol_has_active_position"
    ++ reasonIf (account.openOrders.any fun o => o.venueSymbol == x.venue.symbol)
      "symbol_has_open_order"
    ++ reasonIf (verified.strategyOpenNotionalUsd < e.strategySnapshotNotional account)
      "strategy_open_notional_understated"
    ++ reasonIf (account.equityUsd * e.limits.aggregateOpenRiskFraction
        ≤ verified.aggregateOpenRiskUsd + verified.reservedOpenRiskUsd)
      "aggregate_open_risk_limit_exhausted"
    ++ reasonIf (e.limits.dailyLossCapUsd
        ≤ verified.dailyAdverseLossUsd + verified.aggregateOpenRiskUsd
          + verified.reservedOpenRiskUsd)
      "daily_loss_limit_exhausted"

/-- What the strategic allocation says against the trade. -/
def allocationReasons (e : LiveRiskEvaluator F D E core) (x : LiveInputs F E)
    (allocation : StrategicAllocation F) : List String :=
  let side := x.review.intent.side
  let weight := (allocation.strategyWeights.lookup e.scope.strategyId).getD (PyFloat.lit 0)
  reasonIf (allocationError allocation).isSome "strategic_allocation_invalid"
    ++ (if !allocation.producedAt.aware then ["strategic_allocation_naive_timestamp"]
      else ageReasons (x.decidedAtMs - PyFloat.timestampMs F allocation.producedAt.us)
        maxAllocationAgeMs "strategic_allocation_from_future" "strategic_allocation_stale")
    ++ reasonIf (weight ≤ PyFloat.lit 0) "strategy_has_no_macro_allocation"
    ++ (if allocation.regime = .chop then ["macro_regime_chop"]
      else if allocation.regime = .bear ∧ side = .long then ["macro_regime_forbids_long"]
      else reasonIf (allocation.regime = .bull && side = .short) "macro_regime_forbids_short")
    ++ reasonIf (allocation.maxGrossLeverage < PyFloat.lit 1) "macro_leverage_below_one"

/-- `_admission_gates`. -/
def admissionGates [DecidableEq F] [PyDecimal D] [Spelling F D] (e : LiveRiskEvaluator F D E core)
    (x : LiveInputs F E) (verified : Option (VerifiedLiveAccountV1 F D core)) : List String :=
  e.candidateReasons x ++ venueReasons x
    ++ geometryReasons x.review.intent (worstEntry x.review.intent x.venue)
    ++ (match verified with
      | none => ["account_snapshot_missing"]
      | some verified => e.accountReasons x verified)
    ++ (match x.allocation with
      | none => ["strategic_allocation_missing"]
      | some allocation => e.allocationReasons x allocation)

/-! ### `_instrument_entry` -/

section Sizing

variable [PyDecimal D] [Spelling F D]

/-- A price on the instrument's grid and within its bounds. -/
def checkPrice (rules : VerifiedLiveInstrumentRulesV1 D core) (price : D)
    (offGrid outside : String) :
    Except PyError Unit := do
  let rest ← liftSignal (PyDecimal.rem price rules.priceIncrement)
  raiseIf (!decimalIsZero rest) offGrid
  raiseIf (!(decimalLe rules.minPrice price && decimalLe price rules.maxPrice)) outside

/-- The loop body over the exit prices: bounds first, then the grid. -/
def checkExitPrice (rules : VerifiedLiveInstrumentRulesV1 D core) (price : F) :
    Except PyError Unit := do
  let exact : D := Spelling.spell price
  let invalid := "immutable exit price violates authenticated instrument rules"
  raiseIf (!(decimalLe rules.minPrice exact && decimalLe exact rules.maxPrice)) invalid
  let rest ← liftSignal (PyDecimal.rem exact rules.priceIncrement)
  raiseIf (!decimalIsZero rest) invalid

/-- `_instrument_entry`: validate geometry before sizing; never rewrite immutable inputs. -/
def instrumentEntry (intent : StrategyIntentV1 F) (worstEntry : F)
    (rules : VerifiedLiveInstrumentRulesV1 D core) : Except PyError F := do
  checkExitPrice rules intent.exitPlan.stopPrice
  checkExitPrice rules intent.exitPlan.targetPrice
  let entry : D := Spelling.spell worstEntry
  checkPrice rules entry "original executable book price violates instrument tick"
    "entry price violates authenticated instrument bounds"
  let stop : D := Spelling.spell intent.exitPlan.stopPrice
  let target : D := Spelling.spell intent.exitPlan.targetPrice
  raiseIf (intent.side = .long && !(PyDecimal.lt stop entry && PyDecimal.lt entry target))
    "long entry violates immutable exit geometry"
  raiseIf (intent.side = .short && !(PyDecimal.lt target entry && PyDecimal.lt entry stop))
    "short entry violates immutable exit geometry"
  return worstEntry

end Sizing

end LiveRiskEvaluator

end KairosRisk
