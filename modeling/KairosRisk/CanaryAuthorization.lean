import KairosRisk.CanaryInstrument
import KairosRisk.Config

/-!
# Risk-side checks for the durable manually armed PAPER canary

Persistence owns the transaction that consumes an arm. Risk verifies the record
it is handed on its own: the arm's identity, its session and its expiry, that
its review is exactly the one in hand, and that its allocation is the one fixed
policy. What it takes from an accepted arm is the bound allocation and the
authoritative decision time (`allocationFromConsumedArm`).

A refusal is a `CanaryAuthorizationError`, which the service turns into a
rejection reason; anything else these checks raise goes through it.
-/

namespace KairosRisk

open PyLib

/-- `CANARY_STRATEGY_REVISION`. -/
def canaryStrategyRevision : String := "1"

/-- `CANARY_SOURCE`. -/
def canarySource : String := "kairos-paper-canary"

/-- `CANARY_ALLOCATION_WEIGHT`. -/
def canaryAllocationWeight : Rat := 25 / 10000

/-- `CANARY_ALLOCATION_RATIONALE`. -/
def canaryAllocationRationale : String :=
  "Manually armed EVEDEX DEV technical canary; no alpha or LLM claim."

/-- `CANARY_MAX_CLOCK_SKEW_MS`. -/
def canaryMaxClockSkewMs : Int := 2000

/-- `PaperCanaryArmRecord`: what persistence hands over. -/
structure PaperCanaryArmRecord (F : Type) where
  armId : String
  accountId : String
  review : CandidateReviewV1 F
  allocation : StrategicAllocation F
  status : String
  expiresAt : DateTime
  decidedAtMs : Option Int
  sessionId : Option String
  attemptId : Option String
  sessionExpiresAt : Option DateTime
  deriving DecidableEq

/-- `raise CanaryAuthorizationError(message)` when the test holds. -/
def refuseIf (test : Bool) (message : String) : Except PyError Unit :=
  if test then .error (.canaryAuthorizationError message) else .ok ()

/-- A computation that returned was not refused by its first check. -/
theorem ok_of_refuseIf {β : Type} {test : Bool} {message : String} {f : Unit → Except PyError β}
    {b : β} (h : (refuseIf test message >>= f) = .ok b) : test = false ∧ f () = .ok b := by
  cases test with
  | true => cases h
  | false => exact ⟨rfl, h⟩

variable {F : Type}

/-- `canary_arm_identity`. -/
def canaryArmIdentity (core : KairosCore F) (accountId : String) (review : CandidateReviewV1 F)
    (allocation : StrategicAllocation F) : String :=
  core.canonicalSha256
    [("account_id", .text accountId), ("allocation", .allocation allocation),
      ("domain", .text "kairos.paper-canary-arm.v1"), ("review", .review review)]

/-- A string or `None`. -/
def PayloadValue.ofOption : Option String → PayloadValue F
  | none => .null
  | some s => .text s

variable [PyFloat F]

/-- `int(at.astimezone(UTC).timestamp() * 1_000)`. -/
def DateTime.epochMs (F : Type) [PyFloat F] (at' : DateTime) : Int := PyFloat.timestampMs F at'.us

/-- `allocation_identity`. -/
def allocationIdentity (core : KairosCore F) (allocation : StrategicAllocation F) :
    Except PyError String := do
  raiseIf (!allocation.producedAt.aware) "canary allocation produced_at must be timezone-aware"
  return core.canonicalSha256
    [("causation_id", .ofOption allocation.causationId),
      ("contract_version", .text "technical-canary-allocation.v1"),
      ("correlation_id", .ofOption allocation.correlationId),
      ("max_gross_leverage", .number allocation.maxGrossLeverage),
      ("produced_at_ms", .int (allocation.producedAt.epochMs F)),
      ("regime", .text allocation.regime.value),
      ("rationale", .text allocation.rationale),
      ("schema_version", .text allocation.schemaVersion),
      ("source", .text allocation.source),
      ("stable_reserve_pct", .number allocation.stableReservePct),
      ("strategy_weights", .weights allocation.strategyWeights),
      ("triggered_by", .text allocation.triggeredBy.value)]

variable [DecidableEq F]

/-- `_validate_canary_allocation`. -/
def validateCanaryAllocation (core : KairosCore F) (allocation : StrategicAllocation F)
    (review : CandidateReviewV1 F) : Except PyError Unit := do
  let intent := review.intent
  raiseIf (allocation.source ≠ canarySource || allocation.correlationId ≠ intent.intentId
      || allocation.causationId ≠ some intent.messageId)
    "canary allocation lineage does not match the intent"
  let identity ← allocationIdentity core allocation
  raiseIf (allocation.messageId ≠ identity)
    "canary allocation message identity does not match its full policy payload"
  raiseIf (allocation.schemaVersion ≠ "1.0") "canary allocation schema version is not exact"
  raiseIf (allocation.maxGrossLeverage ≠ PyFloat.lit 1) "canary allocation must be exactly 1x"
  raiseIf
    (allocation.strategyWeights ≠ [(paperCanaryStrategyId, PyFloat.lit canaryAllocationWeight)])
    "canary allocation must contain only the bounded technical-canary weight"
  raiseIf (allocation.stableReservePct ≠ PyFloat.lit 1 - PyFloat.lit canaryAllocationWeight)
    "canary allocation stable reserve is not exact"
  let expectedRegime := if intent.side = .long then MarketRegime.bull else MarketRegime.bear
  raiseIf (allocation.regime ≠ expectedRegime)
    "canary allocation regime is not direction-compatible"
  raiseIf (allocation.producedAt.epochMs F ≠ intent.entryEligibleTsMs)
    "canary allocation timestamp does not match NEXT_BAR_MARKET eligibility"
  raiseIf (allocation.triggeredBy ≠ .schedule) "canary allocation trigger must be deterministic"
  raiseIf (allocation.rationale ≠ canaryAllocationRationale)
    "canary allocation rationale is not the fixed manual policy"

/-- The bar evidence and the timing of a canary review are exact. -/
def canaryEvidenceExact (review : CandidateReviewV1 F) (rulesSha256 : String) : Bool :=
  let intent := review.intent
  match intent.provenance.inputBarSha256s,
    intent.evidence.filter fun item => item.kind == "closed_bar" with
  | [bar], [item] =>
    intent.signalStrength == PyFloat.lit 0
      && intent.evidence.length == 2
      && item.contentSha256 == some bar
      && item.observedAtMs == intent.decisionTsMs
      && ("BINANCE_UM:" ++ intent.symbol ++ ":").toList.isPrefixOf item.reference.toList
      && review.evidence == intent.evidence
      && review.route.evidenceIds == sortedNames [bar, rulesSha256]
      && review.route.routedAtMs == intent.decisionTsMs
      && review.route.reviewDeadlineMs == intent.entryExpiresTsMs
      && review.reviewedAtMs == intent.entryEligibleTsMs
  | _, _ => false

/-- `_validate_session_binding`. -/
def validateSessionBinding (arm : PaperCanaryArmRecord F) (nowMs : Int) : Except PyError Unit := do
  refuseIf (!(arm.sessionId.any isSha256Hex && arm.attemptId.any isSha256Hex))
    "durable canary arm has no bounded session/attempt binding"
  match arm.sessionExpiresAt with
  | none =>
    refuseIf true "durable canary session has no timezone-aware deadline"
  | some deadline =>
    refuseIf (!deadline.aware) "durable canary session has no timezone-aware deadline"
    let deadlineMs := deadline.epochMs F
    refuseIf (decide (deadlineMs ≤ nowMs)
        || decide (deadlineMs < arm.review.intent.entryExpiresTsMs))
      "durable canary session is expired or does not bound the entry"

variable (D : Type) [PyDecimal D]

/-- `bound_canary_instrument`, with its own message on a `ValueError`. -/
def canaryInstrument (core : KairosCore F) (intent : StrategyIntentV1 F) (accountId : String) :
    Except PyError (EvedexDevInstrumentRule D × D) :=
  match boundCanaryInstrument core intent accountId with
  | .error (.valueError _) => .error (.valueError "technical canary instrument binding is invalid")
  | result => result

/-- `validate_canary_binding`: the exact model-free policy. -/
def validateCanaryBinding (core : KairosCore F) (review : CandidateReviewV1 F)
    (allocation : StrategicAllocation F) (accountId : String) : Except PyError Unit := do
  let intent := review.intent
  raiseIf (review.decision ≠ .allow) "technical canary arm requires an ALLOW review"
  raiseIf (review.source ≠ canarySource || review.route.source ≠ canarySource
      || intent.source ≠ canarySource)
    "technical canary arm requires the dedicated canary source lineage"
  raiseIf (review.reviewer ≠ "DETERMINISTIC" || review.modelProvenance.isSome)
    "technical canary arm must be deterministic and model-free"
  raiseIf (review.reasonCodes ≠ ["TECHNICAL_CANARY_MANUAL_POLICY"])
    "technical canary arm requires the exact manual policy reason"
  raiseIf (review.priority ≠ 0 || review.route.reviewTier ≠ .normal
      || review.route.requestedReasoningEffort ≠ .medium)
    "technical canary review policy or tier is not exact"
  raiseIf (review.route.intent ≠ intent) "technical canary route changed its immutable intent"
  raiseIf (intent.strategyId ≠ paperCanaryStrategyId
      || intent.strategyRevision ≠ canaryStrategyRevision)
    "durable arm is restricted to technical-canary@1"
  raiseIf (some review.messageId ≠ review.reviewId || some intent.messageId ≠ intent.intentId)
    "technical canary requires canonical review and intent identities"
  let (instrument, _) ← canaryInstrument D core intent accountId
  raiseIf (some instrument.venueSymbol ≠ paperDevSymbol intent.symbol)
    "technical canary signal/venue symbol binding is invalid"
  raiseIf (!canaryEvidenceExact review (instrument.rulesSha256 core))
    "technical canary bar evidence or timing is not exact"
  validateCanaryAllocation core allocation review

/-- `validate_canary_binding`, with a refusal in place of a `ValueError`. -/
def canaryPolicy (core : KairosCore F) (review : CandidateReviewV1 F)
    (allocation : StrategicAllocation F) (accountId : String) : Except PyError Unit :=
  match validateCanaryBinding D core review allocation accountId with
  | .error (.valueError _) => .error (.canaryAuthorizationError
      "durable canary allocation is not the exact bound policy")
  | result => result

/-- The database's decision time is inside the entry window. -/
def decisionTimeInWindow (review : CandidateReviewV1 F) (decidedAtMs expiresAtMs nowMs : Int) :
    Bool :=
  decide (review.intent.entryEligibleTsMs ≤ decidedAtMs)
    && decide (review.reviewedAtMs ≤ decidedAtMs)
    && decide (decidedAtMs < expiresAtMs)
    && decide (decidedAtMs ≤ nowMs + canaryMaxClockSkewMs)

/-- `allocation_from_consumed_arm`: the exact bound allocation and the
authoritative decision time. -/
def allocationFromConsumedArm (core : KairosCore F) (arm : PaperCanaryArmRecord F)
    (review : CandidateReviewV1 F) (accountId : String) (nowMs : Int) :
    Except PyError (StrategicAllocation F × Int) := do
  refuseIf (arm.status ≠ "CONSUMED" || arm.accountId ≠ accountId)
    "durable canary arm is not consumed for this account"
  validateSessionBinding arm nowMs
  refuseIf (decide (arm.review ≠ review)) "durable canary arm does not match the exact review"
  refuseIf (arm.armId ≠ canaryArmIdentity core accountId arm.review arm.allocation)
    "durable canary arm identity is invalid"
  refuseIf (!arm.expiresAt.aware) "durable canary expiry must be timezone-aware"
  let expiresAtMs := arm.expiresAt.epochMs F
  refuseIf (expiresAtMs ≠ review.intent.entryExpiresTsMs || decide (expiresAtMs ≤ nowMs))
    "durable canary arm is expired or has a conflicting expiry"
  match arm.decidedAtMs with
  | none =>
    .error (.canaryAuthorizationError "durable canary decision time is outside the entry window")
  | some decidedAtMs =>
    refuseIf (!decisionTimeInWindow review decidedAtMs expiresAtMs nowMs)
      "durable canary decision time is outside the entry window"
    canaryPolicy D core review arm.allocation accountId
    return (arm.allocation, decidedAtMs)

/-- What Risk takes from an arm is the arm's own, and no earlier than the review. -/
theorem allocationFromConsumedArm_ok {core : KairosCore F} {arm : PaperCanaryArmRecord F}
    {review : CandidateReviewV1 F} {accountId : String} {nowMs : Int}
    {allocation : StrategicAllocation F} {decidedAtMs : Int}
    (h : allocationFromConsumedArm D core arm review accountId nowMs
      = .ok (allocation, decidedAtMs)) :
    allocation = arm.allocation ∧ arm.decidedAtMs = some decidedAtMs ∧
    review.reviewedAtMs ≤ decidedAtMs := by
  unfold allocationFromConsumedArm at h
  obtain ⟨_, h⟩ := ok_of_refuseIf h
  obtain ⟨_, _, h⟩ := ok_of_bind h
  obtain ⟨_, h⟩ := ok_of_refuseIf h
  obtain ⟨_, h⟩ := ok_of_refuseIf h
  obtain ⟨_, h⟩ := ok_of_refuseIf h
  obtain ⟨_, h⟩ := ok_of_refuseIf h
  split at h
  next => cases h
  next decided hdecided =>
    obtain ⟨hwindow, h⟩ := ok_of_refuseIf h
    obtain ⟨_, _, h⟩ := ok_of_bind h
    cases h
    simp only [decisionTimeInWindow, Bool.not_eq_false', Bool.and_eq_true, decide_eq_true_eq]
      at hwindow
    exact ⟨rfl, hdecided, hwindow.1.1.2⟩

end KairosRisk
