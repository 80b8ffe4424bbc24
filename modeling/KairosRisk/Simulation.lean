import KairosRisk.CapitalBudgetProposal

/-!
# The simulator's admission policy

`SimulationRiskPolicy.evaluate` decides about a reviewed candidate and one
recorded book frame, with no clock, account or venue of its own. A call from
before the session, the review or the next bar is no decision at all; whatever
else is wrong becomes a reason of a rejection. When nothing is, the requested
quantity is cut to the visible depth and to whole steps, the top of the book is
slipped and rounded to a tick, and the exits must lie around that price.

The decimals are exact.
-/

namespace KairosRisk

open PyLib
open CapitalBudget (NumericValue)

variable {F : Type} [PyFloat F]

/-! ## The inputs -/

structure RecordedBookLevelV1 (F : Type) where
  price : F
  quantity : F
  deriving DecidableEq

structure RecordedTopNBookFrameV1 (F : Type) where
  executionEnvironment : String
  marketDataVenue : String
  tapeId : String
  symbol : String
  continuity : String
  exchangeAtMs : Int
  persistedAtMs : Int
  bids : List (RecordedBookLevelV1 F)
  asks : List (RecordedBookLevelV1 F)
  deriving DecidableEq

/-- The frozen assumptions of a session. A step of the market is positive. -/
structure SimulationAssumptionsV1 (F : Type) [PyFloat F] where
  maximumBookAgeMs : Int
  maximumFrameLatencyMs : Int
  depthParticipationFraction : F
  adverseSlippageBps : F
  priceTick : F
  quantityStep : F
  priceTick_pos : PyFloat.lit 0 < priceTick
  quantityStep_pos : PyFloat.lit 0 < quantityStep

structure SimulationStrategyRefV1 where
  strategyId : String
  strategyRevision : String
  deriving DecidableEq

structure SimulationSessionV1 (F : Type) [PyFloat F] where
  executionEnvironment : String
  tapeId : String
  assumptions : SimulationAssumptionsV1 F
  strategyAllowlist : List SimulationStrategyRefV1
  startedAtMs : Int
  endsAtMs : Int

/-- A review, with the venue of its intent. -/
structure SimulationReview (F : Type) extends CandidateReviewV1 F where
  /-- `review.intent.venue`. -/
  intentVenue : String

/-- The arguments of `evaluate`. -/
structure SimulationInputs (F : Type) [PyFloat F] where
  session : SimulationSessionV1 F
  review : SimulationReview F
  selectedBookFrame : Option (RecordedTopNBookFrameV1 F)
  decidedAtMs : Int
  requestedQuantity : NumericValue F

/-- `SimulationRiskDecisionV1`. -/
structure SimulationRiskDecisionV1 (F : Type) [PyFloat F] where
  source : String
  correlationId : Option String
  causationId : String
  session : SimulationSessionV1 F
  intent : StrategyIntentV1 F
  review : SimulationReview F
  selectedBookFrame : Option (RecordedTopNBookFrameV1 F)
  approved : Bool
  rejectionReasons : List String
  quantity : F
  priceCap : Option F
  decidedAtMs : Int

/-- `review.decision.value`. -/
def ReviewDecision.value : ReviewDecision → String
  | .allow => "ALLOW"
  | .veto => "VETO"
  | .defer => "DEFER"

/-! ## Decimals -/

/-- The rounding of `to_integral_value`. -/
inductive Rounding where
  | floor | ceiling

/-- `value.to_integral_value(rounding=rounding)`. -/
def Rounding.toIntegral : Rounding → Rat → Rat
  | .floor, value => value.floor
  | .ceiling, value => PyDecimal.ceil value

/-- `_round_to_step`. -/
def roundToStep (value step : Rat) (rounding : Rounding) : Except PyError Rat := do
  let quotient ← liftSignal (PyDecimal.div value step)
  .ok (rounding.toIntegral quotient * step)

variable [Spelling F Rat]

/-- `_as_decimal`. `math.isfinite` raises for an integer beyond the floats. -/
def asDecimal (value : NumericValue F) (name : String) : Except PyError Rat :=
  let invalid := Except.error (.valueError (name ++ " must be a finite number"))
  match value with
  | .int i =>
    if PyFloat.isFinite (PyFloat.lit (i : Rat) : F) then .ok i else .error (.arithmetic .overflow)
  | .float x => if PyFloat.isFinite x then .ok (Spelling.spell x) else invalid
  | .bool _ | .decimal _ | .nonFinite | .other => invalid

/-! ## The policy -/

/-- `SimulationRiskPolicy`, with the decisions that the contract accepts. -/
structure SimulationRiskPolicy (F : Type) [PyFloat F] where
  source : String
  decisionValid : SimulationRiskDecisionV1 F → Bool
  /-- `__post_init__`. -/
  source_normalized : isNormalized source = true

namespace SimulationRiskPolicy

/-- The symbols of the simulator. -/
def supportedSymbols : List String := ["BTCUSDT", "ETHUSDT", "SOLUSDT", "BNBUSDT", "XRPUSDT"]

omit [Spelling F Rat] in
/-- `_validate_decision_clock`. -/
def validateDecisionClock (x : SimulationInputs F) : Except PyError Unit := do
  raiseIf (x.decidedAtMs < 0) "decided_at_ms must be a non-negative integer"
  raiseIf (!(decide (x.session.startedAtMs ≤ x.decidedAtMs)
      && decide (x.decidedAtMs ≤ x.session.endsAtMs)))
    "decided_at_ms must lie inside the immutable simulation session"
  raiseIf (x.decidedAtMs < x.review.reviewedAtMs)
    "decided_at_ms cannot predate the immutable candidate review"
  raiseIf (x.decidedAtMs < x.review.intent.entryEligibleTsMs)
    "decided_at_ms cannot predate immutable next-bar eligibility"

/-- `_environment_rejection_reasons`. -/
def environmentRejectionReasons (x : SimulationInputs F) : List String :=
  reasonIf (x.session.executionEnvironment ≠ "SIMULATED") "SESSION_ENVIRONMENT_MISMATCH"
    ++ reasonIf (x.review.intentVenue ≠ "BINANCE_UM") "INTENT_VENUE_MISMATCH"
    ++ match x.selectedBookFrame with
      | none => []
      | some frame =>
        reasonIf (frame.executionEnvironment ≠ "SIMULATED") "BOOK_FRAME_ENVIRONMENT_MISMATCH"
          ++ reasonIf (frame.marketDataVenue ≠ "BINANCE_UM") "BOOK_FRAME_VENUE_MISMATCH"

/-- `_book_rejection_reasons`. -/
def bookRejectionReasons (x : SimulationInputs F) : List String :=
  match x.selectedBookFrame with
  | none => ["NO_RECORDED_BOOK_FRAME"]
  | some frame =>
    reasonIf (frame.tapeId ≠ x.session.tapeId) "BOOK_FRAME_TAPE_MISMATCH"
      ++ reasonIf (frame.symbol ≠ x.review.intent.symbol) "BOOK_FRAME_SYMBOL_MISMATCH"
      ++ reasonIf (frame.continuity ≠ "ADMITTED") "BOOK_FRAME_NOT_ADMITTED"
      ++ (if x.decidedAtMs < frame.persistedAtMs then ["BOOK_FRAME_FROM_FUTURE"]
        else reasonIf (x.session.assumptions.maximumBookAgeMs < x.decidedAtMs - frame.persistedAtMs)
          "BOOK_FRAME_STALE")
      ++ reasonIf (x.session.assumptions.maximumFrameLatencyMs
          < frame.persistedAtMs - frame.exchangeAtMs) "BOOK_FRAME_LATENCY_EXCEEDED"

/-- The reasons known before anything is sized. -/
def inputReasons (x : SimulationInputs F) : List String :=
  let intent := x.review.intent
  environmentRejectionReasons x
    ++ reasonIf (x.review.decision ≠ .allow) ("REVIEW_" ++ x.review.decision.value)
    ++ reasonIf (!x.session.strategyAllowlist.contains ⟨intent.strategyId, intent.strategyRevision⟩)
      "STRATEGY_NOT_SESSION_ALLOWLISTED"
    ++ reasonIf (!supportedSymbols.contains intent.symbol) "UNSUPPORTED_INTENT_SYMBOL"
    ++ reasonIf (intent.entryExpiresTsMs < x.decidedAtMs) "INTENT_EXPIRED"
    ++ bookRejectionReasons x

/-- The side of the book that is taken from. -/
def takenLevels (frame : RecordedTopNBookFrameV1 F) (side : Side) : List (RecordedBookLevelV1 F) :=
  if side = .long then frame.asks else frame.bids

/-- The lot of a quantity that is a decimal already. -/
def lotWithin (x : SimulationInputs F) (frame : RecordedTopNBookFrameV1 F) (requested : Rat) :
    Except PyError (Rat × Option String) := do
  let assumptions := x.session.assumptions
  let levels := takenLevels frame x.review.intent.side
  let quantities ← levels.mapM fun level => asDecimal (.float level.quantity) "book_quantity"
  let participation ← asDecimal (.float assumptions.depthParticipationFraction)
    "depth_participation_fraction"
  let quantityStep ← asDecimal (.float assumptions.quantityStep) "quantity_step"
  let admitted ← roundToStep (PyDecimal.min requested [quantities.sum * participation])
    quantityStep .floor
  if admitted ≤ 0 then .ok (0, some "REQUESTED_QUANTITY_NOT_EXECUTABLE") else .ok (admitted, none)

/-- `_admitted_quantity`. -/
def admittedQuantity (x : SimulationInputs F) (frame : RecordedTopNBookFrameV1 F) :
    Except PyError (Rat × Option String) :=
  match asDecimal x.requestedQuantity "requested_quantity" with
  | .error (.valueError _) => .ok (0, some "REQUESTED_QUANTITY_INVALID")
  | .error e => .error e
  | .ok requested =>
    if requested ≤ 0 then .ok (0, some "REQUESTED_QUANTITY_INVALID")
    else lotWithin x frame requested

/-- The price at the top of the side that is taken from. -/
def topPrice (x : SimulationInputs F) (frame : RecordedTopNBookFrameV1 F) : Except PyError Rat :=
  let side := x.review.intent.side
  match takenLevels frame side with
  | [] => .error (.external "IndexError: tuple index out of range")
  | top :: _ => asDecimal (.float top.price) (if side = .long then "ask_price" else "bid_price")

/-- `_price_cap`. -/
def priceCapOf (x : SimulationInputs F) (frame : RecordedTopNBookFrameV1 F) :
    Except PyError (Rat × Option String) := do
  let side := x.review.intent.side
  let top ← topPrice x frame
  let slippageBps ← asDecimal (.float x.session.assumptions.adverseSlippageBps)
    "adverse_slippage_bps"
  let slippageFraction ← liftSignal (PyDecimal.div slippageBps 10000)
  let priceTick ← asDecimal (.float x.session.assumptions.priceTick) "price_tick"
  let multiplier := if side = .long then 1 + slippageFraction else 1 - slippageFraction
  let priceCap ← roundToStep (top * multiplier) priceTick
    (if side = .long then .ceiling else .floor)
  if priceCap ≤ 0 then .ok (0, some "PRICE_CAP_NOT_POSITIVE") else .ok (priceCap, none)

/-- `_exit_geometry_is_valid`, for a price cap that is there. -/
def exitGeometryIsValid (x : SimulationInputs F) (priceCap : Rat) : Except PyError Bool := do
  let exitPlan := x.review.intent.exitPlan
  let stop ← asDecimal (.float exitPlan.stopPrice) "stop_price"
  let target ← asDecimal (.float exitPlan.targetPrice) "target_price"
  if x.review.intent.side = .long then .ok (decide (stop < priceCap) && decide (priceCap < target))
  else .ok (decide (target < priceCap) && decide (priceCap < stop))

/-- What sizing leaves: the quantity, the price cap and a reason against them. -/
structure Admission where
  quantity : Rat
  priceCap : Option Rat
  reason : Option String

/-- The price's part of the sizing. -/
def priced (x : SimulationInputs F) (frame : RecordedTopNBookFrameV1 F) (quantity : Rat) :
    Except PyError Admission := do
  let capped ← priceCapOf x frame
  match capped.2 with
  | some reason => .ok ⟨quantity, some capped.1, some reason⟩
  | none =>
    let valid ← exitGeometryIsValid x capped.1
    .ok ⟨quantity, some capped.1, if valid then none else some "PRICE_CAP_EXIT_GEOMETRY_INVALID"⟩

/-- The quantity, and then the price. -/
def sized (x : SimulationInputs F) (frame : RecordedTopNBookFrameV1 F) :
    Except PyError Admission := do
  let lot ← admittedQuantity x frame
  match lot.2 with
  | some reason => .ok ⟨lot.1, none, some reason⟩
  | none => priced x frame lot.1

/-- The part of `evaluate` between the clock and the decision: its reasons,
its quantity and its price cap. -/
def assess (x : SimulationInputs F) : Except PyError (List String × Rat × Option Rat) :=
  let reasons := inputReasons x
  match reasons, x.selectedBookFrame with
  | [], some frame => do
    let admission ← sized x frame
    .ok (admission.reason.toList, admission.quantity, admission.priceCap)
  | reasons, _ => .ok (reasons, 0, none)

/-- The fields of the decision. -/
def decisionOf (p : SimulationRiskPolicy F) (x : SimulationInputs F) (reasons : List String)
    (quantity : Rat) (priceCap : Option Rat) : SimulationRiskDecisionV1 F :=
  let approved := reasons.isEmpty
  { source := p.source
    correlationId := x.review.intent.intentId
    causationId := x.review.messageId
    session := x.session
    intent := x.review.intent
    review := x.review
    selectedBookFrame := x.selectedBookFrame
    approved := approved
    rejectionReasons := sortedNames reasons.eraseDups
    quantity := if approved then Spelling.toFloat quantity else PyFloat.lit 0
    priceCap := if approved then priceCap.map Spelling.toFloat else none
    decidedAtMs := x.decidedAtMs }

/-- `evaluate`. -/
def evaluate (p : SimulationRiskPolicy F) (x : SimulationInputs F) :
    Except PyError (SimulationRiskDecisionV1 F) := do
  validateDecisionClock x
  let assessed ← assess x
  let decision := p.decisionOf x assessed.1 assessed.2.1 assessed.2.2
  if p.decisionValid decision then .ok decision
  else .error (.valueError "SimulationRiskDecisionV1 validation failed")

end SimulationRiskPolicy

end KairosRisk
