import KairosRisk.Lib.OrderedDict
import KairosRisk.Lib.PyNum
import KairosRisk.Lib.PyText

/-!
# The message contracts the risk manager reads and writes

The strict pydantic models come from a third-party package, so what is here is
their shape as this program uses it: the fields some modelled function reads,
compares or copies, over the float type `F`. Two models that the program
compares whole (`model_dump(mode="json")`) are compared by equality of the
structures, so they carry every field their constructors are given.

A value of these types stands for a *validated* model. What the contract
guarantees and the program leans on ("impossible after strict contract
validation") is a proof field, so an invalid message cannot be built; the
program's own checks for it stay in the model all the same.

What the package computes is a parameter, `KairosCore`: the canonical
identities a constructor assigns, the validators behind
`model_validate_json(model_dump_json())`, and the canonical SHA-256.
-/

namespace KairosRisk

open PyLib

/-- The exceptions of the modelled code, by what an `except` clause can tell
apart. Validation errors are `ValueError`s. -/
inductive PyError where
  | valueError (message : String)
  | runtimeError (message : String)
  | arithmetic (signal : ArithmeticSignal)
  | paperInputUnavailable (message : String)
  | paperInputDeadlineExceeded (message : String)
  | canaryAuthorizationError (message : String)
  | external (message : String)
  deriving DecidableEq, Repr

/-- Results compare. -/
instance {α : Type} [DecidableEq α] : DecidableEq (Except PyError α)
  | .ok a, .ok b => decidable_of_iff (a = b) ⟨congrArg _, Except.ok.inj⟩
  | .error e, .error e' => decidable_of_iff (e = e') ⟨congrArg _, Except.error.inj⟩
  | .ok _, .error _ => isFalse nofun
  | .error _, .ok _ => isFalse nofun

/-! ## Raising -/

/-- `raise ValueError(message)` when the test holds. -/
def raiseIf (test : Bool) (message : String) : Except PyError Unit :=
  if test then .error (.valueError message) else .ok ()

/-- A decimal operation whose signal nobody catches. -/
def liftSignal {α : Type} : Except ArithmeticSignal α → Except PyError α
  | .ok v => .ok v
  | .error signal => .error (.arithmetic signal)

/-- A computation that returned went through its first step. -/
theorem ok_of_bind {α β : Type} {x : Except PyError α} {f : α → Except PyError β} {b : β}
    (h : (x >>= f) = .ok b) : ∃ a, x = .ok a ∧ f a = .ok b := by
  cases x with
  | error e => cases h
  | ok a => exact ⟨a, rfl, h⟩

/-- A computation that returned passed its first check. -/
theorem ok_of_raiseIf {β : Type} {test : Bool} {message : String} {f : Unit → Except PyError β}
    {b : β} (h : (raiseIf test message >>= f) = .ok b) : test = false ∧ f () = .ok b := by
  cases test with
  | true => cases h
  | false => exact ⟨rfl, h⟩

/-- A computation that raised did so in its first check or after it. -/
theorem error_of_raiseIf {β : Type} {test : Bool} {message : String} {f : Unit → Except PyError β}
    {e : PyError} (h : (raiseIf test message >>= f) = .error e) :
    e = .valueError message ∨ f () = .error e := by
  cases test with
  | true => exact Or.inl (Except.error.inj h).symm
  | false => exact Or.inr h

/-- A computation that returned found the two things it compared first equal. -/
theorem ok_of_raiseIf_ne {α β : Type} [DecidableEq α] {x y : α} {message : String}
    {f : Unit → Except PyError β} {b : β} (h : (raiseIf (x ≠ y) message >>= f) = .ok b) :
    x = y ∧ f () = .ok b := by
  obtain ⟨hsame, h⟩ := ok_of_raiseIf h
  exact ⟨Decidable.not_not.mp (of_decide_eq_false hsame), h⟩

/-- A computation that returned a value returned it. -/
theorem eq_ok_of_isSome {α : Type} : ∀ {x : Except PyError α} (h : x.toOption.isSome = true),
    x = .ok (x.toOption.get h)
  | .ok _, _ => rfl
  | .error _, h => nomatch h

/-- A check that passed found nothing. -/
theorem raiseIf_ok {test : Bool} {message : String} (h : raiseIf test message = .ok ()) :
    test = false := by
  cases test with
  | true => cases h
  | false => rfl

theorem raiseIf_ok_iff {test : Bool} {message : String} :
    raiseIf test message = .ok () ↔ test = false := by
  constructor
  · exact raiseIf_ok
  · intro htest
    rw [htest]
    rfl

/-- What a first step returned goes on into the second. -/
theorem ok_bind {α β : Type} {a : α} {f : α → Except PyError β} : (Except.ok a >>= f) = f a := rfl

/-- A check that finds nothing lets the computation go on. -/
theorem raiseIf_bind {β : Type} {test : Bool} {message : String} {f : Unit → Except PyError β}
    (h : test = false) : (raiseIf test message >>= f) = f () := by
  rw [h]
  rfl

theorem raiseIf_bind_ok_iff {β : Type} {test : Bool} {message : String}
    {f : Unit → Except PyError β} {b : β} :
    (raiseIf test message >>= f) = .ok b ↔ test = false ∧ f () = .ok b :=
  ⟨ok_of_raiseIf, fun ⟨htest, hf⟩ => (raiseIf_bind htest).trans hf⟩

/-- A loop of checks that passed, passed each of them. -/
theorem ok_of_forM {α : Type} {f : α → Except PyError Unit} :
    ∀ {as : List α}, as.forM f = .ok () → ∀ a ∈ as, f a = .ok ()
  | [], _, _, ha => absurd ha List.not_mem_nil
  | a :: as, h, b, hb => by
    obtain ⟨_, hone, hrest⟩ := ok_of_bind (show (f a >>= fun _ => as.forM f) = .ok () from h)
    rcases List.mem_cons.mp hb with rfl | hb
    · exact hone
    · exact ok_of_forM hrest b hb

/-- A comparison of equals lets the computation go on. -/
theorem raiseIf_ne_bind {α β : Type} [DecidableEq α] {x y : α} {message : String}
    {f : Unit → Except PyError β} (h : x = y) : (raiseIf (x ≠ y) message >>= f) = f () :=
  raiseIf_bind (decide_eq_false (not_not_intro h))

/-- `if test: reasons.append(reason)`. -/
def reasonIf (test : Bool) (reason : String) : List String := if test then [reason] else []

@[simp] theorem reasonIf_eq_nil {test : Bool} {reason : String} :
    reasonIf test reason = [] ↔ test = false := by
  cases test <;> simp [reasonIf]

/-! ## Enumerations

Where the package has members this program never names, `other` is any of
them, by its value. -/

inductive Side where
  | long | short | flat
  deriving DecidableEq, Repr

inductive TradingMode where
  | dryRun | paper | live
  deriving DecidableEq, Repr

inductive EvedexProfile where
  | dev | demo | prod
  deriving DecidableEq, Repr

inductive SystemMode where
  | normal | textLocalFilter | conflictSafe | localQuantMode
  deriving DecidableEq, Repr

inductive ReviewDecision where
  | allow | veto | defer
  deriving DecidableEq, Repr

inductive MarketRegime where
  | bull | bear | chop
  | other (value : String)
  deriving DecidableEq, Repr

inductive OrderRole where
  | entry
  | other (value : String)
  deriving DecidableEq, Repr

inductive CandidateReviewTier where
  | normal
  | other (value : String)
  deriving DecidableEq, Repr

inductive ReasoningEffort where
  | medium
  | other (value : String)
  deriving DecidableEq, Repr

inductive StrategicTrigger where
  | schedule
  | other (value : String)
  deriving DecidableEq, Repr

inductive EntryPolicy where
  | nextBarMarket
  deriving DecidableEq, Repr

inductive ReasonCode where
  | enterLongTrend | enterShortTrend | rebalance | closePosition | reduceLeverage | hold | noTrade
  | other (value : String)
  deriving DecidableEq, Repr

inductive OrderSide where
  | buy | sell
  deriving DecidableEq, Repr

inductive OrderType where
  | limit | market
  deriving DecidableEq, Repr

/-- `side.value`. -/
def Side.value : Side → String
  | .long => "LONG"
  | .short => "SHORT"
  | .flat => "FLAT"

/-- `reason.value`. -/
def ReasonCode.value : ReasonCode → String
  | .enterLongTrend => "ENTER_LONG_TREND"
  | .enterShortTrend => "ENTER_SHORT_TREND"
  | .rebalance => "REBALANCE"
  | .closePosition => "CLOSE_POSITION"
  | .reduceLeverage => "REDUCE_LEVERAGE"
  | .hold => "HOLD"
  | .noTrade => "NO_TRADE"
  | .other value => value

/-- `system_mode.value.lower()`. -/
def SystemMode.lower : SystemMode → String
  | .normal => "normal"
  | .textLocalFilter => "text_local_filter"
  | .conflictSafe => "conflict_safe"
  | .localQuantMode => "local_quant_mode"

/-- `review.decision.value.lower()`. -/
def ReviewDecision.lower : ReviewDecision → String
  | .allow => "allow"
  | .veto => "veto"
  | .defer => "defer"

/-- `regime.value`. -/
def MarketRegime.value : MarketRegime → String
  | .bull => "BULL"
  | .bear => "BEAR"
  | .chop => "CHOP"
  | .other value => value

/-- `triggered_by.value`. -/
def StrategicTrigger.value : StrategicTrigger → String
  | .schedule => "SCHEDULE"
  | .other value => value

/-- A `datetime`: whether it is timezone-aware, and its instant in microseconds. -/
structure DateTime where
  aware : Bool
  us : Int
  deriving DecidableEq, Repr

/-! ## Strategy intents, routes and reviews -/

structure ExitPlanV1 (F : Type) where
  stopPrice : F
  targetPrice : F
  maxHoldingMs : Int
  deriving DecidableEq

structure EvidenceReferenceV1 where
  kind : String
  reference : String
  contentSha256 : Option String
  observedAtMs : Int
  deriving DecidableEq

structure StrategyProvenanceV1 where
  strategyCodeSha256 : String
  configSha256 : String
  inputWindowSha256 : String
  featuresSha256 : String
  inputBarSha256s : List String
  deriving DecidableEq

structure StrategyIntentV1 (F : Type) where
  messageId : String
  intentId : Option String
  source : String
  contractVersion : String
  strategyId : String
  strategyRevision : String
  symbol : String
  side : Side
  decisionTsMs : Int
  entryEligibleTsMs : Int
  entryExpiresTsMs : Int
  referencePrice : F
  signalStrength : F
  grossRewardBps : F
  exitPlan : ExitPlanV1 F
  provenance : StrategyProvenanceV1
  evidence : List EvidenceReferenceV1
  metadata : List (String × String)
  /-- The strict contract always assigns the canonical identity. -/
  intentId_isSome : intentId.isSome = true
  deriving DecidableEq

structure CandidateRouteV1 (F : Type) where
  source : String
  intent : StrategyIntentV1 F
  reviewTier : CandidateReviewTier
  requestedReasoningEffort : ReasoningEffort
  routedAtMs : Int
  reviewDeadlineMs : Int
  evidenceIds : List String
  deriving DecidableEq

structure CandidateReviewV1 (F : Type) where
  messageId : String
  reviewId : Option String
  source : String
  route : CandidateRouteV1 F
  intent : StrategyIntentV1 F
  decision : ReviewDecision
  priority : Int
  reviewedAtMs : Int
  reviewer : String
  modelProvenance : Option String
  reasonCodes : List String
  evidence : List EvidenceReferenceV1
  /-- The strict contract always assigns the canonical identity. -/
  reviewId_isSome : reviewId.isSome = true
  deriving DecidableEq

/-! ## Bar, venue, allocation and account facts -/

structure ClosedBarEventV1 (F : Type) where
  symbol : String
  openTimeMs : Int
  closeTimeMs : Int
  close : F
  barSha256 : Option String
  /-- The strict contract always assigns the hash. -/
  barSha256_isSome : barSha256.isSome = true

structure VenueQualityV1 (F : Type) where
  profile : EvedexProfile
  symbol : String
  measurementId : Option String
  observedAtMs : Int
  expiresAtMs : Int
  referenceTimestampMs : Int
  bookTimestampMs : Int
  bestBid : F
  bestAsk : F
  venueMidPrice : F
  assessedNotionalUsd : F
  depthUsd : F
  buySlippageBps : F
  sellSlippageBps : F
  takerFeeBps : F
  entryAllowed : Bool
  reasonCodes : List String

structure StrategicAllocation (F : Type) where
  messageId : String
  source : String
  correlationId : Option String
  causationId : Option String
  schemaVersion : String
  producedAt : DateTime
  regime : MarketRegime
  stableReservePct : F
  strategyWeights : List (String × F)
  maxGrossLeverage : F
  triggeredBy : StrategicTrigger
  rationale : String
  deriving DecidableEq

structure PositionSnapshotV2 (F : Type) where
  tradeId : String
  venueSymbol : String
  strategyId : String
  strategyRevision : String
  intentId : String
  riskDecisionId : String
  side : Side
  exitPlan : ExitPlanV1 F
  signedQuantity : F
  entryPrice : F
  markPrice : F

structure OpenOrderSnapshotV2 (F : Type) where
  tradeId : String
  venueSymbol : String
  strategyId : String
  strategyRevision : String
  intentId : String
  riskDecisionId : String
  orderRole : OrderRole
  quantity : F
  filledQuantity : F
  price : Option F

structure AccountSnapshotV2 (F : Type) where
  snapshotId : String
  tradingMode : TradingMode
  evedexProfile : EvedexProfile
  accountId : String
  equityUsd : F
  availableBalanceUsd : F
  durableDayStartEquityUsd : F
  durablePeakEquityUsd : F
  dailyRealizedPnlUsd : F
  unrealizedPnlUsd : F
  totalOpenRiskUsd : F
  capturedAtMs : Int
  reconciliationSeq : Int
  reconciled : Bool
  positions : List (PositionSnapshotV2 F)
  openOrders : List (OpenOrderSnapshotV2 F)

/-! ## Regime-bound allocations -/

structure RegimeCapitalBasisV1 (F : Type) where
  allocation : StrategicAllocation F
  policySha256 : String
  sourceSetSha256 : String
  accountId : String
  accountSnapshotId : String
  accountCapturedAtMs : Int
  deriving DecidableEq

structure RegimeObservationV1 (F : Type) where
  source : String
  sourceSetSha256 : String
  detectorCodeSha256 : String
  detectorConfigSha256 : String
  intent : StrategyIntentV1 F
  regime : String
  eventAsOfMs : Int
  observedAtMs : Int
  expiresAtMs : Int
  deriving DecidableEq

structure RegimeBoundAllocationV1 (F : Type) where
  messageId : String
  source : String
  boundAtMs : Int
  capitalBasis : RegimeCapitalBasisV1 F
  observation : RegimeObservationV1 F
  deriving DecidableEq

/-- `model_dump(mode="json")`, whose one mapping compares without its order. -/
def RegimeBoundAllocationV1.modelDump {F : Type} (a : RegimeBoundAllocationV1 F) :
    RegimeBoundAllocationV1 F :=
  { a with capitalBasis := { a.capitalBasis with
      allocation := { a.capitalBasis.allocation with
        strategyWeights := sortedPairs a.capitalBasis.allocation.strategyWeights } } }

/-- The frozen capability policy, as far as admission asks it. -/
structure RegimeCapabilityPolicyV1 (F : Type) where
  policySha256 : String
  /-- `validate_observation` returns instead of raising. -/
  validateObservation : RegimeObservationV1 F → Bool

/-! ## Decisions -/

/-- What the program passes to the `RiskTradeDecisionV1` constructor. -/
structure RiskTradeDecisionFields (F : Type) where
  source : String
  correlationId : Option String
  causationId : String
  intent : StrategyIntentV1 F
  review : CandidateReviewV1 F
  venueQuality : VenueQualityV1 F
  approved : Bool
  rejectionReasons : List String
  decidedAtMs : Int
  entryPolicy : EntryPolicy
  tradingMode : TradingMode
  evedexProfile : EvedexProfile
  accountId : String
  venueSymbol : String
  quantity : F
  leverage : F
  notionalUsd : F
  lossBudgetUsd : F
  worstCaseLossUsd : F
  worstEntryPrice : F
  estimatedFeesUsd : F
  estimatedSlippageUsd : F
  exitPlan : ExitPlanV1 F

/-- The identities the contract assigns to a decision. -/
structure DecisionIds where
  decisionId : String
  tradeId : Option String
  deriving DecidableEq

structure RiskTradeDecisionV1 (F : Type) extends RiskTradeDecisionFields F where
  decisionId : String
  tradeId : Option String

/-! ## Tactical commands and their orders -/

structure TacticalCommand (F : Type) where
  messageId : String
  correlationId : Option String
  symbol : String
  reasonCode : ReasonCode
  targetSide : Side
  requestedLeverage : F
  referencePrice : F

/-- What the program passes to the `OrderIntent` constructor; `none` is a field
it leaves to the contract's default. -/
structure OrderIntent (F : Type) where
  source : String
  messageId : String
  correlationId : String
  causationId : String
  symbol : String
  side : Option OrderSide
  orderType : OrderType
  quantity : F
  price : Option F
  leverage : Option F
  reduceOnly : Option Bool
  reasonCode : ReasonCode
  deriving DecidableEq

/-- `ValidatedOrder`. -/
structure ValidatedOrder (F : Type) where
  source : String
  messageId : String
  correlationId : String
  causationId : String
  intent : OrderIntent F
  approved : Bool
  reasonCode : ReasonCode
  adjustments : List String
  riskNotes : String
  deriving DecidableEq

/-! ## What the contracts package computes -/

/-- A leaf of a payload handed to `canonical_sha256`. -/
inductive PayloadValue (F : Type) where
  | null
  | text (s : String)
  | texts (ss : List String)
  | int (i : Int)
  | number (x : F)
  | weights (w : List (String × F))
  | pairs (ps : List (String × String))
  | review (r : CandidateReviewV1 F)
  | venue (v : VenueQualityV1 F)
  | allocation (a : StrategicAllocation F)

/-- The third-party code, as functions of what it is given, and the
interpreter's Unicode case table. -/
structure KairosCore (F : Type) where
  /-- `text.upper()`. -/
  upper : String → String
  /-- `RiskTradeDecisionV1(...)`: the identities, or `none` for a validation error. -/
  decisionIds : RiskTradeDecisionFields F → Option DecisionIds
  /-- The binding passes revalidation of its own JSON. -/
  regimeBindingValid : RegimeBoundAllocationV1 F → Bool
  /-- `canonical_sha256` of a JSON object. -/
  canonicalSha256 : List (String × PayloadValue F) → String

variable {F : Type}

/-- `RiskTradeDecisionV1(...)`. -/
def KairosCore.riskTradeDecisionV1 (core : KairosCore F) (f : RiskTradeDecisionFields F) :
    Except PyError (RiskTradeDecisionV1 F) :=
  match core.decisionIds f with
  | none => .error (.valueError "RiskTradeDecisionV1 validation failed")
  | some ids =>
    .ok { toRiskTradeDecisionFields := f, decisionId := ids.decisionId, tradeId := ids.tradeId }

/-- The decision is one the contract validates: its identities are the canonical ones. -/
def KairosCore.Validated (core : KairosCore F) (d : RiskTradeDecisionV1 F) : Prop :=
  core.decisionIds d.toRiskTradeDecisionFields = some ⟨d.decisionId, d.tradeId⟩

instance (core : KairosCore F) (d : RiskTradeDecisionV1 F) : Decidable (core.Validated d) :=
  inferInstanceAs (Decidable (_ = _))

/-- A constructed decision has the fields it was given, and is validated. -/
theorem KairosCore.riskTradeDecisionV1_ok {core : KairosCore F} {f : RiskTradeDecisionFields F}
    {d : RiskTradeDecisionV1 F} (h : core.riskTradeDecisionV1 f = .ok d) :
    d.toRiskTradeDecisionFields = f ∧ core.Validated d := by
  rw [riskTradeDecisionV1] at h
  split at h
  next => cases h
  next ids hids =>
    cases h
    exact ⟨rfl, hids⟩

/-- A decision read back through `RiskTradeDecisionV1.model_validate`. -/
abbrev DurableDecision (core : KairosCore F) := { d : RiskTradeDecisionV1 F // core.Validated d }

/-- The decisions of a durable list are validated. -/
theorem validated_durable {core : KairosCore F} (ds : List (DurableDecision core)) :
    ∀ d ∈ ds.map (·.val), core.Validated d := by
  intro d hd
  obtain ⟨e, _, rfl⟩ := List.mem_map.mp hd
  exact e.property

end KairosRisk
