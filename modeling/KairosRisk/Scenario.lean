import KairosRisk.Approvals

/-!
# A small market to run the coordinator in

Exact arithmetic, one strategy, and as many ideas as a run needs. The
identities of the contracts package are a table of the ideas: a decision is
one it validates if and only if it is about an idea of the table, under the
identities the table gives it. Where those are told apart by idea, decisions
that share an identity are about one idea (`same_idea_of_decisionId`,
`same_idea_of_tradeId`), which is what the canonical digests of the package
are for.
-/

namespace KairosRisk

open PyLib

-- decisions are compared when a run is evaluated
deriving instance DecidableEq for VenueQualityV1, RiskTradeDecisionFields, RiskTradeDecisionV1

namespace Scenario

/-! ## Ideas -/

/-- A review of an intent, the symbol it trades, and the identities of its decisions. -/
structure Idea where
  review : CandidateReviewV1 Rat
  venueSymbol : String
  decisionId : String
  refusalId : String
  tradeId : String
  deriving DecidableEq

/-- The decision is about the idea. -/
def Idea.about (i : Idea) (f : RiskTradeDecisionFields Rat) : Bool :=
  decide (f.intent = i.review.intent) && decide (f.review = i.review)
    && f.venueSymbol == i.venueSymbol

/-- The identities the table gives a decision. -/
def identities (ideas : List Idea) (f : RiskTradeDecisionFields Rat) : Option DecisionIds :=
  (ideas.find? (·.about f)).map fun i =>
    if f.approved then ⟨i.decisionId, some i.tradeId⟩ else ⟨i.refusalId, none⟩

/-- The contracts package, as far as these ideas go. -/
def core (ideas : List Idea) (canonicalSha256 : List (String × PayloadValue Rat) → String) :
    KairosCore Rat where
  upper := id
  decisionIds := identities ideas
  regimeBindingValid _ := true
  canonicalSha256 := canonicalSha256

/-- No identity is given twice. -/
structure Told (ideas : List Idea) : Prop where
  decisions : ∀ i ∈ ideas, ∀ j ∈ ideas, i.decisionId = j.decisionId → i = j
  refusals : ∀ i ∈ ideas, ∀ j ∈ ideas, i.refusalId = j.refusalId → i = j
  apart : ∀ i ∈ ideas, ∀ j ∈ ideas, i.decisionId ≠ j.refusalId
  trades : ∀ i ∈ ideas, ∀ j ∈ ideas, i.tradeId = j.tradeId → i = j

section Identities

variable {ideas : List Idea} {sha : List (String × PayloadValue Rat) → String}
  {d e : RiskTradeDecisionV1 Rat}

/-- A validated decision is about an idea of the table. -/
theorem validated_about (h : (core ideas sha).Validated d) :
    ∃ i ∈ ideas, i.about d.toRiskTradeDecisionFields = true ∧
      (⟨d.decisionId, d.tradeId⟩ : DecisionIds)
        = if d.approved then ⟨i.decisionId, some i.tradeId⟩ else ⟨i.refusalId, none⟩ := by
  obtain ⟨i, hi, hids⟩ := Option.map_eq_some_iff.mp h
  have habout := List.find?_some hi
  exact ⟨i, List.mem_of_find?_eq_some hi, habout, hids.symm⟩

/-- What two decisions about one idea have in common. -/
theorem Idea.about_common {i : Idea} (hd : i.about d.toRiskTradeDecisionFields = true)
    (he : i.about e.toRiskTradeDecisionFields = true) :
    d.venueSymbol = e.venueSymbol ∧ d.intent = e.intent := by
  simp only [Idea.about, Bool.and_eq_true, decide_eq_true_eq, beq_iff_eq] at hd he
  exact ⟨hd.2.trans he.2.symm, hd.1.1.trans he.1.1.symm⟩

/-- One decision id, one idea. -/
theorem same_idea_of_decisionId (hideas : Told ideas) (hd : (core ideas sha).Validated d)
    (he : (core ideas sha).Validated e) (hid : d.decisionId = e.decisionId) :
    d.venueSymbol = e.venueSymbol ∧ d.intent = e.intent := by
  obtain ⟨i, hi, hdi, hidsd⟩ := validated_about hd
  obtain ⟨j, hj, hej, hidse⟩ := validated_about he
  have hone : i = j := by
    split at hidsd <;> split at hidse <;> simp only [DecisionIds.mk.injEq] at hidsd hidse
    · exact hideas.decisions i hi j hj (hidsd.1.symm.trans (hid.trans hidse.1))
    · exact absurd (hidsd.1.symm.trans (hid.trans hidse.1)) (hideas.apart i hi j hj)
    · exact absurd (hidse.1.symm.trans (hid.symm.trans hidsd.1)) (hideas.apart j hj i hi)
    · exact hideas.refusals i hi j hj (hidsd.1.symm.trans (hid.trans hidse.1))
  subst hone
  exact Idea.about_common hdi hej

/-- One trade id, one idea. -/
theorem same_idea_of_tradeId (hideas : Told ideas) (hd : (core ideas sha).Validated d)
    (he : (core ideas sha).Validated e) {tradeId : String} (htd : d.tradeId = some tradeId)
    (hte : e.tradeId = some tradeId) : d.venueSymbol = e.venueSymbol ∧ d.intent = e.intent := by
  obtain ⟨i, hi, hdi, hidsd⟩ := validated_about hd
  obtain ⟨j, hj, hej, hidse⟩ := validated_about he
  rw [htd] at hidsd
  rw [hte] at hidse
  have hone : i = j := by
    split at hidsd <;> split at hidse <;>
      simp only [DecisionIds.mk.injEq, Option.some.injEq, reduceCtorEq, and_false] at hidsd hidse
    exact hideas.trades i hi j hj (hidsd.2.symm.trans hidse.2)
  subst hone
  exact Idea.about_common hdi hej

end Identities

/-! ## Messages -/

/-- A digest of one digit. -/
def digest (digit : Char) : String := String.ofList (List.replicate 64 digit)

/-- An intent to buy at 100 with its stop at 95, open for the next minute. -/
def intent (intentId symbol : String) (decisionTsMs : Int) : StrategyIntentV1 Rat where
  messageId := intentId
  intentId := some intentId
  source := "strategy-engine"
  contractVersion := "strategy-intent.v1"
  strategyId := "paper-test-strategy"
  strategyRevision := "1"
  symbol := symbol
  side := .long
  decisionTsMs := decisionTsMs
  entryEligibleTsMs := decisionTsMs + 1
  entryExpiresTsMs := decisionTsMs + 60001
  referencePrice := 100
  signalStrength := 8 / 10
  grossRewardBps := 500
  exitPlan := { stopPrice := 95, targetPrice := 105, maxHoldingMs := 180000 }
  provenance :=
    { strategyCodeSha256 := "code", configSha256 := "config", inputWindowSha256 := "window"
      featuresSha256 := "features", inputBarSha256s := ["bar"] }
  evidence := []
  metadata := []
  intentId_isSome := Option.isSome_some

/-- The deterministic review that allows an intent, a tenth of a second later. -/
def review (reviewId : String) (intent : StrategyIntentV1 Rat) : CandidateReviewV1 Rat where
  messageId := reviewId
  reviewId := some reviewId
  source := "aggregator"
  route :=
    { source := "router", intent := intent, reviewTier := .normal
      requestedReasoningEffort := .medium, routedAtMs := intent.entryEligibleTsMs
      reviewDeadlineMs := intent.entryExpiresTsMs, evidenceIds := [] }
  intent := intent
  decision := .allow
  priority := 50
  reviewedAtMs := intent.entryEligibleTsMs + 100
  reviewer := "DETERMINISTIC"
  modelProvenance := none
  reasonCodes := ["ALLOW"]
  evidence := []
  reviewId_isSome := Option.isSome_some

/-- An open book around 100, valid for five seconds. -/
def venue (symbol : String) (observedAtMs : Int) : VenueQualityV1 Rat where
  profile := .dev
  symbol := symbol
  measurementId := some "measurement"
  observedAtMs := observedAtMs
  expiresAtMs := observedAtMs + 5000
  referenceTimestampMs := observedAtMs
  bookTimestampMs := observedAtMs
  bestBid := 9999 / 100
  bestAsk := 10001 / 100
  venueMidPrice := 100
  assessedNotionalUsd := 1000
  depthUsd := 5000
  buySlippageBps := 1
  sellSlippageBps := 12 / 10
  takerFeeBps := 5
  entryAllowed := true
  reasonCodes := []

/-- A reconciled snapshot of an account that holds nothing. -/
def account (reconciliationSeq capturedAtMs : Int) : AccountSnapshotV2 Rat where
  snapshotId := "snapshot"
  tradingMode := .paper
  evedexProfile := .dev
  accountId := "kairos-paper-dev-01"
  equityUsd := 10000
  availableBalanceUsd := 9000
  durableDayStartEquityUsd := 10000
  durablePeakEquityUsd := 10000
  dailyRealizedPnlUsd := 0
  unrealizedPnlUsd := 0
  totalOpenRiskUsd := 0
  capturedAtMs := capturedAtMs
  reconciliationSeq := reconciliationSeq
  reconciled := true
  positions := []
  openOrders := []

/-- The account after a decision was filled. -/
def account.holding (a : AccountSnapshotV2 Rat) (d : RiskTradeDecisionV1 Rat) :
    AccountSnapshotV2 Rat :=
  { a with
    totalOpenRiskUsd := d.worstCaseLossUsd
    positions :=
      [{ tradeId := d.tradeId.getD "", venueSymbol := d.venueSymbol
         strategyId := d.intent.strategyId, strategyRevision := d.intent.strategyRevision
         intentId := d.intent.intentId.getD "", riskDecisionId := d.decisionId
         side := d.intent.side, exitPlan := d.exitPlan, signedQuantity := d.quantity
         entryPrice := d.worstEntryPrice, markPrice := d.worstEntryPrice }] }

/-- Four fifths of the capital to the strategy, under a bull regime. -/
def allocation (producedAtMs : Int) : StrategicAllocation Rat where
  messageId := "allocation"
  source := "kairos-macro-strategist"
  correlationId := none
  causationId := none
  schemaVersion := "1.0"
  producedAt := { aware := true, us := producedAtMs * 1000 }
  regime := .bull
  stableReservePct := 2 / 10
  strategyWeights := [("paper-test-strategy", 8 / 10)]
  maxGrossLeverage := 2
  triggeredBy := .schedule
  rationale := ""

/-- An observed regime for an intent, bound to the capital. -/
def binding (intent : StrategyIntentV1 Rat) (regime : String) : RegimeBoundAllocationV1 Rat where
  messageId := "binding"
  source := "kairos-macro-strategist"
  boundAtMs := intent.decisionTsMs
  capitalBasis :=
    { allocation := allocation (intent.decisionTsMs - 1000), policySha256 := "policy"
      sourceSetSha256 := "sources", accountId := "kairos-paper-dev-01"
      accountSnapshotId := "snapshot", accountCapturedAtMs := intent.decisionTsMs - 1000 }
  observation :=
    { source := "regime-detector", sourceSetSha256 := "sources", detectorCodeSha256 := "detector"
      detectorConfigSha256 := "detector-config", intent := intent, regime := regime
      eventAsOfMs := intent.decisionTsMs, observedAtMs := intent.decisionTsMs
      expiresAtMs := intent.entryExpiresTsMs }

/-- The policy that maps the observed regimes. -/
def regimePolicy : RegimeCapabilityPolicyV1 Rat where
  policySha256 := "policy"
  validateObservation o := ["BULL", "RANGE"].contains o.regime

/-- The default limits, with the strategy allowed and a cache of the given size. -/
def settings (cacheSize : Nat) (hcache : 1 ≤ cacheSize) : RiskSettings Rat :=
  { RiskSettings.defaults with
    paperStrategyAllowlist := ["paper-test-strategy@1", "technical-canary@1"]
    paperDecisionCacheSize := cacheSize
    decisionCacheSize_pos := hcache }

theorem ten_decisions : 1 ≤ 10 := by decide

/-- The evaluation of a review under the allocation of its minute. -/
def request (review : CandidateReviewV1 Rat) (decidedAtMs : Int) : EvaluateRequest Rat where
  review := review
  allocation := some (allocation (review.intent.decisionTsMs - 1000))
  decidedAtMs := decidedAtMs
  systemMode := .normal
  admissionRejectionReasons := []

/-- The idea of an intent, with the identities of its decisions. -/
def idea (name symbol venueSymbol : String) (decisionTsMs : Int) : Idea where
  review := review ("review-" ++ name) (intent ("intent-" ++ name) symbol decisionTsMs)
  venueSymbol := venueSymbol
  decisionId := "decision-" ++ name
  refusalId := "refusal-" ++ name
  tradeId := "trade-" ++ name

/-! ## Decisions -/

variable {p : PaperRiskPipeline Rat Rat} {c : PaperRiskCoordinator Rat} {x : EvaluateRequest Rat}

/-- The decision an evaluation returns, when it returns. -/
def made (p : PaperRiskPipeline Rat Rat) (c : PaperRiskCoordinator Rat) (x : EvaluateRequest Rat) :
    Option (RiskTradeDecisionV1 Rat) := (c.evaluate p x).1.toOption

theorem returned_of_made {d : RiskTradeDecisionV1 Rat} (h : made p c x = some d) :
    (c.evaluate p x).1 = .ok d := by
  unfold made at h
  cases hr : (c.evaluate p x).1 with
  | error e =>
    rw [hr] at h
    cases h
  | ok d' =>
    rw [hr] at h
    cases h
    rfl

/-- An approval of a review that was not decided before. -/
theorem newlyApproves_of_made {d : RiskTradeDecisionV1 Rat} {reviewId : String}
    (h : made p c x = some d) (ha : d.approved = true) (hid : x.review.reviewId = some reviewId)
    (hnew : (c.decisions.get? reviewId).isNone = true) : c.NewlyApproves p x d := by
  refine ⟨returned_of_made h, ha, ?_⟩
  intro other hother
  rw [hid] at hother
  cases hother
  exact Option.isNone_iff_eq_none.mp hnew

/-! ## One approval

Two ideas want one symbol, a minute apart; the first is approved. -/

/-- The first idea. -/
def ideaA : Idea := idea "a" "BTCUSDT" "BTCUSD:DEV" 59999

/-- The second idea. -/
def ideaB : Idea := idea "b" "BTCUSDT" "BTCUSD:DEV" 119999

/-- An idea on another symbol, in the same minute as the first. -/
def ideaC : Idea := idea "c" "ETHUSDT" "ETHUSD:DEV" 59999

/-- The market of the first two. -/
def market : PaperRiskPipeline Rat Rat where
  core := core [ideaA, ideaB] fun _ => ""
  settings := settings 10 ten_decisions
  regimePolicy := none

theorem market_told : Told [ideaA, ideaB] := by
  constructor <;> decide +kernel

/-- Facts and a review, in the order the service receives them. -/
def approving : List (Operation market.core) :=
  [.restoreReservations [], .applyAccount (account 1 60200),
    .applyVenue (venue "BTCUSD:DEV" 60300), .evaluate (request ideaA.review 60400)]

/-- The coordinator that approved the first idea. -/
def approved : PaperRiskCoordinator Rat :=
  run (PaperRiskCoordinator.step market) PaperRiskCoordinator.init approving

/-- The reservation it holds. -/
def heldA : Reservation Rat := (approved.reservations.get? "trade-a").get (by decide +kernel)

theorem heldA_validated : market.core.Validated heldA.decision := by decide +kernel

end Scenario

end KairosRisk
