import KairosRisk.Scenario
import KairosRisk.ServiceTurns

/-!
# No approval is published without authority

An approval leaves the service in one place only: right after `bind_decision`
returned for it, in the round that read the operator's version
(`published_bound`). A canary's approval also needs an arm that was accepted in
the same handling. That part is an invariant of the loop's locals
(`Armed`): once the arm was asked for, either a rejection reason stands, and
reasons are never taken back, or an accepted arm is on record.
-/

namespace KairosRisk

open PyLib

namespace RiskService

variable {F D : Type} [PyFloat F] [DecidableEq F] [PyDecimal D] [Spelling F D]

/-! ## The operator -/

omit [DecidableEq F] [PyDecimal D] [Spelling F D] in
/-- An operator was read from the repository, and the locals are what they were. -/
theorem readOperator_some {s : RiskService F D} {v : ReviewLocals F} {pass : Pass s.pipeline.core}
    {operator : OperatorSnapshotV1} (h : (s.readOperator v pass).2 = some operator) :
    pass.snapshot = .ok (some operator) ∧ (s.readOperator v pass).1 = v := by
  unfold readOperator at h ⊢
  split at h
  next hsnapshot =>
    cases h
    exact ⟨hsnapshot, rfl⟩
  next => cases h

omit [DecidableEq F] [PyDecimal D] [Spelling F D] in
/-- Asking for the operator forgets no rejection and does not touch the arm. -/
theorem readOperator_locals (s : RiskService F D) (v : ReviewLocals F)
    (pass : Pass s.pipeline.core) :
    (s.readOperator v pass).1.canaryArmChecked = v.canaryArmChecked ∧
    (s.readOperator v pass).1.canaryAllocation = v.canaryAllocation ∧
    ((s.readOperator v pass).1.admissionRejections = [] → v.admissionRejections = []) := by
  unfold readOperator
  split
  next => exact ⟨rfl, rfl, id⟩
  next =>
    refine ⟨rfl, rfl, ?_⟩
    intro hnil
    have hmem : "operator_control_unavailable" ∈
        sortedNames (v.admissionRejections ++ ["operator_control_unavailable"]).eraseDups := by
      rw [sortedNames, mem_sorted, List.mem_eraseDups]
      exact List.mem_append_right _ (List.mem_cons_self ..)
    dsimp only at hnil
    rw [hnil] at hmem
    cases hmem

/-! ## The binding -/

/-- The decision was bound in this round, to the operator's version read in it. -/
structure Bound (s : RiskService F D) (t : Turn s.pipeline.core) (d : RiskTradeDecisionV1 F)
    (operator : OperatorSnapshotV1) (scope : CanaryScope) : Prop where
  configured : s.paperOperatorScope = some scope
  snapshot : t.pass.snapshot = .ok (some operator)
  bind : t.pass.bind = .ok ()
  call : t.bound = some (d, scope, operator.version)

/-- **A published approval** was bound in its round, by an evaluation without a
rejection reason. -/
theorem published_bound {s : RiskService F D} {review : CandidateReviewV1 F}
    {v armed : ReviewLocals F} {pass : Pass s.pipeline.core} {found : PaperRiskCoordinator F}
    {arm : Option (PaperCanaryArmRecord F)} {decidedAtMs : Int} {d : RiskTradeDecisionV1 F}
    (h : (s.deciding review v pass found armed arm decidedAtMs).outcome = .published d)
    (hd : d.approved = true) :
    armed.admissionRejections = [] ∧ ∃ operator scope, (s.readOperator v pass).2 = some operator ∧
      s.Bound (s.deciding review v pass found armed arm decidedAtMs) d operator scope := by
  cases hb : (s.deciding review v pass found armed arm decidedAtMs).bound with
  | none =>
    have hpublishes := decideAndBind_published h
    rw [show (s.decideAndBind review armed _ decidedAtMs pass found).bound = none from hb]
      at hpublishes
    cases hpublishes with
    | refused _ hrefused =>
      rw [hd] at hrefused
      cases hrefused
    | revoked _ _ _ c' hsecond =>
      -- the second evaluation is given a reason of its own
      have hnone := (PaperRiskCoordinator.admissionReasons_eq_nil
        (PaperRiskCoordinator.approved_admission hsecond hd)).2
      cases hnone
  | some call =>
    have hpublishes := decideAndBind_published h
    rw [show (s.decideAndBind review armed _ decidedAtMs pass found).bound = some call from hb]
      at hpublishes
    cases hpublishes with
    | bound hfirst _ hoperator hscope hbind =>
      have hnone := (PaperRiskCoordinator.admissionReasons_eq_nil
        (PaperRiskCoordinator.approved_admission hfirst hd)).2
      exact ⟨hnone, _, _, hoperator, hscope, (readOperator_some hoperator).1, hbind, hb⟩

/-! ## The arm -/

/-- The repository returned an arm in this round, and the arm was accepted. -/
def AcceptsArm (s : RiskService F D) (review : CandidateReviewV1 F) (t : Turn s.pipeline.core) :
    Prop :=
  ∃ arm allocation decidedAtMs, t.arm = some arm ∧
    allocationFromConsumedArm D s.pipeline.core arm review s.pipeline.settings.paperAccountId
      t.pass.observedNowMs = .ok (allocation, decidedAtMs)

/-- Once the arm was asked for, a rejection stands or an accepted arm is on record. -/
def Armed (s : RiskService F D) (review : CandidateReviewV1 F) (v : ReviewLocals F)
    (seen : List (Turn s.pipeline.core)) : Prop :=
  v.canaryArmChecked = true → v.admissionRejections = [] → ∃ t ∈ seen, s.AcceptsArm review t

/-- A round keeps the invariant. -/
theorem armed_deciding {s : RiskService F D} {review : CandidateReviewV1 F}
    {v armed : ReviewLocals F} {pass : Pass s.pipeline.core} (found : PaperRiskCoordinator F)
    {arm : Option (PaperCanaryArmRecord F)} {decidedAtMs : Int} {seen : List (Turn s.pipeline.core)}
    (h : s.Armed review v seen)
    (harm : ConsumesArm s review (s.readOperator v pass).1 (s.readOperator v pass).2 pass armed arm
      decidedAtMs) :
    s.Armed review armed (seen ++ [s.deciding review v pass found armed arm decidedAtMs]) := by
  obtain ⟨hchecked, _, hrejections⟩ := readOperator_locals s v pass
  intro hc hnil
  cases harm with
  | skipped =>
    obtain ⟨t, ht, haccepts⟩ := h (hchecked ▸ hc) (hrejections hnil)
    exact ⟨t, List.mem_append_left _ ht, haccepts⟩
  | missing => cases hnil
  | invalid => cases hnil
  | accepted _ haccepted =>
    exact ⟨_, List.mem_append_right _ (List.mem_cons_self ..), _, _, _, rfl, haccepted⟩

omit [Spelling F D] in
/-- With an operator, a canary's arm has been asked for after its round. -/
theorem ConsumesArm.checked {s : RiskService F D}
    {review : CandidateReviewV1 F} {v armed : ReviewLocals F} {operator : OperatorSnapshotV1}
    {pass : Pass s.pipeline.core} {arm : Option (PaperCanaryArmRecord F)} {decidedAtMs : Int}
    (h : ConsumesArm s review v (some operator) pass armed arm decidedAtMs)
    (hcanary : review.isCanary = true) : armed.canaryArmChecked = true := by
  cases h with
  | skipped hskips =>
    simpa [consumesArm, hcanary] using hskips
  | _ => rfl

/-! ## Every handling -/

/-- The authority behind a published approval. -/
structure Authorized (s : RiskService F D) (review : CandidateReviewV1 F)
    (turns : List (Turn s.pipeline.core)) (t : Turn s.pipeline.core)
    (d : RiskTradeDecisionV1 F) : Prop where
  bound : ∃ operator scope, s.Bound t d operator scope
  canary : review.isCanary = true → ∃ t' ∈ turns, s.AcceptsArm review t'

/-- The rounds that follow `seen`. -/
theorem authorized_rounds {s : RiskService F D} {review : CandidateReviewV1 F} :
    ∀ (passes : List (Pass s.pipeline.core)) {v : ReviewLocals F} {c : PaperRiskCoordinator F}
      {seen : List (Turn s.pipeline.core)}, s.Armed review v seen →
      ∀ t ∈ s.rounds review passes v c, ∀ d, t.outcome = .published d → d.approved = true →
        s.Authorized review (seen ++ s.rounds review passes v c) t d
  | [], _, _, _, _, _, ht, _, _, _ => by cases ht
  | pass :: passes, v, c, seen, h, t, ht, d, hpublished, hd => by
    obtain ⟨first, rest, hrounds, hgoes⟩ := rounds_goes s review v c pass passes
    rw [hrounds] at ht ⊢
    cases hgoes with
    | stopped _ hnot =>
      rw [List.mem_singleton.mp ht] at hpublished
      exact absurd hpublished (hnot d)
    | @decided found armed arm decidedAtMs _ harm _ hrest =>
      have hnext := armed_deciding found h harm
      rw [List.append_cons]
      rcases List.mem_cons.mp ht with rfl | ht
      · obtain ⟨hnil, operator, scope, hoperator, hbound⟩ := published_bound hpublished hd
        refine ⟨⟨operator, scope, hbound⟩, ?_⟩
        intro hcanary
        rw [hoperator] at harm
        obtain ⟨t', ht', haccepts⟩ := hnext (harm.checked hcanary) hnil
        exact ⟨t', List.mem_append_left _ ht', haccepts⟩
      · rcases hrest with rfl | ⟨_, rfl⟩
        · cases ht
        · exact authorized_rounds passes hnext t ht d hpublished hd

/-- **No unauthorized approval is published**, whatever the repositories answer
and whatever the other tasks do: each one was bound in its round to the version
of the operator read there, and a canary's had an arm accepted for its review. -/
theorem no_unauthorized_approval (s : RiskService F D) (envelopes : List (Envelope s.pipeline.core))
    (c : PaperRiskCoordinator F) :
    ∀ h ∈ s.consumePaperReviews envelopes c, ∀ t ∈ h.turns, ∀ d,
      t.outcome = .published d → d.approved = true → s.Authorized h.review h.turns t d := by
  induction envelopes generalizing c with
  | nil =>
    intro h hh
    cases hh
  | cons envelope envelopes ih =>
    intro h hh t ht d hpublished hd
    rcases List.mem_cons.mp hh with rfl | hh
    · have hstart : s.Armed envelope.review .start [] := by
        intro hchecked
        cases hchecked
      exact authorized_rounds envelope.passes hstart t ht d hpublished hd
    · exact ih _ h hh t ht d hpublished hd

end RiskService

/-! ## An authorized canary

A canary is prepared at the close of a bar, under an instrument rule whose least
lot is a twentieth at the book's ask, and its arm is consumed at 60400. -/

namespace Scenario

open RiskService

/-- The digests of the canary's rule, arm and allocation, by the domain of the payload. -/
def canaryDigests (payload : List (String × PayloadValue Rat)) : String :=
  match payload.lookup "domain" with
  | some (.text domain) => if domain = instrumentRuleDomain then digest 'a' else digest 'b'
  | _ => digest 'c'

/-- The metadata that binds the instrument rule. -/
def canaryMetadata : List (String × String) :=
  [("account_id", "kairos-paper-dev-01"), ("alpha_claim", "false"),
    ("canary_entry_order", canaryEntryOrder), ("canary_quantity", "0.05"),
    ("entry_policy", "NEXT_BAR_MARKET"), ("instrument_rules_sha256", digest 'a'),
    ("purpose", "technical_execution_canary"), ("venue_lot_size", "1"),
    ("venue_market_state", "OPEN"), ("venue_max_price", "1000000"), ("venue_max_quantity", "1000"),
    ("venue_min_price", "0.01"), ("venue_min_quantity", "0.001"), ("venue_min_volume_usd", "5"),
    ("venue_multiplier", "1"), ("venue_price_increment", "0.01"),
    ("venue_quantity_increment", "0.001"), ("venue_symbol", "BTCUSD:DEV"), ("venue_trading", "all"),
    ("venue_updated_at_ms", "50000")]

/-- The closed bar and the instrument. -/
def canaryEvidence : List EvidenceReferenceV1 :=
  [{ kind := "closed_bar", reference := "BINANCE_UM:BTCUSDT:59999"
     contentSha256 := some (digest 'd'), observedAtMs := 59999 },
    { kind := "venue_instrument", reference := "EVEDEX_DEV:BTCUSD:DEV:50000"
      contentSha256 := some (digest 'a'), observedAtMs := 50000 }]

/-- The intent of the canary. -/
def canaryIntent : StrategyIntentV1 Rat :=
  { intent "intent-canary" "BTCUSDT" 59999 with
    source := canarySource
    strategyId := paperCanaryStrategyId
    strategyRevision := canaryStrategyRevision
    signalStrength := 0
    provenance :=
      { strategyCodeSha256 := "code", configSha256 := "config", inputWindowSha256 := "window"
        featuresSha256 := "features", inputBarSha256s := [digest 'd'] }
    evidence := canaryEvidence
    metadata := canaryMetadata }

/-- Its review, under the manual policy. -/
def canaryReview : CandidateReviewV1 Rat where
  messageId := "review-canary"
  reviewId := some "review-canary"
  source := canarySource
  route :=
    { source := canarySource, intent := canaryIntent, reviewTier := .normal
      requestedReasoningEffort := .medium, routedAtMs := 59999, reviewDeadlineMs := 120000
      evidenceIds := [digest 'a', digest 'd'] }
  intent := canaryIntent
  decision := .allow
  priority := 0
  reviewedAtMs := 60000
  reviewer := "DETERMINISTIC"
  modelProvenance := none
  reasonCodes := ["TECHNICAL_CANARY_MANUAL_POLICY"]
  evidence := canaryEvidence
  reviewId_isSome := rfl

/-- The one allocation its arm may hold. -/
def canaryAllocation : StrategicAllocation Rat where
  messageId := digest 'c'
  source := canarySource
  correlationId := some "intent-canary"
  causationId := some "intent-canary"
  schemaVersion := "1.0"
  producedAt := { aware := true, us := 60000000 }
  regime := .bull
  stableReservePct := 1 - 25 / 10000
  strategyWeights := [(paperCanaryStrategyId, 25 / 10000)]
  maxGrossLeverage := 1
  triggeredBy := .schedule
  rationale := canaryAllocationRationale

/-- The arm, consumed at 60400. -/
def canaryArm : PaperCanaryArmRecord Rat where
  armId := digest 'b'
  accountId := "kairos-paper-dev-01"
  review := canaryReview
  allocation := canaryAllocation
  status := "CONSUMED"
  expiresAt := { aware := true, us := 120000000 }
  decidedAtMs := some 60400
  sessionId := some (digest '1')
  attemptId := some (digest '2')
  sessionExpiresAt := some { aware := true, us := 200000000 }

/-- A service with an operator scope, and the canary among its ideas. -/
def service : RiskService Rat Rat where
  pipeline :=
    { core := core
        [{ review := canaryReview, venueSymbol := "BTCUSD:DEV", decisionId := "decision-canary"
           refusalId := "refusal-canary", tradeId := "trade-canary" }] canaryDigests
      settings := settings 10 ten_decisions
      regimePolicy := none }
  paperOperatorScope := some
    { environment := "paper-dev", accountId := "kairos-paper-dev-01", remoteAccountId := "remote"
      configSha256 := digest 'e', recorderCodeSha256 := digest 'f' }

/-- The inputs of the canary have arrived. -/
def canaryFacts : PaperRiskCoordinator Rat :=
  run (PaperRiskCoordinator.step service.pipeline) PaperRiskCoordinator.init
    [.restoreReservations [], .applyAccount (account 1 60200),
      .applyVenue (venue "BTCUSD:DEV" 60300)]

/-- A round in which every repository answers and nobody interferes. -/
def canaryPass (observedNowMs : Int) : Pass service.pipeline.core where
  entering := []
  wakes := []
  observedNowMs := observedNowMs
  snapshot := .ok (some { version := 7 })
  duringSnapshot := []
  consume := .ok (some canaryArm)
  duringConsume := []
  strategicAllocation := none
  systemMode := .normal
  beforeEvaluate := []
  bind := .ok ()
  duringBind := []
  strategicAllocationAgain := none
  systemModeAgain := .normal
  beforeReevaluate := []

/-- The one round of an undisturbed handling. -/
def canaryTurn : Turn service.pipeline.core :=
  service.turn canaryReview .start canaryFacts (canaryPass 60450)

/-- The decision a round published, if it did. -/
def publishedBy {c : KairosCore Rat} (t : Turn c) : Option (RiskTradeDecisionV1 Rat) :=
  match t.outcome with
  | .published d => some d
  | _ => none

theorem outcome_of_publishedBy {c : KairosCore Rat} {t : Turn c} {d : RiskTradeDecisionV1 Rat}
    (h : publishedBy t = some d) : t.outcome = .published d := by
  unfold publishedBy at h
  split at h
  next ho =>
    cases h
    exact ho
  next => cases h

/-- The round goes on. -/
def goesOn {c : KairosCore Rat} (t : Turn c) : Bool :=
  match t.outcome with
  | .retry => true
  | _ => false

theorem outcome_of_goesOn {c : KairosCore Rat} {t : Turn c} (h : goesOn t = true) :
    t.outcome = .retry := by
  unfold goesOn at h
  split at h
  next ho => exact ho
  next => cases h

/-- The first round of a handling of the canary. -/
def firstTurn (first : Pass service.pipeline.core) : Turn service.pipeline.core :=
  service.turn canaryReview .start canaryFacts first

/-- The second, after one that goes on. -/
def secondTurn (first second : Pass service.pipeline.core) : Turn service.pipeline.core :=
  service.turn canaryReview (firstTurn first).locals (firstTurn first).coordinator second

theorem two_rounds {first second : Pass service.pipeline.core} {d : RiskTradeDecisionV1 Rat}
    (hretry : goesOn (firstTurn first) = true)
    (hpublished : publishedBy (secondTurn first second) = some d) :
    service.handlePaperReview canaryReview [first, second] canaryFacts
      = [firstTurn first, secondTurn first second] := by
  have hfirst : (service.turn canaryReview .start canaryFacts first).outcome = .retry :=
    outcome_of_goesOn hretry
  have hsecond : (service.turn canaryReview (firstTurn first).locals (firstTurn first).coordinator
      second).outcome = .published d := outcome_of_publishedBy hpublished
  unfold handlePaperReview rounds
  dsimp only
  rw [hfirst]
  unfold firstTurn at hsecond
  unfold rounds
  dsimp only
  rw [hsecond]
  rfl

/-- The approval it publishes. -/
def canaryDecision : RiskTradeDecisionV1 Rat := (publishedBy canaryTurn).get (by decide +kernel)

theorem canaryTurn_published : canaryTurn.outcome = .published canaryDecision :=
  outcome_of_publishedBy (Option.some_get _).symm

/-- It was bound to version 7 and had its arm. -/
theorem canaryDecision_authorized :
    service.Authorized canaryReview
      (service.handlePaperReview canaryReview [canaryPass 60450] canaryFacts) canaryTurn
      canaryDecision :=
  no_unauthorized_approval service
    [{ before := [], review := canaryReview, passes := [canaryPass 60450] }] canaryFacts _
    (List.mem_cons_self ..) canaryTurn (List.mem_cons_self ..) canaryDecision canaryTurn_published
    (by decide +kernel)

end Scenario

end KairosRisk
