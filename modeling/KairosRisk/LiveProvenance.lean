import KairosRisk.LiveSizing
import KairosRisk.Scenario

/-!
# LIVE evaluation fails closed

Whatever the registered verifiers do, an evaluation reports as verified only
what a verifier returned for this call and what passed every check against it
(`verifiedInputs_eq_some`, `verifiedAccount_eq_some`). An approval needs both, fresh
at the time of the decision; without one of them there is a reason, and a
decision with a reason has no economics.
-/

namespace KairosRisk

open PyLib PaperRiskPipeline

variable {F D E : Type} [PyFloat F] [PyDecimal D] {core : LiveCore F}

namespace LiveRiskEvaluator

/-! ## Verified inputs -/

/-- The registered input verifier returned these facts for this very call. -/
def InputsVouched (e : LiveRiskEvaluator F D E core) (x : LiveInputs F E)
    (v : VerifiedLiveInputsV1 D core) : Prop :=
  ∃ verify raw facts, e.inputVerifier = some verify ∧ x.rawInputsEvidence = some raw ∧
    verify raw e.scope x.review x.venue x.allocation x.systemMode x.decidedAtMs = some facts ∧
    VerifiedLiveInputsV1.modelValidate core facts = .ok v

/-- The rules belong to the receipt, the scope and the symbol, and are as fresh. -/
structure RulesBound (e : LiveRiskEvaluator F D E core) (x : LiveInputs F E)
    (v : VerifiedLiveInputsV1 D core) (rules : VerifiedLiveInstrumentRulesV1 D core) : Prop where
  source : rules.sourceId = v.sourceId
  scope : rules.scopeSha256 = e.scope.scopeSha256
  evidence : rules.evidenceSha256 = v.evidenceSha256
  symbol : rules.venueSymbol = x.venue.symbol
  captured : rules.observedAtMs ≤ v.observedAtMs
  notFuture : 0 ≤ x.decidedAtMs - rules.observedAtMs
  fresh : x.decidedAtMs - rules.observedAtMs ≤ 5000

/-- The receipt binds exactly the arguments of the call. -/
structure InputsBound (e : LiveRiskEvaluator F D E core) (x : LiveInputs F E)
    (v : VerifiedLiveInputsV1 D core) : Prop where
  scope : v.scopeSha256 = e.scope.scopeSha256
  review : v.reviewSha256 = core.reviewSha256 x.review
  venue : v.venueSha256 = core.venueSha256 x.venue
  allocation : v.allocationSha256 = x.allocation.map core.allocationSha256
  noAllocation : v.allocationSha256 = none ↔ x.allocation = none
  systemMode : v.systemMode = x.systemMode
  notFuture : 0 ≤ x.decidedAtMs - v.observedAtMs
  fresh : x.decidedAtMs - v.observedAtMs ≤ 5000
  rules : ∀ rules, v.instrumentRules = some rules → e.RulesBound x v rules

/-- The one freshness test of receipts and rules. -/
theorem age_within {ageMs : Int}
    (h : (decide (ageMs < 0) || decide (maxAccountAgeMs < ageMs)) = false) :
    0 ≤ ageMs ∧ ageMs ≤ 5000 := by
  rw [Bool.or_eq_false_iff, decide_eq_false_iff_not, decide_eq_false_iff_not, maxAccountAgeMs] at h
  omega

section Inputs

variable {e : LiveRiskEvaluator F D E core} {x : LiveInputs F E} {v : VerifiedLiveInputsV1 D core}

/-- Rules that passed their checks are bound. -/
theorem checkRules_ok (h : e.checkRules x v = .ok ()) {rules : VerifiedLiveInstrumentRulesV1 D core}
    (hrules : v.instrumentRules = some rules) : e.RulesBound x v rules := by
  simp only [checkRules, hrules] at h
  obtain ⟨hbound, h⟩ := ok_of_raiseIf h
  have hage := raiseIf_ok h
  simp only [Bool.or_eq_false_iff, decide_eq_false_iff_not, Decidable.not_not] at hbound
  obtain ⟨⟨⟨hsource, hscope⟩, hevidence⟩, hsymbol⟩ := hbound
  rw [Bool.or_eq_false_iff] at hage
  obtain ⟨hnotFuture, hfresh⟩ := age_within hage.1
  have hcaptured := of_decide_eq_false hage.2
  exact ⟨hsource, hscope, hevidence, hsymbol, by omega, hnotFuture, hfresh⟩

/-- A receipt that passed the `try` block is bound. -/
theorem verifyInputs_ok {verify : LiveInputsSourceVerifier F D E core} {raw : E}
    (h : e.verifyInputs x verify raw = .ok v) :
    (∃ facts, verify raw e.scope x.review x.venue x.allocation x.systemMode x.decidedAtMs
      = some facts ∧ VerifiedLiveInputsV1.modelValidate core facts = .ok v) ∧
    e.InputsBound x v := by
  unfold verifyInputs at h
  obtain ⟨facts, hfacts, h⟩ := ok_of_bind h
  obtain ⟨verified, hverified, h⟩ := ok_of_bind h
  obtain ⟨hscope, h⟩ := ok_of_raiseIf_ne h
  obtain ⟨hreview, h⟩ := ok_of_raiseIf_ne h
  obtain ⟨hvenue, h⟩ := ok_of_raiseIf_ne h
  obtain ⟨hallocation, h⟩ := ok_of_raiseIf_ne h
  obtain ⟨hmode, h⟩ := ok_of_raiseIf_ne h
  obtain ⟨hage, h⟩ := ok_of_raiseIf h
  obtain ⟨_, hrules, h⟩ := ok_of_bind h
  obtain ⟨hnotFuture, hfresh⟩ := age_within hage
  cases h
  refine ⟨⟨facts, verifierResult_ok hfacts, hverified⟩, ?_⟩
  refine ⟨hscope, hreview, hvenue, hallocation, ?_, hmode, hnotFuture, hfresh, ?_⟩
  · rw [hallocation, Option.map_eq_none_iff]
  · intro rules hsome
    exact checkRules_ok hrules hsome

/-- A bound receipt passes the `try` block. -/
theorem verifyInputs_of_bound {verify : LiveInputsSourceVerifier F D E core} {raw : E}
    {facts : LiveInputsFacts (LiveInstrumentRules D)}
    (hfacts : verify raw e.scope x.review x.venue x.allocation x.systemMode x.decidedAtMs
      = some facts)
    (hvalid : VerifiedLiveInputsV1.modelValidate core facts = .ok v) (hbound : e.InputsBound x v) :
    e.verifyInputs x verify raw = .ok v := by
  have hrules : e.checkRules x v = .ok () := by
    unfold checkRules
    split
    next => rfl
    next rules hsome =>
      have h := hbound.rules rules hsome
      have hfuture : ¬x.decidedAtMs - rules.observedAtMs < 0 := Int.not_lt.mpr h.notFuture
      have hstale : ¬maxAccountAgeMs < x.decidedAtMs - rules.observedAtMs := Int.not_lt.mpr h.fresh
      have hcaptured : ¬v.observedAtMs < rules.observedAtMs := Int.not_lt.mpr h.captured
      simp [raiseIf, h.source, h.scope, h.evidence, h.symbol, hfuture, hstale, hcaptured, bind,
        Except.bind]
  have hfuture : ¬x.decidedAtMs - v.observedAtMs < 0 := Int.not_lt.mpr hbound.notFuture
  have hstale : ¬maxAccountAgeMs < x.decidedAtMs - v.observedAtMs := Int.not_lt.mpr hbound.fresh
  simp [verifyInputs, hfacts, verifierResult, hvalid, raiseIf, hbound.scope, hbound.review,
    hbound.venue, hbound.allocation, hbound.systemMode, hfuture, hstale, hrules, bind, Except.bind,
    pure, Except.pure]

/-- **Verified inputs** are those vouched for that bind the call. -/
theorem verifiedInputs_eq_some :
    (e.verifiedInputs x).1 = some v ↔ e.InputsVouched x v ∧ e.InputsBound x v := by
  constructor
  · intro h
    unfold verifiedInputs at h
    split at h
    next => cases h
    next => cases h
    next verify raw hverifier hraw =>
      split at h
      next => cases h
      next verified hverified =>
        cases h
        obtain ⟨⟨facts, hfacts, hvalid⟩, hbound⟩ := verifyInputs_ok hverified
        exact ⟨⟨verify, raw, facts, hverifier, hraw, hfacts, hvalid⟩, hbound⟩
  · rintro ⟨⟨verify, raw, facts, hverifier, hraw, hfacts, hvalid⟩, hbound⟩
    have hverified := verifyInputs_of_bound hfacts hvalid hbound
    simp only [verifiedInputs, hverifier, hraw, hverified]

/-- Without a reason, the inputs are verified. -/
theorem verifiedInputs_of_nil (h : (e.verifiedInputs x).2 = []) :
    ∃ v, (e.verifiedInputs x).1 = some v := by
  revert h
  unfold verifiedInputs
  split
  next => intro h; cases h
  next => intro h; cases h
  next verify raw _ _ =>
    split
    next => intro h; cases h
    next v _ => intro _; exact ⟨v, rfl⟩

end Inputs

/-! ## The verified account -/

variable [Spelling F D]

/-- The verifier registered under the source returned these facts for this call. -/
def AccountVouched (e : LiveRiskEvaluator F D E core) (x : LiveInputs F E)
    (v : VerifiedLiveAccountV1 F D core) : Prop :=
  ∃ verify facts, e.accountVerifiers.get? x.sourceId = some verify ∧
    verify x.rawAccountEvidence x.sourceId e.scope = some facts ∧
    VerifiedLiveAccountV1.modelValidate D core facts = .ok v

/-- The facts are those of the source, the scope and its account. -/
structure AccountBound (e : LiveRiskEvaluator F D E core) (x : LiveInputs F E)
    (v : VerifiedLiveAccountV1 F D core) : Prop where
  source : v.sourceId = x.sourceId
  scope : v.scopeSha256 = e.scope.scopeSha256
  accountId : v.account.accountId = e.scope.accountId
  complete : v.Complete D

section Account

variable {e : LiveRiskEvaluator F D E core} {x : LiveInputs F E}
  {v : VerifiedLiveAccountV1 F D core}

/-- Facts that passed the `try` block are bound. -/
theorem verifyAccount_ok {verify : LiveAccountSourceVerifier F E core}
    (h : e.verifyAccount x verify = .ok v) :
    (∃ facts, verify x.rawAccountEvidence x.sourceId e.scope = some facts ∧
      VerifiedLiveAccountV1.modelValidate D core facts = .ok v) ∧ e.AccountBound x v := by
  unfold verifyAccount at h
  obtain ⟨facts, hfacts, h⟩ := ok_of_bind h
  obtain ⟨verified, hverified, h⟩ := ok_of_bind h
  obtain ⟨hsource, h⟩ := ok_of_raiseIf_ne h
  obtain ⟨hscope, h⟩ := ok_of_raiseIf_ne h
  obtain ⟨haccount, h⟩ := ok_of_raiseIf_ne h
  cases h
  exact ⟨⟨facts, verifierResult_ok hfacts, hverified⟩, hsource, hscope, haccount, v.complete⟩

/-- Bound facts pass the `try` block. -/
theorem verifyAccount_of_bound {verify : LiveAccountSourceVerifier F E core}
    {facts : LiveAccountFacts F}
    (hfacts : verify x.rawAccountEvidence x.sourceId e.scope = some facts)
    (hvalid : VerifiedLiveAccountV1.modelValidate D core facts = .ok v)
    (hbound : e.AccountBound x v) : e.verifyAccount x verify = .ok v := by
  simp [verifyAccount, hfacts, verifierResult, hvalid, raiseIf, hbound.source, hbound.scope,
    hbound.accountId, bind, Except.bind, pure, Except.pure]

/-- **A verified account** is one vouched for that is the scope's. -/
theorem verifiedAccount_eq_some :
    (e.verifiedAccount x).1 = some v ↔ e.AccountVouched x v ∧ e.AccountBound x v := by
  constructor
  · intro h
    unfold verifiedAccount at h
    split at h
    next => cases h
    next verify hverifier =>
      split at h
      next => cases h
      next verified hverified =>
        cases h
        obtain ⟨⟨facts, hfacts, hvalid⟩, hbound⟩ := verifyAccount_ok hverified
        exact ⟨⟨verify, facts, hverifier, hfacts, hvalid⟩, hbound⟩
  · rintro ⟨⟨verify, facts, hverifier, hfacts, hvalid⟩, hbound⟩
    have hverified := verifyAccount_of_bound hfacts hvalid hbound
    simp only [verifiedAccount, hverifier, hverified]

end Account

/-! ## What no reason says -/

theorem ageReasons_eq_nil {ageMs maxAgeMs : Int} {future stale : String}
    (h : ageReasons ageMs maxAgeMs future stale = []) : 0 ≤ ageMs ∧ ageMs ≤ maxAgeMs := by
  unfold ageReasons at h
  split at h
  next => cases h
  next hfuture =>
    rw [reasonIf_eq_nil, decide_eq_false_iff_not] at h
    omega

section Gates

variable {e : LiveRiskEvaluator F D E core} {x : LiveInputs F E}

/-- The gates passed only over a fresh account and a valid allocation. -/
theorem admissionGates_eq_nil [DecidableEq F] {verified : Option (VerifiedLiveAccountV1 F D core)}
    (h : e.admissionGates x verified = []) :
    ∃ account allocation, verified = some account ∧ x.allocation = some allocation ∧
      e.candidateReasons x = [] ∧ e.accountReasons x account = [] ∧
      e.allocationReasons x allocation = [] := by
  simp only [admissionGates, List.append_eq_nil_iff] at h
  obtain ⟨⟨⟨⟨hcandidate, _⟩, _⟩, haccount⟩, hallocation⟩ := h
  cases verified with
  | none => cases haccount
  | some account =>
    cases hx : x.allocation with
    | none =>
      rw [hx] at hallocation
      cases hallocation
    | some allocation =>
      rw [hx] at hallocation
      exact ⟨account, allocation, rfl, rfl, hcandidate, haccount, hallocation⟩

/-- The account's snapshot is of the last five seconds. -/
theorem accountReasons_fresh {account : VerifiedLiveAccountV1 F D core}
    (h : e.accountReasons x account = []) :
    0 ≤ x.decidedAtMs - account.asOfMs ∧ x.decidedAtMs - account.asOfMs ≤ 5000 := by
  simp only [accountReasons, List.append_eq_nil_iff] at h
  obtain ⟨⟨⟨⟨⟨⟨_, hage⟩, _⟩, _⟩, _⟩, _⟩, _⟩ := h
  exact ageReasons_eq_nil hage

end Gates

/-! ## The evaluation -/

/-- The evaluation reports these inputs and this account, and nothing else: what
is not verified is absent, but for the source the caller named. -/
structure Reports (x : LiveInputs F E) (r : LiveRiskEvaluationV1 F D core)
    (inputs : Option (VerifiedLiveInputsV1 D core))
    (account : Option (VerifiedLiveAccountV1 F D core)) : Prop where
  sourceId : r.sourceId =
    (account.map (·.sourceId)).or (if x.sourceId = "" then none else some x.sourceId)
  evidence : r.evidenceSha256 = account.map (·.evidenceSha256)
  snapshot : r.accountSnapshotSha256 = account.map (·.account.snapshotId)
  asOf : r.accountAsOfMs = account.map (·.asOfMs)
  openRisk : r.aggregateOpenRiskUsd = account.map (·.aggregateOpenRiskUsd)
  openNotional : r.aggregateOpenNotionalUsd = account.map (·.aggregateOpenNotionalUsd)
  reservedRisk : r.reservedOpenRiskUsd = account.map (·.reservedOpenRiskUsd)
  reservedNotional : r.reservedOpenNotionalUsd = account.map (·.reservedOpenNotionalUsd)
  strategyNotional : r.strategyOpenNotionalUsd = account.map (·.strategyOpenNotionalUsd)
  strategyReserved : r.strategyReservedNotionalUsd = account.map (·.strategyReservedNotionalUsd)
  dailyLoss : r.dailyAdverseLossUsd = account.map (·.dailyAdverseLossUsd)
  equity : r.accountEquityUsd = account.map (·.account.equityUsd)
  inputsSource : r.inputsSourceId = inputs.map (·.sourceId)
  inputsEvidence : r.inputsEvidenceSha256 = inputs.map (·.evidenceSha256)
  inputsObserved : r.inputsObservedAtMs = inputs.map (·.observedAtMs)
  rules : r.instrumentRules = inputs.bind (·.instrumentRules)

/-- The decision commits no capital. -/
structure NoEconomics (d : RiskTradeDecisionV1 F) : Prop where
  quantity : d.quantity = PyFloat.lit 0
  notional : d.notionalUsd = PyFloat.lit 0
  lossBudget : d.lossBudgetUsd = PyFloat.lit 0
  worstLoss : d.worstCaseLossUsd = PyFloat.lit 0
  fees : d.estimatedFeesUsd = PyFloat.lit 0
  slippage : d.estimatedSlippageUsd = PyFloat.lit 0

/-- What an approval rests on: both receipts, the account's of the last five
seconds, and the instrument rules where the evaluator requires them. -/
structure Rests (e : LiveRiskEvaluator F D E core) (x : LiveInputs F E)
    (inputs : VerifiedLiveInputsV1 D core) (account : VerifiedLiveAccountV1 F D core) : Prop where
  inputsVerified : e.InputsVouched x inputs ∧ e.InputsBound x inputs
  accountVerified : e.AccountVouched x account ∧ e.AccountBound x account
  notFuture : 0 ≤ x.decidedAtMs - account.asOfMs
  fresh : x.decidedAtMs - account.asOfMs ≤ 5000
  required : e.requireInstrumentRules = true → inputs.instrumentRules.isSome = true

section Evaluation

variable {e : LiveRiskEvaluator F D E core} {x : LiveInputs F E}

theorem reports_report {a : Admission F D core} {decision : RiskTradeDecisionV1 F}
    (hrules : a.rules = a.inputs.bind (·.instrumentRules)) :
    Reports x (e.report x a decision) a.inputs a.account := by
  refine ⟨?_, rfl, rfl, rfl, rfl, rfl, rfl, rfl, rfl, rfl, rfl, rfl, rfl, rfl, rfl, hrules⟩
  rw [report]
  cases a.account with
  | none => rfl
  | some account => rfl

variable [DecidableEq F]

/-- An admission without a reason rests on both receipts. -/
theorem rests_of_admission {a : Admission F D core} (h : e.admission x = .ok a)
    (hnil : a.reasons = []) :
    ∃ inputs account, a.inputs = some inputs ∧ a.account = some account ∧
      e.Rests x inputs account := by
  obtain ⟨hinputs, hrules, haccount, entryReasons, _, hreasons⟩ := admission_ok h
  rw [hreasons] at hnil
  simp only [List.append_eq_nil_iff] at hnil
  obtain ⟨⟨⟨⟨hinputReasons, hruleReasons⟩, _⟩, hgates⟩, _⟩ := hnil
  obtain ⟨inputs, hverified⟩ := verifiedInputs_of_nil hinputReasons
  obtain ⟨account, _, hsome, _, _, hagainst, _⟩ := admissionGates_eq_nil hgates
  obtain ⟨hnotFuture, hfresh⟩ := accountReasons_fresh hagainst
  have ha : a.inputs = some inputs := hinputs.trans hverified
  refine ⟨inputs, account, ha, hsome, ?_⟩
  refine ⟨verifiedInputs_eq_some.mp hverified,
    verifiedAccount_eq_some.mp (haccount.symm.trans hsome), hnotFuture, hfresh, ?_⟩
  intro hrequired
  rw [instrumentRules, ha, reasonIf_eq_nil, hrequired, Bool.true_and] at hruleReasons
  cases hsomeRules : inputs.instrumentRules with
  | none =>
    rw [Option.bind_some, hsomeRules] at hruleReasons
    cases hruleReasons
  | some rules => rfl

/-- **LIVE evaluation fails closed.** An evaluation reports the inputs and the
account that were vouched for and bind this call, and nothing of what was not;
an approval rests on both, and a refusal commits no capital. -/
theorem fails_closed {r : LiveRiskEvaluationV1 F D core} (h : e.evaluate x = .ok r) :
    ∃ (inputs : Option (VerifiedLiveInputsV1 D core))
      (account : Option (VerifiedLiveAccountV1 F D core)),
      (∀ v, inputs = some v ↔ e.InputsVouched x v ∧ e.InputsBound x v) ∧
      (∀ v, account = some v ↔ e.AccountVouched x v ∧ e.AccountBound x v) ∧
      Reports x r inputs account ∧
      (r.decision.approved = true → ∃ i a, inputs = some i ∧ account = some a ∧ e.Rests x i a) ∧
      (r.decision.approved = false → NoEconomics r.decision) := by
  obtain ⟨_, a, c, hadmission, hcapital, hreport, hfields⟩ := evaluate_ok h
  obtain ⟨hinputs, hrules, haccount, _⟩ := admission_ok hadmission
  refine ⟨a.inputs, a.account, ?_, ?_, ?_, ?_, ?_⟩
  · intro v
    rw [hinputs]
    exact verifiedInputs_eq_some
  · intro v
    rw [haccount]
    exact verifiedAccount_eq_some
  · rw [hreport]
    exact reports_report hrules
  · intro happroved
    have hnil : c.reasons = [] := by
      rw [hfields] at happroved
      exact List.isEmpty_iff.mp happroved
    exact rests_of_admission hadmission (capital_reasons hcapital hnil)
  · intro hrefused
    rw [hfields] at hrefused
    have hempty : c.reasons.isEmpty = false := hrefused
    constructor <;> rw [hfields, decisionFields, hempty] <;> rfl

end Evaluation

end LiveRiskEvaluator

/-! ## A LIVE idea

The market's idea on a PROD venue, its receipts half a second and a fifth of a
second old, under instrument rules with a thousandth as the lot. -/

namespace Scenario

open LiveRiskEvaluator

/-- The idea. -/
def liveIdea : Idea := idea "live" "BTCUSDT" "BTCUSD" 59999

/-- The digests of the scope and of the limits. -/
def liveDigests (payload : List (String × PayloadValue Rat)) : String :=
  match payload.lookup "context_sha256" with
  | some _ => digest 'd'
  | none => digest 'e'

/-- The contracts package, as far as the idea goes. -/
def liveCore : LiveCore Rat where
  toKairosCore := Scenario.core [liveIdea] liveDigests
  reviewValid _ := true
  venueValid v := decide (0 < v.bestBid) && decide (0 < v.bestAsk)
  accountValid _ := true
  reviewSha256 _ := digest '1'
  venueSha256 _ := digest '2'
  allocationSha256 _ := digest '3'

/-- The released scope. -/
def liveScope : LiveRiskScopeFields where
  contextSha256 := digest 'a'
  sourceSetSha256 := digest 'b'
  policySha256 := digest 'c'
  riskLimitsSha256 := digest 'e'
  accountId := "kairos-live-01"
  strategyId := "paper-test-strategy"
  strategyRevision := "1"
  approvedProdSymbols := [("BTCUSDT", "BTCUSD")]

/-- Its limits. -/
def liveLimits : LiveRiskLimitsFields Rat where
  perTradeRiskFraction := 25 / 10000
  aggregateOpenRiskFraction := 1 / 100
  maxLeverage := 1
  perTradeDollarCapUsd := 500
  aggregateDollarCapUsd := 3000
  dailyLossCapUsd := 1000
  maxAccountEquityUsd := 20000
  maxPositionNotionalUsd := 2000
  minNotionalUsd := 5

/-- The account's source: a proof of an account that holds nothing. -/
def liveAccountVerifier : LiveAccountSourceVerifier Rat String liveCore :=
  fun evidence sourceId scope =>
    if evidence = "account-proof" then
      some
        { sourceId, scopeSha256 := scope.scopeSha256, evidenceSha256 := digest '4', asOfMs := 60200
          account := { account 1 60200 with
            tradingMode := .live, evedexProfile := .prod, accountId := "kairos-live-01" }
          aggregateOpenRiskUsd := 0, aggregateOpenNotionalUsd := 0, reservedOpenRiskUsd := 0
          reservedOpenNotionalUsd := 0, strategyOpenNotionalUsd := 0
          strategyReservedNotionalUsd := 0, dailyAdverseLossUsd := 0 }
    else none

/-- The instrument, as its source observed it. -/
def liveRules (scopeSha256 : String) : LiveInstrumentRules Rat where
  sourceId := "live-inputs"
  scopeSha256 := scopeSha256
  evidenceSha256 := digest '5'
  venueSymbol := "BTCUSD"
  profile := .prod
  observedAtMs := 59800
  rulesUpdatedAtMs := none
  priceIncrement := 1 / 100
  quantityIncrement := 1 / 1000
  minPrice := 1 / 100
  maxPrice := 1000000
  minQuantity := 1 / 1000
  maxQuantity := 1000
  minNotionalUsd := 5
  maxNotionalUsd := none
  lotSize := 1
  multiplier := 1

/-- The inputs' source: a receipt for the call it is given. -/
def liveInputsVerifier : LiveInputsSourceVerifier Rat Rat String liveCore :=
  fun evidence scope review venue allocation systemMode decidedAtMs =>
    if evidence = "inputs-proof" then
      some
        { sourceId := "live-inputs", scopeSha256 := scope.scopeSha256, evidenceSha256 := digest '5'
          reviewSha256 := liveCore.reviewSha256 review, venueSha256 := liveCore.venueSha256 venue
          allocationSha256 := allocation.map liveCore.allocationSha256, systemMode
          observedAtMs := decidedAtMs - 500, instrumentRules := some (liveRules scope.scopeSha256) }
    else none

/-- The evaluator with both sources registered. -/
def liveEvaluator : LiveRiskEvaluator Rat Rat String liveCore :=
  (LiveRiskEvaluator.init Rat liveCore liveScope liveLimits
    (OrderedDict.empty.set "live-account" liveAccountVerifier) (some liveInputsVerifier)
    true).toOption.get (by decide +kernel)

/-- The call about the idea. -/
def liveCall : LiveInputs Rat String where
  rawAccountEvidence := "account-proof"
  sourceId := "live-account"
  review := liveIdea.review
  venue := { venue "BTCUSD" 60300 with profile := .prod }
  allocation := some (allocation 59000)
  decidedAtMs := 60400
  systemMode := .normal
  rawInputsEvidence := some "inputs-proof"

/-- Its evaluation. -/
def liveEvaluation : LiveRiskEvaluationV1 Rat Rat liveCore :=
  (liveEvaluator.evaluate liveCall).toOption.get (by decide +kernel)

theorem liveEvaluation_returned : liveEvaluator.evaluate liveCall = .ok liveEvaluation :=
  eq_ok_of_isSome _

theorem liveEvaluation_approved : liveEvaluation.decision.approved = true := by decide +kernel

/-- It is approved, and rests on both receipts. -/
theorem liveEvaluation_rests :
    liveEvaluation.decision.approved = true ∧
    ∃ inputs account, liveEvaluator.Rests liveCall inputs account := by
  obtain ⟨_, _, _, _, _, happroval, _⟩ := fails_closed liveEvaluation_returned
  obtain ⟨inputs, account, _, _, hrests⟩ := happroval liveEvaluation_approved
  exact ⟨liveEvaluation_approved, inputs, account, hrests⟩

end Scenario

end KairosRisk
