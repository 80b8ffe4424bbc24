import KairosRisk.Contracts

/-!
# What LIVE risk is given: scope, limits and verified facts

The LIVE evaluator trusts nothing it was not handed by a registered verifier,
and nothing a verifier returned before it has validated it again. Each model
of the source is here twice: its fields, as anyone may fill them in, and the
model itself, which is those fields with a proof that they pass the model's
own checks. `modelValidate` is the only way from the one to the other.
-/

namespace KairosRisk

open PyLib

/-- The third-party code LIVE evaluation calls on. -/
structure LiveCore (F : Type) extends KairosCore F where
  /-- The review passes revalidation of its own JSON. -/
  reviewValid : CandidateReviewV1 F → Bool
  /-- The venue measurement passes revalidation of its own JSON. -/
  venueValid : VenueQualityV1 F → Bool
  /-- The account snapshot passes revalidation of its own JSON. -/
  accountValid : AccountSnapshotV2 F → Bool
  /-- `canonical_sha256(model.model_dump(mode="json"))`, for each model. -/
  reviewSha256 : CandidateReviewV1 F → String
  venueSha256 : VenueQualityV1 F → String
  allocationSha256 : StrategicAllocation F → String

/-- A check that passed, with the proof that it did. -/
def certify (check : Except PyError Unit) : Except PyError (PLift (check = .ok ())) :=
  match check with
  | .error e => .error e
  | .ok () => .ok ⟨rfl⟩

theorem certify_of_ok {check : Except PyError Unit} (h : check = .ok ()) :
    certify check = .ok ⟨h⟩ := by
  subst h
  rfl

/-- `Field(min_length=1, max_length=n)`. -/
def lengthWithin (n : Nat) (s : String) : Bool := decide (1 ≤ s.length) && decide (s.length ≤ n)

/-- `venue.endswith((":DEV", ":SIM"))`. -/
def isTestSymbol (s : String) : Bool :=
  ":DEV".toList.isSuffixOf s.toList || ":SIM".toList.isSuffixOf s.toList

variable {F : Type}

/-! ## The frozen scope -/

structure LiveRiskScopeFields where
  contextSha256 : String
  sourceSetSha256 : String
  policySha256 : String
  riskLimitsSha256 : String
  accountId : String
  strategyId : String
  strategyRevision : String
  /-- Pairs are (immutable signal symbol, exact PROD venue symbol). -/
  approvedProdSymbols : List (String × String)

namespace LiveRiskScopeFields

/-- One pass of the loop over the approved pairs. -/
def checkPair (core : LiveCore F) (pair : String × String) : Except PyError Unit := do
  raiseIf (pair.1 = "" || pair.1 ≠ core.upper (strip pair.1))
    "approved signal symbols must be normalized uppercase"
  raiseIf (pair.2 = "" || pair.2 ≠ core.upper (strip pair.2) || isTestSymbol pair.2)
    "approved venue symbols must be normalized non-DEV/non-SIM symbols"

/-- The field constraints and `validate_scope`, of sorted pairs. -/
def check (core : LiveCore F) (s : LiveRiskScopeFields) : Except PyError Unit := do
  raiseIf
    (!List.all [s.contextSha256, s.sourceSetSha256, s.policySha256, s.riskLimitsSha256] isSha256Hex
      || !List.all [s.accountId, s.strategyId, s.strategyRevision] (lengthWithin 128)
      || s.approvedProdSymbols.isEmpty)
    "LiveRiskScopeV1 field constraints"
  raiseIf (!isStripped s.accountId) "account_id must be normalized"
  raiseIf (!isStripped s.strategyId) "strategy_id must be normalized"
  raiseIf (!isStripped s.strategyRevision) "strategy_revision must be normalized"
  let signals := s.approvedProdSymbols.map Prod.fst
  raiseIf (signals.eraseDups.length ≠ signals.length) "approved PROD signal symbols must be unique"
  let venues := s.approvedProdSymbols.map Prod.snd
  raiseIf (venues.eraseDups.length ≠ venues.length) "approved PROD venue symbols must be unique"
  s.approvedProdSymbols.forM (checkPair core)

/-- `tuple(sorted(pairs))`. -/
def sortedSymbols (pairs : List (String × String)) : List (String × String) :=
  sorted (fun a b => decide (a.1 < b.1) || (a.1 == b.1 && decide (a.2 ≤ b.2))) pairs

end LiveRiskScopeFields

/-- Frozen non-secret identity for one independently released LIVE policy. -/
structure LiveRiskScopeV1 (core : LiveCore F) extends LiveRiskScopeFields where
  validated : toLiveRiskScopeFields.check core = .ok ()

namespace LiveRiskScopeV1

variable {core : LiveCore F}

/-- `LiveRiskScopeV1.model_validate`. -/
def modelValidate (core : LiveCore F) (s : LiveRiskScopeFields) :
    Except PyError (LiveRiskScopeV1 core) := do
  let s := { s with
    approvedProdSymbols := LiveRiskScopeFields.sortedSymbols s.approvedProdSymbols }
  let ⟨validated⟩ ← certify (s.check core)
  return ⟨s, validated⟩

/-- Validation puts the approved pairs in order. -/
theorem modelValidate_symbols {s : LiveRiskScopeFields} {r : LiveRiskScopeV1 core}
    (h : modelValidate core s = .ok r) (pair : String × String) :
    pair ∈ r.approvedProdSymbols ↔ pair ∈ s.approvedProdSymbols := by
  unfold modelValidate at h
  obtain ⟨_, _, h⟩ := ok_of_bind h
  cases h
  exact mem_sorted _

/-- `scope_sha256`. -/
def scopeSha256 (s : LiveRiskScopeV1 core) : String :=
  core.canonicalSha256
    [("context_sha256", .text s.contextSha256), ("source_set_sha256", .text s.sourceSetSha256),
      ("policy_sha256", .text s.policySha256), ("risk_limits_sha256", .text s.riskLimitsSha256),
      ("account_id", .text s.accountId), ("strategy_id", .text s.strategyId),
      ("strategy_revision", .text s.strategyRevision),
      ("approved_prod_symbols", .pairs s.approvedProdSymbols)]

/-- `venue_symbol_for`. -/
def venueSymbolFor (s : LiveRiskScopeV1 core) (signalSymbol : String) : Option String :=
  (s.approvedProdSymbols.find? fun pair => pair.1 == signalSymbol).map Prod.snd

end LiveRiskScopeV1

/-! ## The hard limits -/

section Numbers

variable [PyFloat F]

/-- `Field(gt=0, allow_inf_nan=False)`. -/
def isPositive (x : F) : Bool := PyFloat.isFinite x && decide (PyFloat.lit 0 < x)

/-- `Field(ge=0, allow_inf_nan=False)`. -/
def isNonNegative (x : F) : Bool := PyFloat.isFinite x && decide (PyFloat.lit 0 ≤ x)

end Numbers

structure LiveRiskLimitsFields (F : Type) where
  perTradeRiskFraction : F
  aggregateOpenRiskFraction : F
  maxLeverage : F
  perTradeDollarCapUsd : F
  aggregateDollarCapUsd : F
  dailyLossCapUsd : F
  maxAccountEquityUsd : F
  maxPositionNotionalUsd : F
  minNotionalUsd : F

/-- The field constraints and `validate_dollar_limits`. -/
def LiveRiskLimitsFields.check [PyFloat F] (l : LiveRiskLimitsFields F) : Except PyError Unit := do
  raiseIf (!List.all [l.perTradeRiskFraction, l.aggregateOpenRiskFraction, l.perTradeDollarCapUsd,
        l.aggregateDollarCapUsd, l.dailyLossCapUsd, l.maxAccountEquityUsd,
        l.maxPositionNotionalUsd, l.minNotionalUsd] isPositive
      || !decide (l.perTradeRiskFraction ≤ PyFloat.lit (25 / 10000))
      || !decide (l.aggregateOpenRiskFraction ≤ PyFloat.lit (1 / 100))
      || !decide (PyFloat.lit 1 ≤ l.maxLeverage) || !decide (l.maxLeverage ≤ PyFloat.lit 1))
    "LiveRiskLimitsV1 field constraints"
  raiseIf (PyFloat.min l.aggregateDollarCapUsd [l.maxPositionNotionalUsd] < l.minNotionalUsd)
    "min_notional_usd exceeds a notional ceiling"

/-- Monotone hard ceilings; construction cannot relax the LIVE policy. -/
structure LiveRiskLimitsV1 (F : Type) [PyFloat F] extends LiveRiskLimitsFields F where
  validated : toLiveRiskLimitsFields.check = .ok ()

namespace LiveRiskLimitsV1

variable [PyFloat F]

/-- `LiveRiskLimitsV1.model_validate`. -/
def modelValidate (l : LiveRiskLimitsFields F) : Except PyError (LiveRiskLimitsV1 F) := do
  let ⟨validated⟩ ← certify l.check
  return ⟨l, validated⟩

theorem modelValidate_ok {l : LiveRiskLimitsFields F} {r : LiveRiskLimitsV1 F}
    (h : modelValidate l = .ok r) : r.toLiveRiskLimitsFields = l := by
  unfold modelValidate at h
  obtain ⟨_, _, h⟩ := ok_of_bind h
  cases h
  rfl

/-- Limits are what their fields are. -/
theorem modelValidate_self (r : LiveRiskLimitsV1 F) :
    modelValidate r.toLiveRiskLimitsFields = .ok r := by
  unfold modelValidate
  rw [certify_of_ok r.validated]
  rfl

/-- `canonical_sha256(self.limits.model_dump(mode="json"))`. -/
def limitsSha256 (l : LiveRiskLimitsV1 F) (core : LiveCore F) : String :=
  core.canonicalSha256
    [("per_trade_risk_fraction", .number l.perTradeRiskFraction),
      ("aggregate_open_risk_fraction", .number l.aggregateOpenRiskFraction),
      ("max_leverage", .number l.maxLeverage),
      ("per_trade_dollar_cap_usd", .number l.perTradeDollarCapUsd),
      ("aggregate_dollar_cap_usd", .number l.aggregateDollarCapUsd),
      ("daily_loss_cap_usd", .number l.dailyLossCapUsd),
      ("max_account_equity_usd", .number l.maxAccountEquityUsd),
      ("max_position_notional_usd", .number l.maxPositionNotionalUsd),
      ("min_notional_usd", .number l.minNotionalUsd)]

end LiveRiskLimitsV1

/-! ## Verified account facts -/

/-- What an account verifier returns, before it is validated. -/
structure LiveAccountFacts (F : Type) where
  sourceId : String
  scopeSha256 : String
  evidenceSha256 : String
  asOfMs : Int
  account : AccountSnapshotV2 F
  aggregateOpenRiskUsd : F
  aggregateOpenNotionalUsd : F
  reservedOpenRiskUsd : F
  reservedOpenNotionalUsd : F
  strategyOpenNotionalUsd : F
  strategyReservedNotionalUsd : F
  dailyAdverseLossUsd : F

namespace LiveAccountFacts

variable [PyFloat F]

/-- The loop over the open orders: an entry order without a price has no value. -/
def addEntryNotional (total : F) (order : OpenOrderSnapshotV2 F) : Except PyError F :=
  if order.orderRole ≠ .entry then .ok total
  else match order.price with
    | none =>
      .error (.valueError "complete LIVE open-notional evidence cannot value an entry order")
    | some price => .ok (total + (order.quantity - order.filledQuantity) * price)

/-- `snapshot_notional`: positions at their mark, entry orders at their price. -/
def snapshotNotional (account : AccountSnapshotV2 F) : Except PyError F :=
  account.openOrders.foldlM addEntryNotional
    (PyFloat.sum (account.positions.map fun q => PyFloat.abs q.signedQuantity * q.markPrice))

variable (D : Type) [PyDecimal D] [Spelling F D]

/-- `minimum_adverse_loss`: realized plus unrealized losses. -/
def minimumAdverseLoss (account : AccountSnapshotV2 F) : D :=
  PyDecimal.add
    (PyDecimal.max (PyDecimal.ofInt 0) (PyDecimal.neg (Spelling.spell account.dailyRealizedPnlUsd)))
    (PyDecimal.max (PyDecimal.ofInt 0) (PyDecimal.neg (Spelling.spell account.unrealizedPnlUsd)))

/-- The field constraints and `validate_verified_facts`. -/
def check (core : LiveCore F) (v : LiveAccountFacts F) : Except PyError Unit := do
  raiseIf (!lengthWithin 160 v.sourceId || !List.all [v.scopeSha256, v.evidenceSha256] isSha256Hex
      || v.asOfMs < 0 || !core.accountValid v.account
      || !List.all [v.aggregateOpenRiskUsd, v.aggregateOpenNotionalUsd, v.reservedOpenRiskUsd,
        v.reservedOpenNotionalUsd, v.strategyOpenNotionalUsd, v.strategyReservedNotionalUsd,
        v.dailyAdverseLossUsd] isNonNegative)
    "VerifiedLiveAccountV1 field constraints"
  raiseIf (!isStripped v.sourceId) "verified source_id must be normalized"
  raiseIf (v.account.tradingMode ≠ .live) "verified account must be LIVE"
  raiseIf (v.account.evedexProfile ≠ .prod) "verified account must use EVEDEX PROD"
  raiseIf (!v.account.reconciled || v.account.reconciliationSeq ≤ 0)
    "verified account must be reconciled with a positive sequence"
  raiseIf (v.account.capturedAtMs ≠ v.asOfMs)
    "verified account as-of must equal snapshot captured_at_ms"
  raiseIf (v.aggregateOpenRiskUsd < v.account.totalOpenRiskUsd)
    "aggregate open risk cannot understate the account snapshot"
  let notional ← snapshotNotional v.account
  raiseIf (v.aggregateOpenNotionalUsd < notional)
    "aggregate open notional cannot understate the account snapshot"
  raiseIf (PyDecimal.lt (Spelling.spell v.dailyAdverseLossUsd) (minimumAdverseLoss D v.account))
    "daily adverse loss cannot understate realized plus unrealized losses"

/-- What validation says of the snapshot: reconciled, LIVE and PROD, taken when
the facts say, and not understated by them. -/
structure Complete (v : LiveAccountFacts F) : Prop where
  live : v.account.tradingMode = .live
  prod : v.account.evedexProfile = .prod
  reconciled : v.account.reconciled = true
  sequence : 0 < v.account.reconciliationSeq
  captured : v.account.capturedAtMs = v.asOfMs
  risk : ¬v.aggregateOpenRiskUsd < v.account.totalOpenRiskUsd
  notional : ∃ notional, snapshotNotional v.account = .ok notional ∧
    ¬v.aggregateOpenNotionalUsd < notional
  loss : PyDecimal.lt (Spelling.spell v.dailyAdverseLossUsd)
    (minimumAdverseLoss D v.account) = false

variable {D} in
theorem check_ok {core : LiveCore F} {v : LiveAccountFacts F} (h : v.check D core = .ok ()) :
    v.Complete D := by
  unfold check at h
  obtain ⟨_, h⟩ := ok_of_raiseIf h
  obtain ⟨_, h⟩ := ok_of_raiseIf h
  obtain ⟨hlive, h⟩ := ok_of_raiseIf h
  obtain ⟨hprod, h⟩ := ok_of_raiseIf h
  obtain ⟨hreconciled, h⟩ := ok_of_raiseIf h
  obtain ⟨hcaptured, h⟩ := ok_of_raiseIf h
  obtain ⟨hrisk, h⟩ := ok_of_raiseIf h
  obtain ⟨notional, hsum, h⟩ := ok_of_bind h
  obtain ⟨hnotional, h⟩ := ok_of_raiseIf h
  have hloss := raiseIf_ok h
  rw [Bool.or_eq_false_iff] at hreconciled
  exact
    { live := by simpa using hlive
      prod := by simpa using hprod
      reconciled := by simpa using hreconciled.1
      sequence := by simpa using hreconciled.2
      captured := by simpa using hcaptured
      risk := of_decide_eq_false hrisk
      notional := ⟨notional, hsum, of_decide_eq_false hnotional⟩
      loss := hloss }

end LiveAccountFacts

/-- Verifier output; numeric fields are mandatory and never default to zero. -/
structure VerifiedLiveAccountV1 (F D : Type) [PyFloat F] [PyDecimal D] [Spelling F D]
    (core : LiveCore F) extends LiveAccountFacts F where
  validated : toLiveAccountFacts.check D core = .ok ()

namespace VerifiedLiveAccountV1

variable {D : Type} [PyFloat F] [PyDecimal D] [Spelling F D] {core : LiveCore F}

/-- `VerifiedLiveAccountV1.model_validate`. -/
def modelValidate (D : Type) [PyDecimal D] [Spelling F D] (core : LiveCore F)
    (v : LiveAccountFacts F) : Except PyError (VerifiedLiveAccountV1 F D core) := do
  let ⟨validated⟩ ← certify (v.check D core)
  return ⟨v, validated⟩

theorem modelValidate_ok {v : LiveAccountFacts F} {r : VerifiedLiveAccountV1 F D core}
    (h : modelValidate D core v = .ok r) : r.toLiveAccountFacts = v := by
  unfold modelValidate at h
  obtain ⟨_, _, h⟩ := ok_of_bind h
  cases h
  rfl

/-- Verified facts are what their fields are. -/
theorem modelValidate_self (r : VerifiedLiveAccountV1 F D core) :
    modelValidate D core r.toLiveAccountFacts = .ok r := by
  unfold modelValidate
  rw [certify_of_ok r.validated]
  rfl

/-- Verified facts are complete. -/
theorem complete (v : VerifiedLiveAccountV1 F D core) : v.Complete D :=
  LiveAccountFacts.check_ok v.validated

end VerifiedLiveAccountV1

/-! ## Verified instrument rules and inputs -/

/-- Instrument rules as a verifier returns them, before they are validated. -/
structure LiveInstrumentRules (D : Type) where
  sourceId : String
  scopeSha256 : String
  evidenceSha256 : String
  venueSymbol : String
  profile : EvedexProfile
  observedAtMs : Int
  rulesUpdatedAtMs : Option Int
  priceIncrement : D
  quantityIncrement : D
  minPrice : D
  maxPrice : D
  minQuantity : D
  maxQuantity : D
  minNotionalUsd : D
  maxNotionalUsd : Option D
  lotSize : D
  multiplier : D

/-- The field constraints and `validate_rules`. -/
def LiveInstrumentRules.check {D : Type} [PyDecimal D] (core : LiveCore F)
    (r : LiveInstrumentRules D) : Except PyError Unit := do
  let positive := fun v : D => PyDecimal.lt (PyDecimal.ofInt 0) v
  let one : D := PyDecimal.ofInt 1
  raiseIf (!lengthWithin 160 r.sourceId || !List.all [r.scopeSha256, r.evidenceSha256] isSha256Hex
      || !lengthWithin 128 r.venueSymbol || r.observedAtMs < 0
      || r.rulesUpdatedAtMs.any (fun ms => ms < 0)
      || !List.all [r.priceIncrement, r.quantityIncrement, r.minPrice, r.maxPrice, r.minQuantity,
        r.maxQuantity, r.minNotionalUsd, r.lotSize, r.multiplier] positive
      || !r.maxNotionalUsd.all positive)
    "VerifiedLiveInstrumentRulesV1 field constraints"
  raiseIf (!isStripped r.sourceId) "instrument source_id must be normalized"
  raiseIf (r.profile ≠ .prod || r.venueSymbol ≠ core.upper (strip r.venueSymbol)
      || isTestSymbol r.venueSymbol)
    "instrument rules must identify one normalized PROD symbol"
  raiseIf (!PyDecimal.eqv r.lotSize one || !PyDecimal.eqv r.multiplier one)
    "instrument lot size/multiplier are unsupported"
  raiseIf (!PyDecimal.lt r.minPrice r.maxPrice || PyDecimal.lt r.maxQuantity r.minQuantity)
    "instrument bounds are incoherent"
  raiseIf (r.maxNotionalUsd.any fun cap => PyDecimal.lt cap r.minNotionalUsd)
    "instrument notional bounds are incoherent"
  raiseIf (r.rulesUpdatedAtMs.any fun ms => r.observedAtMs < ms)
    "instrument rule-change timestamp postdates original capture"

/-- Authenticated verifier output, never caller-supplied sizing authority. -/
structure VerifiedLiveInstrumentRulesV1 (D : Type) [PyDecimal D] (core : LiveCore F)
    extends LiveInstrumentRules D where
  validated : toLiveInstrumentRules.check core = .ok ()

/-- `VerifiedLiveInstrumentRulesV1.model_validate`. -/
def VerifiedLiveInstrumentRulesV1.modelValidate {D : Type} [PyDecimal D] (core : LiveCore F)
    (r : LiveInstrumentRules D) : Except PyError (VerifiedLiveInstrumentRulesV1 D core) := do
  let ⟨validated⟩ ← certify (r.check core)
  return ⟨r, validated⟩

/-- What an input verifier returns, its instrument rules in either state. -/
structure LiveInputsFacts (R : Type) where
  sourceId : String
  scopeSha256 : String
  evidenceSha256 : String
  reviewSha256 : String
  venueSha256 : String
  allocationSha256 : Option String
  systemMode : SystemMode
  observedAtMs : Int
  instrumentRules : Option R

/-- The field constraints and `validate_source_id`. -/
def LiveInputsFacts.check {R : Type} (v : LiveInputsFacts R) : Except PyError Unit := do
  raiseIf (!lengthWithin 160 v.sourceId
      || !List.all [v.scopeSha256, v.evidenceSha256, v.reviewSha256, v.venueSha256] isSha256Hex
      || v.observedAtMs < 0)
    "VerifiedLiveInputsV1 field constraints"
  raiseIf (!isStripped v.sourceId) "verified input source_id must be normalized"

/-- Verifier output binding exact upstream inputs; hashes alone are not proof. -/
structure VerifiedLiveInputsV1 (D : Type) [PyDecimal D] (core : LiveCore F)
    extends LiveInputsFacts (VerifiedLiveInstrumentRulesV1 D core) where
  validated : toLiveInputsFacts.check = .ok ()

/-- `VerifiedLiveInputsV1.model_validate`, nested rules first. -/
def VerifiedLiveInputsV1.modelValidate {D : Type} [PyDecimal D] (core : LiveCore F)
    (v : LiveInputsFacts (LiveInstrumentRules D)) :
    Except PyError (VerifiedLiveInputsV1 D core) := do
  let instrumentRules ← v.instrumentRules.mapM (VerifiedLiveInstrumentRulesV1.modelValidate core)
  let v := { v with instrumentRules := instrumentRules }
  let ⟨validated⟩ ← certify v.check
  return ⟨v, validated⟩

end KairosRisk
