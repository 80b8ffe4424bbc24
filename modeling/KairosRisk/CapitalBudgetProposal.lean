import KairosRisk.Live

/-!
# Capital-budget proposals

`propose_capital_budget` computes limits from verified facts, and gives nobody
any authority. It trusts none of the models it is handed, since a frozen model
can be copied with any field replaced: it validates the four of them and the
venue metadata again, checks that they belong together and are fresh, and only
then computes. The caps are decimals; each is a minimum cut down to whole cents
and then turned into a float, downward for a ceiling and upward for a floor.

The decimals are exact here, so that nothing signals.
-/

namespace KairosRisk

open PyLib

namespace CapitalBudget

/-- `_MAX_ACCOUNT_AGE_MS`. -/
def maxAccountAgeMs : Int := 5000

/-- `_USD_QUANTUM`. -/
def usdQuantum : Rat := 1 / 100

/-- `_PER_TRADE_CEILING`. -/
def perTradeCeiling : Rat := 25 / 10000

/-- `_AGGREGATE_CEILING`. -/
def aggregateCeiling : Rat := 1 / 100

/-- `_DAILY_CEILING`. -/
def dailyCeiling : Rat := 1 / 100

/-! ## Decimals -/

/-- What a field that should hold a number may hold. -/
inductive NumericValue (F : Type) where
  | bool (b : Bool)
  | int (i : Int)
  | float (x : F)
  | decimal (d : Rat)
  /-- A decimal that is infinite or not a number. -/
  | nonFinite
  | other

/-- A decimal that is not negative, nor zero where it has to be positive. -/
abbrev Checked (positive : Bool) := { d : Rat // 0 ≤ d ∧ (positive = true → 0 < d) }

variable {F : Type} [PyFloat F] [Spelling F Rat]

/-- `_decimal`. An integer of more than 4300 digits has no text. -/
def decimal (value : NumericValue F) (name : String) (positive : Bool) :
    Except PyError (Checked positive) :=
  let notNumeric := Except.error (.valueError (name ++ " must be a finite numeric value"))
  let outside := Except.error (.valueError
    (name ++ " must be finite and " ++ if positive then "positive" else "non-negative"))
  let bounded := fun d : Rat =>
    if hd : 0 ≤ d ∧ (positive = true → 0 < d) then .ok ⟨d, hd⟩ else outside
  match value with
  | .bool _ | .other => notNumeric
  | .int i => if 4300 < (Nat.toDigits 10 i.natAbs).length then notNumeric else bounded i
  | .float x => if PyFloat.isFinite x then bounded (Spelling.spell x) else notNumeric
  | .decimal d => bounded d
  | .nonFinite => outside

/-- `_usd_floor`: toward zero, to whole cents. -/
def usdFloor (value : Rat) : Rat := PyDecimal.truncate (value / usdQuantum) * usdQuantum

/-- `_canonical_decimal`. -/
def canonicalDecimal (value : Rat) : String := PyDecimal.formatF value

end CapitalBudget

open CapitalBudget

/-! ## The policy -/

/-- The fractions of a policy, as anyone may fill them in. -/
structure CapitalBudgetPolicyFields (F : Type) where
  perTradeRiskFraction : NumericValue F
  aggregateOpenRiskFraction : NumericValue F
  dailyLossFraction : NumericValue F

/-- A fraction under its hard ceiling. -/
abbrev RiskFraction (ceiling : Rat) := { d : Rat // 0 < d ∧ d ≤ ceiling }

/-- Explicit risk fractions; this policy can only produce a proposal. -/
structure CapitalBudgetPolicyV1 where
  perTradeRiskFraction : RiskFraction perTradeCeiling
  aggregateOpenRiskFraction : RiskFraction aggregateCeiling
  dailyLossFraction : RiskFraction dailyCeiling

namespace CapitalBudgetPolicyV1

variable {F : Type} [PyFloat F] [Spelling F Rat]

/-- One pass of the loop of `__post_init__`. -/
def fraction (value : NumericValue F) (name : String) (ceiling : Rat) :
    Except PyError (RiskFraction ceiling) := do
  let parsed ← decimal value name true
  if hle : parsed.val ≤ ceiling then return ⟨parsed.val, parsed.property.2 rfl, hle⟩
  else throw (.valueError (name ++ " exceeds its hard policy ceiling"))

/-- `CapitalBudgetPolicyV1(...)`. -/
def make (x : CapitalBudgetPolicyFields F) : Except PyError CapitalBudgetPolicyV1 := do
  let perTrade ← fraction x.perTradeRiskFraction "per_trade_risk_fraction" perTradeCeiling
  let aggregate ← fraction x.aggregateOpenRiskFraction
    "aggregate_open_risk_fraction" aggregateCeiling
  let daily ← fraction x.dailyLossFraction "daily_loss_fraction" dailyCeiling
  return ⟨perTrade, aggregate, daily⟩

/-- `policy_sha256`. -/
def policySha256 (policy : CapitalBudgetPolicyV1) (core : LiveCore F) : String :=
  core.canonicalSha256
    [("version", .text "kairos.capital-budget-policy.v1"),
      ("per_trade_risk_fraction", .text (canonicalDecimal policy.perTradeRiskFraction.val)),
      ("aggregate_open_risk_fraction",
        .text (canonicalDecimal policy.aggregateOpenRiskFraction.val)),
      ("daily_loss_fraction", .text (canonicalDecimal policy.dailyLossFraction.val)),
      ("max_leverage", .text "1"),
      ("currency_quantum_usd", .text "0.01")]

end CapitalBudgetPolicyV1

/-! ## Venue metadata -/

/-- The metadata of a venue, with the minimum it gives. -/
structure VenueMinimumNotional (N : Type) where
  venueSymbol : String
  sourceId : String
  observedAtMs : Int
  evidenceSha256 : String
  minNotionalUsd : N

/-- Caller-supplied actual venue metadata; this record is not authenticated here. -/
abbrev VenueMinimumNotionalV1 := VenueMinimumNotional (Checked true)

/-- `VenueMinimumNotionalV1(...)`. -/
def VenueMinimumNotionalV1.make {F : Type} [PyFloat F] [Spelling F Rat] (core : LiveCore F)
    (item : VenueMinimumNotional (NumericValue F)) : Except PyError VenueMinimumNotionalV1 := do
  raiseIf (strip item.venueSymbol = "") "venue metadata requires an exact venue symbol"
  raiseIf (item.venueSymbol ≠ core.upper (strip item.venueSymbol))
    "venue metadata symbol must be normalized uppercase"
  raiseIf (strip item.sourceId = "") "venue metadata requires an identified source"
  raiseIf (!isStripped item.sourceId) "venue metadata source must be normalized"
  raiseIf (item.observedAtMs < 0)
    "venue metadata requires its original non-negative observation time"
  raiseIf (!isSha256Hex item.evidenceSha256)
    "venue metadata requires its original SHA-256 evidence digest"
  let minNotionalUsd ← decimal item.minNotionalUsd "venue min_notional_usd" true
  return { item with minNotionalUsd := minNotionalUsd }

/-! ## The proposal -/

/-- The third-party code a proposal calls on. -/
structure CapitalCore (F : Type) extends LiveCore F where
  /-- `canonical_sha256` of an object whose one item lists objects. -/
  itemsSha256 : List (List (String × PayloadValue F)) → String

/-- The arguments of `propose_capital_budget`. -/
structure CapitalBudgetCall (F : Type) where
  verifiedAccount : LiveAccountFacts F
  expectedScope : LiveRiskScopeFields
  currentLimits : LiveRiskLimitsFields F
  policy : CapitalBudgetPolicyFields F
  venueMinimums : List (VenueMinimumNotional (NumericValue F))
  nowMs : Int

/-- Auditable NON-AUTHORITY proposal, tied to original evidence and scope. -/
structure CapitalBudgetProposalV1 (F : Type) [PyFloat F] where
  status : String
  authority : Bool
  accountId : String
  sourceId : String
  accountEvidenceSha256 : String
  scopeSha256 : String
  currentRiskLimitsSha256 : String
  proposedRiskLimitsSha256 : String
  policySha256 : String
  baselineSha256 : String
  accountAsOfMs : Int
  validUntilMs : Int
  observedEquityUsd : Rat
  initialBudgetCeilingUsd : Rat
  capitalBasisUsd : Rat
  proposedMaxTotalNotionalUsd : Rat
  venueMinNotionalUsd : Rat
  proposedLimits : LiveRiskLimitsV1 F
  warnings : List String
  requiresNewScopeAndFreshReverification : Bool

namespace CapitalBudget

variable {F : Type} [PyFloat F] [Spelling F Rat]

/-! ### Revalidation -/

/-- What the inputs are after they have been validated again. -/
structure Revalidated (core : CapitalCore F) where
  equity : Checked true
  account : VerifiedLiveAccountV1 F Rat core.toLiveCore
  scope : LiveRiskScopeV1 core.toLiveCore
  limits : LiveRiskLimitsV1 F
  policy : CapitalBudgetPolicyV1
  minimums : List VenueMinimumNotionalV1

/-- The `try` block. -/
def revalidate (core : CapitalCore F) (x : CapitalBudgetCall F) :
    Except PyError (Revalidated core) := do
  let equity ← decimal (.float x.verifiedAccount.account.equityUsd) "verified account equity" true
  let account ← VerifiedLiveAccountV1.modelValidate Rat core.toLiveCore x.verifiedAccount
  let scope ← LiveRiskScopeV1.modelValidate core.toLiveCore x.expectedScope
  let limits ← LiveRiskLimitsV1.modelValidate x.currentLimits
  let policy ← CapitalBudgetPolicyV1.make x.policy
  raiseIf x.venueMinimums.isEmpty "actual venue minimum-notional metadata is required"
  let minimums ← x.venueMinimums.mapM (VenueMinimumNotionalV1.make core.toLiveCore)
  return ⟨equity, account, scope, limits, policy, minimums⟩

/-- `except Exception`. -/
def revalidated (core : CapitalCore F) (x : CapitalBudgetCall F) :
    Except PyError (Revalidated core) :=
  match revalidate core x with
  | .error _ =>
    .error (.valueError "supplied capital-proposal inputs failed independent revalidation")
  | .ok v => .ok v

/-! ### What belongs together -/

/-- The account, the scope and the limits belong together, and the account is fresh. -/
def checkEvidence (core : CapitalCore F) (v : Revalidated core) (nowMs : Int) :
    Except PyError Unit := do
  raiseIf (v.scope.riskLimitsSha256 ≠ v.limits.limitsSha256 core.toLiveCore)
    "expected scope does not bind the supplied current risk limits"
  raiseIf (v.account.scopeSha256 ≠ v.scope.scopeSha256)
    "verified account evidence is not bound to the exact expected scope"
  let account := v.account.account
  raiseIf (account.accountId ≠ v.scope.accountId)
    "verified account identity differs from the expected scope"
  raiseIf (!account.reconciled || account.reconciliationSeq ≤ 0)
    "verified account must have a completed reconciliation"
  raiseIf (account.tradingMode ≠ .live || account.evedexProfile ≠ .prod)
    "capital proposal requires verified LIVE/PROD account evidence"
  raiseIf (v.account.asOfMs ≠ account.capturedAtMs)
    "account evidence time differs from its original snapshot time"
  raiseIf (nowMs < v.account.asOfMs || maxAccountAgeMs < nowMs - v.account.asOfMs)
    "verified account evidence is future-dated or stale"

/-- One pass of the loop over the metadata: it is fresh. -/
def checkFresh (nowMs : Int) (item : VenueMinimumNotionalV1) : Except PyError Unit :=
  raiseIf (nowMs < item.observedAtMs || maxAccountAgeMs < nowMs - item.observedAtMs)
    "venue minimum-notional metadata is future-dated or stale"

/-- `set(a) == set(b)`. -/
def sameSymbols (a b : List String) : Bool := a.all b.contains && b.all a.contains

/-- The metadata cover the scope's symbols, each once, and are fresh. -/
def checkCoverage (scopedSymbols : List String) (minimums : List VenueMinimumNotionalV1)
    (nowMs : Int) : Except PyError Unit := do
  raiseIf minimums.isEmpty "actual venue minimum-notional metadata is required"
  let symbols := minimums.map VenueMinimumNotional.venueSymbol
  raiseIf (symbols.eraseDups.length ≠ symbols.length || !sameSymbols symbols scopedSymbols)
    "venue metadata must exactly cover the approved PROD symbol scope"
  minimums.forM (checkFresh nowMs)

/-! ### The figures -/

/-- The figures of a budget, in dollars. -/
structure Figures where
  baselineCeiling : Rat
  capitalBasis : Rat
  venueMinimum : Rat
  proposalMinimum : Rat
  perTradeCap : Rat
  dailyCap : Rat
  aggregateNotionalCap : Rat
  totalNotionalCap : Rat

/-- `max(item.min_notional_usd for item in venue_minimums)`. -/
def venueMinimum (minimums : List VenueMinimumNotionalV1) : Rat :=
  match minimums.map fun item => item.minNotionalUsd.val with
  | [] => 0
  | first :: others => others.foldl PyDecimal.max first

/-- The figures, from `capital_basis` to the last refusal. -/
def figures (equity : Rat) (limits : LiveRiskLimitsV1 F) (policy : CapitalBudgetPolicyV1)
    (minimums : List VenueMinimumNotionalV1) : Except PyError Figures := do
  let baseline ← decimal (.float limits.maxAccountEquityUsd) "recorded initial budget ceiling" true
  let basis := PyDecimal.min equity [baseline.val]
  let venueMin := venueMinimum minimums
  let currentMin ← decimal (.float limits.minNotionalUsd) "current min_notional_usd" true
  let proposalMin := PyDecimal.max venueMin currentMin.val
  raiseIf (Spelling.spell limits.perTradeRiskFraction < policy.perTradeRiskFraction.val)
    "proposed per-trade fraction cannot exceed the current scoped fraction"
  raiseIf (Spelling.spell limits.aggregateOpenRiskFraction < policy.aggregateOpenRiskFraction.val)
    "proposed aggregate fraction cannot exceed the current scoped fraction"
  let perTrade ← decimal (.float limits.perTradeDollarCapUsd) "current per-trade cap" true
  let perTradeCap := usdFloor
    (PyDecimal.min perTrade.val [basis * policy.perTradeRiskFraction.val])
  let daily ← decimal (.float limits.dailyLossCapUsd) "current daily cap" true
  let dailyCap := usdFloor (PyDecimal.min daily.val [basis * policy.dailyLossFraction.val])
  let aggregate ← decimal (.float limits.aggregateDollarCapUsd)
    "current aggregate notional cap" true
  let aggregateCap := usdFloor (PyDecimal.min basis [aggregate.val])
  let position ← decimal (.float limits.maxPositionNotionalUsd) "current position cap" true
  let totalCap := usdFloor (PyDecimal.min aggregateCap [position.val])
  raiseIf (PyDecimal.min perTradeCap [dailyCap, totalCap] ≤ 0)
    "verified capital is too small for positive cent-quantized limits"
  raiseIf (totalCap < proposalMin)
    "verified capital is below the supplied actual venue minimum notional"
  return ⟨baseline.val, basis, venueMin, proposalMin, perTradeCap, dailyCap, aggregateCap, totalCap⟩

/-- `proposed_limits`: ceilings converted downward, the floor upward. -/
def proposedLimits (policy : CapitalBudgetPolicyV1) (b : Figures) :
    Except PyError (LiveRiskLimitsV1 F) := do
  let perTradeRiskFraction ← lowerFloat policy.perTradeRiskFraction.val
  let aggregateOpenRiskFraction ← lowerFloat policy.aggregateOpenRiskFraction.val
  let perTradeDollarCapUsd ← lowerFloat b.perTradeCap
  let aggregateDollarCapUsd ← lowerFloat b.aggregateNotionalCap
  let dailyLossCapUsd ← lowerFloat b.dailyCap
  let maxAccountEquityUsd ← lowerFloat b.baselineCeiling
  let maxPositionNotionalUsd ← lowerFloat b.totalNotionalCap
  let minNotionalUsd ← upperFloat b.proposalMinimum
  LiveRiskLimitsV1.modelValidate
    { perTradeRiskFraction, aggregateOpenRiskFraction, maxLeverage := PyFloat.lit 1
      perTradeDollarCapUsd, aggregateDollarCapUsd, dailyLossCapUsd, maxAccountEquityUsd
      maxPositionNotionalUsd, minNotionalUsd }

/-! ### The report -/

/-- `baseline_sha256`. -/
def baselineSha256 (core : CapitalCore F) (v : Revalidated core) (b : Figures) : String :=
  core.canonicalSha256
    [("version", .text "kairos.capital-budget-baseline.v1"),
      ("account_id", .text v.scope.accountId),
      ("scope_sha256", .text v.scope.scopeSha256),
      ("recorded_start_ceiling_usd", .text (canonicalDecimal b.baselineCeiling)),
      ("record_source", .text "current_scoped_max_account_equity_usd")]

/-- `venue_metadata_sha256`, by the symbols' order. -/
def venueMetadataSha256 (core : CapitalCore F) (minimums : List VenueMinimumNotionalV1) : String :=
  let bySymbol := sorted
    (fun a b : VenueMinimumNotionalV1 => decide (a.venueSymbol ≤ b.venueSymbol)) minimums
  core.itemsSha256 <| bySymbol.map fun item =>
    [("venue_symbol", .text item.venueSymbol), ("source_id", .text item.sourceId),
      ("observed_at_ms", .int item.observedAtMs), ("evidence_sha256", .text item.evidenceSha256),
      ("min_notional_usd", .text (canonicalDecimal item.minNotionalUsd.val))]

/-- The policy's digest, with the venue floors bound into it. -/
def combinedPolicySha256 (core : CapitalCore F) (v : Revalidated core) : String :=
  core.canonicalSha256
    [("budget_policy_sha256", .text (v.policy.policySha256 core.toLiveCore)),
      ("venue_metadata_sha256", .text (venueMetadataSha256 core v.minimums))]

/-- The proposal of the figures. -/
def report (core : CapitalCore F) (v : Revalidated core) (b : Figures)
    (limits : LiveRiskLimitsV1 F) : CapitalBudgetProposalV1 F where
  status := "NON_AUTHORITY_PROPOSAL"
  authority := false
  accountId := v.scope.accountId
  sourceId := v.account.sourceId
  accountEvidenceSha256 := v.account.evidenceSha256
  scopeSha256 := v.scope.scopeSha256
  currentRiskLimitsSha256 := v.limits.limitsSha256 core.toLiveCore
  proposedRiskLimitsSha256 := limits.limitsSha256 core.toLiveCore
  policySha256 := combinedPolicySha256 core v
  baselineSha256 := baselineSha256 core v b
  accountAsOfMs := v.account.asOfMs
  validUntilMs := v.account.asOfMs + maxAccountAgeMs
  observedEquityUsd := v.equity.val
  initialBudgetCeilingUsd := b.baselineCeiling
  capitalBasisUsd := b.capitalBasis
  proposedMaxTotalNotionalUsd := b.aggregateNotionalCap
  venueMinNotionalUsd := b.venueMinimum
  proposedLimits := limits
  warnings :=
    if b.baselineCeiling < v.equity.val then ["ACCOUNT_EQUITY_ABOVE_RECORDED_START_CEILING"] else []
  requiresNewScopeAndFreshReverification := true

end CapitalBudget

/-- `propose_capital_budget`. -/
def proposeCapitalBudget {F : Type} [PyFloat F] [Spelling F Rat] (core : CapitalCore F)
    (x : CapitalBudgetCall F) : Except PyError (CapitalBudgetProposalV1 F) := do
  raiseIf (x.nowMs < 0) "now_ms must be an explicit non-negative integer"
  let v ← revalidated core x
  checkEvidence core v x.nowMs
  checkCoverage (v.scope.approvedProdSymbols.map Prod.snd) v.minimums x.nowMs
  let b ← figures v.equity.val v.limits v.policy v.minimums
  let limits ← proposedLimits v.policy b
  return report core v b limits

end KairosRisk
