import KairosRisk.Paper

/-!
# In-process correlation state for PAPER risk inputs

`PaperRiskCoordinator` holds the latest authoritative facts, the decisions it
may have to replay, and the reservations of approvals that no reconciliation
has shown yet. Each operation runs under one lock, so an operation is a
function of the state it finds; it returns or raises, and what it wrote before
raising stays written. Its result here is therefore both: what the caller sees
and the state left behind.

What each operation can do is said once, in `CoordinatorSteps`; the invariants
built on it do not unfold the definitions below.
-/

namespace KairosRisk

open PyLib

variable {F D : Type}

/-- `_Reservation`. -/
structure Reservation (F : Type) where
  decision : RiskTradeDecisionV1 F
  reconciliationSeq : Int

structure PaperRiskCoordinator (F : Type) where
  account : Option (AccountSnapshotV2 F)
  latestAccountSeq : Option Int
  latestAccountCapturedAtMs : Option Int
  venue : OrderedDict String (VenueQualityV1 F)
  venueVersions : OrderedDict String (Int × Option String)
  decisions : OrderedDict String (RiskTradeDecisionV1 F)
  reservations : OrderedDict String (Reservation F)
  durableRecoveryLoaded : Bool
  accountRecoveryReady : Bool
  regimeAllocations : OrderedDict String (Option (RegimeBoundAllocationV1 F))

/-- The arguments of the coordinator's `evaluate`. -/
structure EvaluateRequest (F : Type) where
  review : CandidateReviewV1 F
  allocation : Option (StrategicAllocation F)
  decidedAtMs : Int
  systemMode : SystemMode
  admissionRejectionReasons : List String

/-- A position or an order, as lineage validation reads it. -/
inductive Representation (F : Type) where
  | position (q : PositionSnapshotV2 F)
  | order (o : OpenOrderSnapshotV2 F)

namespace PaperRiskCoordinator

/-- A new process. -/
def init : PaperRiskCoordinator F where
  account := none
  latestAccountSeq := none
  latestAccountCapturedAtMs := none
  venue := .empty
  venueVersions := .empty
  decisions := .empty
  reservations := .empty
  durableRecoveryLoaded := false
  accountRecoveryReady := false
  regimeAllocations := .empty

/-- `recovery_complete`. -/
def recoveryComplete (c : PaperRiskCoordinator F) : Bool :=
  c.durableRecoveryLoaded && c.accountRecoveryReady

/-- The decisions behind the reservations. -/
def reserved (c : PaperRiskCoordinator F) : List (RiskTradeDecisionV1 F) :=
  c.reservations.values.map (·.decision)

/-- `intent_id in self._regime_allocations`. -/
def holdsRegime (c : PaperRiskCoordinator F) : Option String → Bool
  | none => false
  | some intentId => c.regimeAllocations.contains intentId

/-! ## Retention -/

/-- A cached or reserved decision could still replay this intent. -/
def retainsIntent (c : PaperRiskCoordinator F) (intentId : String) : Bool :=
  (c.decisions.values.any fun d => d.intent.intentId == some intentId)
    || c.reserved.any fun d => d.intent.intentId == some intentId

/-- An approval of this review is still reserved. -/
def retainsReview (c : PaperRiskCoordinator F) (reviewId : String) : Bool :=
  c.reserved.any fun d => d.review.reviewId == some reviewId

variable [PyFloat F]

/-- `_trim_decision_cache`. -/
def trimDecisionCache (p : PaperRiskPipeline F D) (c : PaperRiskCoordinator F) :
    PaperRiskCoordinator F :=
  { c with decisions :=
      OrderedDict.trim c.retainsReview p.settings.paperDecisionCacheSize c.decisions }

/-- The eviction loop of `apply_regime_allocation`. -/
def trimRegimeAllocations (p : PaperRiskPipeline F D) (c : PaperRiskCoordinator F) :
    PaperRiskCoordinator F :=
  { c with regimeAllocations :=
      OrderedDict.trim c.retainsIntent p.settings.paperDecisionCacheSize c.regimeAllocations }

/-! ## Reconciliation -/

/-- The fields of a representation that differ from the decision's lineage. -/
def lineageMismatches [DecidableEq F] (d : RiskTradeDecisionV1 F) : Representation F → List String
  | .position q =>
    shared q.venueSymbol q.strategyId q.strategyRevision q.intentId q.riskDecisionId q.tradeId
      ++ reasonIf (q.side ≠ d.intent.side) "side"
      ++ reasonIf (q.exitPlan ≠ d.exitPlan) "exit_plan"
  | .order o =>
    shared o.venueSymbol o.strategyId o.strategyRevision o.intentId o.riskDecisionId o.tradeId
where
  /-- The fields a position and an order have in common. -/
  shared (venueSymbol strategyId strategyRevision intentId riskDecisionId tradeId : String) :
      List String :=
    reasonIf (venueSymbol ≠ d.venueSymbol) "venue_symbol"
      ++ reasonIf (strategyId ≠ d.intent.strategyId) "strategy_id"
      ++ reasonIf (strategyRevision ≠ d.intent.strategyRevision) "strategy_revision"
      ++ reasonIf (some intentId ≠ d.intent.intentId) "intent_id"
      ++ reasonIf (riskDecisionId ≠ d.decisionId) "risk_decision_id"
      ++ reasonIf (some tradeId ≠ d.tradeId) "trade_id"

/-- `_validate_reconciled_lineage`. -/
def validateReconciledLineage [DecidableEq F] (d : RiskTradeDecisionV1 F) (r : Representation F) :
    Except PyError Unit :=
  raiseIf (!(lineageMismatches d r).isEmpty)
    ("reconciled trade representation conflicts with durable risk lineage: "
      ++ String.intercalate ", " (sortedNames (lineageMismatches d r)))

/-- The lineage check over every representation of one trade. -/
def validateAll [DecidableEq F] (d : RiskTradeDecisionV1 F) :
    List (Representation F) → Except PyError Unit
  | [] => .ok ()
  | r :: rest => do
    validateReconciledLineage d r
    validateAll d rest

/-- The positions a snapshot holds for a trade. -/
def positionsOf (snapshot : AccountSnapshotV2 F) (tradeId : String) : List (PositionSnapshotV2 F) :=
  snapshot.positions.filter fun q => q.tradeId == tradeId

/-- The open orders a snapshot holds for a trade. -/
def ordersOf (snapshot : AccountSnapshotV2 F) (tradeId : String) : List (OpenOrderSnapshotV2 F) :=
  snapshot.openOrders.filter fun o => o.tradeId == tradeId

/-- The snapshot owns the trade's exposure: a position or an open entry. -/
def ownsTrade (snapshot : AccountSnapshotV2 F) (tradeId : String) : Bool :=
  !(positionsOf snapshot tradeId).isEmpty
    || (ordersOf snapshot tradeId).any fun o => o.orderRole == .entry

/-- Newer than the approval, and captured after its entry window. -/
def expiredUnseen (snapshot : AccountSnapshotV2 F) (r : Reservation F) : Bool :=
  decide (r.reconciliationSeq < snapshot.reconciliationSeq)
    && decide (r.decision.intent.entryExpiresTsMs < snapshot.capturedAtMs)

/-- Whether reconciliation transfers one reservation. -/
def transfers [DecidableEq F] (snapshot : AccountSnapshotV2 F) (tradeId : String)
    (r : Reservation F) : Except PyError Bool := do
  let positions := positionsOf snapshot tradeId
  let orders := ordersOf snapshot tradeId
  validateAll r.decision (positions.map .position ++ orders.map .order)
  if ownsTrade snapshot tradeId then return true
  -- protective orders alone cannot prove that account risk owns the exposure
  raiseIf (!orders.isEmpty)
    "reconciled trade representation has protective orders without a position or entry"
  return expiredUnseen snapshot r

/-- The loop over the reservations: which trades leave. -/
def transferredTrades [DecidableEq F] (snapshot : AccountSnapshotV2 F) :
    List (String × Reservation F) → Except PyError (List String)
  | [] => .ok []
  | (tradeId, r) :: rest => do
    let leaves ← transfers snapshot tradeId r
    let more ← transferredTrades snapshot rest
    return if leaves then tradeId :: more else more

/-- `_reconcile_reservations`: the reservations left, or the first conflict. -/
def reconcileReservations [DecidableEq F] (c : PaperRiskCoordinator F)
    (snapshot : AccountSnapshotV2 F) : Except PyError (PaperRiskCoordinator F) := do
  let transferred ← transferredTrades snapshot c.reservations.items
  return { c with reservations := c.reservations.removeAll transferred.contains }

/-- `_account_is_authoritative`. -/
def accountIsAuthoritative (p : PaperRiskPipeline F D) (snapshot : AccountSnapshotV2 F) : Bool :=
  snapshot.tradingMode == .paper
    && snapshot.evedexProfile == .dev
    && snapshot.accountId == p.settings.paperAccountId
    && snapshot.reconciled
    && decide (0 < snapshot.reconciliationSeq)

/-- Reconcile against the snapshot in force; a conflict revokes it. -/
def reconcileOrRevoke [DecidableEq F] {α : Type} (c : PaperRiskCoordinator F)
    (snapshot : AccountSnapshotV2 F) (result : α) : Except PyError α × PaperRiskCoordinator F :=
  match c.reconcileReservations snapshot with
  | .ok c' => (.ok result, c')
  | .error e => (.error e, { c with account := none, accountRecoveryReady := false })

/-! ## The operations -/

/-- `apply_account`. -/
def applyAccount [DecidableEq F] (p : PaperRiskPipeline F D) (c : PaperRiskCoordinator F)
    (snapshot : AccountSnapshotV2 F) : Except PyError Bool × PaperRiskCoordinator F :=
  let older := c.latestAccountSeq.any fun seq => decide (snapshot.reconciliationSeq < seq)
  let same := c.latestAccountSeq == some snapshot.reconciliationSeq
  let backwards := c.latestAccountCapturedAtMs.any fun t => decide (snapshot.capturedAtMs < t)
  if older then (.ok false, c)
  else if same then
    if c.account.any fun a => a.snapshotId == snapshot.snapshotId then (.ok false, c)
    else (.error (.valueError "conflicting AccountSnapshotV2 reconciliation sequence"),
      { c with account := none, accountRecoveryReady := false })
  else if backwards then
    (.error (.valueError "AccountSnapshotV2 capture time moved backwards"),
      { c with
        latestAccountSeq := some snapshot.reconciliationSeq
        account := none
        accountRecoveryReady := false })
  else
    let ready := accountIsAuthoritative p snapshot
    let c := { c with
      latestAccountSeq := some snapshot.reconciliationSeq
      latestAccountCapturedAtMs := some snapshot.capturedAtMs
      account := some snapshot
      accountRecoveryReady := ready }
    if ready then c.reconcileOrRevoke snapshot true else (.ok true, c)

/-- `apply_venue`. -/
def applyVenue (c : PaperRiskCoordinator F) (venue : VenueQualityV1 F) :
    Except PyError Bool × PaperRiskCoordinator F :=
  if venue.profile ≠ .dev then
    (.error (.valueError "PAPER venue quality must use the EVEDEX DEV profile"), c)
  else if !isPaperDevVenueSymbol venue.symbol then
    (.error (.valueError "PAPER venue quality symbol is outside the fixed DEV universe"), c)
  else
    let current := c.venueVersions.get? venue.symbol
    if current.any fun v => decide (venue.observedAtMs < v.1) then (.ok false, c)
    else if current.any fun v => venue.observedAtMs == v.1 then
      if current.any fun v => v.2 == venue.measurementId then (.ok false, c)
      else (.error (.valueError "conflicting VenueQualityV1 observation timestamp"),
        { c with
          venue := c.venue.pop venue.symbol
          venueVersions := c.venueVersions.set venue.symbol (venue.observedAtMs, none) })
    else (.ok true,
      { c with
        venueVersions := c.venueVersions.set venue.symbol (venue.observedAtMs, venue.measurementId)
        venue := c.venue.set venue.symbol venue })

/-- `_needs_regime_binding`. -/
def needsRegimeBinding [DecidableEq F] (p : PaperRiskPipeline F D) (review : CandidateReviewV1 F) :
    Bool :=
  p.adaptive review.intent

/-- `apply_regime_allocation`. -/
def applyRegimeAllocation [DecidableEq F] (p : PaperRiskPipeline F D) (c : PaperRiskCoordinator F)
    (allocation : RegimeBoundAllocationV1 F) (receivedAtMs : Int) :
    Except PyError Bool × PaperRiskCoordinator F :=
  if p.regimePolicy.isNone then (.error (.valueError "adaptive regime policy is not enabled"), c)
  else if !p.core.regimeBindingValid allocation then
    (.error (.valueError "RegimeBoundAllocationV1 validation failed"), c)
  else if receivedAtMs < allocation.boundAtMs then
    (.error (.valueError "regime binding postdates the trusted local receipt clock"), c)
  else match allocation.observation.intent.intentId with
    | none => (.error (.valueError "regime evidence has no immutable intent identity"), c)
    | some intentId =>
      match c.regimeAllocations.get? intentId with
      | some existing =>
        if existing.any fun e => e.modelDump == allocation.modelDump then (.ok false, c)
        else (.error (.valueError "conflicting causal regime allocation for one intent"),
          { c with regimeAllocations := c.regimeAllocations.set intentId none })
      | none =>
        let c := { c with regimeAllocations := c.regimeAllocations.set intentId (some allocation) }
        (.ok true, c.trimRegimeAllocations p)

/-- `_validate_recovered_decision`. -/
def validateRecoveredDecision (p : PaperRiskPipeline F D) (d : RiskTradeDecisionV1 F) :
    Except PyError Unit := do
  raiseIf (!d.approved) "only approved decisions may become PAPER reservations"
  raiseIf (d.tradingMode ≠ .paper || d.evedexProfile ≠ .dev
      || d.accountId ≠ p.settings.paperAccountId || !isPaperDevVenueSymbol d.venueSymbol)
    "durable PAPER decision belongs to a different environment/account"

/-- The canonical ids a recovered decision is kept under. -/
def recoveredKeys (p : PaperRiskPipeline F D) (c : PaperRiskCoordinator F)
    (d : RiskTradeDecisionV1 F) : Except PyError (String × String) := do
  validateRecoveredDecision p d
  match d.tradeId, d.review.reviewId with
  | some tradeId, some reviewId =>
    raiseIf ((c.reservations.get? tradeId).any fun r => r.decision.decisionId ≠ d.decisionId)
      "conflicting durable approvals reuse one trade_id"
    return (tradeId, reviewId)
  | _, _ => .error (.valueError "recovered PAPER decision has incomplete canonical lineage")

/-- The loop of `restore_reservations`; what it wrote before raising stays. -/
def restoreLoop (p : PaperRiskPipeline F D) :
    List (RiskTradeDecisionV1 F) → PaperRiskCoordinator F →
      Except PyError Unit × PaperRiskCoordinator F
  | [], c => (.ok (), c)
  | d :: ds, c =>
    match c.recoveredKeys p d with
    | .error e => (.error e, c)
    | .ok (tradeId, reviewId) =>
      restoreLoop p ds
        { c with
          reservations := c.reservations.set tradeId ⟨d, 0⟩
          decisions := c.decisions.set reviewId d }

/-- `restore_reservations`. -/
def restoreReservations [DecidableEq F] (p : PaperRiskPipeline F D) (c : PaperRiskCoordinator F)
    (decisions : List (RiskTradeDecisionV1 F)) : Except PyError Unit × PaperRiskCoordinator F :=
  if c.durableRecoveryLoaded then
    (.error (.runtimeError "PAPER reservations were already restored"), c)
  else match restoreLoop p decisions c with
    | (.error e, c) => (.error e, c)
    | (.ok (), c) =>
      let c := { c.trimDecisionCache p with durableRecoveryLoaded := true }
      match c.account with
      | none => (.ok (), c)
      | some snapshot =>
        let ready := accountIsAuthoritative p snapshot
        let c := { c with accountRecoveryReady := ready }
        if ready then c.reconcileOrRevoke snapshot () else (.ok (), c)

/-- The regime binding of a review's intent is recorded as contradicted. -/
def regimeConflict [DecidableEq F] (p : PaperRiskPipeline F D) (c : PaperRiskCoordinator F)
    (review : CandidateReviewV1 F) : Bool :=
  needsRegimeBinding p review && c.holdsRegime review.intent.intentId
    && (c.regimeAllocations.get? (review.intent.intentId.getD "")).join.isNone

/-- The admission rejections of a call, with the coordinator's own. -/
def admissionReasons [DecidableEq F] (p : PaperRiskPipeline F D) (c : PaperRiskCoordinator F)
    (x : EvaluateRequest F) : List String :=
  if c.regimeConflict p x.review then
    (x.admissionRejectionReasons ++ ["regime_bound_allocation_conflict"]).eraseDups
  else x.admissionRejectionReasons

/-- What the coordinator hands to the pipeline. -/
def pipelineInputs [DecidableEq F] (p : PaperRiskPipeline F D) (c : PaperRiskCoordinator F)
    (x : EvaluateRequest F) (venue : VenueQualityV1 F) (reservations : PaperReservations F) :
    PaperInputs F where
  review := x.review
  venue := venue
  account := c.account
  allocation := x.allocation
  decidedAtMs := x.decidedAtMs
  systemMode := x.systemMode
  reservations := reservations
  admissionRejectionReasons := c.admissionReasons p x
  regimeAllocation := (c.regimeAllocations.get? (x.review.intent.intentId.getD "")).join

/-- The evaluation itself, with the venue in force and the reservations held. -/
def evaluateFresh [DecidableEq F] [PyDecimal D] [Spelling F D] (p : PaperRiskPipeline F D)
    (c : PaperRiskCoordinator F) (x : EvaluateRequest F) :
    Except PyError (RiskTradeDecisionV1 F) := do
  match c.venue.get? ((paperDevSymbol x.review.intent.symbol).getD "") with
  | none => .error (.paperInputUnavailable "fresh fixed-symbol VenueQualityV1 is unavailable")
  | some venue =>
    let reservations ← reservationView c.reserved
    p.evaluate (c.pipelineInputs p x venue reservations)

/-- Cache a decision under its review, and reserve it when it is approved. -/
def store (p : PaperRiskPipeline F D) (c : PaperRiskCoordinator F) (reviewId : String)
    (d : RiskTradeDecisionV1 F) :
    Except PyError (RiskTradeDecisionV1 F) × PaperRiskCoordinator F :=
  let c := { c with decisions := (c.decisions.set reviewId d).moveToEnd reviewId }
  if d.approved then
    match d.tradeId with
    | none => (.error (.valueError "approved RiskTradeDecisionV1 has no trade_id"), c)
    | some tradeId =>
      let c := { c with reservations :=
        c.reservations.set tradeId ⟨d, c.latestAccountSeq.getD 0⟩ }
      (.ok d, c.trimDecisionCache p)
  else (.ok d, c.trimDecisionCache p)

/-- `evaluate`. -/
def evaluate [DecidableEq F] [PyDecimal D] [Spelling F D] (p : PaperRiskPipeline F D)
    (c : PaperRiskCoordinator F) (x : EvaluateRequest F) :
    Except PyError (RiskTradeDecisionV1 F) × PaperRiskCoordinator F :=
  match x.review.reviewId with
  | none => (.error (.valueError "CandidateReviewV1 has no canonical review_id"), c)
  | some reviewId =>
    if !c.recoveryComplete then
      (.error (.paperInputUnavailable "PAPER durable/account recovery is incomplete"), c)
    else
      let admission := c.admissionReasons p x
      match c.decisions.get? reviewId, admission with
      | some cached, [] => (.ok cached, { c with decisions := c.decisions.moveToEnd reviewId })
      | _, _ =>
        match c.evaluateFresh p x with
        | .error e => (.error e, c)
        | .ok d => if !admission.isEmpty then (.ok d, c) else c.store p reviewId d

/-- The condition `wait_for_inputs` waits for. -/
def inputsReady [DecidableEq F] (p : PaperRiskPipeline F D) (c : PaperRiskCoordinator F)
    (review : CandidateReviewV1 F) : Bool :=
  let regimeReady := !needsRegimeBinding p review || c.holdsRegime review.intent.intentId
  c.recoveryComplete
    && (paperDevSymbol review.intent.symbol).any c.venue.contains
    && regimeReady

end PaperRiskCoordinator

end KairosRisk
