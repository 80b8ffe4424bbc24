import KairosRisk.AccountAuthority
import KairosRisk.CanaryAgreement
import KairosRisk.Exclusivity
import KairosRisk.OperatorRefusal

/-!
# The canary's preflight and Risk's own limit

The canary's operator and the Risk service never talk to each other before the
arm. The operator reads the audit log: the latest account snapshot, and the
approvals whose entry was still open when it was captured (`loadSnapshot`). The
service holds reservations, and releases them by the snapshots it is sent. Both
allow one canary at a time.

They agree because a reservation is never held past what the snapshot in force
says of it (`EntriesOpen`): while that snapshot is in force, the entry of every
reservation was still open when it was captured. So a canary the service would
count is one the query selects (`preflight_agrees_with_limit`), unless its
approval was not in the log yet.
-/

namespace KairosRisk

open PyLib

/-! ## The audit log -/

/-- A row of `event_audit`, with a payload its contract validates. -/
structure AuditRow (α : Type) where
  payload : α
  producedAt : Int
  persistedAt : Int

/-- `event_audit`, by the topics a canary reads. -/
structure EventAudit (F : Type) where
  closedBar : List (AuditRow (ClosedBarEventV1 F))
  venueQuality : List (AuditRow (VenueQualityV1 F))
  accountSnapshotV2 : List (AuditRow (AccountSnapshotV2 F))
  strategicAllocation : List (AuditRow (StrategicAllocation F))
  riskTradeDecision : List (AuditRow (RiskTradeDecisionV1 F))

/-- The decision has a row in the log. -/
def EventAudit.Published {F : Type} (log : EventAudit F) (d : RiskTradeDecisionV1 F) : Prop :=
  ∃ row ∈ log.riskTradeDecision, row.payload = d

/-- The row `ORDER BY key DESC LIMIT 1` selects. -/
def latestRow {α : Type} (key : AuditRow α → List Int) : List (AuditRow α) → Option (AuditRow α)
  | [] => none
  | row :: rows =>
    match latestRow key rows with
    | none => some row
    | some best => if key row < key best then some best else some row

/-- `_json_payload`. -/
def jsonPayload {α : Type} (row : Option (AuditRow α)) (label : String) : Except PyError α :=
  match row with
  | none => .error (.runtimeError ("latest durable " ++ label ++ " is unavailable"))
  | some row => .ok row.payload

variable {F D : Type} [PyFloat F]

/-- The approvals of a canary in this account whose entry was open at a time. -/
def reservationRow (accountId : String) (capturedAtMs : Int) (d : RiskTradeDecisionV1 F) : Bool :=
  d.approved
    && d.tradingMode == .paper
    && d.evedexProfile == .dev
    && d.accountId == accountId
    && d.intent.strategyId == paperCanaryStrategyId
    && decide (capturedAtMs ≤ d.intent.entryExpiresTsMs)

/-- `_load_snapshot`. -/
def loadSnapshot {core : KairosCore F} (plan : CanaryPlan core) (accountId : String)
    (instrument : InstrumentRule core) (log : EventAudit F) :
    Except PyError (CanaryInputs core) := do
  let barRow := latestRow (fun row => [row.payload.closeTimeMs, row.persistedAt])
    (log.closedBar.filter fun row => row.payload.symbol == plan.symbol)
  let venueRow := latestRow (fun row => [row.payload.observedAtMs, row.persistedAt])
    (log.venueQuality.filter fun row =>
      row.payload.profile == .dev && row.payload.symbol == plan.venueSymbol)
  let accountRow := latestRow
    (fun row => [row.payload.reconciliationSeq, row.payload.capturedAtMs, row.persistedAt])
    (log.accountSnapshotV2.filter fun row =>
      row.payload.tradingMode == .paper && row.payload.evedexProfile == .dev
        && row.payload.accountId == accountId)
  let allocationRow := latestRow (fun row => [row.producedAt, row.persistedAt])
    log.strategicAllocation
  let account ← jsonPayload accountRow "account snapshot"
  let reservationRows := log.riskTradeDecision.filter fun row =>
    reservationRow accountId account.capturedAtMs row.payload
  let reservationIds := reservationRows.map fun row => row.payload.decisionId
  let bar ← jsonPayload barRow "closed bar"
  let venue ← jsonPayload venueRow "venue quality"
  return { bar, venue, account, instrument, currentAllocation := allocationRow.map (·.payload)
           activeReservationIds := sortedNames reservationIds.eraseDups }

/-- The ids loaded are those of the rows selected as of the account's capture. -/
theorem loadSnapshot_ok {core : KairosCore F} {plan : CanaryPlan core} {accountId : String}
    {instrument : InstrumentRule core} {log : EventAudit F} {inputs : CanaryInputs core}
    (h : loadSnapshot plan accountId instrument log = .ok inputs) :
    inputs.activeReservationIds = sortedNames ((log.riskTradeDecision.filter fun row =>
      reservationRow accountId inputs.account.capturedAtMs row.payload).map
        fun row => row.payload.decisionId).eraseDups := by
  unfold loadSnapshot at h
  obtain ⟨account, _, h⟩ := ok_of_bind h
  obtain ⟨bar, _, h⟩ := ok_of_bind h
  obtain ⟨venue, _, h⟩ := ok_of_bind h
  cases h
  rfl

/-! ## What the preflight lets through -/

/-- The account holds no canary, and none of its approvals is still open. -/
structure NoCanary {core : KairosCore F} (inputs : CanaryInputs core) : Prop where
  positions : ∀ q ∈ inputs.account.positions, q.strategyId ≠ paperCanaryStrategyId
  orders : ∀ o ∈ inputs.account.openOrders, o.strategyId ≠ paperCanaryStrategyId
  reservations : inputs.activeReservationIds = []

theorem noCanary_of_validateInputs {core : KairosCore F} {plan : CanaryPlan core}
    {inputs : CanaryInputs core} {accountId : String} {nowMs maxAgeMs : Int}
    (h : validateInputs plan inputs accountId nowMs maxAgeMs = .ok ()) : NoCanary inputs := by
  unfold validateInputs at h
  iterate 12 obtain ⟨_, h⟩ := ok_of_preflightIf h
  obtain ⟨hpositions, h⟩ := ok_of_preflightIf h
  obtain ⟨horders, h⟩ := ok_of_preflightIf h
  obtain ⟨hreservations, _⟩ := ok_of_preflightIf h
  rw [List.any_eq_false] at hpositions horders
  refine ⟨?_, ?_, by simpa using hreservations⟩
  · intro q hq he
    exact hpositions q hq (by simp [he])
  · intro o ho he
    exact horders o ho (by simp [he])

/-- A row the query selects keeps the preflight from going on. -/
theorem not_published {core : KairosCore F} {plan : CanaryPlan core} {accountId : String}
    {instrument : InstrumentRule core} {log : EventAudit F} {inputs : CanaryInputs core}
    (hloaded : loadSnapshot plan accountId instrument log = .ok inputs) (hnone : NoCanary inputs)
    {d : RiskTradeDecisionV1 F}
    (hd : reservationRow accountId inputs.account.capturedAtMs d = true) :
    ¬log.Published d := by
  rintro ⟨row, hrow, rfl⟩
  have hselected : row.payload.decisionId ∈ (log.riskTradeDecision.filter fun row =>
      reservationRow accountId inputs.account.capturedAtMs row.payload).map
        fun row => row.payload.decisionId :=
    List.mem_map.mpr ⟨row, List.mem_filter.mpr ⟨hrow, hd⟩, rfl⟩
  have hid : row.payload.decisionId ∈ inputs.activeReservationIds := by
    rw [loadSnapshot_ok hloaded]
    exact (sorted_perm _ _).mem_iff.mpr (List.mem_eraseDups.mpr hselected)
  rw [hnone.reservations] at hid
  exact List.not_mem_nil hid

namespace PaperRiskCoordinator

variable [DecidableEq F]

/-! ## Reservations are open -/

/-- The snapshot in force, once it is authoritative. -/
def inForce (c : PaperRiskCoordinator F) : Option (AccountSnapshotV2 F) :=
  if c.recoveryComplete then c.account else none

/-- No reservation is newer than the recorded sequence, restored ones are the
oldest, and the entry of each was open when the snapshot in force was captured. -/
structure EntriesOpen (c : PaperRiskCoordinator F) : Prop where
  seq : ∀ tradeId r, c.reservations.get? tradeId = some r →
    r.reconciliationSeq ≤ max 0 (c.latestAccountSeq.getD 0)
  restored : c.durableRecoveryLoaded = false → ∀ tradeId r,
    c.reservations.get? tradeId = some r → r.reconciliationSeq = 0
  captured : ∀ account, c.inForce = some account → ∀ tradeId r,
    c.reservations.get? tradeId = some r →
    account.capturedAtMs ≤ r.decision.intent.entryExpiresTsMs

omit [PyFloat F] in
/-- A reconciliation leaves only what its snapshot found open. -/
theorem captured_of_reconcile {c c' : PaperRiskCoordinator F} {snapshot : AccountSnapshotV2 F}
    (h : c.reconcileReservations snapshot = .ok c')
    (hseq : ∀ tradeId r, c.reservations.get? tradeId = some r →
      r.reconciliationSeq < snapshot.reconciliationSeq) :
    ∀ tradeId r, c'.reservations.get? tradeId = some r →
      snapshot.capturedAtMs ≤ r.decision.intent.entryExpiresTsMs := by
  intro tradeId r hr
  obtain ⟨hheld, hstays⟩ := ((reconcileReservations_ok h).2.1 tradeId r).mp hr
  rcases transfers_ok hstays with ⟨_, hleaves⟩ | ⟨_, hleaves⟩
  · cases hleaves
  · have hunexpired : expiredUnseen snapshot r = false := hleaves.symm
    rw [expiredUnseen, Bool.and_eq_false_iff, decide_eq_false_iff_not, decide_eq_false_iff_not]
      at hunexpired
    have hlt := hseq tradeId r hheld
    omega

omit [PyFloat F] [DecidableEq F] in
/-- An operation after which no more is reserved, and no other snapshot in force. -/
theorem EntriesOpen.of_frame {c c' : PaperRiskCoordinator F} (h : EntriesOpen c)
    (hsub : ∀ tradeId r, c'.reservations.get? tradeId = some r →
      c.reservations.get? tradeId = some r)
    (hseq : max 0 (c.latestAccountSeq.getD 0) ≤ max 0 (c'.latestAccountSeq.getD 0))
    (hloaded : c'.durableRecoveryLoaded = c.durableRecoveryLoaded)
    (hforce : ∀ account, c'.inForce = some account → c.inForce = some account) :
    EntriesOpen c' := by
  refine ⟨?_, ?_, ?_⟩
  · intro tradeId r hr
    exact Int.le_trans (h.seq tradeId r (hsub tradeId r hr)) hseq
  · intro hnot tradeId r hr
    exact h.restored (hloaded ▸ hnot) tradeId r (hsub tradeId r hr)
  · intro account haccount tradeId r hr
    exact h.captured account (hforce account haccount) tradeId r (hsub tradeId r hr)

omit [PyFloat F] [DecidableEq F] in
/-- Before recovery no snapshot is in force. -/
theorem inForce_of_not_loaded {c : PaperRiskCoordinator F} (h : c.durableRecoveryLoaded = false)
    (account : AccountSnapshotV2 F) : c.inForce ≠ some account := by
  unfold inForce recoveryComplete
  rw [h]
  exact nofun

omit [PyFloat F] [DecidableEq F] in
theorem inForce_of_not_ready {c : PaperRiskCoordinator F} (h : c.accountRecoveryReady = false)
    (account : AccountSnapshotV2 F) : c.inForce ≠ some account := by
  unfold inForce recoveryComplete
  rw [h, Bool.and_false]
  exact nofun

omit [PyFloat F] [DecidableEq F] in
theorem inForce_account {c : PaperRiskCoordinator F} {account : AccountSnapshotV2 F}
    (h : c.inForce = some account) : c.recoveryComplete = true ∧ c.account = some account := by
  unfold inForce at h
  split at h
  next hrecovered => exact ⟨hrecovered, h⟩
  next => cases h

omit [DecidableEq F] in
/-- What a restore reserves counts as older than any snapshot. -/
theorem restoreLoop_seq {p : PaperRiskPipeline F D} :
    ∀ (ds : List (RiskTradeDecisionV1 F)) (c : PaperRiskCoordinator F),
      (∀ tradeId r, c.reservations.get? tradeId = some r → r.reconciliationSeq = 0) →
      ∀ tradeId r, (restoreLoop p ds c).2.reservations.get? tradeId = some r →
        r.reconciliationSeq = 0
  | [], _, h => h
  | d :: ds, c, h => by
    unfold restoreLoop
    split
    next => exact h
    next trade reviewId _ =>
      refine restoreLoop_seq ds _ ?_
      intro tradeId r hr
      rw [OrderedDict.get?_set] at hr
      split at hr
      next =>
        cases hr
        rfl
      next => exact h tradeId r hr

theorem open_restore {p : PaperRiskPipeline F D} {c c' : PaperRiskCoordinator F}
    {ds : List (RiskTradeDecisionV1 F)} {result : Except PyError Unit} (h : EntriesOpen c)
    (hr : Restores p c ds result c') : EntriesOpen c' := by
  have hold : c.durableRecoveryLoaded = false → ∀ tradeId r,
      (restoreLoop p ds c).2.reservations.get? tradeId = some r → r.reconciliationSeq = 0 :=
    fun hnot => restoreLoop_seq ds c (h.restored hnot)
  have hle : ∀ (c' : PaperRiskCoordinator F), (∀ tradeId r,
      c'.reservations.get? tradeId = some r → r.reconciliationSeq = 0) → ∀ tradeId r,
      c'.reservations.get? tradeId = some r →
      r.reconciliationSeq ≤ max 0 (c'.latestAccountSeq.getD 0) := by
    intro c' hzero tradeId r hr
    rw [hzero tradeId r hr]
    exact Int.le_max_left ..
  cases hr with
  | already => exact h
  | raised hnot =>
    have hframe : (restoreLoop p ds c).2.durableRecoveryLoaded = false := by
      rw [restoreLoop_frame]
      exact hnot
    exact ⟨hle _ (hold hnot), fun _ => hold hnot,
      fun account haccount => absurd haccount (inForce_of_not_loaded hframe account)⟩
  | waiting hnot _ hacc =>
    have hnone : (c.loaded p ds).account = none := by
      rw [(sameAccount_loaded p ds c).account]
      exact hacc
    refine ⟨hle _ (hold hnot), fun hfalse => absurd hfalse (by exact nofun), ?_⟩
    intro account haccount
    have hsome := (inForce_account haccount).2
    rw [hnone] at hsome
    cases hsome
  | foreign hnot =>
    exact ⟨hle _ (hold hnot), fun hfalse => absurd hfalse (by exact nofun),
      fun account haccount => absurd haccount (inForce_of_not_ready rfl account)⟩
  | @reconciled _ _ snapshot hacc hauth c' hrec =>
    have hpos : 0 < snapshot.reconciliationSeq := by
      simp only [accountIsAuthoritative, Bool.and_eq_true, decide_eq_true_eq] at hauth
      exact hauth.2
    obtain ⟨hsame, hkept, _⟩ := reconcileReservations_ok hrec
    have hzero : ∀ tradeId r, c'.reservations.get? tradeId = some r → r.reconciliationSeq = 0 :=
      fun tradeId r hr => hold ‹_› tradeId r ((hkept tradeId r).mp hr).1
    have hcaptured := captured_of_reconcile hrec (fun tradeId r hr => by
      rw [hold ‹_› tradeId r hr]
      exact hpos)
    have haccount' : c'.account = some snapshot := by
      rw [(sameAccount_of_reconcile hrec).account]
      exact ((sameAccount_loaded p ds c).account).trans hacc
    refine ⟨hle _ hzero, fun _ => hzero, ?_⟩
    intro account haccount
    have hsome := (inForce_account haccount).2
    rw [haccount'] at hsome
    cases hsome
    exact hcaptured
  | revoked hnot =>
    exact ⟨hle _ (hold hnot), fun hfalse => absurd hfalse (by exact nofun),
      fun account haccount => absurd haccount (inForce_of_not_ready rfl account)⟩

theorem open_account {p : PaperRiskPipeline F D} {c c' : PaperRiskCoordinator F}
    {snapshot : AccountSnapshotV2 F} {result : Except PyError Bool} (h : EntriesOpen c)
    (hr : AppliesAccount p c snapshot result c') : EntriesOpen c' := by
  -- a sequence that is newer is no less, for what is reserved
  have hnewer : c.Newer snapshot →
      max 0 (c.latestAccountSeq.getD 0) ≤ max 0 snapshot.reconciliationSeq := by
    intro hnew
    cases hlatest : c.latestAccountSeq with
    | none => exact Int.max_le.mpr ⟨Int.le_max_left .., Int.le_max_left ..⟩
    | some seq =>
      have hlt := hnew seq hlatest
      rw [Option.getD_some]
      omega
  cases hr with
  | older => exact h
  | duplicate => exact h
  | conflict =>
    exact h.of_frame (fun _ _ hr => hr) (Int.le_refl _) rfl
      (fun account haccount => absurd haccount (inForce_of_not_ready rfl account))
  | backwards hnew =>
    exact h.of_frame (fun _ _ hr => hr) (hnewer hnew) rfl
      (fun account haccount => absurd haccount (inForce_of_not_ready rfl account))
  | foreign hnew _ hauth =>
    exact h.of_frame (fun _ _ hr => hr) (hnewer hnew) rfl
      (fun account haccount => absurd haccount (inForce_of_not_ready hauth account))
  | revoked hnew =>
    exact h.of_frame (fun _ _ hr => hr) (hnewer hnew) rfl
      (fun account haccount => absurd haccount (inForce_of_not_ready rfl account))
  | reconciled hnew _ hauth hrec =>
    have hpos : 0 < snapshot.reconciliationSeq := by
      simp only [accountIsAuthoritative, Bool.and_eq_true, decide_eq_true_eq] at hauth
      exact hauth.2
    obtain ⟨hsame, hkept, _⟩ := reconcileReservations_ok hrec
    have hsub : ∀ tradeId r, c'.reservations.get? tradeId = some r →
        c.reservations.get? tradeId = some r := fun tradeId r hr => ((hkept tradeId r).mp hr).1
    have hcaptured := captured_of_reconcile hrec (fun tradeId r hr => by
      have hle := h.seq tradeId r hr
      cases hlatest : c.latestAccountSeq with
      | none =>
        rw [hlatest, Option.getD_none] at hle
        omega
      | some seq =>
        have hlt := hnew seq hlatest
        rw [hlatest, Option.getD_some] at hle
        omega)
    have hfields := sameAccount_of_reconcile hrec
    refine ⟨?_, ?_, ?_⟩
    · intro tradeId r hr
      rw [hfields.seq]
      exact Int.le_trans (h.seq tradeId r (hsub tradeId r hr)) (hnewer hnew)
    · intro hnot tradeId r hr
      rw [hsame] at hnot
      exact h.restored hnot tradeId r (hsub tradeId r hr)
    · intro account haccount
      have hsome := (inForce_account haccount).2
      rw [hfields.account] at hsome
      cases hsome
      exact hcaptured

variable [PyDecimal D] [Spelling F D]

/-- A new approval found its entry open when the snapshot in force was captured. -/
theorem Fresh.entry_open {p : PaperRiskPipeline F D} {c : PaperRiskCoordinator F}
    {x : EvaluateRequest F} {venue : VenueQualityV1 F} {reservations : PaperReservations F}
    {d : RiskTradeDecisionV1 F} (h : Fresh p c x venue reservations d) (ha : d.approved = true)
    {account : AccountSnapshotV2 F} (hacc : c.account = some account) :
    account.capturedAtMs ≤ d.intent.entryExpiresTsMs := by
  have happroves := PaperRiskPipeline.evaluate_approves h.decided ha
  obtain ⟨_, hreview, hgate, _⟩ := PaperRiskPipeline.gates_reasons_eq_nil happroves.gates
  obtain ⟨held, hheld, hscope, _⟩ := PaperRiskPipeline.accountGate_eq_nil hgate
  have hsame : held = account := Option.some.inj (hheld.symm.trans hacc)
  subst hsame
  obtain ⟨hpast, _⟩ := PaperRiskPipeline.accountScopeReasons_age hscope
  simp only [PaperRiskPipeline.reviewReasons, List.append_eq_nil_iff, reasonIf_eq_nil,
    decide_eq_false_iff_not, Int.not_lt] at hreview
  have hexpires : x.decidedAtMs ≤ x.review.intent.entryExpiresTsMs := hreview.1.1.1.1.2
  have hintent : d.intent = x.review.intent := happroves.intent
  have hdecided : (0 : Int) ≤ x.decidedAtMs - held.capturedAtMs := hpast
  rw [hintent]
  omega

/-- **Every operation keeps the reservations open.** -/
theorem open_step {p : PaperRiskPipeline F D} (c : PaperRiskCoordinator F) (op : Operation p.core)
    (h : EntriesOpen c) : EntriesOpen (step p c op) := by
  cases op with
  | applyRegimeAllocation allocation receivedAtMs =>
    show EntriesOpen (c.applyRegimeAllocation p allocation receivedAtMs).2
    rcases hr : c.applyRegimeAllocation p allocation receivedAtMs with ⟨result, c'⟩
    cases applyRegimeAllocation_cases hr <;> exact ⟨h.seq, h.restored, h.captured⟩
  | restoreReservations decisions => exact open_restore h (restoreReservations_spec p c _)
  | applyAccount snapshot => exact open_account h (applyAccount_spec p c snapshot)
  | applyVenue venue =>
    show EntriesOpen (c.applyVenue venue).2
    rw [applyVenue_frame]
    exact ⟨h.seq, h.restored, h.captured⟩
  | evaluate request =>
    show EntriesOpen (c.evaluate p request).2
    rcases hr : c.evaluate p request with ⟨result, c'⟩
    cases evaluate_cases hr with
    | raised => exact h
    | replayed => exact ⟨h.seq, h.restored, h.captured⟩
    | refused => exact h
    | rejected => exact ⟨h.seq, h.restored, h.captured⟩
    | unidentified => exact ⟨h.seq, h.restored, h.captured⟩
    | @approved reviewId tradeId _ _ d _ _ _ hfresh happ _ =>
      have hreserve : ∀ k r, (c.reserve tradeId d).reservations.get? k = some r →
          r = ⟨d, c.latestAccountSeq.getD 0⟩ ∨ c.reservations.get? k = some r := by
        intro k r hr
        unfold reserve at hr
        dsimp only at hr
        rw [OrderedDict.get?_set] at hr
        split at hr
        next => exact Or.inl (Option.some.inj hr).symm
        next => exact Or.inr hr
      refine ⟨?_, ?_, ?_⟩
      · intro k r hr
        rcases hreserve k r hr with rfl | hr
        · exact Int.le_max_right ..
        · exact h.seq k r hr
      · intro hnot
        have hloaded : c.durableRecoveryLoaded = true :=
          ((Bool.and_eq_true _ _).mp hfresh.recovered).1
        rw [show c.durableRecoveryLoaded = false from hnot] at hloaded
        cases hloaded
      · intro account haccount k r hr
        have hforce : c.inForce = some account := haccount
        rcases hreserve k r hr with rfl | hr
        · exact hfresh.entry_open happ (inForce_account hforce).2
        · exact h.captured account hforce k r hr

/-- **Reservations are open**, in every state a process can be in. -/
theorem Reached.entriesOpen {p : PaperRiskPipeline F D} {c : PaperRiskCoordinator F}
    (h : Reached p c) :
    EntriesOpen c := by
  have hinit : EntriesOpen (init : PaperRiskCoordinator F) := by
    refine ⟨?_, ?_, ?_⟩
    · exact fun _ _ hr => nomatch hr
    · exact fun _ _ _ hr => nomatch hr
    · exact fun account haccount => absurd haccount (inForce_of_not_loaded rfl account)
  exact Reachable.invariant h hinit open_step

omit [PyFloat F] [DecidableEq F] [PyDecimal D] [Spelling F D] in
theorem activeCanaryTradeIds_eq_nil {account : AccountSnapshotV2 F}
    (hpositions : ∀ q ∈ account.positions, q.strategyId ≠ paperCanaryStrategyId)
    (horders : ∀ o ∈ account.openOrders, o.strategyId ≠ paperCanaryStrategyId) :
    activeCanaryTradeIds account = [] := by
  have hq : (account.positions.filter fun q => q.strategyId == paperCanaryStrategyId) = [] := by
    rw [List.filter_eq_nil_iff]
    exact fun q hq he => hpositions q hq (beq_iff_eq.mp he)
  have ho : (account.openOrders.filter fun o =>
      o.strategyId == paperCanaryStrategyId && o.orderRole == .entry) = [] := by
    rw [List.filter_eq_nil_iff]
    exact fun o ho he => horders o ho (beq_iff_eq.mp ((Bool.and_eq_true _ _).mp he).1)
  unfold activeCanaryTradeIds
  rw [hq, ho]
  rfl

/-- **The preflight and the limit agree.** Whatever the coordinator went
through, once a canary passed the preflight on a snapshot no newer than the one
in force, no canary approval in the preflight's log is reserved. If it was on
the snapshot in force, and all that is reserved was in the log, the limit does
not refuse the canary. -/
theorem preflight_agrees_with_limit (p : PaperRiskPipeline F D) (c : PaperRiskCoordinator F)
    (hreached : Reached p c) (account : AccountSnapshotV2 F) (hforce : c.inForce = some account)
    (plan : CanaryPlan p.core) (instrument : InstrumentRule p.core) (log : EventAudit F)
    (inputs : CanaryInputs p.core) (nowMs accountMaxAgeMs : Int)
    (hloaded : loadSnapshot plan p.settings.paperAccountId instrument log = .ok inputs)
    (hvalid : validateInputs plan inputs p.settings.paperAccountId nowMs accountMaxAgeMs = .ok ())
    (holder : inputs.account.capturedAtMs ≤ account.capturedAtMs) :
    (∀ d ∈ c.reserved, IsCanary d → ¬log.Published d) ∧
    (inputs.account = account → (∀ d ∈ c.reserved, log.Published d) →
      ∀ view, reservationView c.reserved = .ok view → ∀ venueSymbol,
        "global_canary_idea_limit_reached"
          ∉ PaperRiskPipeline.exclusivityReasons account venueSymbol
            paperCanaryStrategyId view) := by
  have hnone := noCanary_of_validateInputs hvalid
  have hfiled := hreached.reserved
  have hunpublished : ∀ d ∈ c.reserved, IsCanary d → ¬log.Published d := by
    intro d hd hcanary
    obtain ⟨tradeId, r, hr, rfl⟩ := mem_reserved.mp hd
    have hreserves := hfiled tradeId r hr
    have hopen := hreached.entriesOpen.captured account hforce tradeId r hr
    refine not_published hloaded hnone ?_
    unfold reservationRow
    rw [hreserves.approved, hreserves.tradingMode, hreserves.evedexProfile, hreserves.accountId,
      show r.decision.intent.strategyId = paperCanaryStrategyId from hcanary,
      decide_eq_true (Int.le_trans holder hopen)]
    simp
  refine ⟨hunpublished, ?_⟩
  intro hsame hpublished view hview venueSymbol hlimit
  obtain ⟨_, _, hideas⟩ := reservationView_ok hview hfiled.approved
  have hnoIdeas :
      (c.reserved.filter fun d => d.intent.strategyId == paperCanaryStrategyId) = [] := by
    rw [List.filter_eq_nil_iff]
    exact fun d hd he => hunpublished d hd (beq_iff_eq.mp he) (hpublished d hd)
  have hnoTrades : activeCanaryTradeIds account = [] := by
    rw [← hsame]
    exact activeCanaryTradeIds_eq_nil hnone.positions hnone.orders
  rw [hnoIdeas] at hideas
  unfold PaperRiskPipeline.exclusivityReasons at hlimit
  rw [hnoTrades, hideas] at hlimit
  simp only [List.mem_append, mem_reasonIf] at hlimit
  rcases hlimit with ((⟨_, hname⟩ | ⟨_, hname⟩) | ⟨_, hname⟩) | ⟨hcount, _⟩
  · exact absurd hname (by decide)
  · exact absurd hname (by decide)
  · exact absurd hname (by decide)
  · simp at hcount

end PaperRiskCoordinator

namespace Scenario

open PaperRiskCoordinator EvedexDevInstrumentRule

deriving instance DecidableEq for PositionSnapshotV2, OpenOrderSnapshotV2, AccountSnapshotV2

/-- A market of the first idea and of a canary on its symbol. -/
def canaryMarket : PaperRiskPipeline Rat Rat where
  core := core
    [ideaA, { review := canaryReview, venueSymbol := "BTCUSD:DEV", decisionId := "decision-canary"
              refusalId := "refusal-canary", tradeId := "trade-canary" }] canaryDigests
  settings := settings 10 ten_decisions
  regimePolicy := none

/-- The coordinator once it evaluated a review. -/
def afterReview (x : EvaluateRequest Rat) : PaperRiskCoordinator Rat :=
  run (step canaryMarket) PaperRiskCoordinator.init
    [.restoreReservations [], .applyAccount (account 1 60200),
      .applyVenue (venue "BTCUSD:DEV" 60300), .evaluate x]

/-- The first idea is reserved. -/
def ideaReserved : PaperRiskCoordinator Rat := afterReview (request ideaA.review 60400)

/-- The canary is reserved. -/
def canaryReserved : PaperRiskCoordinator Rat :=
  afterReview { request canaryReview 60400 with allocation := some canaryAllocation }

/-- A canary on another symbol. -/
def etherPlan : CanaryPlan canaryMarket.core where
  symbol := "ETHUSDT"
  side := .long
  stopDistanceBps := 50
  targetDistanceBps := 75
  maxHoldingMs := 300000
  entryWindowMs := 30000
  valid := by decide +kernel

def etherRule : InstrumentRule canaryMarket.core where
  toEvedexDevInstrumentRule := { canaryRule (1 / 1000) 5 with venueSymbol := "ETHUSD:DEV" }
  valid := by decide +kernel
  decimals := decimals_of_dvd 3 (by decide +kernel)

/-- A log with a bar, a venue, the account and these decisions. -/
def auditLog (decisions : List (RiskTradeDecisionV1 Rat)) : EventAudit Rat where
  closedBar := [⟨{ (canaryInputs ordinaryRule).bar with symbol := "ETHUSDT" }, 60000, 60001⟩]
  venueQuality := [⟨venue "ETHUSD:DEV" 60300, 60300, 60301⟩]
  accountSnapshotV2 := [⟨account 1 60200, 60200, 60201⟩]
  strategicAllocation := []
  riskTradeDecision := decisions.map fun d => ⟨d, 60400, 60401⟩

theorem ether_loads : (loadSnapshot etherPlan "kairos-paper-dev-01" etherRule
    (auditLog ideaReserved.reserved)).toOption.isSome = true := by decide +kernel

theorem ether_loads_early : (loadSnapshot etherPlan "kairos-paper-dev-01" etherRule
    (auditLog [])).toOption.isSome = true := by decide +kernel

/-- **The limit, with the approval in the log and without it.** The log holds the
approval of the first idea, and the limit lets a canary pass. It does not hold the
approval of a canary yet: the preflight of the next one passes all the same, and the
limit is what refuses it. -/
theorem ether_canary_limited :
    (∀ view, reservationView ideaReserved.reserved = .ok view →
      "global_canary_idea_limit_reached" ∉ PaperRiskPipeline.exclusivityReasons (account 1 60200)
        "ETHUSD:DEV" paperCanaryStrategyId view) ∧
    canaryReserved.reserved.map (·.intent.strategyId) = [paperCanaryStrategyId] ∧
    (∀ d ∈ canaryReserved.reserved, IsCanary d → ¬(auditLog []).Published d) ∧
    ((reservationView canaryReserved.reserved).toOption.any fun view =>
      (PaperRiskPipeline.exclusivityReasons (account 1 60200) "ETHUSD:DEV" paperCanaryStrategyId
        view).contains "global_canary_idea_limit_reached") = true := by
  have hidea := preflight_agrees_with_limit canaryMarket ideaReserved ⟨_, rfl⟩ (account 1 60200)
    (by decide +kernel) etherPlan etherRule (auditLog ideaReserved.reserved) _ 60400 30000
    (eq_ok_of_isSome ether_loads) (eq_ok_of_isSome (by decide +kernel)) (by decide +kernel)
  have hcanary := preflight_agrees_with_limit canaryMarket canaryReserved ⟨_, rfl⟩
    (account 1 60200) (by decide +kernel) etherPlan etherRule (auditLog []) _ 60400 30000
    (eq_ok_of_isSome ether_loads_early) (eq_ok_of_isSome (by decide +kernel)) (by decide +kernel)
  have hlogged : ∀ d ∈ ideaReserved.reserved, (auditLog ideaReserved.reserved).Published d :=
    fun d hd => ⟨⟨d, 60400, 60401⟩, List.mem_map_of_mem hd, rfl⟩
  refine ⟨fun view hview => hidea.2 rfl hlogged view hview "ETHUSD:DEV", by decide +kernel,
    hcanary.1, by decide +kernel⟩

end Scenario

end KairosRisk
