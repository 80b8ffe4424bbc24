import KairosRisk.Scenario

/-!
# Reservations are conserved

A reservation is the only record of an approval's risk until the account shows
it. It may therefore leave in two ways only: an authoritative snapshot
represents the trade, every representation of it being of the decision's own
lineage, or a newer authoritative snapshot captured after the entry window
shows the trade nowhere (`ReleasedBy`). A conflict for any trade releases none.

An approval whose trade id is already reserved would overwrite that
reservation. The symbol gate rules it out as far as a trade id fixes the venue
symbol, which is assumed of the contract's identities (`TradeIdsFixSymbol`).
-/

namespace KairosRisk

open PyLib

variable {F D : Type}

/-- Decisions that share a trade id are about one venue symbol. -/
def TradeIdsFixSymbol (core : KairosCore F) : Prop :=
  ∀ d e : RiskTradeDecisionV1 F, core.Validated d → core.Validated e →
    ∀ tradeId, d.tradeId = some tradeId → e.tradeId = some tradeId → d.venueSymbol = e.venueSymbol

/-- A position of the decision's own lineage. -/
structure PositionMatches (d : RiskTradeDecisionV1 F) (q : PositionSnapshotV2 F) : Prop where
  venueSymbol : q.venueSymbol = d.venueSymbol
  strategyId : q.strategyId = d.intent.strategyId
  strategyRevision : q.strategyRevision = d.intent.strategyRevision
  intentId : some q.intentId = d.intent.intentId
  riskDecisionId : q.riskDecisionId = d.decisionId
  tradeId : some q.tradeId = d.tradeId
  side : q.side = d.intent.side
  exitPlan : q.exitPlan = d.exitPlan

/-- An order of the decision's own lineage. -/
structure OrderMatches (d : RiskTradeDecisionV1 F) (o : OpenOrderSnapshotV2 F) : Prop where
  venueSymbol : o.venueSymbol = d.venueSymbol
  strategyId : o.strategyId = d.intent.strategyId
  strategyRevision : o.strategyRevision = d.intent.strategyRevision
  intentId : some o.intentId = d.intent.intentId
  riskDecisionId : o.riskDecisionId = d.decisionId
  tradeId : some o.tradeId = d.tradeId

/-- The snapshot holds a position or an open entry of the trade. -/
def Owns (snapshot : AccountSnapshotV2 F) (tradeId : String) : Prop :=
  (∃ q ∈ snapshot.positions, q.tradeId = tradeId) ∨
  ∃ o ∈ snapshot.openOrders, o.tradeId = tradeId ∧ o.orderRole = .entry

/-- The snapshot holds nothing of the trade. -/
def Absent (snapshot : AccountSnapshotV2 F) (tradeId : String) : Prop :=
  (∀ q ∈ snapshot.positions, q.tradeId ≠ tradeId) ∧
  ∀ o ∈ snapshot.openOrders, o.tradeId ≠ tradeId

/-- Every representation of the trade is of the decision's lineage. -/
def AllMatch (snapshot : AccountSnapshotV2 F) (tradeId : String) (d : RiskTradeDecisionV1 F) :
    Prop :=
  (∀ q ∈ snapshot.positions, q.tradeId = tradeId → PositionMatches d q) ∧
  ∀ o ∈ snapshot.openOrders, o.tradeId = tradeId → OrderMatches d o

/-- The evidence on which a reservation may be released. -/
def ReleasedBy [PyFloat F] (p : PaperRiskPipeline F D) (snapshot : AccountSnapshotV2 F)
    (tradeId : String) (r : Reservation F) : Prop :=
  PaperRiskCoordinator.accountIsAuthoritative p snapshot = true ∧
  ((Owns snapshot tradeId ∧ AllMatch snapshot tradeId r.decision) ∨
    (Absent snapshot tradeId ∧ r.reconciliationSeq < snapshot.reconciliationSeq ∧
      r.decision.intent.entryExpiresTsMs < snapshot.capturedAtMs))

/-- The snapshot conflicts with the reservation: a representation of another
lineage, or protective orders alone. -/
def ConflictsWith (snapshot : AccountSnapshotV2 F) (tradeId : String) (r : Reservation F) : Prop :=
  ¬AllMatch snapshot tradeId r.decision ∨ (¬Owns snapshot tradeId ∧ ¬Absent snapshot tradeId)

namespace PaperRiskCoordinator

/-! ## Reconciliation, in the snapshot's own terms -/

section Reconciliation

variable [DecidableEq F] {snapshot : AccountSnapshotV2 F} {tradeId : String} {r : Reservation F}

theorem lineageMismatches_position {d : RiskTradeDecisionV1 F} {q : PositionSnapshotV2 F}
    (h : lineageMismatches d (.position q) = []) : PositionMatches d q := by
  simp only [lineageMismatches, lineageMismatches.shared, List.append_eq_nil_iff, reasonIf_eq_nil,
    decide_eq_false_iff_not, ne_eq, Decidable.not_not] at h
  obtain ⟨⟨⟨⟨⟨⟨⟨hvenue, hstrategy⟩, hrevision⟩, hintent⟩, hdecision⟩, htrade⟩, hside⟩, hexit⟩ := h
  exact ⟨hvenue, hstrategy, hrevision, hintent, hdecision, htrade, hside, hexit⟩

theorem lineageMismatches_order {d : RiskTradeDecisionV1 F} {o : OpenOrderSnapshotV2 F}
    (h : lineageMismatches d (.order o) = []) : OrderMatches d o := by
  simp only [lineageMismatches, lineageMismatches.shared, List.append_eq_nil_iff, reasonIf_eq_nil,
    decide_eq_false_iff_not, ne_eq, Decidable.not_not] at h
  obtain ⟨⟨⟨⟨⟨hvenue, hstrategy⟩, hrevision⟩, hintent⟩, hdecision⟩, htrade⟩ := h
  exact ⟨hvenue, hstrategy, hrevision, hintent, hdecision, htrade⟩

theorem LineageMatches.allMatch {d : RiskTradeDecisionV1 F}
    (h : LineageMatches snapshot tradeId d) : AllMatch snapshot tradeId d := by
  constructor
  · intro q hq he
    exact lineageMismatches_position (h.1 q (List.mem_filter.mpr ⟨hq, by simp [he]⟩))
  · intro o ho he
    exact lineageMismatches_order (h.2 o (List.mem_filter.mpr ⟨ho, by simp [he]⟩))

omit [DecidableEq F] in
theorem Unrepresented.absent (h : Unrepresented snapshot tradeId) : Absent snapshot tradeId := by
  constructor
  · intro q hq he
    exact List.filter_eq_nil_iff.mp h.1 q hq (by simp [he])
  · intro o ho he
    exact List.filter_eq_nil_iff.mp h.2 o ho (by simp [he])

omit [DecidableEq F] in
theorem owns_of_ownsTrade (h : ownsTrade snapshot tradeId = true) : Owns snapshot tradeId := by
  unfold ownsTrade at h
  rcases (Bool.or_eq_true _ _).mp h with hposition | horder
  · have hne : positionsOf snapshot tradeId ≠ [] := by simpa using hposition
    obtain ⟨q, hq⟩ := List.exists_mem_of_ne_nil _ hne
    obtain ⟨hmem, he⟩ := List.mem_filter.mp hq
    exact Or.inl ⟨q, hmem, by simpa using he⟩
  · obtain ⟨o, ho, hentry⟩ := List.any_eq_true.mp horder
    obtain ⟨hmem, he⟩ := List.mem_filter.mp ho
    exact Or.inr ⟨o, hmem, by simpa using he, by simpa using hentry⟩

/-- What reconciliation transfers was released by the snapshot's evidence. -/
theorem releasedBy_of_transfers [PyFloat F] {p : PaperRiskPipeline F D}
    (hauth : accountIsAuthoritative p snapshot = true)
    (h : transfers snapshot tradeId r = .ok true) : ReleasedBy p snapshot tradeId r := by
  refine ⟨hauth, ?_⟩
  rcases transfers_ok h with ⟨howns, _⟩ | ⟨habsent, hexpired⟩
  · exact Or.inl ⟨owns_of_ownsTrade howns, (transfers_lineage h).allMatch⟩
  · have hexpired := hexpired.symm
    unfold expiredUnseen at hexpired
    obtain ⟨hseq, hcaptured⟩ := (Bool.and_eq_true _ _).mp hexpired
    exact Or.inr ⟨habsent.absent, of_decide_eq_true hseq, of_decide_eq_true hcaptured⟩

/-- What reconciliation keeps is nowhere in the snapshot. -/
theorem absent_of_transfers (h : transfers snapshot tradeId r = .ok false) :
    Absent snapshot tradeId := by
  rcases transfers_ok h with ⟨_, hfalse⟩ | ⟨habsent, _⟩
  · cases hfalse
  · exact habsent.absent

/-- A conflict is never decided either way. -/
theorem not_transfers_of_conflict (hc : ConflictsWith snapshot tradeId r) (leaves : Bool) :
    transfers snapshot tradeId r ≠ .ok leaves := by
  intro h
  rcases hc with hmismatch | ⟨howns, habsent⟩
  · exact hmismatch (transfers_lineage h).allMatch
  · rcases transfers_ok h with ⟨hyes, _⟩ | ⟨hunrepresented, _⟩
    · exact howns (owns_of_ownsTrade hyes)
    · exact habsent hunrepresented.absent

/-- A reservation that reconciliation removed was released by the snapshot. -/
theorem releasedBy_of_reconcile [PyFloat F] {p : PaperRiskPipeline F D}
    {c c' : PaperRiskCoordinator F} (hauth : accountIsAuthoritative p snapshot = true)
    (h : c.reconcileReservations snapshot = .ok c')
    (hr : c.reservations.get? tradeId = some r) (hgone : c'.reservations.get? tradeId ≠ some r) :
    ReleasedBy p snapshot tradeId r := by
  obtain ⟨_, hkept, hdecided⟩ := reconcileReservations_ok h
  obtain ⟨leaves, hleaves⟩ := hdecided tradeId r hr
  cases leaves with
  | true => exact releasedBy_of_transfers hauth hleaves
  | false => exact absurd ((hkept tradeId r).mpr ⟨hr, hleaves⟩) hgone

end Reconciliation

/-! ## What leaves, and how -/

variable [PyFloat F] [DecidableEq F]

/-- The approval reserved under `tradeId` is not reserved there any more. -/
def Disappears (c c' : PaperRiskCoordinator F) (tradeId : String) (r : Reservation F) : Prop :=
  c.reservations.get? tradeId = some r ∧
  ∀ r', c'.reservations.get? tradeId = some r' → r'.decision.decisionId ≠ r.decision.decisionId

omit [PyFloat F] [DecidableEq F] in
/-- What disappeared is not what is held afterwards. -/
theorem Disappears.not_held {c c' : PaperRiskCoordinator F} {tradeId : String}
    {r : Reservation F} (h : Disappears c c' tradeId r) :
    c'.reservations.get? tradeId ≠ some r :=
  fun he => h.2 r he rfl

omit [PyFloat F] [DecidableEq F] in
/-- Where the reservations are the same, nothing disappears. -/
theorem not_disappears {c c' : PaperRiskCoordinator F} (h : c'.reservations = c.reservations)
    {tradeId : String} {r : Reservation F} : ¬Disappears c c' tradeId r := by
  intro hgone
  exact hgone.not_held (by rw [h]; exact hgone.1)

omit [DecidableEq F] in
/-- The loop of a restore keeps what is reserved, under the same decision. -/
theorem restoreLoop_keeps {p : PaperRiskPipeline F D} {tradeId : String} :
    ∀ (ds : List (RiskTradeDecisionV1 F)) (c : PaperRiskCoordinator F) {r : Reservation F},
      (∀ d ∈ ds, p.core.Validated d) → c.reservations.get? tradeId = some r →
      ∃ r', (restoreLoop p ds c).2.reservations.get? tradeId = some r' ∧
        r'.decision.decisionId = r.decision.decisionId
  | [], _, r, _, hr => ⟨r, hr, rfl⟩
  | d :: ds, c, r, hv, hr => by
    have hv' : ∀ e ∈ ds, p.core.Validated e := fun e he => hv e (List.mem_cons_of_mem _ he)
    unfold restoreLoop
    split
    next => exact ⟨r, hr, rfl⟩
    next trade reviewId hkeys =>
      obtain ⟨_, _, hsame⟩ := recoveredKeys_ok (hv d (List.mem_cons_self ..)) hkeys
      by_cases he : trade = tradeId
      · have hput : (c.reservations.set trade ⟨d, 0⟩).get? tradeId = some ⟨d, 0⟩ := by
          rw [he]
          exact OrderedDict.get?_set_self ..
        obtain ⟨r', hr', hid⟩ := restoreLoop_keeps ds
          { c with
            reservations := c.reservations.set trade ⟨d, 0⟩
            decisions := c.decisions.set reviewId d } hv' hput
        exact ⟨r', hr', hid.trans (hsame r (he ▸ hr)).symm⟩
      · exact restoreLoop_keeps ds _ hv' ((OrderedDict.get?_set_ne _ _ he).trans hr)

variable [PyDecimal D] [Spelling F D]

/-- How an operation accounts for a reservation that disappeared. -/
inductive Accounted (p : PaperRiskPipeline F D) (c : PaperRiskCoordinator F) (tradeId : String)
    (r : Reservation F) : Operation p.core → Prop
  | account {snapshot : AccountSnapshotV2 F} (happlied : (c.applyAccount p snapshot).1 = .ok true)
      (h : ReleasedBy p snapshot tradeId r) : Accounted p c tradeId r (.applyAccount snapshot)
  | restore {decisions : List (DurableDecision p.core)} {snapshot : AccountSnapshotV2 F}
      {restored : Reservation F} (hacc : c.account = some snapshot)
      (hloop : (restoreLoop p (decisions.map (·.val)) c).2.reservations.get? tradeId
        = some restored)
      (hsame : restored.decision.decisionId = r.decision.decisionId)
      (h : ReleasedBy p snapshot tradeId restored) :
      Accounted p c tradeId r (.restoreReservations decisions)

/-- A new approval never lands on a trade that is reserved. -/
theorem approval_trade_is_new {p : PaperRiskPipeline F D} {c : PaperRiskCoordinator F}
    (hsymbol : TradeIdsFixSymbol p.core) (hi : ReservedInv p c) {x : EvaluateRequest F}
    {venue : VenueQualityV1 F} {reservations : PaperReservations F} {d : RiskTradeDecisionV1 F}
    (h : Fresh p c x venue reservations d) (ha : d.approved = true) {tradeId : String}
    (htrade : d.tradeId = some tradeId) : c.reservations.get? tradeId = none := by
  cases hget : c.reservations.get? tradeId with
  | none => rfl
  | some r =>
    have hr := hi tradeId r hget
    obtain ⟨account, hexclusive⟩ := h.exclusive hi ha
    have hvalid := (PaperRiskPipeline.evaluate_decidesOn h.decided).validated
    have hsame := hsymbol r.decision d hr.validated hvalid tradeId hr.tradeId htrade
    exact absurd hsame (hexclusive.reserved _ (mem_reserved.mpr ⟨tradeId, r, hget, rfl⟩))

/-- **Only a snapshot's evidence** takes a reservation away. -/
theorem accounted_step {p : PaperRiskPipeline F D} {c : PaperRiskCoordinator F}
    (hsymbol : TradeIdsFixSymbol p.core) (hi : ReservedInv p c) (op : Operation p.core)
    {tradeId : String} {r : Reservation F} (hgone : Disappears c (step p c op) tradeId r) :
    Accounted p c tradeId r op := by
  cases op with
  | applyRegimeAllocation allocation receivedAtMs =>
    refine absurd hgone (not_disappears ?_)
    show (c.applyRegimeAllocation p allocation receivedAtMs).2.reservations = _
    rcases hr : c.applyRegimeAllocation p allocation receivedAtMs with ⟨_, c'⟩
    cases applyRegimeAllocation_cases hr <;> rfl
  | applyVenue venue =>
    refine absurd hgone (not_disappears ?_)
    show (c.applyVenue venue).2.reservations = _
    rw [applyVenue_frame]
  | applyAccount snapshot =>
    rcases hr : c.applyAccount p snapshot with ⟨_, c'⟩
    have hstep : step p c (.applyAccount snapshot) = c' := congrArg Prod.snd hr
    rw [hstep] at hgone
    cases applyAccount_cases hr with
    | older => exact absurd hgone (not_disappears rfl)
    | duplicate => exact absurd hgone (not_disappears rfl)
    | conflict => exact absurd hgone (not_disappears rfl)
    | backwards => exact absurd hgone (not_disappears rfl)
    | foreign => exact absurd hgone (not_disappears rfl)
    | revoked => exact absurd hgone (not_disappears rfl)
    | reconciled _ _ hauth h =>
      exact .account (congrArg Prod.fst hr)
        (releasedBy_of_reconcile hauth h hgone.1 hgone.not_held)
  | restoreReservations decisions =>
    obtain ⟨restored, hloop, hsame⟩ :=
      restoreLoop_keeps (decisions.map (·.val)) c (validated_durable decisions) hgone.1
    have hkept : ∀ c' : PaperRiskCoordinator F,
        c'.reservations = (restoreLoop p (decisions.map (·.val)) c).2.reservations →
        ¬Disappears c c' tradeId r := by
      intro c' he hlost
      exact hlost.2 restored (by rw [he]; exact hloop) hsame
    rcases hr : c.restoreReservations p (decisions.map (·.val)) with ⟨_, c'⟩
    have hstep : step p c (.restoreReservations decisions) = c' := congrArg Prod.snd hr
    rw [hstep] at hgone
    cases restoreReservations_cases hr with
    | already => exact absurd hgone (not_disappears rfl)
    | raised => exact absurd hgone (hkept _ rfl)
    | waiting => exact absurd hgone (hkept _ rfl)
    | foreign => exact absurd hgone (hkept _ rfl)
    | revoked => exact absurd hgone (hkept _ rfl)
    | reconciled _ _ hacc hauth hrec =>
      refine .restore hacc hloop hsame (releasedBy_of_reconcile hauth hrec hloop ?_)
      intro he
      exact hgone.2 restored he hsame
  | evaluate request =>
    rcases hr : c.evaluate p request with ⟨_, c'⟩
    have hstep : step p c (.evaluate request) = c' := congrArg Prod.snd hr
    rw [hstep] at hgone
    cases evaluate_cases hr with
    | raised => exact absurd hgone (not_disappears rfl)
    | replayed => exact absurd hgone (not_disappears rfl)
    | refused => exact absurd hgone (not_disappears rfl)
    | rejected => exact absurd hgone (not_disappears rfl)
    | unidentified => exact absurd hgone (not_disappears rfl)
    | approved _ _ _ h happ htrade =>
      -- the new trade id is not the one that was reserved
      have hnone := approval_trade_is_new hsymbol hi h happ htrade
      refine absurd ?_ hgone.not_held
      refine (OrderedDict.get?_set_ne _ _ ?_).trans hgone.1
      intro he
      rw [he, hgone.1] at hnone
      cases hnone

/-! ## All or nothing -/

/-- The reservations are those of `c`, and no account is in force. -/
structure KeptAndRevoked (c c' : PaperRiskCoordinator F) : Prop where
  reservations : c'.reservations = c.reservations
  account : c'.account = none
  recoveryComplete : c'.recoveryComplete = false

omit [PyFloat F] [DecidableEq F] [PyDecimal D] [Spelling F D] in
theorem keptAndRevoked_of {c c' : PaperRiskCoordinator F} (hres : c'.reservations = c.reservations)
    (hacc : c'.account = none) (hready : c'.accountRecoveryReady = false) :
    KeptAndRevoked c c' := by
  refine ⟨hres, hacc, ?_⟩
  unfold recoveryComplete
  rw [hready, Bool.and_false]

omit [PyFloat F] [PyDecimal D] [Spelling F D] in
/-- A conflict stops the whole reconciliation. -/
theorem not_reconciled_of_conflict {c c' : PaperRiskCoordinator F} {snapshot : AccountSnapshotV2 F}
    (hc : ∃ tradeId r, c.reservations.get? tradeId = some r ∧ ConflictsWith snapshot tradeId r) :
    c.reconcileReservations snapshot ≠ .ok c' := by
  intro h
  obtain ⟨tradeId, r, hr, hconflict⟩ := hc
  obtain ⟨leaves, hleaves⟩ := (reconcileReservations_ok h).2.2 tradeId r hr
  exact not_transfers_of_conflict hconflict leaves hleaves

omit [PyDecimal D] [Spelling F D] in
/-- An account snapshot that raises releases nothing and leaves no account in force. -/
theorem applyAccount_raises {p : PaperRiskPipeline F D} {c : PaperRiskCoordinator F}
    {snapshot : AccountSnapshotV2 F} {e : PyError} (h : (c.applyAccount p snapshot).1 = .error e) :
    KeptAndRevoked c (c.applyAccount p snapshot).2 := by
  rcases hr : c.applyAccount p snapshot with ⟨r, c'⟩
  rw [hr] at h
  cases applyAccount_cases hr with
  | older => cases h
  | duplicate => cases h
  | foreign => cases h
  | reconciled => cases h
  | conflict => exact keptAndRevoked_of rfl rfl rfl
  | backwards => exact keptAndRevoked_of rfl rfl rfl
  | revoked => exact keptAndRevoked_of rfl rfl rfl

omit [PyDecimal D] [Spelling F D] in
/-- After a snapshot was applied, nothing reserved is in it. -/
theorem applyAccount_absent {p : PaperRiskPipeline F D} {c : PaperRiskCoordinator F}
    {snapshot : AccountSnapshotV2 F} (h : (c.applyAccount p snapshot).1 = .ok true)
    (hauth : accountIsAuthoritative p snapshot = true) {tradeId : String} {r : Reservation F}
    (hr : (c.applyAccount p snapshot).2.reservations.get? tradeId = some r) :
    Absent snapshot tradeId := by
  rcases hres : c.applyAccount p snapshot with ⟨result, c'⟩
  rw [hres] at h hr
  cases applyAccount_cases hres with
  | older => cases h
  | duplicate => cases h
  | conflict => cases h
  | backwards => cases h
  | revoked => cases h
  | foreign _ _ hnot =>
    rw [hauth] at hnot
    cases hnot
  | reconciled _ _ _ hrec =>
    exact absent_of_transfers (((reconcileReservations_ok hrec).2.1 tradeId r).mp hr).2

omit [PyDecimal D] [Spelling F D] in
/-- A newer snapshot that conflicts with one reserved trade raises. -/
theorem applyAccount_conflict {p : PaperRiskPipeline F D} {c : PaperRiskCoordinator F}
    {snapshot : AccountSnapshotV2 F} (hnew : c.Newer snapshot)
    (hauth : accountIsAuthoritative p snapshot = true)
    (hc : ∃ tradeId r, c.reservations.get? tradeId = some r ∧ ConflictsWith snapshot tradeId r) :
    ∃ e, (c.applyAccount p snapshot).1 = .error e := by
  rcases hr : c.applyAccount p snapshot with ⟨result, c'⟩
  cases applyAccount_cases hr with
  | older hseq hlt =>
    have := hnew _ hseq
    omega
  | duplicate hseq =>
    have := hnew _ hseq
    omega
  | conflict _ _ e => exact ⟨e, rfl⟩
  | backwards _ _ _ e => exact ⟨e, rfl⟩
  | revoked => exact ⟨_, rfl⟩
  | foreign _ _ hnot =>
    rw [hauth] at hnot
    cases hnot
  | reconciled _ _ _ hrec =>
    have hadopt : ∃ tradeId r, (c.adopt p snapshot).reservations.get? tradeId = some r ∧
        ConflictsWith snapshot tradeId r := hc
    exact absurd hrec (not_reconciled_of_conflict hadopt)

/-- What the reconciliation at the end of a restore did. -/
structure RestoreReconciles (p : PaperRiskPipeline F D) (c : PaperRiskCoordinator F)
    (ds : List (RiskTradeDecisionV1 F)) (snapshot : AccountSnapshotV2 F) : Prop where
  released : ∀ tradeId r, (restoreLoop p ds c).2.reservations.get? tradeId = some r →
    (c.restoreReservations p ds).2.reservations.get? tradeId ≠ some r →
    ReleasedBy p snapshot tradeId r
  conflict : (∃ tradeId r, (restoreLoop p ds c).2.reservations.get? tradeId = some r ∧
    ConflictsWith snapshot tradeId r) → ∃ e, (c.restoreReservations p ds).1 = .error e
  raises : ∀ e, (c.restoreReservations p ds).1 = .error e →
    KeptAndRevoked (restoreLoop p ds c).2 (c.restoreReservations p ds).2

omit [PyDecimal D] [Spelling F D] in
theorem restore_reconciles {p : PaperRiskPipeline F D} {c : PaperRiskCoordinator F}
    {ds : List (RiskTradeDecisionV1 F)} {snapshot : AccountSnapshotV2 F}
    (hnot : c.durableRecoveryLoaded = false) (hloop : (restoreLoop p ds c).1 = .ok ())
    (hacc : c.account = some snapshot) (hauth : accountIsAuthoritative p snapshot = true) :
    RestoreReconciles p c ds snapshot := by
  rcases hr : c.restoreReservations p ds with ⟨result, c'⟩
  have hfst : (c.restoreReservations p ds).1 = result := congrArg Prod.fst hr
  have hsnd : (c.restoreReservations p ds).2 = c' := congrArg Prod.snd hr
  cases restoreReservations_cases hr with
  | already hyes =>
    rw [hnot] at hyes
    cases hyes
  | raised _ hraised =>
    rw [hloop] at hraised
    cases hraised
  | waiting _ _ hnone =>
    rw [hacc] at hnone
    cases hnone
  | foreign _ _ hother hforeign =>
    rw [hacc] at hother
    cases hother
    rw [hauth] at hforeign
    cases hforeign
  | reconciled _ _ hother _ hrec =>
    rw [hacc] at hother
    cases hother
    refine ⟨?_, ?_, ?_⟩
    · intro tradeId r hget hgone
      rw [hsnd] at hgone
      exact releasedBy_of_reconcile hauth hrec hget hgone
    · intro hc
      have hmid : ∃ tradeId r,
          { c.loaded p ds with accountRecoveryReady := true }.reservations.get? tradeId = some r ∧
          ConflictsWith snapshot tradeId r := hc
      exact absurd hrec (not_reconciled_of_conflict hmid)
    · intro e he
      rw [hfst] at he
      cases he
  | revoked =>
    refine ⟨?_, ?_, ?_⟩
    · intro tradeId r hget hgone
      rw [hsnd] at hgone
      exact absurd hget hgone
    · intro _
      exact ⟨_, hfst⟩
    · intro e _
      rw [hsnd]
      exact keptAndRevoked_of rfl rfl rfl

/-- **Reservations are conserved**: in every reachable state, only the
evidence of an authoritative snapshot takes one away, what stays is nowhere in
the snapshot, and a conflict for any trade takes none. -/
theorem reservations_conserved (p : PaperRiskPipeline F D) (hsymbol : TradeIdsFixSymbol p.core)
    (c : PaperRiskCoordinator F) (hreached : Reached p c) :
    (∀ op tradeId r, Disappears c (step p c op) tradeId r → Accounted p c tradeId r op) ∧
    (∀ snapshot, (c.applyAccount p snapshot).1 = .ok true →
      accountIsAuthoritative p snapshot = true →
      ∀ tradeId r, (c.applyAccount p snapshot).2.reservations.get? tradeId = some r →
        Absent snapshot tradeId) ∧
    (∀ snapshot e, (c.applyAccount p snapshot).1 = .error e →
      KeptAndRevoked c (c.applyAccount p snapshot).2) ∧
    (∀ snapshot, c.Newer snapshot → accountIsAuthoritative p snapshot = true →
      (∃ tradeId r, c.reservations.get? tradeId = some r ∧ ConflictsWith snapshot tradeId r) →
      ∃ e, (c.applyAccount p snapshot).1 = .error e) ∧
    (∀ ds snapshot, c.durableRecoveryLoaded = false → (restoreLoop p ds c).1 = .ok () →
      c.account = some snapshot → accountIsAuthoritative p snapshot = true →
      RestoreReconciles p c ds snapshot) := by
  have hi := hreached.reserved
  refine ⟨?_, ?_, ?_, ?_, ?_⟩
  · intro op tradeId r hgone
    exact accounted_step hsymbol hi op hgone
  · intro snapshot h hauth tradeId r hr
    exact applyAccount_absent h hauth hr
  · intro snapshot e h
    exact applyAccount_raises h
  · intro snapshot hnew hauth hc
    exact applyAccount_conflict hnew hauth hc
  · intro ds snapshot hnot hloop hacc hauth
    exact restore_reconciles hnot hloop hacc hauth

end PaperRiskCoordinator

namespace Scenario

open PaperRiskCoordinator

theorem market_tradeIdsFixSymbol : TradeIdsFixSymbol market.core := by
  intro d e hd he tradeId htd hte
  exact (same_idea_of_tradeId market_told hd he htd hte).1

/-- The approval is filled: its reservation goes, and the snapshot accounts for it. -/
theorem filled_accounted :
    Accounted market approved "trade-a" heldA
      (.applyAccount (account.holding (account 2 60600) heldA.decision)) := by
  refine (reservations_conserved market market_tradeIdsFixSymbol approved ⟨approving, rfl⟩).1 _ _ _
    ⟨(Option.some_get _).symm, ?_⟩
  intro r' hr'
  have hnone : ((step market approved
      (.applyAccount (account.holding (account 2 60600) heldA.decision))).reservations.get?
        "trade-a").isNone = true := by
    decide +kernel
  rw [hr'] at hnone
  cases hnone

end Scenario

end KairosRisk
