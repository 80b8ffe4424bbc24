import KairosRisk.CoordinatorSteps

/-!
# What a reservation and a new approval say

Two facts that every exclusivity argument starts from. A reservation is an
approved, validated decision filed under its own trade id (`ReservedInv`, kept
by every operation). A new approval found the state it was made in free of its
symbol: no position, no open order and no reservation on it
(`Fresh.exclusive`).
-/

namespace KairosRisk

open PyLib

namespace PaperRiskCoordinator

variable {F D : Type} [PyFloat F] [DecidableEq F]

/-- A decision that belongs under a trade id, in this account's PAPER scope. -/
structure Reserves (p : PaperRiskPipeline F D) (tradeId : String) (d : RiskTradeDecisionV1 F) :
    Prop where
  tradeId : d.tradeId = some tradeId
  approved : d.approved = true
  validated : p.core.Validated d
  tradingMode : d.tradingMode = .paper
  evedexProfile : d.evedexProfile = .dev
  accountId : d.accountId = p.settings.paperAccountId

/-- Every reservation is an approval under its own trade id. -/
def ReservedInv (p : PaperRiskPipeline F D) (c : PaperRiskCoordinator F) : Prop :=
  ∀ tradeId r, c.reservations.get? tradeId = some r → Reserves p tradeId r.decision

omit [PyFloat F] [DecidableEq F] in
/-- The decisions reserved are the decisions of the reservations. -/
theorem mem_reserved {c : PaperRiskCoordinator F} {d : RiskTradeDecisionV1 F} :
    d ∈ c.reserved ↔ ∃ tradeId r, c.reservations.get? tradeId = some r ∧ r.decision = d := by
  unfold reserved
  rw [List.mem_map]
  constructor
  · intro h
    obtain ⟨r, hr, hd⟩ := h
    obtain ⟨tradeId, hget⟩ := OrderedDict.mem_values.mp hr
    exact ⟨tradeId, r, hget, hd⟩
  · intro h
    obtain ⟨tradeId, r, hget, hd⟩ := h
    exact ⟨r, OrderedDict.mem_values.mpr ⟨tradeId, hget⟩, hd⟩

omit [DecidableEq F] in
theorem ReservedInv.approved {p : PaperRiskPipeline F D} {c : PaperRiskCoordinator F}
    (hi : ReservedInv p c) : ∀ d ∈ c.reserved, d.approved = true := by
  intro d hd
  obtain ⟨tradeId, r, hget, rfl⟩ := mem_reserved.mp hd
  exact (hi tradeId r hget).approved

omit [DecidableEq F] in
theorem ReservedInv.set {p : PaperRiskPipeline F D} {c : PaperRiskCoordinator F} {tradeId : String}
    {d : RiskTradeDecisionV1 F} (hi : ReservedInv p c) (hd : Reserves p tradeId d) (seq : Int) :
    ReservedInv p { c with reservations := c.reservations.set tradeId ⟨d, seq⟩ } := by
  intro k r hr
  rw [OrderedDict.get?_set] at hr
  split at hr
  next he =>
    cases hr
    exact he ▸ hd
  next => exact hi k r hr

/-! ## Restored decisions -/

omit [DecidableEq F] in
/-- What a recovered decision was checked for before it was filed. -/
theorem recoveredKeys_ok {p : PaperRiskPipeline F D} {c : PaperRiskCoordinator F}
    {d : RiskTradeDecisionV1 F} {tradeId reviewId : String}
    (hvalid : p.core.Validated d) (h : c.recoveredKeys p d = .ok (tradeId, reviewId)) :
    Reserves p tradeId d ∧ d.review.reviewId = some reviewId ∧
    ∀ r, c.reservations.get? tradeId = some r → r.decision.decisionId = d.decisionId := by
  unfold recoveredKeys at h
  obtain ⟨u, hrecovered, h⟩ := ok_of_bind h
  unfold validateRecoveredDecision at hrecovered
  obtain ⟨happ, hscope⟩ := ok_of_raiseIf hrecovered
  have hscope := (raiseIf_ok hscope)
  simp only [ne_eq, Bool.or_eq_false_iff, decide_eq_false_iff_not, Decidable.not_not] at hscope
  obtain ⟨⟨⟨hmode, hprofile⟩, haccount⟩, _⟩ := hscope
  split at h
  next htrade hreview =>
    obtain ⟨hsame, h⟩ := ok_of_raiseIf h
    cases h
    refine ⟨⟨htrade, by simpa using happ, hvalid, hmode, hprofile, haccount⟩, hreview, ?_⟩
    intro r hr
    rw [hr] at hsame
    simpa using hsame
  next => cases h

omit [DecidableEq F] in
/-- The loop of a restore files approvals under their own trades. -/
theorem reservedInv_restoreLoop {p : PaperRiskPipeline F D} :
    ∀ (ds : List (RiskTradeDecisionV1 F)) (c : PaperRiskCoordinator F),
      (∀ d ∈ ds, p.core.Validated d) → ReservedInv p c → ReservedInv p (restoreLoop p ds c).2
  | [], _, _, hi => hi
  | d :: ds, c, hv, hi => by
    unfold restoreLoop
    split
    next => exact hi
    next tradeId reviewId hkeys =>
      obtain ⟨hd, _, _⟩ := recoveredKeys_ok (hv d (List.mem_cons_self ..)) hkeys
      exact reservedInv_restoreLoop ds _ (fun e he => hv e (List.mem_cons_of_mem _ he))
        (hi.set hd 0)

theorem ReservedInv.reconcile {p : PaperRiskPipeline F D} {c c' : PaperRiskCoordinator F}
    {snapshot : AccountSnapshotV2 F} (hi : ReservedInv p c)
    (h : c.reconcileReservations snapshot = .ok c') : ReservedInv p c' := by
  intro tradeId r hr
  exact hi tradeId r (((reconcileReservations_ok h).2.1 tradeId r).mp hr).1

/-! ## Every operation keeps the filing -/

variable [PyDecimal D] [Spelling F D]

/-- A new approval belongs under its trade id. -/
theorem Fresh.reserves {p : PaperRiskPipeline F D} {c : PaperRiskCoordinator F}
    {x : EvaluateRequest F} {venue : VenueQualityV1 F} {reservations : PaperReservations F}
    {d : RiskTradeDecisionV1 F} {tradeId : String} (h : Fresh p c x venue reservations d)
    (ha : d.approved = true) (htrade : d.tradeId = some tradeId) : Reserves p tradeId d := by
  have hd := PaperRiskPipeline.evaluate_decidesOn h.decided
  exact ⟨htrade, ha, hd.validated, hd.tradingMode, hd.evedexProfile, hd.accountId⟩

/-- **Every operation keeps the invariant.** -/
theorem reservedInv_step {p : PaperRiskPipeline F D} (c : PaperRiskCoordinator F)
    (op : Operation p.core) (hi : ReservedInv p c) : ReservedInv p (step p c op) := by
  cases op with
  | applyRegimeAllocation allocation receivedAtMs =>
    show ReservedInv p (c.applyRegimeAllocation p allocation receivedAtMs).2
    rcases hr : c.applyRegimeAllocation p allocation receivedAtMs with ⟨r, c'⟩
    cases applyRegimeAllocation_cases hr <;> exact hi
  | restoreReservations decisions =>
    show ReservedInv p (c.restoreReservations p (decisions.map (·.val))).2
    have hloop := reservedInv_restoreLoop (decisions.map (·.val)) c (validated_durable decisions) hi
    rcases hr : c.restoreReservations p (decisions.map (·.val)) with ⟨r, c'⟩
    rw [hr]
    cases restoreReservations_cases hr with
    | already => exact hi
    | raised => exact hloop
    | waiting => exact hloop
    | foreign => exact hloop
    | reconciled _ _ _ _ hrec =>
      have hload : ReservedInv p { c.loaded p _ with accountRecoveryReady := true } := hloop
      exact hload.reconcile hrec
    | revoked => exact hloop
  | applyAccount snapshot =>
    show ReservedInv p (c.applyAccount p snapshot).2
    rcases hr : c.applyAccount p snapshot with ⟨r, c'⟩
    cases applyAccount_cases hr with
    | older => exact hi
    | duplicate => exact hi
    | conflict => exact hi
    | backwards => exact hi
    | foreign => exact hi
    | reconciled _ _ _ h =>
      have hadopt : ReservedInv p (c.adopt p snapshot) := hi
      exact hadopt.reconcile h
    | revoked => exact hi
  | applyVenue venue =>
    show ReservedInv p (c.applyVenue venue).2
    rw [applyVenue_frame]
    exact hi
  | evaluate request =>
    show ReservedInv p (c.evaluate p request).2
    rcases hr : c.evaluate p request with ⟨r, c'⟩
    cases evaluate_cases hr with
    | raised => exact hi
    | replayed => exact hi
    | refused => exact hi
    | rejected => exact hi
    | unidentified => exact hi
    | approved _ _ _ h happ htrade => exact hi.set (h.reserves happ htrade) _

theorem Reached.reserved {p : PaperRiskPipeline F D} {c : PaperRiskCoordinator F}
    (h : Reached p c) : ReservedInv p c := by
  have hinit : ReservedInv p (init : PaperRiskCoordinator F) := by
    intro tradeId r hr
    rw [init, OrderedDict.get?_empty] at hr
    cases hr
  exact Reachable.invariant h hinit reservedInv_step

/-! ## New approvals -/

/-- What an approval found in the snapshot in force and in the reservations. -/
structure Exclusive (p : PaperRiskPipeline F D) (c : PaperRiskCoordinator F)
    (x : EvaluateRequest F) (d : RiskTradeDecisionV1 F) (account : AccountSnapshotV2 F) : Prop where
  inForce : c.account = some account
  fromPast : 0 ≤ x.decidedAtMs - account.capturedAtMs
  notStale : PyFloat.intGt (x.decidedAtMs - account.capturedAtMs)
    (p.settings.paperAccountSnapshotMaxAgeS * PyFloat.lit 1000) = false
  position : ∀ q ∈ account.positions, q.venueSymbol ≠ d.venueSymbol
  openOrder : ∀ o ∈ account.openOrders, o.venueSymbol ≠ d.venueSymbol
  reserved : ∀ e ∈ c.reserved, e.venueSymbol ≠ d.venueSymbol
  canary : d.intent.strategyId = paperCanaryStrategyId →
    activeCanaryTradeIds account = [] ∧
    ∀ e ∈ c.reserved, e.intent.strategyId ≠ paperCanaryStrategyId

/-- **A new approval** is the only idea on its symbol, and the only canary. -/
theorem Fresh.exclusive {p : PaperRiskPipeline F D} {c : PaperRiskCoordinator F}
    {x : EvaluateRequest F} {venue : VenueQualityV1 F} {reservations : PaperReservations F}
    {d : RiskTradeDecisionV1 F} (hi : ReservedInv p c) (h : Fresh p c x venue reservations d)
    (ha : d.approved = true) : ∃ account, Exclusive p c x d account := by
  have happroves := PaperRiskPipeline.evaluate_approves h.decided ha
  have hsymbol : d.venueSymbol = venue.symbol := happroves.venueSymbol
  have hintent : d.intent = x.review.intent := happroves.intent
  obtain ⟨_, _, hgate, _⟩ := PaperRiskPipeline.gates_reasons_eq_nil happroves.gates
  obtain ⟨account, hacc, hscope, hexclusive, _⟩ := PaperRiskPipeline.accountGate_eq_nil hgate
  obtain ⟨hpast, hstale⟩ := PaperRiskPipeline.accountScopeReasons_age hscope
  obtain ⟨hreserved, hposition, horder, hcanary⟩ :=
    PaperRiskPipeline.exclusivityReasons_eq_nil_iff.mp hexclusive
  obtain ⟨hsymbols, _, hideas⟩ := reservationView_ok h.view hi.approved
  refine ⟨account, hacc, hpast, hstale, ?_, ?_, ?_, ?_⟩
  · intro q hq
    rw [hsymbol]
    exact hposition q hq
  · intro o ho
    rw [hsymbol]
    exact horder o ho
  · intro e he hsame
    refine hreserved ?_
    show venue.symbol ∈ reservations.symbols
    rw [hsymbols, List.mem_map]
    exact ⟨e, he, hsame.trans hsymbol⟩
  · intro hid
    have hlimit := hcanary (hintent ▸ hid)
    have hview : (PaperRiskCoordinator.pipelineInputs p c x venue reservations).reservations
        = reservations := rfl
    rw [hview, hideas] at hlimit
    constructor
    · exact List.length_eq_zero_iff.mp (by omega)
    · intro e he hcan
      have hpos : 0 < (c.reserved.filter fun d =>
          d.intent.strategyId == paperCanaryStrategyId).length :=
        List.length_pos_of_mem (List.mem_filter.mpr ⟨he, by simp [hcan]⟩)
      omega

omit [PyDecimal D] [Spelling F D] in
/-- Without a reason the caller gave none, and no binding is contradicted. -/
theorem admissionReasons_eq_nil {p : PaperRiskPipeline F D} {c : PaperRiskCoordinator F}
    {x : EvaluateRequest F} (h : c.admissionReasons p x = []) :
    c.regimeConflict p x.review = false ∧ x.admissionRejectionReasons = [] := by
  unfold admissionReasons at h
  split at h
  next =>
    cases hl : x.admissionRejectionReasons with
    | nil =>
      rw [hl, List.nil_append, List.eraseDups_cons] at h
      cases h
    | cons reason rest =>
      rw [hl, List.cons_append, List.eraseDups_cons] at h
      cases h
  next hnot => exact ⟨Bool.eq_false_iff.mpr hnot, h⟩

/-- **Nobody objects to an approval**: neither the caller nor a contradicted
regime binding, cached or not. -/
theorem approved_admission {p : PaperRiskPipeline F D} {c : PaperRiskCoordinator F}
    {x : EvaluateRequest F} {d : RiskTradeDecisionV1 F} (h : (c.evaluate p x).1 = .ok d)
    (ha : d.approved = true) : c.admissionReasons p x = [] := by
  rcases hr : c.evaluate p x with ⟨result, c'⟩
  rw [hr] at h
  cases evaluate_cases hr with
  | raised => cases h
  | unidentified => cases h
  | replayed _ _ hadm => exact hadm
  | rejected _ hadm => exact hadm
  | approved _ hadm => exact hadm
  | refused _ hfresh =>
    cases h
    exact PaperRiskPipeline.gates_admission
      (PaperRiskPipeline.evaluate_approves hfresh.decided ha).gates

/-- `evaluate` returns an approval, and not one from the cache. -/
structure NewlyApproves (p : PaperRiskPipeline F D) (c : PaperRiskCoordinator F)
    (x : EvaluateRequest F) (d : RiskTradeDecisionV1 F) : Prop where
  returned : (c.evaluate p x).1 = .ok d
  approved : d.approved = true
  notCached : ∀ reviewId, x.review.reviewId = some reviewId → c.decisions.get? reviewId = none

/-- A new approval was evaluated on the state it found. -/
theorem NewlyApproves.fresh {p : PaperRiskPipeline F D} {c : PaperRiskCoordinator F}
    {x : EvaluateRequest F} {d : RiskTradeDecisionV1 F} (h : NewlyApproves p c x d) :
    ∃ venue reservations, Fresh p c x venue reservations d := by
  have hres := h.returned
  rcases hr : c.evaluate p x with ⟨result, c'⟩
  rw [hr] at hres
  cases evaluate_cases hr with
  | raised => cases hres
  | unidentified => cases hres
  | replayed hid _ _ hcached =>
    have hnew := h.notCached _ hid
    rw [hcached] at hnew
    cases hnew
  | refused _ hfresh =>
    cases hres
    exact ⟨_, _, hfresh⟩
  | rejected _ _ _ hfresh =>
    cases hres
    exact ⟨_, _, hfresh⟩
  | approved _ _ _ hfresh =>
    cases hres
    exact ⟨_, _, hfresh⟩

end PaperRiskCoordinator

end KairosRisk
