import KairosRisk.Scenario

/-!
# Portfolio exclusivity and the open-risk ceiling

After an empty restore a process can only gain reservations by approving. Each
approval found its symbol free and, for a canary, no other canary
(`Fresh.exclusive`), so the reservations stay on distinct symbols with at most
one canary among them (`ExclusiveInv`).

The ceiling is about sums, so it is stated over exact arithmetic: a positive
loss budget is what the cap leaves after the reported and the reserved risk,
and the decision's loss fits the budget up to the tolerance of the source.
-/

namespace KairosRisk

open PyLib

namespace PaperRiskCoordinator

variable {F D : Type} [PyFloat F] [DecidableEq F]

/-- The decision is a technical canary's. -/
def IsCanary (d : RiskTradeDecisionV1 F) : Prop := d.intent.strategyId = paperCanaryStrategyId

/-- The reservations of a process that restored nothing. -/
structure ExclusiveInv (p : PaperRiskPipeline F D) (c : PaperRiskCoordinator F) : Prop where
  loaded : c.durableRecoveryLoaded = true
  filed : ReservedInv p c
  symbols : ∀ k k' r r', c.reservations.get? k = some r → c.reservations.get? k' = some r' →
    r.decision.venueSymbol = r'.decision.venueSymbol → k = k'
  canaries : ∀ k k' r r', c.reservations.get? k = some r → c.reservations.get? k' = some r' →
    IsCanary r.decision → IsCanary r'.decision → k = k'

omit [DecidableEq F] in
/-- A state that holds no more than an exclusive one is exclusive. -/
theorem ExclusiveInv.of_subset {p : PaperRiskPipeline F D} {c c' : PaperRiskCoordinator F}
    (hi : ExclusiveInv p c) (hloaded : c'.durableRecoveryLoaded = c.durableRecoveryLoaded)
    (hsub : ∀ k r, c'.reservations.get? k = some r → c.reservations.get? k = some r) :
    ExclusiveInv p c' := by
  refine ⟨hloaded.trans hi.loaded, ?_, ?_, ?_⟩
  · intro k r hr
    exact hi.filed k r (hsub k r hr)
  · intro k k' r r' hr hr' he
    exact hi.symbols k k' r r' (hsub k r hr) (hsub k' r' hr') he
  · intro k k' r r' hr hr' hc hc'
    exact hi.canaries k k' r r' (hsub k r hr) (hsub k' r' hr') hc hc'

theorem ExclusiveInv.reconcile {p : PaperRiskPipeline F D} {c c' : PaperRiskCoordinator F}
    {snapshot : AccountSnapshotV2 F} (hi : ExclusiveInv p c)
    (h : c.reconcileReservations snapshot = .ok c') : ExclusiveInv p c' := by
  obtain ⟨hframe, hkept, _⟩ := reconcileReservations_ok h
  refine hi.of_subset (by rw [hframe]) ?_
  intro k r hr
  exact ((hkept k r).mp hr).1

omit [DecidableEq F] in
/-- Reserving an idea on a free symbol, and no second canary, keeps exclusivity. -/
theorem ExclusiveInv.reserve {p : PaperRiskPipeline F D} {c : PaperRiskCoordinator F}
    {tradeId : String} {d : RiskTradeDecisionV1 F} (hi : ExclusiveInv p c)
    (hd : Reserves p tradeId d) (hfree : ∀ e ∈ c.reserved, e.venueSymbol ≠ d.venueSymbol)
    (hcanary : IsCanary d → ∀ e ∈ c.reserved, ¬IsCanary e) :
    ExclusiveInv p (c.reserve tradeId d) := by
  have hold : ∀ k r, (c.reserve tradeId d).reservations.get? k = some r →
      (k = tradeId ∧ r.decision = d) ∨
      (c.reservations.get? k = some r ∧ r.decision ∈ c.reserved) := by
    intro k r hr
    have hr : (c.reservations.set tradeId ⟨d, c.latestAccountSeq.getD 0⟩).get? k = some r := hr
    rw [OrderedDict.get?_set] at hr
    split at hr
    next he =>
      cases hr
      exact Or.inl ⟨he.symm, rfl⟩
    next => exact Or.inr ⟨hr, mem_reserved.mpr ⟨k, r, hr, rfl⟩⟩
  refine ⟨hi.loaded, hi.filed.set hd _, ?_, ?_⟩
  · intro k k' r r' hr hr' he
    rcases hold k r hr with ⟨hk, hnew⟩ | ⟨hget, hmem⟩
    · rcases hold k' r' hr' with ⟨hk', _⟩ | ⟨_, hmem'⟩
      · rw [hk, hk']
      · rw [hnew] at he
        exact absurd he.symm (hfree _ hmem')
    · rcases hold k' r' hr' with ⟨_, hnew'⟩ | ⟨hget', _⟩
      · rw [hnew'] at he
        exact absurd he (hfree _ hmem)
      · exact hi.symbols k k' r r' hget hget' he
  · intro k k' r r' hr hr' hc hc'
    rcases hold k r hr with ⟨hk, hnew⟩ | ⟨hget, hmem⟩
    · rcases hold k' r' hr' with ⟨hk', _⟩ | ⟨_, hmem'⟩
      · rw [hk, hk']
      · exact absurd hc' (hcanary (hnew ▸ hc) _ hmem')
    · rcases hold k' r' hr' with ⟨_, hnew'⟩ | ⟨hget', _⟩
      · exact absurd hc (hcanary (hnew' ▸ hc') _ hmem)
      · exact hi.canaries k k' r r' hget hget' hc hc'

variable [PyDecimal D] [Spelling F D]

/-- **Every operation keeps exclusivity.** -/
theorem exclusiveInv_step {p : PaperRiskPipeline F D} (c : PaperRiskCoordinator F)
    (op : Operation p.core) (hi : ExclusiveInv p c) : ExclusiveInv p (step p c op) := by
  have hsame : ∀ c' : PaperRiskCoordinator F, c'.durableRecoveryLoaded = c.durableRecoveryLoaded →
      c'.reservations = c.reservations → ExclusiveInv p c' := by
    intro c' hloaded hres
    refine hi.of_subset hloaded ?_
    intro k r hr
    rw [hres] at hr
    exact hr
  cases op with
  | applyRegimeAllocation allocation receivedAtMs =>
    show ExclusiveInv p (c.applyRegimeAllocation p allocation receivedAtMs).2
    rcases hr : c.applyRegimeAllocation p allocation receivedAtMs with ⟨r, c'⟩
    cases applyRegimeAllocation_cases hr <;> exact hsame _ rfl rfl
  | restoreReservations decisions =>
    show ExclusiveInv p (c.restoreReservations p (decisions.map (·.val))).2
    unfold restoreReservations
    rw [if_pos hi.loaded]
    exact hi
  | applyAccount snapshot =>
    show ExclusiveInv p (c.applyAccount p snapshot).2
    rcases hr : c.applyAccount p snapshot with ⟨r, c'⟩
    cases applyAccount_cases hr with
    | older => exact hi
    | duplicate => exact hi
    | conflict => exact hsame _ rfl rfl
    | backwards => exact hsame _ rfl rfl
    | foreign => exact hsame _ rfl rfl
    | revoked => exact hsame _ rfl rfl
    | reconciled _ _ _ h =>
      have hadopt : ExclusiveInv p (c.adopt p snapshot) := hsame _ rfl rfl
      exact hadopt.reconcile h
  | applyVenue venue =>
    show ExclusiveInv p (c.applyVenue venue).2
    rw [applyVenue_frame]
    exact hsame _ rfl rfl
  | evaluate request =>
    show ExclusiveInv p (c.evaluate p request).2
    rcases hr : c.evaluate p request with ⟨r, c'⟩
    cases evaluate_cases hr with
    | raised => exact hi
    | replayed => exact hsame _ rfl rfl
    | refused => exact hi
    | rejected => exact hsame _ rfl rfl
    | unidentified => exact hsame _ rfl rfl
    | @approved reviewId tradeId _ _ d _ _ _ h happ htrade =>
      obtain ⟨account, hex⟩ := h.exclusive hi.filed happ
      have hcached : ExclusiveInv p (c.cache reviewId d) := hsame _ rfl rfl
      have hreserved :=
        hcached.reserve (h.reserves happ htrade) hex.reserved (fun hc => (hex.canary hc).2)
      exact hreserved.of_subset rfl (fun k r hr => hr)

/-- The state after restoring nothing. -/
def restoredEmpty (p : PaperRiskPipeline F D) : PaperRiskCoordinator F :=
  (init.restoreReservations p []).2

theorem exclusiveInv_reached {p : PaperRiskPipeline F D} {c : PaperRiskCoordinator F}
    (h : Reachable (step p) (restoredEmpty p) c) : ExclusiveInv p c := by
  have hnone : ∀ k r, (restoredEmpty p).reservations.get? k = some r → False := by
    intro k r hr
    cases hr
  refine Reachable.invariant h ⟨rfl, ?_, ?_, ?_⟩ exclusiveInv_step
  · intro k r hr
    exact (hnone k r hr).elim
  · intro k k' r r' hr
    exact (hnone k r hr).elim
  · intro k k' r r' hr
    exact (hnone k r hr).elim

/-! ## The ceiling, in exact arithmetic -/

omit [PyFloat F] [DecidableEq F] [PyDecimal D] [Spelling F D] in
/-- An account without active canary trades holds no canary. -/
theorem no_canary_of_nil {account : AccountSnapshotV2 F} (h : activeCanaryTradeIds account = []) :
    (∀ q ∈ account.positions, q.strategyId ≠ paperCanaryStrategyId) ∧
    ∀ o ∈ account.openOrders, o.orderRole = .entry → o.strategyId ≠ paperCanaryStrategyId := by
  unfold activeCanaryTradeIds at h
  have hnil : ∀ l : List String, l.eraseDups = [] → l = [] := by
    intro l hl
    cases l with
    | nil => rfl
    | cons a l =>
      rw [List.eraseDups_cons] at hl
      cases hl
  obtain ⟨hpositions, horders⟩ := List.append_eq_nil_iff.mp (hnil _ h)
  constructor
  · intro q hq he
    have hmem : q ∈ account.positions.filter fun q => q.strategyId == paperCanaryStrategyId :=
      List.mem_filter.mpr ⟨hq, by simp [he]⟩
    rw [List.map_eq_nil_iff.mp hpositions] at hmem
    cases hmem
  · intro o ho hentry he
    have hmem : o ∈ account.openOrders.filter fun o =>
        o.strategyId == paperCanaryStrategyId && o.orderRole == .entry :=
      List.mem_filter.mpr ⟨ho, by simp [he, hentry]⟩
    rw [List.map_eq_nil_iff.mp horders] at hmem
    cases hmem

/-- A positive budget under both caps leaves room for the loss it admits. -/
theorem within_ceiling {perTrade cap total reserved budget loss : Rat}
    (hbudget : budget = PyFloat.min perTrade [PyFloat.max (PyFloat.lit 0) [cap - total - reserved]])
    (hpos : ¬budget ≤ PyFloat.lit 0)
    (hloss : ¬budget + PyFloat.lit (1 / 1000000) < loss) :
    total + reserved + loss ≤ cap + 1 / 1000000 ∧ loss ≤ perTrade + 1 / 1000000 := by
  simp only [PyFloat.min, PyFloat.max, List.foldl_cons, List.foldl_nil, PyFloat.rat_lit] at *
  grind

/-- **Exclusivity and the open-risk ceiling**, over every run after an empty
restore: a new approval stays under the account's caps and is alone on its
symbol, and the reservations never share a symbol or hold two canaries. -/
theorem portfolio_exclusivity {D : Type} [PyDecimal D] [Spelling Rat D]
    (p : PaperRiskPipeline Rat D) (c : PaperRiskCoordinator Rat)
    (hreached : Reachable (step p) (restoredEmpty p) c) :
    (∀ (x : EvaluateRequest Rat) (d : RiskTradeDecisionV1 Rat), NewlyApproves p c x d →
      ∃ account, c.account = some account ∧
        account.totalOpenRiskUsd + (c.reserved.map (·.worstCaseLossUsd)).sum + d.worstCaseLossUsd
          ≤ account.equityUsd * p.settings.paperMaxTotalOpenRiskFraction + 1 / 1000000 ∧
        d.worstCaseLossUsd
          ≤ account.equityUsd * p.settings.paperPerTradeRiskFraction + 1 / 1000000 ∧
        (∀ q ∈ account.positions, q.venueSymbol ≠ d.venueSymbol) ∧
        (∀ o ∈ account.openOrders, o.venueSymbol ≠ d.venueSymbol) ∧
        (∀ e ∈ c.reserved, e.venueSymbol ≠ d.venueSymbol) ∧
        (IsCanary d →
          (∀ q ∈ account.positions, q.strategyId ≠ paperCanaryStrategyId) ∧
          ∀ o ∈ account.openOrders, o.orderRole = .entry →
            o.strategyId ≠ paperCanaryStrategyId)) ∧
    (∀ k k' r r', c.reservations.get? k = some r → c.reservations.get? k' = some r' →
      r.decision.venueSymbol = r'.decision.venueSymbol → k = k') ∧
    (∀ k k' r r', c.reservations.get? k = some r → c.reservations.get? k' = some r' →
      IsCanary r.decision → IsCanary r'.decision → k = k') := by
  have hi := exclusiveInv_reached hreached
  refine ⟨?_, hi.symbols, hi.canaries⟩
  intro x d hnew
  have ha := hnew.approved
  obtain ⟨venue, reservations, h⟩ := hnew.fresh
  obtain ⟨account, hex⟩ := h.exclusive hi.filed ha
  have happroves := PaperRiskPipeline.evaluate_approves h.decided ha
  obtain ⟨account', hacc', hbudget, hpositive⟩ :=
    PaperRiskPipeline.gates_lossBudget happroves.gates
  have hsame : account' = account := Option.some.inj (hacc'.symm.trans hex.inForce)
  subst hsame
  obtain ⟨_, hreserved, _⟩ := reservationView_ok h.view hi.filed.approved
  have hopen : (c.pipelineInputs p x venue reservations).reservations.openRiskUsd
      = (c.reserved.map (·.worstCaseLossUsd)).sum := hreserved
  rw [hopen] at hbudget
  obtain ⟨htotal, htrade⟩ := within_ceiling hbudget hpositive happroves.loss
  exact ⟨account', hex.inForce, htotal, htrade, hex.position, hex.openOrder, hex.reserved,
    fun hc => no_canary_of_nil (hex.canary hc).1⟩

end PaperRiskCoordinator

namespace Scenario

open PaperRiskCoordinator

/-- A market of two symbols. -/
def twoSymbols : PaperRiskPipeline Rat Rat where
  core := core [ideaA, ideaC] fun _ => ""
  settings := settings 10 ten_decisions
  regimePolicy := none

/-- The first idea is approved, and its symbol and risk are reserved. -/
def firstReserved : PaperRiskCoordinator Rat :=
  run (step twoSymbols) (restoredEmpty twoSymbols)
    [.applyAccount (account 1 60200), .applyVenue (venue "BTCUSD:DEV" 60300),
      .applyVenue (venue "ETHUSD:DEV" 60300), .evaluate (request ideaA.review 60400)]

/-- The approval on the other symbol. -/
def secondApproval : RiskTradeDecisionV1 Rat :=
  (made twoSymbols firstReserved (request ideaC.review 60450)).get (by decide +kernel)

/-- Beside a reserved approval, the second stays under the ceiling of the open risk and
under a quarter percent of the account in force, on a symbol of its own. -/
theorem secondApproval_within :
    firstReserved.reserved.map (·.venueSymbol) = ["BTCUSD:DEV"] ∧
    ∃ a, firstReserved.account = some a ∧
      a.totalOpenRiskUsd + (firstReserved.reserved.map (·.worstCaseLossUsd)).sum
          + secondApproval.worstCaseLossUsd
        ≤ a.equityUsd * twoSymbols.settings.paperMaxTotalOpenRiskFraction + 1 / 1000000 ∧
      secondApproval.worstCaseLossUsd ≤ a.equityUsd * (25 / 10000) + 1 / 1000000 ∧
      ∀ e ∈ firstReserved.reserved, e.venueSymbol ≠ secondApproval.venueSymbol := by
  have hnew : NewlyApproves twoSymbols firstReserved (request ideaC.review 60450) secondApproval :=
    newlyApproves_of_made (Option.some_get _).symm (by decide +kernel) rfl (by decide +kernel)
  obtain ⟨a, ha, htotal, hloss, _, _, hreserved, _⟩ :=
    (portfolio_exclusivity twoSymbols firstReserved ⟨_, rfl⟩).1 _ _ hnew
  exact ⟨by decide +kernel, a, ha, htotal, hloss, hreserved⟩

end Scenario

end KairosRisk
