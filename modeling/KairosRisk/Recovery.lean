import KairosRisk.AccountAuthority
import KairosRisk.Conservation

/-!
# Crash recovery

A restarted service reads the approvals it published from the durable log and
restores them as reservations before it admits anything. The query selects by
the wall clock at the restart (`entry_expires_ts_ms >= recovered_at_ms`), while
a running coordinator releases by the capture time of a snapshot. The two
agree as long as the restart happens inside the approval's entry window; after
it, the reservation is gone although no snapshot has resolved it, and a
snapshot captured before the expiry may still be fresh enough to admit a
second idea on the symbol.

`restart_never_forgets` is what holds: within the entry window, or once every
snapshot captured by the expiry is stale, a new approval on the symbol comes
only after a snapshot that resolved the old one.
-/

namespace KairosRisk

open PyLib

variable {F D : Type}

/-- Decisions that share an identity are about one idea: a trade id fixes the
venue symbol, and a decision id the entry expiry too. -/
structure LawfulIds (core : KairosCore F) : Prop where
  trade : TradeIdsFixSymbol core
  symbol : ∀ d e : RiskTradeDecisionV1 F, core.Validated d → core.Validated e →
    d.decisionId = e.decisionId → d.venueSymbol = e.venueSymbol
  expiry : ∀ d e : RiskTradeDecisionV1 F, core.Validated d → core.Validated e →
    d.decisionId = e.decisionId → d.intent.entryExpiresTsMs = e.intent.entryExpiresTsMs

namespace PaperRiskCoordinator

variable [PyFloat F] [DecidableEq F] [PyDecimal D] [Spelling F D]

/-- The rows `_recover_paper_state` selects from the log of published
decisions, which is in the query's order. -/
def recoverPaperState (p : PaperRiskPipeline F D) (log : List (DurableDecision p.core))
    (recoveredAtMs : Int) : List (DurableDecision p.core) :=
  log.filter fun d =>
    d.val.approved
      && d.val.tradingMode == .paper
      && d.val.evedexProfile == .dev
      && d.val.accountId == p.settings.paperAccountId
      && decide (recoveredAtMs ≤ d.val.intent.entryExpiresTsMs)

/-- A new process, after it restored what the log shows. -/
def restart (p : PaperRiskPipeline F D) (log : List (DurableDecision p.core))
    (recoveredAtMs : Int) : PaperRiskCoordinator F :=
  step p init (.restoreReservations (recoverPaperState p log recoveredAtMs))

/-- The operations applied an authoritative snapshot. -/
def Applied (p : PaperRiskPipeline F D) (c : PaperRiskCoordinator F)
    (ops : List (Operation p.core)) (snapshot : AccountSnapshotV2 F) : Prop :=
  ∃ before after, ops = before ++ .applyAccount snapshot :: after ∧
    ((run (step p) c before).applyAccount p snapshot).1 = .ok true ∧
    accountIsAuthoritative p snapshot = true

/-- A snapshot was applied that owns the trade or was captured after its entry window. -/
def Resolved (p : PaperRiskPipeline F D) (c : PaperRiskCoordinator F)
    (ops : List (Operation p.core)) (tradeId : String) (d : RiskTradeDecisionV1 F) : Prop :=
  ∃ snapshot, Applied p c ops snapshot ∧
    (Owns snapshot tradeId ∨ d.intent.entryExpiresTsMs < snapshot.capturedAtMs)

/-- The restart was inside the entry window, or the evaluation is so late that
every snapshot captured by the end of the window is stale. -/
def Covered (p : PaperRiskPipeline F D) (recoveredAtMs : Int) (d : RiskTradeDecisionV1 F)
    (x : EvaluateRequest F) : Prop :=
  recoveredAtMs ≤ d.intent.entryExpiresTsMs ∨
  ∀ t, t ≤ d.intent.entryExpiresTsMs →
    PyFloat.intGt (x.decidedAtMs - t)
      (p.settings.paperAccountSnapshotMaxAgeS * PyFloat.lit 1000) = true

/-! ## The account in force was applied -/

theorem account_step {p : PaperRiskPipeline F D} {c : PaperRiskCoordinator F}
    {a : AccountSnapshotV2 F} (hi : AccountInv p c) (op : Operation p.core)
    (h : (step p c op).account = some a) :
    c.account = some a ∨
    (op = .applyAccount a ∧ (c.applyAccount p a).1 = .ok true) := by
  cases op with
  | applyRegimeAllocation allocation receivedAtMs =>
    have hsame := (applyRegimeAllocation_spec p c allocation receivedAtMs).sameAccount
    exact Or.inl (hsame.account ▸ h)
  | restoreReservations decisions =>
    rcases (restoreReservations_spec p c (decisions.map (·.val))).account hi with hsame | hsame
    · exact Or.inl (hsame.account ▸ h)
    · have hnone : (step p c (.restoreReservations decisions)).account = none := hsame.account
      rw [hnone] at h
      cases h
  | applyVenue venue => exact Or.inl ((sameAccount_applyVenue c venue).account ▸ h)
  | evaluate request =>
    exact Or.inl ((evaluate_spec p c request).sameAccount.account ▸ h)
  | applyAccount snapshot =>
    rcases hr : c.applyAccount p snapshot with ⟨r, c'⟩
    have hstep : step p c (.applyAccount snapshot) = c' := congrArg Prod.snd hr
    have hres : (c.applyAccount p snapshot).1 = r := congrArg Prod.fst hr
    rw [hstep] at h
    cases applyAccount_cases hr with
    | older => exact Or.inl h
    | duplicate => exact Or.inl h
    | conflict => cases h
    | backwards => cases h
    | revoked => cases h
    | foreign =>
      cases h
      exact Or.inr ⟨rfl, hres⟩
    | reconciled _ _ _ hrec =>
      have hsame : c'.account = some snapshot := (sameAccount_of_reconcile hrec).account
      rw [hsame] at h
      cases h
      exact Or.inr ⟨rfl, hres⟩

/-- **Where an account in force comes from**: some operation applied it. -/
theorem account_applied {p : PaperRiskPipeline F D} {c : PaperRiskCoordinator F}
    {a : AccountSnapshotV2 F} {ops : List (Operation p.core)} (hi : AccountInv p c)
    (hnone : c.account = none) (h : (run (step p) c ops).account = some a) :
    ∃ before after, ops = before ++ .applyAccount a :: after ∧
      ((run (step p) c before).applyAccount p a).1 = .ok true := by
  have hstart : c.account ≠ some a := by
    rw [hnone]
    intro he
    cases he
  obtain ⟨before, op, after, he, hbefore, hafter⟩ :=
    lost_at (P := fun s : PaperRiskCoordinator F => s.account ≠ some a) ops hstart
      (fun hn => hn h)
  have hop := account_step (run_invariant accountInv_step before hi) op
    (Classical.byContradiction hafter)
  rcases hop with hheld | ⟨rfl, happlied⟩
  · exact absurd hheld hbefore
  · exact ⟨before, after, he, happlied⟩

/-! ## What a restart restores -/

omit [DecidableEq F] [PyDecimal D] [Spelling F D] in
/-- A restore that returned holds every decision it was given, by its id. -/
theorem restoreLoop_files {p : PaperRiskPipeline F D} :
    ∀ (ds : List (RiskTradeDecisionV1 F)) (c : PaperRiskCoordinator F),
      (∀ d ∈ ds, p.core.Validated d) → (restoreLoop p ds c).1 = .ok () →
      ∀ d ∈ ds, ∃ tradeId r, d.tradeId = some tradeId ∧
        (restoreLoop p ds c).2.reservations.get? tradeId = some r ∧
        r.decision.decisionId = d.decisionId
  | [], _, _, _, d, hd => absurd hd (List.not_mem_nil)
  | e :: ds, c, hv, hok, d, hd => by
    have hv' : ∀ d ∈ ds, p.core.Validated d := fun d hd => hv d (List.mem_cons_of_mem _ hd)
    unfold restoreLoop at hok ⊢
    split at hok
    next => cases hok
    next tradeId reviewId hkeys =>
      obtain ⟨hreserves, _, _⟩ := recoveredKeys_ok (hv e (List.mem_cons_self ..)) hkeys
      rcases List.mem_cons.mp hd with rfl | hd
      · have hset : (c.reservations.set tradeId ⟨d, 0⟩).get? tradeId = some ⟨d, 0⟩ :=
          OrderedDict.get?_set_self ..
        obtain ⟨r, hr, hid⟩ := restoreLoop_keeps (p := p) ds
          { c with
            reservations := c.reservations.set tradeId ⟨d, 0⟩
            decisions := c.decisions.set reviewId d } hv' hset
        exact ⟨tradeId, r, hreserves.tradeId, hr, hid⟩
      · exact restoreLoop_files ds _ hv' hok d hd

/-- A restarted process has no account yet. -/
theorem restart_account (p : PaperRiskPipeline F D) (log : List (DurableDecision p.core))
    (recoveredAtMs : Int) : (restart p log recoveredAtMs).account = none := by
  rcases (restoreReservations_spec p init
    ((recoverPaperState p log recoveredAtMs).map (·.val))).account (accountInv_init p) with h | h
  · exact h.account
  · exact h.account

/-- A restart loads every selected decision, or admits nothing at all. -/
theorem restart_holds {p : PaperRiskPipeline F D} {log : List (DurableDecision p.core)}
    {recoveredAtMs : Int} {d : DurableDecision p.core}
    (hd : d ∈ recoverPaperState p log recoveredAtMs) :
    (restart p log recoveredAtMs).durableRecoveryLoaded = false ∨
    ∃ tradeId r, d.val.tradeId = some tradeId ∧
      (restart p log recoveredAtMs).reservations.get? tradeId = some r ∧
      r.decision.decisionId = d.val.decisionId := by
  have hmem : d.val ∈ (recoverPaperState p log recoveredAtMs).map (·.val) :=
    List.mem_map.mpr ⟨d, hd, rfl⟩
  have hfiles := restoreLoop_files ((recoverPaperState p log recoveredAtMs).map (·.val)) init
    (validated_durable _)
  rcases hr : init.restoreReservations p ((recoverPaperState p log recoveredAtMs).map (·.val))
    with ⟨r, c'⟩
  have hstep : restart p log recoveredAtMs = c' := congrArg Prod.snd hr
  rw [hstep]
  cases restoreReservations_cases hr with
  | already hyes => cases hyes
  | raised hnot =>
    left
    rw [restoreLoop_frame]
    exact hnot
  | waiting _ hok => exact Or.inr (hfiles hok d.val hmem)
  | foreign _ _ hacc => cases hacc
  | reconciled _ _ hacc => cases hacc
  | revoked _ _ hacc => cases hacc

/-- Without another restore the durable flag stays. -/
theorem loaded_step {p : PaperRiskPipeline F D} {c : PaperRiskCoordinator F}
    {op : Operation p.core} (hop : ∀ ds, op ≠ .restoreReservations ds) :
    (step p c op).durableRecoveryLoaded = c.durableRecoveryLoaded := by
  cases op with
  | applyRegimeAllocation allocation receivedAtMs =>
    show (c.applyRegimeAllocation p allocation receivedAtMs).2.durableRecoveryLoaded = _
    rcases hr : c.applyRegimeAllocation p allocation receivedAtMs with ⟨r, c'⟩
    cases applyRegimeAllocation_cases hr <;> rfl
  | restoreReservations decisions => exact absurd rfl (hop decisions)
  | applyVenue venue =>
    show (c.applyVenue venue).2.durableRecoveryLoaded = _
    rw [applyVenue_frame]
  | evaluate request =>
    show (c.evaluate p request).2.durableRecoveryLoaded = _
    rcases hr : c.evaluate p request with ⟨r, c'⟩
    cases evaluate_cases hr <;> rfl
  | applyAccount snapshot =>
    show (c.applyAccount p snapshot).2.durableRecoveryLoaded = _
    rcases hr : c.applyAccount p snapshot with ⟨r, c'⟩
    cases applyAccount_cases hr with
    | reconciled _ _ _ hrec => rw [(reconcileReservations_ok hrec).1]; rfl
    | _ => rfl

theorem loaded_run {p : PaperRiskPipeline F D} (ops : List (Operation p.core))
    {c : PaperRiskCoordinator F} (hops : ∀ ds, .restoreReservations ds ∉ ops) :
    (run (step p) c ops).durableRecoveryLoaded = c.durableRecoveryLoaded := by
  have hstep : ∀ (s : PaperRiskCoordinator F) (op : Operation p.core),
      (∀ ds, op ≠ .restoreReservations ds) → s.durableRecoveryLoaded = c.durableRecoveryLoaded →
      (step p s op).durableRecoveryLoaded = c.durableRecoveryLoaded :=
    fun _ _ hop hs => (loaded_step hop).trans hs
  exact run_invariant_of hstep ops (fun _ hop ds he => hops ds (he ▸ hop)) rfl

/-! ## Until a snapshot resolves it -/

/-- An approval of this identity is reserved under the trade. -/
def HoldsTrade (tradeId decisionId : String) (c : PaperRiskCoordinator F) : Prop :=
  ∃ r, c.reservations.get? tradeId = some r ∧ r.decision.decisionId = decisionId

/-- **A held trade stays held** until a snapshot resolves it. -/
theorem resolved_of_lost {p : PaperRiskPipeline F D} {c : PaperRiskCoordinator F}
    (hids : LawfulIds p.core) (hi : ReservedInv p c) {ops : List (Operation p.core)}
    (hops : ∀ ds, .restoreReservations ds ∉ ops) {tradeId : String} {d : RiskTradeDecisionV1 F}
    (hvalid : p.core.Validated d) (hheld : HoldsTrade tradeId d.decisionId c)
    (hlost : ¬HoldsTrade tradeId d.decisionId (run (step p) c ops)) :
    Resolved p c ops tradeId d := by
  obtain ⟨before, op, after, rfl, ⟨r, hr, hid⟩, hgone⟩ := lost_at ops hheld hlost
  have hbefore : ReservedInv p (run (step p) c before) :=
    run_invariant reservedInv_step before hi
  have hdisappears : Disappears (run (step p) c before) (step p (run (step p) c before) op)
      tradeId r := by
    refine ⟨hr, ?_⟩
    intro r' hr' he
    exact hgone ⟨r', hr', he.trans hid⟩
  cases accounted_step hids.trade hbefore op hdisappears with
  | restore =>
    rename_i decisions snapshot restored _ _ _ _
    exact absurd (List.mem_append_right _ (List.mem_cons_self ..)) (hops decisions)
  | account happlied hreleased =>
    rename_i snapshot
    refine ⟨snapshot, ⟨before, after, rfl, happlied, hreleased.1⟩, ?_⟩
    have hexpiry := hids.expiry r.decision d (hbefore tradeId r hr).validated hvalid hid
    rcases hreleased.2 with ⟨howns, _⟩ | ⟨_, _, hcaptured⟩
    · exact Or.inl howns
    · exact Or.inr (hexpiry ▸ hcaptured)

/-- **Crash recovery never forgets an unresolved approval**, as far as each
evaluation is covered: on the symbol of an approval that was reserved and
published before the crash, a new approval comes only after a snapshot that
resolved it. -/
theorem restart_never_forgets (p : PaperRiskPipeline F D) (hids : LawfulIds p.core)
    (crashed : PaperRiskCoordinator F) (hreached : Reached p crashed) (tradeId : String)
    (r : Reservation F) (hr : crashed.reservations.get? tradeId = some r)
    (log : List (DurableDecision p.core)) (hpublished : r.decision ∈ log.map (·.val))
    (recoveredAtMs : Int) (ops : List (Operation p.core))
    (hops : ∀ ds, .restoreReservations ds ∉ ops)
    (hcovered : ∀ x, .evaluate x ∈ ops → Covered p recoveredAtMs r.decision x) :
    ∀ before x after d, ops = before ++ .evaluate x :: after →
      NewlyApproves p (run (step p) (restart p log recoveredAtMs) before) x d →
      d.venueSymbol = r.decision.venueSymbol →
      Resolved p (restart p log recoveredAtMs) before tradeId r.decision := by
  intro before x after d he hnew hsymbol
  subst he
  have hreserves := hreached.reserved tradeId r hr
  have hbefore : ∀ ds, .restoreReservations ds ∉ before := fun ds hm =>
    hops ds (List.mem_append_left _ hm)
  have hrestarted : Reached p (restart p log recoveredAtMs) :=
    ⟨[.restoreReservations (recoverPaperState p log recoveredAtMs)], rfl⟩
  have haccount : AccountInv p (restart p log recoveredAtMs) :=
    accountInv_step init _ (accountInv_init p)
  have hfiled : ReservedInv p (run (step p) (restart p log recoveredAtMs) before) :=
    run_invariant reservedInv_step before hrestarted.reserved
  obtain ⟨venue, reservations, hfresh⟩ := hnew.fresh
  obtain ⟨account, hex⟩ := hfresh.exclusive hfiled hnew.approved
  obtain ⟨hloaded, hready⟩ := (Bool.and_eq_true _ _).mp hfresh.recovered
  rcases hcovered x (List.mem_append_right _ (List.mem_cons_self ..)) with hwindow | hlate
  · -- the query selected the approval, so the restart holds it or admits nothing
    obtain ⟨durable, hlog, hdurable⟩ := List.mem_map.mp hpublished
    have hselected : durable ∈ recoverPaperState p log recoveredAtMs := by
      refine List.mem_filter.mpr ⟨hlog, ?_⟩
      rw [hdurable]
      simp [hreserves.approved, hreserves.tradingMode, hreserves.evedexProfile,
        hreserves.accountId, hwindow]
    rcases restart_holds hselected with hnot | ⟨trade, held, htrade, hget, hid⟩
    · rw [loaded_run before hbefore, hnot] at hloaded
      cases hloaded
    · rw [hdurable] at htrade hid
      rw [hreserves.tradeId] at htrade
      cases htrade
      refine resolved_of_lost hids hrestarted.reserved hbefore hreserves.validated
        ⟨held, hget, hid⟩ ?_
      -- while it is held, the symbol gate refuses the new approval
      intro hheld
      obtain ⟨still, hstill, hsame⟩ := hheld
      have hsym := hids.symbol still.decision r.decision (hfiled _ still hstill).validated
        hreserves.validated hsame
      exact hex.reserved _ (mem_reserved.mpr ⟨tradeId, still, hstill, rfl⟩)
        (hsym.trans hsymbol.symm)
  · -- the snapshot in force is fresh, so it was captured after the window
    obtain ⟨front, back, hsplit, happlied⟩ :=
      account_applied haccount (restart_account p log recoveredAtMs) hex.inForce
    have hi := run_invariant accountInv_step before haccount
    rw [hi.ready, hex.inForce] at hready
    refine ⟨account, ⟨front, back, hsplit, happlied, hready⟩, Or.inr ?_⟩
    apply Int.lt_of_not_ge
    intro hcaptured
    have hstale := hlate account.capturedAtMs hcaptured
    rw [hex.notStale] at hstale
    cases hstale

end PaperRiskCoordinator

/-! ## Two restarts

The first approval of the market expires at 120000, and the second idea wants
its symbol right after. Restarted within the window, the service approves it on
a snapshot captured after the expiry. -/

namespace Scenario

open PaperRiskCoordinator

theorem market_lawfulIds : LawfulIds market.core := by
  refine ⟨market_tradeIdsFixSymbol, ?_, ?_⟩
  · intro d e hd he hid
    exact (same_idea_of_decisionId market_told hd he hid).1
  · intro d e hd he hid
    rw [(same_idea_of_decisionId market_told hd he hid).2]

/-- The durable log. -/
def publishedLog : List (DurableDecision market.core) := [⟨heldA.decision, heldA_validated⟩]

/-- A snapshot captured after the first window, a fresh book. -/
def resolvedRestart : List (Operation market.core) :=
  [.applyAccount (account 2 120050), .applyVenue (venue "BTCUSD:DEV" 120150)]

/-- The approval of the second idea, after a restart within the first window. -/
def admittedB : RiskTradeDecisionV1 Rat :=
  (made market (run (step market) (restart market publishedLog 110000) resolvedRestart)
    (request ideaB.review 120200)).get (by decide +kernel)

theorem admittedB_approved : NewlyApproves market
    (run (step market) (restart market publishedLog 110000) resolvedRestart)
    (request ideaB.review 120200) admittedB :=
  newlyApproves_of_made (Option.some_get _).symm (by decide +kernel) rfl (by decide +kernel)

/-- The second idea was approved because a snapshot had resolved the first. -/
theorem restart_within_window_resolved :
    Resolved market (restart market publishedLog 110000) resolvedRestart "trade-a"
      heldA.decision := by
  refine restart_never_forgets market market_lawfulIds approved ⟨approving, rfl⟩ "trade-a" heldA
    (Option.some_get _).symm publishedLog (List.mem_singleton.mpr rfl) 110000
    (resolvedRestart ++ [.evaluate (request ideaB.review 120200)]) ?_ ?_ resolvedRestart
    (request ideaB.review 120200) [] admittedB rfl admittedB_approved (by decide +kernel)
  · intro ds hm
    simp [resolvedRestart] at hm
  · intro x _
    exact Or.inl (by decide +kernel)

/-! Restarted after the window, it approves it on a snapshot captured before
the expiry, while the trade may still be on its way to the exchange. -/

/-- A snapshot captured inside the first window, and a fresh book. -/
def afterRestart : List (Operation market.core) :=
  [.applyAccount (account 2 119900), .applyVenue (venue "BTCUSD:DEV" 120150)]

/-- The second idea is evaluated on them. -/
def restarted : PaperRiskCoordinator Rat :=
  run (step market) (restart market publishedLog 120101) afterRestart

/-- The approval of the second idea. -/
def decisionB : RiskTradeDecisionV1 Rat :=
  (made market restarted (request ideaB.review 120200)).get (by decide +kernel)

/-- **A restart after the window forgets the approval**: the symbol is approved
again, before any snapshot resolved the first idea, while the coordinator that
did not crash refuses on the same operations. -/
theorem restart_after_window_forgets :
    Reached market approved ∧
    approved.reservations.get? "trade-a" = some heldA ∧
    heldA.decision ∈ publishedLog.map (·.val) ∧
    NewlyApproves market restarted (request ideaB.review 120200) decisionB ∧
    decisionB.venueSymbol = heldA.decision.venueSymbol ∧
    ¬Resolved market (restart market publishedLog 120101) afterRestart "trade-a" heldA.decision ∧
    (made market (run (step market) approved afterRestart) (request ideaB.review 120200)).map
      (·.rejectionReasons) = some ["symbol_has_reserved_idea"] := by
  refine ⟨⟨approving, rfl⟩, (Option.some_get _).symm, List.mem_singleton.mpr rfl, ?_, ?_, ?_, ?_⟩
  · exact newlyApproves_of_made (Option.some_get _).symm (by decide +kernel) rfl (by decide +kernel)
  · decide +kernel
  · rintro ⟨snapshot, ⟨before, after, he, _⟩, hresolves⟩
    have hmem : .applyAccount snapshot ∈ afterRestart := by
      rw [he]
      exact List.mem_append_right _ (List.mem_cons_self ..)
    have hsnapshot : snapshot = account 2 119900 := by
      simpa [afterRestart] using hmem
    subst hsnapshot
    rcases hresolves with (⟨q, hq, _⟩ | ⟨o, ho, _⟩) | hlate
    · cases hq
    · cases ho
    · exact absurd hlate (by decide +kernel)
  · decide +kernel

end Scenario

end KairosRisk
