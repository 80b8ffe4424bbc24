import KairosRisk.Scenario

/-!
# Durable restore and the first snapshot, in either order

The service restores its durable approvals and subscribes to reconciliations
without waiting for one before the other, so reconciliation is wired in twice:
at the arrival of a snapshot, against the reservations already restored, and
at the end of a restore, against the snapshot already in force. The two orders
leave the same coordinator and conflict on the same lineage
(`restore_account_commute`): the loop of a restore never looks at the account,
and a snapshot that finds no reservation has nothing to reconcile.
-/

namespace KairosRisk

open PyLib

namespace PaperRiskCoordinator

variable {F D : Type} [PyFloat F]

/-- Recovered decisions the coordinator accepts together: each is an approval
of its environment and account, and no trade id names two of them. -/
structure Restorable (p : PaperRiskPipeline F D) (ds : List (RiskTradeDecisionV1 F)) : Prop where
  recovered : ∀ d ∈ ds, validateRecoveredDecision p d = .ok ()
  /-- The strict contract guarantees it of an approval. -/
  identified : ∀ d ∈ ds, d.tradeId.isSome = true
  agree : ∀ d ∈ ds, ∀ e ∈ ds, d.tradeId = e.tradeId → d.decisionId = e.decisionId

/-! ## The loop of a restore -/

/-- The keys of a recovered decision depend on the reservations alone. -/
theorem recoveredKeys_adopt (p : PaperRiskPipeline F D) (c : PaperRiskCoordinator F)
    (snapshot : AccountSnapshotV2 F) (d : RiskTradeDecisionV1 F) :
    (c.adopt p snapshot).recoveredKeys p d = c.recoveredKeys p d := rfl

/-- Adopting a snapshot before the loop or after it is the same. -/
theorem restoreLoop_adopt (p : PaperRiskPipeline F D) (snapshot : AccountSnapshotV2 F) :
    ∀ (ds : List (RiskTradeDecisionV1 F)) (c : PaperRiskCoordinator F),
      restoreLoop p ds (c.adopt p snapshot) =
        ((restoreLoop p ds c).1, (restoreLoop p ds c).2.adopt p snapshot)
  | [], _ => rfl
  | d :: ds, c => by
    unfold restoreLoop
    -- the next decision is judged alike, and the rest by induction
    rw [recoveredKeys_adopt]
    split
    next => rfl
    next tradeId reviewId _ =>
      exact restoreLoop_adopt p snapshot ds
        { c with
          reservations := c.reservations.set tradeId ⟨d, 0⟩
          decisions := c.decisions.set reviewId d }

/-- Nothing in the coordinator contradicts the decisions still to come. -/
def Accepts (c : PaperRiskCoordinator F) (ds : List (RiskTradeDecisionV1 F)) : Prop :=
  ∀ d ∈ ds, ∀ tradeId r, d.tradeId = some tradeId → c.reservations.get? tradeId = some r →
    r.decision.decisionId = d.decisionId

/-- A decision that is accepted has its keys. -/
theorem recoveredKeys_of_accepts {p : PaperRiskPipeline F D} {c : PaperRiskCoordinator F}
    {d : RiskTradeDecisionV1 F} {ds : List (RiskTradeDecisionV1 F)} (hds : Restorable p (d :: ds))
    (hc : c.Accepts (d :: ds)) :
    ∃ tradeId reviewId, d.tradeId = some tradeId ∧
      c.recoveredKeys p d = .ok (tradeId, reviewId) := by
  have hmem : d ∈ d :: ds := List.mem_cons_self ..
  obtain ⟨tradeId, htrade⟩ := Option.isSome_iff_exists.mp (hds.identified d hmem)
  obtain ⟨reviewId, hreview⟩ := Option.isSome_iff_exists.mp d.review.reviewId_isSome
  refine ⟨tradeId, reviewId, htrade, ?_⟩
  have hsame : ((c.reservations.get? tradeId).any fun r =>
      decide (r.decision.decisionId ≠ d.decisionId)) = false := by
    cases hr : c.reservations.get? tradeId with
    | none => rfl
    | some r =>
      have := hc d hmem tradeId r htrade hr
      simp [this]
  unfold recoveredKeys
  rw [hds.recovered d hmem, htrade, hreview]
  show (do
    raiseIf _ _
    return (tradeId, reviewId)) = _
  rw [hsame]
  rfl

/-- Restorable decisions are all restored. -/
theorem restoreLoop_ok {p : PaperRiskPipeline F D} :
    ∀ (ds : List (RiskTradeDecisionV1 F)) (c : PaperRiskCoordinator F),
      Restorable p ds → c.Accepts ds → (restoreLoop p ds c).1 = .ok ()
  | [], _, _, _ => rfl
  | d :: ds, c, hds, hc => by
    obtain ⟨tradeId, reviewId, htrade, hkeys⟩ := recoveredKeys_of_accepts hds hc
    unfold restoreLoop
    rw [hkeys]
    refine restoreLoop_ok ds _ ⟨?_, ?_, ?_⟩ ?_
    · exact fun e he => hds.recovered e (List.mem_cons_of_mem _ he)
    · exact fun e he => hds.identified e (List.mem_cons_of_mem _ he)
    · exact fun e he f hf => hds.agree e (List.mem_cons_of_mem _ he) f (List.mem_cons_of_mem _ hf)
    · -- what was just filed shares its trade only with its own decision id
      intro e he k r hk hr
      rw [OrderedDict.get?_set] at hr
      split at hr
      next heq =>
        cases hr
        subst heq
        exact hds.agree d (List.mem_cons_self ..) e (List.mem_cons_of_mem _ he)
          (htrade.trans hk.symm)
      next => exact hc e (List.mem_cons_of_mem _ he) k r hk hr

/-- A restore leaves the recorded sequence and capture time alone. -/
theorem loaded_frame (p : PaperRiskPipeline F D) (c : PaperRiskCoordinator F)
    (ds : List (RiskTradeDecisionV1 F)) :
    (c.loaded p ds).latestAccountSeq = c.latestAccountSeq ∧
    (c.loaded p ds).latestAccountCapturedAtMs = c.latestAccountCapturedAtMs := by
  unfold loaded
  rw [restoreLoop_frame]
  exact ⟨rfl, rfl⟩

/-! ## The two places of reconciliation -/

variable [DecidableEq F]

omit [PyFloat F] in
/-- Without reservations there is nothing to reconcile. -/
theorem reconcileReservations_of_empty {c : PaperRiskCoordinator F}
    (snapshot : AccountSnapshotV2 F) (h : c.reservations = .empty) :
    c.reconcileReservations snapshot = .ok c := by
  obtain ⟨_, _, _, _, _, _, reservations, _, _, _⟩ := c
  cases h
  rfl

omit [PyFloat F] [DecidableEq F] in
/-- Before any snapshot, every snapshot is newer and forward. -/
theorem newer_and_forward_of_none {c : PaperRiskCoordinator F} (snapshot : AccountSnapshotV2 F)
    (hseq : c.latestAccountSeq = none) (hcaptured : c.latestAccountCapturedAtMs = none) :
    c.Newer snapshot ∧ c.Forward snapshot := by
  rw [Newer, Forward, hseq, hcaptured]
  exact ⟨nofun, nofun⟩

/-- A newer snapshot is adopted, and reconciled when it is authoritative. -/
theorem applyAccount_newer {p : PaperRiskPipeline F D} {c : PaperRiskCoordinator F}
    {snapshot : AccountSnapshotV2 F} (hnew : c.Newer snapshot) (hfwd : c.Forward snapshot) :
    c.applyAccount p snapshot =
      if accountIsAuthoritative p snapshot then
        (c.adopt p snapshot).reconcileOrRevoke snapshot true
      else (.ok true, c.adopt p snapshot) := by
  have holder : (c.latestAccountSeq.any fun seq =>
      decide (snapshot.reconciliationSeq < seq)) = false := by
    rw [Option.any_eq_false]
    intro seq hseq
    have := hnew seq hseq
    rw [decide_eq_false_iff_not]
    omega
  have hsame : (c.latestAccountSeq == some snapshot.reconciliationSeq) = false := by
    rw [beq_eq_false_iff_ne]
    intro he
    have := hnew _ he
    omega
  have hback : (c.latestAccountCapturedAtMs.any fun t =>
      decide (snapshot.capturedAtMs < t)) = false := by
    rw [Option.any_eq_false]
    intro t ht
    have := hfwd t ht
    rw [decide_eq_false_iff_not]
    omega
  unfold applyAccount
  -- none of the three early returns is taken
  rw [holder, hsame, hback]
  rfl

/-- A first snapshot that finds no reservation is adopted. -/
theorem applyAccount_first_of_empty {p : PaperRiskPipeline F D} {c : PaperRiskCoordinator F}
    (snapshot : AccountSnapshotV2 F) (hseq : c.latestAccountSeq = none)
    (hcaptured : c.latestAccountCapturedAtMs = none) (hempty : c.reservations = .empty) :
    c.applyAccount p snapshot = (.ok true, c.adopt p snapshot) := by
  obtain ⟨hnew, hfwd⟩ := newer_and_forward_of_none snapshot hseq hcaptured
  rw [applyAccount_newer hnew hfwd]
  split
  next =>
    have hnone : (c.adopt p snapshot).reservations = .empty := hempty
    unfold reconcileOrRevoke
    rw [reconcileReservations_of_empty snapshot hnone]
  next => rfl

/-- With no account in force, a restore whose loop returned is done. -/
theorem restoreReservations_waiting {p : PaperRiskPipeline F D} {c : PaperRiskCoordinator F}
    {ds : List (RiskTradeDecisionV1 F)} (hnot : c.durableRecoveryLoaded = false)
    (hnone : c.account = none) (hloop : (restoreLoop p ds c).1 = .ok ()) :
    c.restoreReservations p ds = (.ok (), c.loaded p ds) := by
  have haccount : (restoreLoop p ds c).2.account = none := by rw [restoreLoop_frame]; exact hnone
  rcases hl : restoreLoop p ds c with ⟨r, c'⟩
  rw [hl] at hloop haccount
  cases hloop
  unfold restoreReservations loaded
  rw [hnot, hl]
  simp only [Bool.false_eq_true, if_false, trimDecisionCache]
  split
  next => rfl
  next snapshot hsome =>
    rw [haccount] at hsome
    cases hsome

/-- With a snapshot adopted before, the restore ends by reconciling with it. -/
theorem restoreReservations_adopted {p : PaperRiskPipeline F D} {c : PaperRiskCoordinator F}
    {ds : List (RiskTradeDecisionV1 F)} (snapshot : AccountSnapshotV2 F)
    (hnot : c.durableRecoveryLoaded = false) (hloop : (restoreLoop p ds c).1 = .ok ()) :
    (c.adopt p snapshot).restoreReservations p ds =
      if accountIsAuthoritative p snapshot then
        ((c.loaded p ds).adopt p snapshot).reconcileOrRevoke snapshot ()
      else (.ok (), (c.loaded p ds).adopt p snapshot) := by
  have hnot' : (c.adopt p snapshot).durableRecoveryLoaded = false := hnot
  rcases hl : restoreLoop p ds c with ⟨r, c'⟩
  rw [hl] at hloop
  cases hloop
  unfold restoreReservations loaded
  rw [hnot', restoreLoop_adopt, hl]
  cases hauth : accountIsAuthoritative p snapshot with
  | false =>
    simp only [adopt, trimDecisionCache, hauth, Bool.false_eq_true, if_false]
    rfl
  | true =>
    simp only [adopt, trimDecisionCache, hauth, Bool.false_eq_true, if_false, if_true]
    rfl

omit [PyFloat F] in
/-- The result a caller waits for does not matter to reconciliation. -/
theorem reconcileOrRevoke_result {α β : Type} (c : PaperRiskCoordinator F)
    (snapshot : AccountSnapshotV2 F) (a : α) (b : β) :
    (c.reconcileOrRevoke snapshot a).2 = (c.reconcileOrRevoke snapshot b).2 ∧
    ∀ e, (c.reconcileOrRevoke snapshot a).1 = .error e ↔
      (c.reconcileOrRevoke snapshot b).1 = .error e := by
  unfold reconcileOrRevoke
  split
  next => exact ⟨rfl, fun e => ⟨nofun, nofun⟩⟩
  next => exact ⟨rfl, fun e => by simp⟩

/-- **Restore and first reconciliation commute** on a fresh coordinator: the
first call returns, both orders end in the same state, and the second call
raises a conflict in one order exactly when it raises it in the other. -/
theorem restore_account_commute (p : PaperRiskPipeline F D) (ds : List (DurableDecision p.core))
    (hds : Restorable p (ds.map (·.val))) (snapshot : AccountSnapshotV2 F) :
    let restored := init.restoreReservations p (ds.map (·.val))
    let applied := init.applyAccount p snapshot
    let restoredThenApplied := restored.2.applyAccount p snapshot
    let appliedThenRestored := applied.2.restoreReservations p (ds.map (·.val))
    restored.1 = .ok () ∧ applied.1 = .ok true ∧
    restoredThenApplied.2 = appliedThenRestored.2 ∧
    ∀ e, restoredThenApplied.1 = .error e ↔ appliedThenRestored.1 = .error e := by
  have haccepts : (init : PaperRiskCoordinator F).Accepts (ds.map (·.val)) := by
    intro d _ tradeId r _ hr
    cases hr
  have hloop := restoreLoop_ok (ds.map (·.val)) init hds haccepts
  -- restore first: the snapshot reconciles with what was loaded
  have hrestored := restoreReservations_waiting (c := init) rfl rfl hloop
  obtain ⟨hseq, hcaptured⟩ := loaded_frame p init (ds.map (·.val))
  obtain ⟨hnew, hfwd⟩ := newer_and_forward_of_none snapshot hseq hcaptured
  have hthen := applyAccount_newer (p := p) hnew hfwd
  -- snapshot first: nothing is reserved yet, so the restore reconciles
  have happlied := applyAccount_first_of_empty (p := p) (c := init) snapshot rfl rfl rfl
  have hthen' := restoreReservations_adopted (c := init) snapshot rfl hloop
  dsimp only
  rw [hrestored, happlied]
  refine ⟨rfl, rfl, ?_⟩
  dsimp only
  rw [hthen, hthen']
  split
  next => exact reconcileOrRevoke_result _ snapshot true ()
  next => exact ⟨rfl, fun e => ⟨nofun, nofun⟩⟩

end PaperRiskCoordinator

namespace Scenario

open PaperRiskCoordinator

/-- The first approval of the market, in the durable log. -/
def recoveredA : List (DurableDecision market.core) := [⟨heldA.decision, heldA_validated⟩]

theorem recoveredA_restorable : Restorable market (recoveredA.map (·.val)) := by
  constructor
  · intro d hd
    rw [List.mem_singleton.mp hd]
    exact eq_ok_of_isSome (by decide +kernel)
  · intro d hd
    rw [List.mem_singleton.mp hd]
    decide +kernel
  · intro d hd e he _
    rw [List.mem_singleton.mp hd, List.mem_singleton.mp he]

/-- The approval and a first snapshot that holds another position under its trade. -/
theorem conflicting_restore_commutes :
    let snapshot := account.holding (account 1 60500) { heldA.decision with decisionId := "other" }
    let restored := init.restoreReservations market (recoveredA.map (·.val))
    let applied := init.applyAccount market snapshot
    let restoredThenApplied := restored.2.applyAccount market snapshot
    let appliedThenRestored := applied.2.restoreReservations market (recoveredA.map (·.val))
    restored.1 = .ok () ∧ applied.1 = .ok true ∧
    restoredThenApplied.2 = appliedThenRestored.2 ∧
    ∀ e, restoredThenApplied.1 = .error e ↔ appliedThenRestored.1 = .error e :=
  restore_account_commute market recoveredA recoveredA_restorable _

end Scenario

end KairosRisk
