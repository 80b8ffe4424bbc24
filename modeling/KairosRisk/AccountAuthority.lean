import KairosRisk.CoordinatorSteps
import KairosRisk.Lib.Feed

/-!
# Account authority is monotone, and poison lasts

The account fields of the coordinator are a versioned feed with poison
(`Lib/Feed`): the version is the recorded reconciliation sequence, the value
is the account in force while it is authoritative. `step_moves` gives one feed
move for each branch of each operation; the two facts about the sequence and
the poison are then the feed's. The capture time is not part of the feed, and
has its own monotonicity.

The invariant behind it is one equation: the ready flag says exactly that the
account in force is authoritative (`AccountInv`). It is what makes the flag
that `restore_reservations` recomputes agree with the one already there.
-/

namespace KairosRisk

open PyLib

namespace PaperRiskCoordinator

variable {F D : Type} [PyFloat F] [DecidableEq F]

/-- The account fields of two states agree. -/
structure SameAccount (c c' : PaperRiskCoordinator F) : Prop where
  account : c'.account = c.account
  seq : c'.latestAccountSeq = c.latestAccountSeq
  captured : c'.latestAccountCapturedAtMs = c.latestAccountCapturedAtMs
  ready : c'.accountRecoveryReady = c.accountRecoveryReady

/-- The account in force, its recorded version and the ready flag fit together. -/
structure AccountInv (p : PaperRiskPipeline F D) (c : PaperRiskCoordinator F) : Prop where
  ready : c.accountRecoveryReady = c.account.any (accountIsAuthoritative p)
  seq : ∀ a, c.account = some a → c.latestAccountSeq = some a.reconciliationSeq
  captured : ∀ a, c.account = some a → c.latestAccountCapturedAtMs = some a.capturedAtMs

/-- The account as a feed: the value is the account in force once it is ready. -/
def accountFeed (c : PaperRiskCoordinator F) : Feed Int (AccountSnapshotV2 F) where
  version := c.latestAccountSeq
  held := if c.accountRecoveryReady then c.account else none

/-! ## What each operation leaves alone -/

omit [PyFloat F] [DecidableEq F] in
theorem SameAccount.feed {c c' : PaperRiskCoordinator F} (h : SameAccount c c') :
    c'.accountFeed = c.accountFeed := by
  unfold accountFeed
  rw [h.account, h.seq, h.ready]

omit [DecidableEq F] in
theorem SameAccount.inv {p : PaperRiskPipeline F D} {c c' : PaperRiskCoordinator F}
    (h : SameAccount c c') (hi : AccountInv p c) : AccountInv p c' := by
  refine ⟨?_, ?_, ?_⟩
  · rw [h.ready, h.account, hi.ready]
  · intro a ha
    rw [h.seq]
    exact hi.seq a (h.account ▸ ha)
  · intro a ha
    rw [h.captured]
    exact hi.captured a (h.account ▸ ha)

omit [PyFloat F] in
theorem sameAccount_of_reconcile {c c' : PaperRiskCoordinator F} {snapshot : AccountSnapshotV2 F}
    (h : c.reconcileReservations snapshot = .ok c') : SameAccount c c' := by
  rw [(reconcileReservations_ok h).1]
  exact ⟨rfl, rfl, rfl, rfl⟩

omit [DecidableEq F] in
theorem AppliesRegime.sameAccount {p : PaperRiskPipeline F D} {c c' : PaperRiskCoordinator F}
    {allocation : RegimeBoundAllocationV1 F} {receivedAtMs : Int} {r : Except PyError Bool}
    (h : AppliesRegime p c allocation receivedAtMs r c') : SameAccount c c' := by
  cases h <;> exact ⟨rfl, rfl, rfl, rfl⟩

omit [PyFloat F] [DecidableEq F] in
theorem sameAccount_applyVenue (c : PaperRiskCoordinator F) (venue : VenueQualityV1 F) :
    SameAccount c (c.applyVenue venue).2 := by
  rw [applyVenue_frame]
  exact ⟨rfl, rfl, rfl, rfl⟩

omit [DecidableEq F] in
theorem sameAccount_restoreLoop (p : PaperRiskPipeline F D) (ds : List (RiskTradeDecisionV1 F))
    (c : PaperRiskCoordinator F) : SameAccount c (restoreLoop p ds c).2 := by
  rw [restoreLoop_frame]
  exact ⟨rfl, rfl, rfl, rfl⟩

omit [DecidableEq F] in
theorem sameAccount_loaded (p : PaperRiskPipeline F D) (ds : List (RiskTradeDecisionV1 F))
    (c : PaperRiskCoordinator F) : SameAccount c (c.loaded p ds) := by
  have h := sameAccount_restoreLoop p ds c
  exact ⟨h.account, h.seq, h.captured, h.ready⟩

/-- A restore leaves the account fields as they are, or revokes the account. -/
theorem Restores.account {p : PaperRiskPipeline F D} {c c' : PaperRiskCoordinator F}
    {ds : List (RiskTradeDecisionV1 F)} {r : Except PyError Unit} (hi : AccountInv p c)
    (h : Restores p c ds r c') : SameAccount c c' ∨ SameAccount c.revoke c' := by
  have hload := sameAccount_loaded p ds c
  cases h with
  | already => exact Or.inl ⟨rfl, rfl, rfl, rfl⟩
  | raised => exact Or.inl (sameAccount_restoreLoop p ds c)
  | waiting => exact Or.inl hload
  | foreign _ _ hacc hauth =>
    have hready : c.accountRecoveryReady = false := by
      rw [hi.ready, hacc]
      exact hauth
    exact Or.inl ⟨hload.account, hload.seq, hload.captured, hready.symm⟩
  | reconciled _ _ hacc hauth hrec =>
    have hready : c.accountRecoveryReady = true := by
      rw [hi.ready, hacc]
      exact hauth
    have hsame := sameAccount_of_reconcile hrec
    exact Or.inl ⟨hsame.account.trans hload.account, hsame.seq.trans hload.seq,
      hsame.captured.trans hload.captured, hsame.ready.trans hready.symm⟩
  | revoked => exact Or.inr ⟨rfl, hload.seq, hload.captured, rfl⟩

variable [PyDecimal D] [Spelling F D]

theorem Evaluates.sameAccount {p : PaperRiskPipeline F D} {c c' : PaperRiskCoordinator F}
    {x : EvaluateRequest F} {r : Except PyError (RiskTradeDecisionV1 F)}
    (h : Evaluates p c x r c') : SameAccount c c' := by
  cases h <;> exact ⟨rfl, rfl, rfl, rfl⟩

/-! ## The invariant -/

omit [DecidableEq F] [PyDecimal D] [Spelling F D] in
theorem accountInv_init (p : PaperRiskPipeline F D) : AccountInv p init :=
  ⟨rfl, fun _ h => absurd h (by simp [init]), fun _ h => absurd h (by simp [init])⟩

omit [DecidableEq F] [PyDecimal D] [Spelling F D] in
theorem accountInv_of_no_account {p : PaperRiskPipeline F D} {c : PaperRiskCoordinator F}
    (hacc : c.account = none) (hready : c.accountRecoveryReady = false) : AccountInv p c := by
  refine ⟨by rw [hready, hacc]; rfl, ?_, ?_⟩
  · intro a ha
    rw [hacc] at ha
    cases ha
  · intro a ha
    rw [hacc] at ha
    cases ha

omit [DecidableEq F] [PyDecimal D] [Spelling F D] in
theorem accountInv_adopt (p : PaperRiskPipeline F D) (c : PaperRiskCoordinator F)
    (snapshot : AccountSnapshotV2 F) : AccountInv p (c.adopt p snapshot) := by
  refine ⟨rfl, ?_, ?_⟩
  · intro a ha
    cases ha
    rfl
  · intro a ha
    cases ha
    rfl

/-- **Every operation keeps the invariant.** -/
theorem accountInv_step {p : PaperRiskPipeline F D} (c : PaperRiskCoordinator F)
    (op : Operation p.core) (hi : AccountInv p c) : AccountInv p (step p c op) := by
  cases op with
  | applyRegimeAllocation allocation receivedAtMs =>
    exact (applyRegimeAllocation_spec p c allocation receivedAtMs).sameAccount.inv hi
  | restoreReservations decisions =>
    rcases (restoreReservations_spec p c _).account hi with h | h
    · exact h.inv hi
    · exact h.inv (accountInv_of_no_account rfl rfl)
  | applyVenue venue => exact (sameAccount_applyVenue c venue).inv hi
  | evaluate request => exact (evaluate_spec p c request).sameAccount.inv hi
  | applyAccount snapshot =>
    show AccountInv p (c.applyAccount p snapshot).2
    rcases hr : c.applyAccount p snapshot with ⟨r, c'⟩
    cases applyAccount_cases hr with
    | older => exact hi
    | duplicate => exact hi
    | conflict => exact accountInv_of_no_account rfl rfl
    | backwards => exact accountInv_of_no_account rfl rfl
    | foreign => exact accountInv_adopt p c snapshot
    | reconciled _ _ _ h => exact (sameAccount_of_reconcile h).inv (accountInv_adopt p c snapshot)
    | revoked => exact accountInv_of_no_account rfl rfl

theorem accountInv_run (p : PaperRiskPipeline F D) (ops : List (Operation p.core)) :
    AccountInv p (run (step p) init ops) :=
  run_invariant accountInv_step ops (accountInv_init p)

/-! ## The coordinator refines the feed -/

/-- The sequence an operation delivers. -/
def deliveredSeq {core : KairosCore F} : Operation core → Option Int
  | .applyAccount snapshot => some snapshot.reconciliationSeq
  | _ => none

omit [PyFloat F] [DecidableEq F] [PyDecimal D] [Spelling F D] in
theorem accountFeed_revoke (c : PaperRiskCoordinator F) :
    c.revoke.accountFeed = { c.accountFeed with held := none } := rfl

/-- **Refinement**: every operation is one move of the account feed. -/
theorem step_moves {p : PaperRiskPipeline F D} {c : PaperRiskCoordinator F} (hi : AccountInv p c)
    (op : Operation p.core) :
    Feed.Moves c.accountFeed (deliveredSeq op) (step p c op).accountFeed := by
  cases op with
  | applyRegimeAllocation allocation receivedAtMs =>
    have h := (applyRegimeAllocation_spec p c allocation receivedAtMs).sameAccount.feed
    exact h ▸ Feed.Moves.idle c.accountFeed
  | restoreReservations decisions =>
    -- a restore delivers nothing, but reconciling can withdraw the account
    show Feed.Moves _ none (c.restoreReservations p (decisions.map (·.val))).2.accountFeed
    rcases (restoreReservations_spec p c _).account hi with h | h
    · rw [h.feed]
      exact .idle _
    · rw [h.feed]
      exact .withdraw _
  | applyVenue venue =>
    have h := (sameAccount_applyVenue c venue).feed
    exact h ▸ Feed.Moves.idle c.accountFeed
  | evaluate request =>
    have h := (evaluate_spec p c request).sameAccount.feed
    exact h ▸ Feed.Moves.idle c.accountFeed
  | applyAccount snapshot =>
    show Feed.Moves _ (some snapshot.reconciliationSeq) (c.applyAccount p snapshot).2.accountFeed
    rcases hr : c.applyAccount p snapshot with ⟨r, c'⟩
    cases applyAccount_cases hr with
    | older hseq hlt => exact .stale hseq hlt
    | duplicate hseq => exact .duplicate hseq
    | conflict hseq => exact .conflict hseq
    | backwards hnew => exact .refuse hnew
    | foreign hnew _ hauth =>
      unfold accountFeed adopt
      rw [hauth]
      exact .refuse hnew
    | reconciled hnew _ hauth h =>
      rw [(sameAccount_of_reconcile h).feed]
      unfold accountFeed adopt
      rw [hauth]
      exact .adopt snapshot hnew
    | revoked hnew => exact .refuse hnew

/-- A run of operations is a run of the feed. -/
theorem run_feed {p : PaperRiskPipeline F D} {c : PaperRiskCoordinator F} (hi : AccountInv p c)
    (ops : List (Operation p.core)) :
    Feed.Run c.accountFeed (ops.filterMap deliveredSeq) (run (step p) c ops).accountFeed := by
  have hrun := @run_history _ _ (step p)
    (fun done s => AccountInv p s ∧
      Feed.Run c.accountFeed (done.filterMap deliveredSeq) s.accountFeed)
    (fun done s op hs => by
      refine ⟨accountInv_step s op hs.1, ?_⟩
      have hmove := step_moves hs.1 op
      rw [List.filterMap_append]
      cases hop : deliveredSeq op with
      | none =>
        rw [hop] at hmove
        rw [show [op].filterMap deliveredSeq = [] from by simp [hop], List.append_nil]
        exact .silent hs.2 hmove
      | some v =>
        rw [hop] at hmove
        rw [show [op].filterMap deliveredSeq = [v] from by simp [hop]]
        exact .deliver hs.2 hmove)
    ops [] c ⟨hi, .nil _⟩
  exact hrun.2

/-! ## Capture times -/

/-- The recorded capture time never moves backwards. -/
theorem captured_step {p : PaperRiskPipeline F D} {c : PaperRiskCoordinator F} {t : Int}
    (hi : AccountInv p c) (ht : c.latestAccountCapturedAtMs = some t) (op : Operation p.core) :
    ∃ t', (step p c op).latestAccountCapturedAtMs = some t' ∧ t ≤ t' := by
  cases op with
  | applyRegimeAllocation allocation receivedAtMs =>
    have h := (applyRegimeAllocation_spec p c allocation receivedAtMs).sameAccount.captured
    exact ⟨t, h.trans ht, Int.le_refl t⟩
  | restoreReservations decisions =>
    rcases (restoreReservations_spec p c (decisions.map (·.val))).account hi with h | h
    · exact ⟨t, h.captured.trans ht, Int.le_refl t⟩
    · exact ⟨t, h.captured.trans ht, Int.le_refl t⟩
  | applyVenue venue =>
    exact ⟨t, (sameAccount_applyVenue c venue).captured.trans ht, Int.le_refl t⟩
  | evaluate request =>
    exact ⟨t, (evaluate_spec p c request).sameAccount.captured.trans ht, Int.le_refl t⟩
  | applyAccount snapshot =>
    show ∃ t', (c.applyAccount p snapshot).2.latestAccountCapturedAtMs = some t' ∧ t ≤ t'
    rcases hr : c.applyAccount p snapshot with ⟨r, c'⟩
    cases applyAccount_cases hr with
    | older => exact ⟨t, ht, Int.le_refl t⟩
    | duplicate => exact ⟨t, ht, Int.le_refl t⟩
    | conflict => exact ⟨t, ht, Int.le_refl t⟩
    | backwards => exact ⟨t, ht, Int.le_refl t⟩
    | foreign _ hfwd => exact ⟨_, rfl, hfwd t ht⟩
    | reconciled _ hfwd _ h => exact ⟨_, (sameAccount_of_reconcile h).captured, hfwd t ht⟩
    | revoked _ hfwd => exact ⟨_, rfl, hfwd t ht⟩

theorem captured_run {p : PaperRiskPipeline F D} :
    ∀ (ops : List (Operation p.core)) {c : PaperRiskCoordinator F} {t : Int}, AccountInv p c →
      c.latestAccountCapturedAtMs = some t →
      ∃ t', (run (step p) c ops).latestAccountCapturedAtMs = some t' ∧ t ≤ t'
  | [], _, t, _, ht => ⟨t, ht, Int.le_refl t⟩
  | op :: ops, c, t, hi, ht => by
    obtain ⟨t₁, ht₁, hle₁⟩ := captured_step hi ht op
    obtain ⟨t₂, ht₂, hle₂⟩ := captured_run ops (accountInv_step c op hi) ht₁
    exact ⟨t₂, ht₂, Int.le_trans hle₁ hle₂⟩

/-- The snapshot was put in force during the run: it is the account of one of
the run's states, or an operation of the run wrote it, perhaps to revoke it
before returning. -/
def EverInForce (p : PaperRiskPipeline F D) (ops : List (Operation p.core))
    (snapshot : AccountSnapshotV2 F) : Prop :=
  ∃ before after, ops = before ++ after ∧
    ((run (step p) init before).account = some snapshot ∨
      ((run (step p) init before).Newer snapshot ∧ (run (step p) init before).Forward snapshot ∧
        ∃ rest, after = .applyAccount snapshot :: rest))

omit [PyDecimal D] [Spelling F D] in
/-- What was written has its capture time recorded. -/
theorem captured_applyAccount {p : PaperRiskPipeline F D} {c : PaperRiskCoordinator F}
    {snapshot : AccountSnapshotV2 F} (hnew : c.Newer snapshot) (hfwd : c.Forward snapshot) :
    (c.applyAccount p snapshot).2.latestAccountCapturedAtMs = some snapshot.capturedAtMs := by
  rcases hr : c.applyAccount p snapshot with ⟨r, c'⟩
  cases applyAccount_cases hr with
  | older hseq hlt =>
    have := hnew _ hseq
    omega
  | duplicate hseq =>
    have := hnew _ hseq
    omega
  | conflict hseq =>
    have := hnew _ hseq
    omega
  | backwards _ ht hlt =>
    have := hfwd _ ht
    omega
  | foreign => rfl
  | reconciled _ _ _ h => exact (sameAccount_of_reconcile h).captured
  | revoked => rfl

/-- No snapshot ever put in force was captured after the recorded time. -/
theorem captured_everInForce {p : PaperRiskPipeline F D} {ops : List (Operation p.core)}
    {snapshot : AccountSnapshotV2 F} {t : Int} (h : EverInForce p ops snapshot)
    (ht : (run (step p) init ops).latestAccountCapturedAtMs = some t) :
    snapshot.capturedAtMs ≤ t := by
  obtain ⟨before, after, rfl, hforce⟩ := h
  have hi := accountInv_run p before
  rw [run_append] at ht
  have hlater : ∃ t', (run (step p) (run (step p) init before) after).latestAccountCapturedAtMs
      = some t' ∧ snapshot.capturedAtMs ≤ t' := by
    rcases hforce with hacc | ⟨hnew, hfwd, rest, rfl⟩
    · exact captured_run after hi (hi.captured snapshot hacc)
    · exact captured_run rest (accountInv_step _ (.applyAccount snapshot) hi)
        (captured_applyAccount hnew hfwd)
  obtain ⟨t', ht', hle⟩ := hlater
  rw [ht] at ht'
  cases ht'
  exact hle

/-! ## Revocation -/

/-- An operation revokes the account at a sequence: `apply_account` raises (a
conflicting sequence, a capture time that moved backwards, or a lineage
conflict), or the reconciliation at the end of `restore_reservations` does. -/
inductive RevokesAt (p : PaperRiskPipeline F D) (c : PaperRiskCoordinator F) :
    Operation p.core → Int → Prop
  | account {snapshot : AccountSnapshotV2 F} {e : PyError}
      (h : (c.applyAccount p snapshot).1 = .error e) :
      RevokesAt p c (.applyAccount snapshot) snapshot.reconciliationSeq
  | restore {decisions : List (DurableDecision p.core)} {snapshot : AccountSnapshotV2 F}
      {e : PyError} (hnot : c.durableRecoveryLoaded = false)
      (hloop : (restoreLoop p (decisions.map (·.val)) c).1 = .ok ())
      (hacc : c.account = some snapshot)
      (h : (c.restoreReservations p (decisions.map (·.val))).1 = .error e) :
      RevokesAt p c (.restoreReservations decisions) snapshot.reconciliationSeq

/-- After a revocation the feed is poisoned at that sequence. -/
theorem RevokesAt.poisons {p : PaperRiskPipeline F D} {c : PaperRiskCoordinator F}
    {op : Operation p.core} {s : Int} (hi : AccountInv p c) (h : RevokesAt p c op s) :
    (step p c op).accountFeed = ⟨some s, none⟩ := by
  cases h with
  | account h =>
    rename_i snapshot e
    show (c.applyAccount p snapshot).2.accountFeed = _
    rcases hr : c.applyAccount p snapshot with ⟨r, c'⟩
    rw [hr] at h
    cases applyAccount_cases hr with
    | older => cases h
    | duplicate => cases h
    | conflict hseq =>
      rw [accountFeed_revoke]
      unfold accountFeed
      rw [hseq]
    | backwards => rfl
    | foreign => cases h
    | reconciled => cases h
    | revoked => rfl
  | restore hnot hloop hacc h =>
    rename_i decisions snapshot e
    show (c.restoreReservations p (decisions.map (·.val))).2.accountFeed = _
    have hload := sameAccount_loaded p (decisions.map (·.val)) c
    rcases hr : c.restoreReservations p (decisions.map (·.val)) with ⟨r, c'⟩
    rw [hr] at h ⊢
    cases restoreReservations_cases hr with
    | already hyes =>
      rw [hnot] at hyes
      cases hyes
    | raised _ hraised =>
      rw [hloop] at hraised
      cases hraised
    | waiting => cases h
    | foreign => cases h
    | reconciled => cases h
    | revoked =>
      rw [accountFeed_revoke]
      unfold accountFeed
      rw [hload.seq, hi.seq snapshot hacc]

omit [DecidableEq F] [PyDecimal D] [Spelling F D] in
/-- A feed that holds nothing is not ready. -/
theorem recoveryComplete_of_feed {p : PaperRiskPipeline F D} {c : PaperRiskCoordinator F}
    (hi : AccountInv p c) (h : c.accountFeed.held = none) : c.recoveryComplete = false := by
  unfold recoveryComplete
  cases hready : c.accountRecoveryReady with
  | false => exact Bool.and_false _
  | true =>
    unfold accountFeed at h
    simp only [hready, if_true] at h
    rw [hi.ready, h] at hready
    cases hready

/-- Without recovery, evaluating asks the caller to retry. -/
theorem evaluate_incomplete {p : PaperRiskPipeline F D} {c : PaperRiskCoordinator F}
    (h : c.recoveryComplete = false) (x : EvaluateRequest F) :
    c.evaluate p x =
      (.error (.paperInputUnavailable "PAPER durable/account recovery is incomplete"), c) := by
  unfold evaluate
  split
  next hnone =>
    have := x.review.reviewId_isSome
    rw [hnone] at this
    cases this
  next => rw [if_pos (by rw [h]; rfl)]

/-- **Account authority is monotone, and a revocation lasts until something
strictly newer arrives.** -/
theorem account_authority (p : PaperRiskPipeline F D) (ops : List (Operation p.core)) :
    (run (step p) init ops).latestAccountSeq = (ops.filterMap deliveredSeq).max? ∧
    ((run (step p) init ops).recoveryComplete = true →
      ∃ account, (run (step p) init ops).account = some account ∧
        accountIsAuthoritative p account = true ∧
        (ops.filterMap deliveredSeq).max? = some account.reconciliationSeq ∧
        ∀ snapshot, EverInForce p ops snapshot → snapshot.capturedAtMs ≤ account.capturedAtMs) ∧
    ∀ (op : Operation p.core) (s : Int) (later : List (Operation p.core)),
      RevokesAt p (run (step p) init ops) op s →
      (∀ v ∈ later.filterMap deliveredSeq, v ≤ s) →
      (run (step p) init (ops ++ op :: later)).recoveryComplete = false ∧
      ∀ x, ((run (step p) init (ops ++ op :: later)).evaluate p x).1 =
        .error (.paperInputUnavailable "PAPER durable/account recovery is incomplete") := by
  have hi := accountInv_run p ops
  have hseq : (run (step p) init ops).latestAccountSeq = (ops.filterMap deliveredSeq).max? := by
    rw [← Feed.foldl_raise_none]
    exact (run_feed (accountInv_init p) ops).version_eq
  refine ⟨hseq, ?_, ?_⟩
  · intro hrec
    have hready : (run (step p) init ops).accountRecoveryReady = true :=
      ((Bool.and_eq_true _ _).mp hrec).2
    rw [hi.ready] at hready
    obtain ⟨account, hacc, hauth⟩ := (Option.any_eq_true _ _).mp hready
    refine ⟨account, hacc, hauth, ?_, ?_⟩
    · rw [← hseq]
      exact hi.seq account hacc
    · intro snapshot hforce
      exact captured_everInForce hforce (hi.captured account hacc)
  · intro op s later hrevokes hlater
    -- the feed's own rule carries the poison through the run
    have hpoisoned := hrevokes.poisons hi
    have hi' := accountInv_step _ op hi
    have hrun := (run_feed hi' later).poisoned (by rw [hpoisoned]) (by rw [hpoisoned]) hlater
    have hincomplete := recoveryComplete_of_feed (run_invariant accountInv_step later hi') hrun.2
    rw [run_append, run_cons]
    exact ⟨hincomplete, fun x => congrArg Prod.fst (evaluate_incomplete hincomplete x)⟩

end PaperRiskCoordinator

end KairosRisk
