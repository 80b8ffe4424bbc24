import KairosRisk.AccountAuthority
import KairosRisk.RecoveryOrder

/-!
# Account snapshots of another authority

One topic carries the snapshots of every account, and the coordinator keeps one
sequence, one capture time and one account in force for all of them. A snapshot
that is not of the configured PAPER account (`Foreign`) is not ignored: unless
it is outdated, it is recorded like any other, and recovery is incomplete until
an authoritative snapshot above it arrives. So it fails closed, and that is
visible in every evaluation until then.

What is left of independence is stated for pairs of runs. Outdated foreign
snapshots change nothing (`outdated_inserted`); any foreign snapshots in a
stretch of venue and regime updates are forgotten at the next authoritative
snapshot that is newer than all of them (`forgotten`).
-/

namespace KairosRisk

open PyLib

namespace PaperRiskCoordinator

variable {F D : Type} [PyFloat F]

/-- Not a snapshot of the configured authority. -/
def Foreign (p : PaperRiskPipeline F D) (snapshot : AccountSnapshotV2 F) : Prop :=
  snapshot.tradingMode ≠ .paper ∨ snapshot.evedexProfile ≠ .dev ∨
  snapshot.accountId ≠ p.settings.paperAccountId

theorem Foreign.not_authoritative {p : PaperRiskPipeline F D} {snapshot : AccountSnapshotV2 F}
    (h : Foreign p snapshot) : accountIsAuthoritative p snapshot = false := by
  cases hauth : accountIsAuthoritative p snapshot with
  | false => rfl
  | true =>
    unfold accountIsAuthoritative at hauth
    simp only [Bool.and_eq_true, beq_iff_eq] at hauth
    obtain ⟨⟨⟨⟨hmode, hprofile⟩, haccount⟩, _⟩, _⟩ := hauth
    rcases h with h | h | h
    · exact absurd hmode h
    · exact absurd hprofile h
    · exact absurd haccount h

/-- The snapshot is older than the recorded sequence, or the one in force again. -/
def Outdated (c : PaperRiskCoordinator F) (snapshot : AccountSnapshotV2 F) : Prop :=
  ∃ seq, c.latestAccountSeq = some seq ∧
    (snapshot.reconciliationSeq < seq ∨
      (snapshot.reconciliationSeq = seq ∧
        ∃ a, c.account = some a ∧ a.snapshotId = snapshot.snapshotId))

variable [DecidableEq F]

/-- An outdated snapshot changes nothing. -/
theorem Outdated.applyAccount {p : PaperRiskPipeline F D} {c : PaperRiskCoordinator F}
    {snapshot : AccountSnapshotV2 F} (h : c.Outdated snapshot) :
    c.applyAccount p snapshot = (.ok false, c) := by
  obtain ⟨seq, hseq, hlt | ⟨heq, a, ha, hid⟩⟩ := h
  · unfold PaperRiskCoordinator.applyAccount
    rw [hseq]
    simp [hlt]
  · unfold PaperRiskCoordinator.applyAccount
    rw [hseq, ha]
    simp [heq, hid]

/-! ## One foreign snapshot -/

/-- The same, but for the account fields. -/
def SameButAccount (c c' : PaperRiskCoordinator F) : Prop :=
  c' = { c with
    account := c'.account
    latestAccountSeq := c'.latestAccountSeq
    latestAccountCapturedAtMs := c'.latestAccountCapturedAtMs
    accountRecoveryReady := c'.accountRecoveryReady }

/-- Nothing of the account is ready, and the recorded sequence reached `seq`. -/
structure Withheld (p : PaperRiskPipeline F D) (seq : Int) (c : PaperRiskCoordinator F) : Prop where
  ready : c.accountRecoveryReady = false
  account : ∀ a, c.account = some a → accountIsAuthoritative p a = false
  reached : ∃ latest, c.latestAccountSeq = some latest ∧ seq ≤ latest

/-- **A foreign snapshot** changes nothing, or nothing but the account fields,
and then withholds the account. -/
theorem applyAccount_foreign {p : PaperRiskPipeline F D} {c : PaperRiskCoordinator F}
    {snapshot : AccountSnapshotV2 F} (h : Foreign p snapshot) :
    (c.applyAccount p snapshot).2 = c ∨
    (SameButAccount c (c.applyAccount p snapshot).2 ∧
      Withheld p snapshot.reconciliationSeq (c.applyAccount p snapshot).2) := by
  have hauth := h.not_authoritative
  rcases hr : c.applyAccount p snapshot with ⟨r, c'⟩
  cases applyAccount_cases hr with
  | older => exact Or.inl rfl
  | duplicate => exact Or.inl rfl
  | conflict hseq => exact Or.inr ⟨rfl, rfl, nofun, _, hseq, Int.le_refl _⟩
  | backwards => exact Or.inr ⟨rfl, rfl, nofun, _, rfl, Int.le_refl _⟩
  | foreign =>
    refine Or.inr ⟨rfl, hauth, ?_, _, rfl, Int.le_refl _⟩
    intro a ha
    cases ha
    exact hauth
  | reconciled _ _ hyes =>
    rw [hauth] at hyes
    cases hyes
  | revoked _ _ hyes =>
    rw [hauth] at hyes
    cases hyes

omit [DecidableEq F] in
theorem Withheld.of_sameAccount {p : PaperRiskPipeline F D} {seq : Int}
    {c c' : PaperRiskCoordinator F} (h : Withheld p seq c) (hsame : SameAccount c c') :
    Withheld p seq c' := by
  refine ⟨hsame.ready.trans h.ready, ?_, ?_⟩
  · intro a ha
    exact h.account a (hsame.account ▸ ha)
  · rw [hsame.seq]
    exact h.reached

variable [PyDecimal D] [Spelling F D]

/-- The operation applies no authoritative snapshot above `seq`. -/
def NothingAbove (p : PaperRiskPipeline F D) (seq : Int) (op : Operation p.core) : Prop :=
  ∀ snapshot, op = .applyAccount snapshot → accountIsAuthoritative p snapshot = true →
    snapshot.reconciliationSeq ≤ seq

/-- **Only an authoritative snapshot above it** ends what a foreign one withholds. -/
theorem withheld_step {p : PaperRiskPipeline F D} {seq : Int} {c : PaperRiskCoordinator F}
    (h : Withheld p seq c) (op : Operation p.core) (hop : NothingAbove p seq op) :
    Withheld p seq (step p c op) := by
  obtain ⟨latest, hlatest, hle⟩ := h.reached
  cases op with
  | applyRegimeAllocation allocation receivedAtMs =>
    exact h.of_sameAccount (applyRegimeAllocation_spec p c allocation receivedAtMs).sameAccount
  | applyVenue venue => exact h.of_sameAccount (sameAccount_applyVenue c venue)
  | evaluate request => exact h.of_sameAccount (evaluate_spec p c request).sameAccount
  | restoreReservations decisions =>
    show Withheld p seq (c.restoreReservations p (decisions.map (·.val))).2
    have hloop := h.of_sameAccount (sameAccount_restoreLoop p (decisions.map (·.val)) c)
    have hloaded := h.of_sameAccount (sameAccount_loaded p (decisions.map (·.val)) c)
    rcases hr : c.restoreReservations p (decisions.map (·.val)) with ⟨r, c'⟩
    rw [hr]
    cases restoreReservations_cases hr with
    | already => exact h
    | raised => exact hloop
    | waiting => exact hloaded
    | foreign => exact ⟨rfl, hloaded.account, hloaded.reached⟩
    -- the account in force is not authoritative, so nothing is reconciled
    | reconciled _ _ hacc hauth =>
      rw [h.account _ hacc] at hauth
      cases hauth
    | revoked _ _ hacc hauth =>
      rw [h.account _ hacc] at hauth
      cases hauth
  | applyAccount snapshot =>
    show Withheld p seq (c.applyAccount p snapshot).2
    have above : c.Newer snapshot → seq < snapshot.reconciliationSeq := by
      intro hnew
      have := hnew latest hlatest
      omega
    rcases hr : c.applyAccount p snapshot with ⟨r, c'⟩
    cases applyAccount_cases hr with
    | older => exact h
    | duplicate => exact h
    | conflict => exact ⟨rfl, nofun, h.reached⟩
    | backwards hnew => exact ⟨rfl, nofun, _, rfl, Int.le_of_lt (above hnew)⟩
    | foreign hnew _ hauth =>
      refine ⟨hauth, ?_, _, rfl, Int.le_of_lt (above hnew)⟩
      intro a ha
      cases ha
      exact hauth
    -- an authoritative snapshot would have to be above `seq`
    | reconciled hnew _ hauth =>
      have := above hnew
      have := hop snapshot rfl hauth
      omega
    | revoked hnew _ hauth =>
      have := above hnew
      have := hop snapshot rfl hauth
      omega

theorem withheld_run {p : PaperRiskPipeline F D} {seq : Int} (ops : List (Operation p.core))
    {c : PaperRiskCoordinator F} (h : Withheld p seq c) (hops : ∀ op ∈ ops, NothingAbove p seq op) :
    Withheld p seq (run (step p) c ops) := by
  have hstep : ∀ (s : PaperRiskCoordinator F) (op : Operation p.core), NothingAbove p seq op →
      Withheld p seq s → Withheld p seq (step p s op) :=
    fun _ op hop hs => withheld_step hs op hop
  exact run_invariant_of hstep ops hops h

omit [DecidableEq F] [PyDecimal D] [Spelling F D] in
/-- Withheld, recovery is incomplete. -/
theorem Withheld.incomplete {p : PaperRiskPipeline F D} {seq : Int} {c : PaperRiskCoordinator F}
    (h : Withheld p seq c) : c.recoveryComplete = false := by
  unfold recoveryComplete
  rw [h.ready, Bool.and_false]

/-! ## Pairs of runs -/

/-- The second run is the first with foreign snapshots inserted, each outdated
where it arrives. -/
inductive InsertsOutdated (p : PaperRiskPipeline F D) :
    PaperRiskCoordinator F → List (Operation p.core) → List (Operation p.core) → Prop
  | nil (c : PaperRiskCoordinator F) : InsertsOutdated p c [] []
  | keep {c : PaperRiskCoordinator F} {ops ops' : List (Operation p.core)} (op : Operation p.core)
      (h : InsertsOutdated p (step p c op) ops ops') : InsertsOutdated p c (op :: ops) (op :: ops')
  | foreign {c : PaperRiskCoordinator F} {ops ops' : List (Operation p.core)}
      {snapshot : AccountSnapshotV2 F} (hforeign : Foreign p snapshot)
      (hold : c.Outdated snapshot) (h : InsertsOutdated p c ops ops') :
      InsertsOutdated p c ops (.applyAccount snapshot :: ops')

/-- **Outdated foreign snapshots do not interfere.** -/
theorem outdated_inserted {p : PaperRiskPipeline F D} {c : PaperRiskCoordinator F}
    {ops ops' : List (Operation p.core)} (h : InsertsOutdated p c ops ops') :
    run (step p) c ops' = run (step p) c ops := by
  induction h with
  | nil => rfl
  | keep op _ ih => exact ih
  | @foreign c ops ops' snapshot _ hold _ ih =>
    have hsame : step p c (.applyAccount snapshot) = c := congrArg Prod.snd hold.applyAccount
    rw [run_cons, hsame]
    exact ih

/-- The second run is the first with foreign snapshots inserted anywhere. -/
inductive Inserts (p : PaperRiskPipeline F D) :
    List (Operation p.core) → List (Operation p.core) → Prop
  | nil : Inserts p [] []
  | keep {ops ops' : List (Operation p.core)} (op : Operation p.core) (h : Inserts p ops ops') :
      Inserts p (op :: ops) (op :: ops')
  | foreign {ops ops' : List (Operation p.core)} {snapshot : AccountSnapshotV2 F}
      (hforeign : Foreign p snapshot) (h : Inserts p ops ops') :
      Inserts p ops (.applyAccount snapshot :: ops')

/-- An update of the venues or of the regime bindings. -/
def isMarketUpdate {core : KairosCore F} : Operation core → Bool
  | .applyVenue _ | .applyRegimeAllocation _ _ => true
  | _ => false

omit [PyFloat F] [DecidableEq F] [PyDecimal D] [Spelling F D] in
/-- A venue measurement does not look at the account. -/
theorem sameButAccount_applyVenue {c c' : PaperRiskCoordinator F} (h : SameButAccount c c')
    (venue : VenueQualityV1 F) : SameButAccount (c.applyVenue venue).2 (c'.applyVenue venue).2 := by
  obtain ⟨a, seq, t, ready, rfl⟩ : ∃ a seq t ready, c' =
      { c with
        account := a, latestAccountSeq := seq, latestAccountCapturedAtMs := t
        accountRecoveryReady := ready } := ⟨_, _, _, _, h⟩
  unfold applyVenue
  split
  next => rfl
  split
  next => rfl
  dsimp only
  split
  next => rfl
  split
  next =>
    split
    next => rfl
    next => rfl
  next => rfl

omit [PyDecimal D] [Spelling F D] in
/-- A regime binding does not look at the account. -/
theorem sameButAccount_applyRegimeAllocation {p : PaperRiskPipeline F D}
    {c c' : PaperRiskCoordinator F} (h : SameButAccount c c')
    (allocation : RegimeBoundAllocationV1 F) (receivedAtMs : Int) :
    SameButAccount (c.applyRegimeAllocation p allocation receivedAtMs).2
      (c'.applyRegimeAllocation p allocation receivedAtMs).2 := by
  obtain ⟨a, seq, t, ready, rfl⟩ : ∃ a seq t ready, c' =
      { c with
        account := a, latestAccountSeq := seq, latestAccountCapturedAtMs := t
        accountRecoveryReady := ready } := ⟨_, _, _, _, h⟩
  unfold applyRegimeAllocation
  -- every test reads the bindings, and every branch writes nothing else
  split
  next => rfl
  split
  next => rfl
  split
  next => rfl
  split
  next => rfl
  dsimp only
  split
  next =>
    split
    next => rfl
    next => rfl
  next => rfl

/-- Market updates do not look at the account. -/
theorem sameButAccount_step {p : PaperRiskPipeline F D} {c c' : PaperRiskCoordinator F}
    (h : SameButAccount c c') {op : Operation p.core} (hop : isMarketUpdate op = true) :
    SameButAccount (step p c op) (step p c' op) := by
  cases op with
  | applyVenue venue => exact sameButAccount_applyVenue h venue
  | applyRegimeAllocation allocation receivedAtMs =>
    exact sameButAccount_applyRegimeAllocation h allocation receivedAtMs
  | restoreReservations decisions => cases hop
  | applyAccount snapshot => cases hop
  | evaluate request => cases hop

omit [PyFloat F] [DecidableEq F] [PyDecimal D] [Spelling F D] in
theorem SameButAccount.trans {c c' c'' : PaperRiskCoordinator F} (h : SameButAccount c c')
    (h' : SameButAccount c' c'') : SameButAccount c c'' := by
  unfold SameButAccount at h h' ⊢
  rw [h', h]

/-- Foreign snapshots among market updates leave everything but the account alike. -/
theorem sameButAccount_inserted {p : PaperRiskPipeline F D} {ops ops' : List (Operation p.core)}
    (h : Inserts p ops ops') (hops : ∀ op ∈ ops, isMarketUpdate op = true) :
    ∀ {c c' : PaperRiskCoordinator F}, SameButAccount c c' →
      SameButAccount (run (step p) c ops) (run (step p) c' ops') := by
  induction h with
  | nil => exact id
  | keep op _ ih =>
    intro c c' hc
    exact ih (fun o ho => hops o (List.mem_cons_of_mem _ ho))
      (sameButAccount_step hc (hops op (List.mem_cons_self ..)))
  | @foreign ops ops' snapshot hforeign _ ih =>
    intro c c' hc
    refine ih hops ?_
    show SameButAccount c (c'.applyAccount p snapshot).2
    rcases applyAccount_foreign (c := c') hforeign with hsame | ⟨hother, _⟩
    · rw [hsame]
      exact hc
    · exact hc.trans hother

omit [PyDecimal D] [Spelling F D] in
/-- A snapshot that is newer than everything recorded makes up for the difference. -/
theorem applyAccount_forgets {p : PaperRiskPipeline F D} {c c' : PaperRiskCoordinator F}
    (h : SameButAccount c c') {snapshot : AccountSnapshotV2 F} (hnew : c.Newer snapshot)
    (hfwd : c.Forward snapshot) (hnew' : c'.Newer snapshot) (hfwd' : c'.Forward snapshot) :
    c'.applyAccount p snapshot = c.applyAccount p snapshot := by
  have hadopt : c'.adopt p snapshot = c.adopt p snapshot := by
    unfold SameButAccount at h
    rw [h]
    rfl
  rw [applyAccount_newer hnew hfwd, applyAccount_newer hnew' hfwd', hadopt]

/-- **Foreign snapshots fail closed, and are forgotten.** Inserted where they
are outdated, they leave the run as it is. Wherever one arrives, it changes
nothing, or nothing but the account fields; then recovery is incomplete, and
every evaluation asks for a retry and stores nothing, until an authoritative
snapshot above it. And where only market updates happen between the inserted
snapshots and an authoritative one that is newer than all of them, the two runs
are the same from there on. -/
theorem foreign_fails_closed (p : PaperRiskPipeline F D) :
    (∀ (c : PaperRiskCoordinator F) (ops ops' : List (Operation p.core)),
      InsertsOutdated p c ops ops' → run (step p) c ops' = run (step p) c ops) ∧
    (∀ (c : PaperRiskCoordinator F) (foreign : AccountSnapshotV2 F), Foreign p foreign →
      (c.applyAccount p foreign).2 = c ∨
      (SameButAccount c (c.applyAccount p foreign).2 ∧
        ∀ ops : List (Operation p.core),
          (∀ op ∈ ops, NothingAbove p foreign.reconciliationSeq op) →
          (run (step p) (c.applyAccount p foreign).2 ops).recoveryComplete = false ∧
          ∀ x, (run (step p) (c.applyAccount p foreign).2 ops).evaluate p x =
            (.error (.paperInputUnavailable "PAPER durable/account recovery is incomplete"),
              run (step p) (c.applyAccount p foreign).2 ops))) ∧
    ∀ (c : PaperRiskCoordinator F) (ops ops' : List (Operation p.core))
      (snapshot : AccountSnapshotV2 F), Inserts p ops ops' →
      (∀ op ∈ ops, isMarketUpdate op = true) →
      (run (step p) c ops).Newer snapshot → (run (step p) c ops).Forward snapshot →
      (run (step p) c ops').Newer snapshot → (run (step p) c ops').Forward snapshot →
      ∀ after, run (step p) c (ops' ++ .applyAccount snapshot :: after) =
        run (step p) c (ops ++ .applyAccount snapshot :: after) := by
  refine ⟨fun _ _ _ h => outdated_inserted h, ?_, ?_⟩
  · intro c foreign hforeign
    rcases applyAccount_foreign (c := c) hforeign with hsame | ⟨hother, hwithheld⟩
    · exact Or.inl hsame
    · refine Or.inr ⟨hother, fun ops hops => ?_⟩
      have hincomplete := (withheld_run ops hwithheld hops).incomplete
      exact ⟨hincomplete, evaluate_incomplete hincomplete⟩
  · intro c ops ops' snapshot hinserts hops hnew hfwd hnew' hfwd' after
    have hrefl : SameButAccount c c := rfl
    have hsame := sameButAccount_inserted hinserts hops hrefl
    have happly := applyAccount_forgets (p := p) hsame hnew hfwd hnew' hfwd'
    rw [run_append, run_append, run_cons, run_cons]
    exact congrArg (fun r => run (step p) r.2 after) happly

end PaperRiskCoordinator

/-! ## A snapshot of another account

The market of the first idea, with a snapshot of another account delivered in
between. Its sequence is above the account's own, so the next reconciliation of
the account is dropped as old. -/

namespace Scenario

open PaperRiskCoordinator

/-- What the account's own feeds deliver. -/
def ownFacts : List (Operation market.core) :=
  [.restoreReservations [], .applyAccount (account 1 60200), .applyVenue (venue "BTCUSD:DEV" 60300),
    .applyAccount (account 2 60350)]

/-- A reconciled snapshot of another account. -/
def otherAccount : AccountSnapshotV2 Rat :=
  { account 9 60250 with accountId := "another-paper-account" }

/-- The same, with the other account's snapshot inserted. -/
def mixedFacts : List (Operation market.core) :=
  [.restoreReservations [], .applyAccount (account 1 60200), .applyVenue (venue "BTCUSD:DEV" 60300),
    .applyAccount otherAccount, .applyAccount (account 2 60350)]

/-- **A foreign snapshot interferes**: without it the first idea is approved,
with it the evaluation raises, and recovery stays incomplete although the
account was reconciled again. -/
theorem foreign_snapshot_interferes :
    Foreign market otherAccount ∧ Inserts market ownFacts mixedFacts ∧
    (run (step market) init ownFacts).recoveryComplete = true ∧
    (run (step market) init mixedFacts).recoveryComplete = false ∧
    (made market (run (step market) init ownFacts) (request ideaA.review 60400)).any (·.approved)
      = true ∧
    ((run (step market) init mixedFacts).evaluate market (request ideaA.review 60400)).1
      = .error (.paperInputUnavailable "PAPER durable/account recovery is incomplete") := by
  refine ⟨Or.inr (Or.inr (by decide)), ?_, ?_, ?_, ?_, ?_⟩
  · exact .keep _ (.keep _ (.keep _ (.foreign (Or.inr (Or.inr (by decide))) (.keep _ .nil))))
  all_goals decide +kernel

end Scenario

end KairosRisk
