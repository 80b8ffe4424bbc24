import KairosRisk.Lib.Run
import KairosRisk.PaperRuntime

/-!
# What each coordinator operation can do

One predicate for each operation lists its outcomes: the result the caller
sees, the state left behind, and the guards that led there. The `…_spec`
theorems are the only place where the operations are unfolded; an invariant is
a case analysis of the predicates.

`Operation` and `step` make the coordinator a machine whose runs are the
interleavings of its callers: every operation holds the lock from start to
end, so an interleaving is a list.
-/

namespace KairosRisk

open PyLib

namespace PaperRiskCoordinator

variable {F D : Type}

/-! ## Reconciliation -/

section Reconciliation

variable [DecidableEq F]

/-- Every representation of the trade in the snapshot matches the decision's lineage. -/
def LineageMatches (snapshot : AccountSnapshotV2 F) (tradeId : String) (d : RiskTradeDecisionV1 F) :
    Prop :=
  (∀ q ∈ positionsOf snapshot tradeId, lineageMismatches d (.position q) = []) ∧
  (∀ o ∈ ordersOf snapshot tradeId, lineageMismatches d (.order o) = [])

/-- The snapshot represents the trade nowhere. -/
def Unrepresented (snapshot : AccountSnapshotV2 F) (tradeId : String) : Prop :=
  positionsOf snapshot tradeId = [] ∧ ordersOf snapshot tradeId = []

theorem validateAll_ok {d : RiskTradeDecisionV1 F} :
    ∀ {l : List (Representation F)}, validateAll d l = .ok () →
      ∀ r ∈ l, lineageMismatches d r = []
  | [], _, r, hr => absurd hr (List.not_mem_nil)
  | r :: l, h, r', hr' => by
    unfold validateAll at h
    obtain ⟨u, hone, hrest⟩ := ok_of_bind h
    rcases List.mem_cons.mp hr' with rfl | hr'
    · unfold validateReconciledLineage raiseIf at hone
      split at hone
      next => cases hone
      next hnil => simpa using hnil
    · exact validateAll_ok hrest r' hr'

/-- Whatever reconciliation decides for a reservation, its lineage matched. -/
theorem transfers_lineage {snapshot : AccountSnapshotV2 F} {tradeId : String} {r : Reservation F}
    {leaves : Bool} (h : transfers snapshot tradeId r = .ok leaves) :
    LineageMatches snapshot tradeId r.decision := by
  unfold transfers at h
  obtain ⟨u, hall, _⟩ := ok_of_bind h
  have hmatch := validateAll_ok hall
  constructor
  · intro q hq
    exact hmatch _ (List.mem_append_left _ (List.mem_map.mpr ⟨q, hq, rfl⟩))
  · intro o ho
    exact hmatch _ (List.mem_append_right _ (List.mem_map.mpr ⟨o, ho, rfl⟩))

/-- A reservation stays or leaves by the snapshot's own evidence. -/
theorem transfers_ok {snapshot : AccountSnapshotV2 F} {tradeId : String} {r : Reservation F}
    {leaves : Bool} (h : transfers snapshot tradeId r = .ok leaves) :
    (ownsTrade snapshot tradeId = true ∧ leaves = true) ∨
    (Unrepresented snapshot tradeId ∧ leaves = expiredUnseen snapshot r) := by
  unfold transfers at h
  obtain ⟨u, _, h⟩ := ok_of_bind h
  split at h
  next howns =>
    cases h
    exact Or.inl ⟨howns, rfl⟩
  next howns =>
    obtain ⟨horders, h⟩ := ok_of_raiseIf h
    cases h
    have howns : ownsTrade snapshot tradeId = false := by simpa using howns
    unfold ownsTrade at howns
    rw [Bool.or_eq_false_iff] at howns
    exact Or.inr ⟨⟨by simpa using howns.1, by simpa using horders⟩, rfl⟩

/-- The trades the loop collects are those whose reservation leaves. -/
theorem transferredTrades_ok {snapshot : AccountSnapshotV2 F} :
    ∀ {items : List (String × Reservation F)} {transferred : List String},
      (items.map Prod.fst).Nodup → transferredTrades snapshot items = .ok transferred →
      (∀ tradeId ∈ transferred, tradeId ∈ items.map Prod.fst) ∧
      ∀ tradeId r, (tradeId, r) ∈ items →
        transfers snapshot tradeId r = .ok (decide (tradeId ∈ transferred))
  | [], transferred, _, h => by
    cases h
    exact ⟨fun _ h => absurd h (List.not_mem_nil), fun _ _ h => absurd h (List.not_mem_nil)⟩
  | (tradeId, r) :: items, transferred, hn, h => by
    unfold transferredTrades at h
    obtain ⟨leaves, hone, h⟩ := ok_of_bind h
    obtain ⟨more, hmore, h⟩ := ok_of_bind h
    cases h
    rw [List.map_cons, List.nodup_cons] at hn
    obtain ⟨hsub, hrest⟩ := transferredTrades_ok hn.2 hmore
    have hfresh : tradeId ∉ more := fun hm => hn.1 (hsub tradeId hm)
    refine ⟨?_, ?_⟩
    · intro k hk
      rw [List.map_cons, List.mem_cons]
      cases leaves with
      | false => exact Or.inr (hsub k hk)
      | true =>
        rcases List.mem_cons.mp hk with rfl | hk
        · exact Or.inl rfl
        · exact Or.inr (hsub k hk)
    · intro k s hks
      rcases List.mem_cons.mp hks with he | hks
      · cases he
        rw [hone]
        cases leaves <;> simp [hfresh]
      · have hne : k ≠ tradeId := fun he =>
          hn.1 (he ▸ List.mem_map.mpr ⟨(k, s), hks, rfl⟩)
        rw [hrest k s hks]
        cases leaves <;> simp [hne]

/-- **Reconciliation** removes exactly the reservations that transfer. -/
theorem reconcileReservations_ok {c c' : PaperRiskCoordinator F} {snapshot : AccountSnapshotV2 F}
    (h : c.reconcileReservations snapshot = .ok c') :
    c' = { c with reservations := c'.reservations } ∧
    (∀ tradeId r, c'.reservations.get? tradeId = some r ↔
      c.reservations.get? tradeId = some r ∧ transfers snapshot tradeId r = .ok false) ∧
    ∀ tradeId r, c.reservations.get? tradeId = some r →
      ∃ leaves, transfers snapshot tradeId r = .ok leaves := by
  unfold reconcileReservations at h
  obtain ⟨transferred, hloop, h⟩ := ok_of_bind h
  cases h
  obtain ⟨_, hall⟩ := transferredTrades_ok c.reservations.nodup hloop
  have hone : ∀ tradeId r, c.reservations.get? tradeId = some r →
      transfers snapshot tradeId r = .ok (decide (tradeId ∈ transferred)) := fun tradeId r hr =>
    hall tradeId r (OrderedDict.get?_eq_some.mp hr)
  refine ⟨rfl, ?_, fun tradeId r hr => ⟨_, hone tradeId r hr⟩⟩
  intro tradeId r
  rw [OrderedDict.get?_removeAll]
  refine and_congr_right fun hr => ?_
  rw [hone tradeId r hr, List.contains_eq_mem]
  constructor
  · intro hmem
    rw [hmem]
  · intro hmem
    exact Except.ok.inj hmem

end Reconciliation

/-! ## Venue measurements -/

/-- The measurement is of the DEV venue and of a symbol it has. -/
def venueSupported (venue : VenueQualityV1 F) : Bool :=
  decide (venue.profile = .dev) && isPaperDevVenueSymbol venue.symbol

/-- What `apply_venue` can do. -/
inductive AppliesVenue (c : PaperRiskCoordinator F) (venue : VenueQualityV1 F) :
    Except PyError Bool → PaperRiskCoordinator F → Prop
  | raised (hout : venueSupported venue = false) (e : PyError) : AppliesVenue c venue (.error e) c
  | older (hin : venueSupported venue = true) {v : Int × Option String}
      (hv : c.venueVersions.get? venue.symbol = some v) (hlt : venue.observedAtMs < v.1) :
      AppliesVenue c venue (.ok false) c
  | duplicate (hin : venueSupported venue = true)
      (hv : c.venueVersions.get? venue.symbol = some (venue.observedAtMs, venue.measurementId)) :
      AppliesVenue c venue (.ok false) c
  | conflict (hin : venueSupported venue = true) {measurementId : Option String}
      (hv : c.venueVersions.get? venue.symbol = some (venue.observedAtMs, measurementId))
      (hid : measurementId ≠ venue.measurementId) (e : PyError) :
      AppliesVenue c venue (.error e)
        { c with
          venue := c.venue.pop venue.symbol
          venueVersions := c.venueVersions.set venue.symbol (venue.observedAtMs, none) }
  | accepted (hin : venueSupported venue = true)
      (hnew : ∀ v, c.venueVersions.get? venue.symbol = some v → v.1 < venue.observedAtMs) :
      AppliesVenue c venue (.ok true)
        { c with
          venueVersions :=
            c.venueVersions.set venue.symbol (venue.observedAtMs, venue.measurementId)
          venue := c.venue.set venue.symbol venue }

theorem applyVenue_spec (c : PaperRiskCoordinator F) (venue : VenueQualityV1 F) :
    AppliesVenue c venue (c.applyVenue venue).1 (c.applyVenue venue).2 := by
  unfold applyVenue
  split
  next hprofile =>
    refine .raised ?_ _
    rw [venueSupported, decide_eq_false hprofile, Bool.false_and]
  next hprofile =>
    split
    next hsymbol =>
      have hsymbol : isPaperDevVenueSymbol venue.symbol = false := by simpa using hsymbol
      refine .raised ?_ _
      rw [venueSupported, hsymbol, Bool.and_false]
    next hsymbol =>
      have hin : venueSupported venue = true := by
        have hsymbol : isPaperDevVenueSymbol venue.symbol = true := by simpa using hsymbol
        rw [venueSupported, hsymbol, decide_eq_true (Classical.not_not.mp hprofile), Bool.and_true]
      dsimp only
      cases hcurrent : c.venueVersions.get? venue.symbol with
      | none =>
        simp only [Option.any_none, Bool.false_eq_true, if_false]
        refine .accepted hin ?_
        intro v hv
        rw [hcurrent] at hv
        cases hv
      | some v =>
        simp only [Option.any_some, decide_eq_true_eq, beq_iff_eq]
        split
        next hlt => exact .older hin hcurrent hlt
        next hnlt =>
          split
          next hsame =>
            obtain ⟨t, measurementId⟩ := v
            cases hsame
            split
            next hid =>
              cases hid
              exact .duplicate hin hcurrent
            next hid => exact .conflict hin hcurrent hid _
          next hne =>
            refine .accepted hin ?_
            intro w hw
            rw [hcurrent] at hw
            cases hw
            omega

theorem applyVenue_cases {c c' : PaperRiskCoordinator F} {venue : VenueQualityV1 F}
    {r : Except PyError Bool} (h : c.applyVenue venue = (r, c')) : AppliesVenue c venue r c' := by
  have hspec := applyVenue_spec c venue
  rw [h] at hspec
  exact hspec

/-- A venue measurement touches nothing but the venue maps. -/
theorem applyVenue_frame (c : PaperRiskCoordinator F) (venue : VenueQualityV1 F) :
    (c.applyVenue venue).2 =
      { c with
        venue := (c.applyVenue venue).2.venue
        venueVersions := (c.applyVenue venue).2.venueVersions } := by
  rcases hr : c.applyVenue venue with ⟨r, c'⟩
  cases applyVenue_cases hr <;> rfl

variable [PyFloat F]

/-! ## Account snapshots -/

/-- The snapshot becomes the account in force. -/
def adopt (p : PaperRiskPipeline F D) (c : PaperRiskCoordinator F)
    (snapshot : AccountSnapshotV2 F) : PaperRiskCoordinator F :=
  { c with
    latestAccountSeq := some snapshot.reconciliationSeq
    latestAccountCapturedAtMs := some snapshot.capturedAtMs
    account := some snapshot
    accountRecoveryReady := accountIsAuthoritative p snapshot }

/-- No account is in force. -/
def revoke (c : PaperRiskCoordinator F) : PaperRiskCoordinator F :=
  { c with account := none, accountRecoveryReady := false }

/-- The snapshot carries a sequence above the recorded one. -/
def Newer (c : PaperRiskCoordinator F) (snapshot : AccountSnapshotV2 F) : Prop :=
  ∀ seq, c.latestAccountSeq = some seq → seq < snapshot.reconciliationSeq

/-- The snapshot was not captured before the recorded capture time. -/
def Forward (c : PaperRiskCoordinator F) (snapshot : AccountSnapshotV2 F) : Prop :=
  ∀ t, c.latestAccountCapturedAtMs = some t → t ≤ snapshot.capturedAtMs

variable [DecidableEq F]

/-- What `apply_account` can do. -/
inductive AppliesAccount (p : PaperRiskPipeline F D) (c : PaperRiskCoordinator F)
    (snapshot : AccountSnapshotV2 F) : Except PyError Bool → PaperRiskCoordinator F → Prop
  | older {seq : Int} (hseq : c.latestAccountSeq = some seq)
      (hlt : snapshot.reconciliationSeq < seq) : AppliesAccount p c snapshot (.ok false) c
  | duplicate (hseq : c.latestAccountSeq = some snapshot.reconciliationSeq) :
      AppliesAccount p c snapshot (.ok false) c
  | conflict (hseq : c.latestAccountSeq = some snapshot.reconciliationSeq)
      (hid : ∀ a, c.account = some a → a.snapshotId ≠ snapshot.snapshotId) (e : PyError) :
      AppliesAccount p c snapshot (.error e) c.revoke
  | backwards (hnew : c.Newer snapshot) {t : Int} (ht : c.latestAccountCapturedAtMs = some t)
      (hlt : snapshot.capturedAtMs < t) (e : PyError) :
      AppliesAccount p c snapshot (.error e)
        { c.revoke with latestAccountSeq := some snapshot.reconciliationSeq }
  | foreign (hnew : c.Newer snapshot) (hfwd : c.Forward snapshot)
      (hauth : accountIsAuthoritative p snapshot = false) :
      AppliesAccount p c snapshot (.ok true) (c.adopt p snapshot)
  | reconciled (hnew : c.Newer snapshot) (hfwd : c.Forward snapshot)
      (hauth : accountIsAuthoritative p snapshot = true) {c' : PaperRiskCoordinator F}
      (h : (c.adopt p snapshot).reconcileReservations snapshot = .ok c') :
      AppliesAccount p c snapshot (.ok true) c'
  | revoked (hnew : c.Newer snapshot) (hfwd : c.Forward snapshot)
      (hauth : accountIsAuthoritative p snapshot = true) {e : PyError}
      (h : (c.adopt p snapshot).reconcileReservations snapshot = .error e) :
      AppliesAccount p c snapshot (.error e) (c.adopt p snapshot).revoke

theorem applyAccount_spec (p : PaperRiskPipeline F D) (c : PaperRiskCoordinator F)
    (snapshot : AccountSnapshotV2 F) :
    AppliesAccount p c snapshot (c.applyAccount p snapshot).1 (c.applyAccount p snapshot).2 := by
  unfold applyAccount
  by_cases holder : (c.latestAccountSeq.any fun seq =>
      decide (snapshot.reconciliationSeq < seq)) = true
  · simp only [holder, if_true]
    obtain ⟨seq, hseq, hlt⟩ := (Option.any_eq_true _ _).mp holder
    exact .older hseq (of_decide_eq_true hlt)
  simp only [holder, Bool.false_eq_true, if_false]
  have hle : ∀ seq, c.latestAccountSeq = some seq → seq ≤ snapshot.reconciliationSeq := by
    intro seq hseq
    rw [hseq] at holder
    have : ¬snapshot.reconciliationSeq < seq := by simpa using holder
    omega
  by_cases hsame : c.latestAccountSeq = some snapshot.reconciliationSeq
  · rw [if_pos (beq_iff_eq.mpr hsame)]
    split
    next => exact .duplicate hsame
    next hid =>
      refine .conflict hsame ?_ _
      intro a ha he
      rw [ha] at hid
      exact hid (by simp [he])
  rw [if_neg (fun he => hsame (beq_iff_eq.mp he))]
  have hnew : c.Newer snapshot := by
    intro seq hseq
    have hne : seq ≠ snapshot.reconciliationSeq := fun he => hsame (he ▸ hseq)
    have := hle seq hseq
    omega
  split
  next hback =>
    obtain ⟨t, ht, hlt⟩ := (Option.any_eq_true _ _).mp hback
    exact .backwards hnew ht (of_decide_eq_true hlt) _
  next hback =>
    have hfwd : c.Forward snapshot := by
      intro t ht
      rw [ht] at hback
      have : ¬snapshot.capturedAtMs < t := by simpa using hback
      omega
    cases hauth : accountIsAuthoritative p snapshot with
    | false =>
      have hadopt := AppliesAccount.foreign hnew hfwd hauth
      rw [adopt, hauth] at hadopt
      exact hadopt
    | true =>
      have hok : ∀ c', (c.adopt p snapshot).reconcileReservations snapshot = .ok c' →
          AppliesAccount p c snapshot (.ok true) c' := fun _ h => .reconciled hnew hfwd hauth h
      have herr : ∀ e, (c.adopt p snapshot).reconcileReservations snapshot = .error e →
          AppliesAccount p c snapshot (.error e) (c.adopt p snapshot).revoke :=
        fun _ h => .revoked hnew hfwd hauth h
      simp only [adopt, hauth] at hok herr
      simp only [if_true]
      unfold reconcileOrRevoke
      split
      next c' h => exact hok c' h
      next e h => exact herr e h

theorem applyAccount_cases {p : PaperRiskPipeline F D} {c c' : PaperRiskCoordinator F}
    {snapshot : AccountSnapshotV2 F} {r : Except PyError Bool}
    (h : c.applyAccount p snapshot = (r, c')) : AppliesAccount p c snapshot r c' := by
  have hspec := applyAccount_spec p c snapshot
  rw [h] at hspec
  exact hspec

/-! ## Regime bindings -/

/-- What `apply_regime_allocation` can do. -/
inductive AppliesRegime (p : PaperRiskPipeline F D) (c : PaperRiskCoordinator F)
    (allocation : RegimeBoundAllocationV1 F) (receivedAtMs : Int) :
    Except PyError Bool → PaperRiskCoordinator F → Prop
  | raised (e : PyError) : AppliesRegime p c allocation receivedAtMs (.error e) c
  | duplicate {intentId : String} {existing : RegimeBoundAllocationV1 F}
      (hid : allocation.observation.intent.intentId = some intentId)
      (hheld : c.regimeAllocations.get? intentId = some (some existing))
      (hsame : existing.modelDump = allocation.modelDump) :
      AppliesRegime p c allocation receivedAtMs (.ok false) c
  | conflict {intentId : String} {existing : Option (RegimeBoundAllocationV1 F)}
      (hid : allocation.observation.intent.intentId = some intentId)
      (hheld : c.regimeAllocations.get? intentId = some existing)
      (hother : ∀ held, existing = some held → held.modelDump ≠ allocation.modelDump)
      (e : PyError) :
      AppliesRegime p c allocation receivedAtMs (.error e)
        { c with regimeAllocations := c.regimeAllocations.set intentId none }
  | accepted {intentId : String}
      (hid : allocation.observation.intent.intentId = some intentId)
      (hnew : c.regimeAllocations.get? intentId = none) :
      AppliesRegime p c allocation receivedAtMs (.ok true)
        ({ c with regimeAllocations := c.regimeAllocations.set intentId (some allocation) }
          |>.trimRegimeAllocations p)

theorem applyRegimeAllocation_spec (p : PaperRiskPipeline F D) (c : PaperRiskCoordinator F)
    (allocation : RegimeBoundAllocationV1 F) (receivedAtMs : Int) :
    AppliesRegime p c allocation receivedAtMs
      (c.applyRegimeAllocation p allocation receivedAtMs).1
      (c.applyRegimeAllocation p allocation receivedAtMs).2 := by
  unfold applyRegimeAllocation
  split
  next => exact .raised _
  split
  next => exact .raised _
  split
  next => exact .raised _
  split
  next => exact .raised _
  next intentId hid =>
    split
    next existing hheld =>
      split
      next hany =>
        obtain ⟨e, he, hsame⟩ := (Option.any_eq_true _ _).mp hany
        subst he
        exact .duplicate hid hheld (beq_iff_eq.mp hsame)
      next hany =>
        refine .conflict hid hheld ?_ _
        intro held he hsame
        rw [he] at hany
        exact hany (by simp [hsame])
    next hnew => exact .accepted hid hnew

theorem applyRegimeAllocation_cases {p : PaperRiskPipeline F D} {c c' : PaperRiskCoordinator F}
    {allocation : RegimeBoundAllocationV1 F} {receivedAtMs : Int} {r : Except PyError Bool}
    (h : c.applyRegimeAllocation p allocation receivedAtMs = (r, c')) :
    AppliesRegime p c allocation receivedAtMs r c' := by
  have hspec := applyRegimeAllocation_spec p c allocation receivedAtMs
  rw [h] at hspec
  exact hspec

/-! ## Restoring -/

omit [DecidableEq F] in
/-- Restoring writes reservations and cached decisions, nothing else. -/
theorem restoreLoop_frame (p : PaperRiskPipeline F D) :
    ∀ (ds : List (RiskTradeDecisionV1 F)) (c : PaperRiskCoordinator F),
      (restoreLoop p ds c).2 =
        { c with
          reservations := (restoreLoop p ds c).2.reservations
          decisions := (restoreLoop p ds c).2.decisions }
  | [], _ => rfl
  | d :: ds, c => by
    unfold restoreLoop
    split
    next => rfl
    next tradeId reviewId h => rw [restoreLoop_frame p ds]

/-- The state `restore_reservations` reconciles in, when it reaches that point. -/
def loaded (p : PaperRiskPipeline F D) (c : PaperRiskCoordinator F)
    (ds : List (RiskTradeDecisionV1 F)) : PaperRiskCoordinator F :=
  { (restoreLoop p ds c).2.trimDecisionCache p with durableRecoveryLoaded := true }

/-- What `restore_reservations` can do. -/
inductive Restores (p : PaperRiskPipeline F D) (c : PaperRiskCoordinator F)
    (ds : List (RiskTradeDecisionV1 F)) : Except PyError Unit → PaperRiskCoordinator F → Prop
  | already (hloaded : c.durableRecoveryLoaded = true) (e : PyError) :
      Restores p c ds (.error e) c
  | raised (hnot : c.durableRecoveryLoaded = false) {e : PyError}
      (h : (restoreLoop p ds c).1 = .error e) : Restores p c ds (.error e) (restoreLoop p ds c).2
  | waiting (hnot : c.durableRecoveryLoaded = false) (h : (restoreLoop p ds c).1 = .ok ())
      (hacc : c.account = none) : Restores p c ds (.ok ()) (c.loaded p ds)
  | foreign (hnot : c.durableRecoveryLoaded = false) (h : (restoreLoop p ds c).1 = .ok ())
      {snapshot : AccountSnapshotV2 F} (hacc : c.account = some snapshot)
      (hauth : accountIsAuthoritative p snapshot = false) :
      Restores p c ds (.ok ()) { c.loaded p ds with accountRecoveryReady := false }
  | reconciled (hnot : c.durableRecoveryLoaded = false) (h : (restoreLoop p ds c).1 = .ok ())
      {snapshot : AccountSnapshotV2 F} (hacc : c.account = some snapshot)
      (hauth : accountIsAuthoritative p snapshot = true) {c' : PaperRiskCoordinator F}
      (hrec : { c.loaded p ds with accountRecoveryReady := true }.reconcileReservations snapshot
        = .ok c') : Restores p c ds (.ok ()) c'
  | revoked (hnot : c.durableRecoveryLoaded = false) (h : (restoreLoop p ds c).1 = .ok ())
      {snapshot : AccountSnapshotV2 F} (hacc : c.account = some snapshot)
      (hauth : accountIsAuthoritative p snapshot = true) {e : PyError}
      (hrec : { c.loaded p ds with accountRecoveryReady := true }.reconcileReservations snapshot
        = .error e) : Restores p c ds (.error e) (c.loaded p ds).revoke

theorem restoreReservations_spec (p : PaperRiskPipeline F D) (c : PaperRiskCoordinator F)
    (ds : List (RiskTradeDecisionV1 F)) :
    Restores p c ds (c.restoreReservations p ds).1 (c.restoreReservations p ds).2 := by
  have hframe := restoreLoop_frame p ds c
  unfold restoreReservations
  split
  next hloaded => exact .already hloaded _
  next hnot =>
    have hnot : c.durableRecoveryLoaded = false := Bool.eq_false_iff.mpr hnot
    have haccount : (restoreLoop p ds c).2.account = c.account := by rw [hframe]
    split
    next e c' hl =>
      have hres := Restores.raised hnot (congrArg Prod.fst hl)
      rw [hl] at hres
      exact hres
    next c' hl =>
      have hok : (restoreLoop p ds c).1 = .ok () := by rw [hl]
      have hc' : c' = (restoreLoop p ds c).2 := by rw [hl]
      subst hc'
      dsimp only
      split
      next hacc => exact .waiting hnot hok (haccount ▸ hacc)
      next snapshot hacc =>
        have hacc : c.account = some snapshot := haccount ▸ hacc
        cases hauth : accountIsAuthoritative p snapshot with
        | false => exact .foreign hnot hok hacc hauth
        | true =>
          simp only [if_true]
          unfold reconcileOrRevoke
          split
          next c' hrec => exact .reconciled hnot hok hacc hauth hrec
          next e hrec => exact .revoked hnot hok hacc hauth hrec

theorem restoreReservations_cases {p : PaperRiskPipeline F D} {c c' : PaperRiskCoordinator F}
    {ds : List (RiskTradeDecisionV1 F)} {r : Except PyError Unit}
    (h : c.restoreReservations p ds = (r, c')) : Restores p c ds r c' := by
  have hspec := restoreReservations_spec p c ds
  rw [h] at hspec
  exact hspec

/-! ## Evaluating -/

variable [PyDecimal D] [Spelling F D]

/-- A decision the pipeline made on the venue in force and the reservations held. -/
structure Fresh (p : PaperRiskPipeline F D) (c : PaperRiskCoordinator F) (x : EvaluateRequest F)
    (venue : VenueQualityV1 F) (reservations : PaperReservations F) (d : RiskTradeDecisionV1 F) :
    Prop where
  recovered : c.recoveryComplete = true
  held : c.venue.get? ((paperDevSymbol x.review.intent.symbol).getD "") = some venue
  view : reservationView c.reserved = .ok reservations
  decided : p.evaluate (c.pipelineInputs p x venue reservations) = .ok d

/-- The decision is cached, and nothing evicted yet. -/
def cache (c : PaperRiskCoordinator F) (reviewId : String) (d : RiskTradeDecisionV1 F) :
    PaperRiskCoordinator F :=
  { c with decisions := (c.decisions.set reviewId d).moveToEnd reviewId }

/-- The approval is reserved under its trade. -/
def reserve (c : PaperRiskCoordinator F) (tradeId : String) (d : RiskTradeDecisionV1 F) :
    PaperRiskCoordinator F :=
  { c with reservations := c.reservations.set tradeId ⟨d, c.latestAccountSeq.getD 0⟩ }

/-- What `evaluate` can do. -/
inductive Evaluates (p : PaperRiskPipeline F D) (c : PaperRiskCoordinator F)
    (x : EvaluateRequest F) :
    Except PyError (RiskTradeDecisionV1 F) → PaperRiskCoordinator F → Prop
  /-- It raised before storing anything. -/
  | raised (e : PyError) : Evaluates p c x (.error e) c
  /-- The cached decision of this review, and nobody objects. -/
  | replayed {reviewId : String} {d : RiskTradeDecisionV1 F}
      (hid : x.review.reviewId = some reviewId) (hrec : c.recoveryComplete = true)
      (hadm : c.admissionReasons p x = []) (hcached : c.decisions.get? reviewId = some d) :
      Evaluates p c x (.ok d) { c with decisions := c.decisions.moveToEnd reviewId }
  /-- Somebody objects: the decision is not stored. -/
  | refused {venue : VenueQualityV1 F} {reservations : PaperReservations F}
      {d : RiskTradeDecisionV1 F} (hadm : c.admissionReasons p x ≠ [])
      (h : Fresh p c x venue reservations d) : Evaluates p c x (.ok d) c
  /-- A new rejection is cached. -/
  | rejected {reviewId : String} {venue : VenueQualityV1 F} {reservations : PaperReservations F}
      {d : RiskTradeDecisionV1 F} (hid : x.review.reviewId = some reviewId)
      (hadm : c.admissionReasons p x = []) (hnew : c.decisions.get? reviewId = none)
      (h : Fresh p c x venue reservations d) (hd : d.approved = false) :
      Evaluates p c x (.ok d) ((c.cache reviewId d).trimDecisionCache p)
  /-- A new approval is cached and reserved. -/
  | approved {reviewId tradeId : String} {venue : VenueQualityV1 F}
      {reservations : PaperReservations F} {d : RiskTradeDecisionV1 F}
      (hid : x.review.reviewId = some reviewId)
      (hadm : c.admissionReasons p x = []) (hnew : c.decisions.get? reviewId = none)
      (h : Fresh p c x venue reservations d) (hd : d.approved = true)
      (htrade : d.tradeId = some tradeId) :
      Evaluates p c x (.ok d) (((c.cache reviewId d).reserve tradeId d).trimDecisionCache p)
  /-- An approval without a trade id is cached before the raise. -/
  | unidentified {reviewId : String} {venue : VenueQualityV1 F}
      {reservations : PaperReservations F} {d : RiskTradeDecisionV1 F}
      (hid : x.review.reviewId = some reviewId)
      (hadm : c.admissionReasons p x = []) (hnew : c.decisions.get? reviewId = none)
      (h : Fresh p c x venue reservations d) (hd : d.approved = true)
      (htrade : d.tradeId = none) (e : PyError) :
      Evaluates p c x (.error e) (c.cache reviewId d)

theorem evaluateFresh_ok {p : PaperRiskPipeline F D} {c : PaperRiskCoordinator F}
    {x : EvaluateRequest F} {d : RiskTradeDecisionV1 F} (hrec : c.recoveryComplete = true)
    (h : c.evaluateFresh p x = .ok d) :
    ∃ venue reservations, Fresh p c x venue reservations d := by
  unfold evaluateFresh at h
  split at h
  next => cases h
  next venue hvenue =>
    obtain ⟨reservations, hview, h⟩ := ok_of_bind h
    exact ⟨venue, reservations, hrec, hvenue, hview, h⟩

theorem evaluate_spec (p : PaperRiskPipeline F D) (c : PaperRiskCoordinator F)
    (x : EvaluateRequest F) : Evaluates p c x (c.evaluate p x).1 (c.evaluate p x).2 := by
  unfold evaluate
  split
  next => exact .raised _
  next reviewId hid =>
    split
    next => exact .raised _
    next hrec =>
      have hrec : c.recoveryComplete = true := by simpa using hrec
      dsimp only
      split
      next d hcached hadm => exact .replayed hid hrec hadm hcached
      next hnot =>
        split
        next => exact .raised _
        next d hd =>
          obtain ⟨venue, reservations, hfresh⟩ := evaluateFresh_ok hrec hd
          by_cases hadm : c.admissionReasons p x = []
          · have hnew : c.decisions.get? reviewId = none := by
              cases hget : c.decisions.get? reviewId with
              | none => rfl
              | some cached => exact absurd hadm (hnot cached hget)
            rw [hadm]
            unfold store
            simp only [List.isEmpty_nil, Bool.not_true, Bool.false_eq_true, if_false]
            cases happ : d.approved with
            | false => exact .rejected hid hadm hnew hfresh happ
            | true =>
              cases htrade : d.tradeId with
              | none => exact .unidentified hid hadm hnew hfresh happ htrade _
              | some tradeId => exact .approved hid hadm hnew hfresh happ htrade
          · rw [if_pos (by simpa using hadm)]
            exact .refused hadm hfresh

theorem evaluate_cases {p : PaperRiskPipeline F D} {c c' : PaperRiskCoordinator F}
    {x : EvaluateRequest F} {r : Except PyError (RiskTradeDecisionV1 F)}
    (h : c.evaluate p x = (r, c')) : Evaluates p c x r c' := by
  have hspec := evaluate_spec p c x
  rw [h] at hspec
  exact hspec

end PaperRiskCoordinator

/-! ## The machine -/

/-- The operations of the coordinator, over decisions its contract validates. -/
inductive Operation {F : Type} (core : KairosCore F) where
  | applyRegimeAllocation (allocation : RegimeBoundAllocationV1 F) (receivedAtMs : Int)
  | restoreReservations (decisions : List (DurableDecision core))
  | applyAccount (snapshot : AccountSnapshotV2 F)
  | applyVenue (venue : VenueQualityV1 F)
  | evaluate (request : EvaluateRequest F)

namespace PaperRiskCoordinator

variable {F D : Type} [PyFloat F] [DecidableEq F] [PyDecimal D] [Spelling F D]

/-- The state one operation leaves, whether it returned or raised. -/
def step (p : PaperRiskPipeline F D) (c : PaperRiskCoordinator F) :
    Operation p.core → PaperRiskCoordinator F
  | .applyRegimeAllocation allocation receivedAtMs =>
    (c.applyRegimeAllocation p allocation receivedAtMs).2
  | .restoreReservations decisions => (c.restoreReservations p (decisions.map (·.val))).2
  | .applyAccount snapshot => (c.applyAccount p snapshot).2
  | .applyVenue venue => (c.applyVenue venue).2
  | .evaluate request => (c.evaluate p request).2

/-- The states a process can be in. -/
def Reached (p : PaperRiskPipeline F D) (c : PaperRiskCoordinator F) : Prop :=
  Reachable (step p) init c

end PaperRiskCoordinator

end KairosRisk
