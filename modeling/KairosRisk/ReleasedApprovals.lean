import KairosRisk.ReplayIdentity

/-!
# What becomes of a released approval

An approval whose entry expired unseen loses its reservation at the next
authoritative snapshot: the trade can no longer reach the exchange, and the
symbol and the risk are free for another idea. The decision itself stays in
the cache for as long as there is room, and `evaluate` replays whatever is
cached before it looks at the clock. A redelivery of the review is then
answered by an approval that nothing reserves any more.

An evaluation past the entry window approves nothing of its own
(`Fresh.in_window`), so the replay is the only way to it:
`released_handed_out_iff`. How long the replay is open is counted in the
decisions stored since: nothing leaves a cache with room for them (`cached_run`),
and behind a cache size of them there is no place (`Displaces.evicted`).
-/

namespace KairosRisk

open PyLib

variable {F D : Type}

/-- A decision is about the intent its review embeds. -/
def EmbedsReviewedIntent (core : KairosCore F) : Prop :=
  ∀ d : RiskTradeDecisionV1 F, core.Validated d → d.intent = d.review.intent

namespace PaperRiskCoordinator

variable [PyFloat F] [DecidableEq F] [PyDecimal D] [Spelling F D]

/-- The snapshot is newer than the approval, was captured after its entry
window, and holds nothing of the trade. -/
structure ExpiredUnseen (p : PaperRiskPipeline F D) (snapshot : AccountSnapshotV2 F)
    (tradeId : String) (r : Reservation F) : Prop where
  authoritative : accountIsAuthoritative p snapshot = true
  absent : Absent snapshot tradeId
  newer : r.reconciliationSeq < snapshot.reconciliationSeq
  late : r.decision.intent.entryExpiresTsMs < snapshot.capturedAtMs

/-- The operation removed the reservation because its entry expired unseen: a
reconciliation at the arrival of a snapshot, or at the end of a restore. -/
inductive ReleasesUnseen (p : PaperRiskPipeline F D) (c : PaperRiskCoordinator F)
    (tradeId : String) (r : Reservation F) : Operation p.core → Prop
  | account {snapshot : AccountSnapshotV2 F} (hheld : c.reservations.get? tradeId = some r)
      (h : ExpiredUnseen p snapshot tradeId r)
      (hgone : (step p c (.applyAccount snapshot)).reservations.get? tradeId = none) :
      ReleasesUnseen p c tradeId r (.applyAccount snapshot)
  | restore {ds : List (DurableDecision p.core)} {snapshot : AccountSnapshotV2 F}
      (hheld : (restoreLoop p (ds.map (·.val)) c).2.reservations.get? tradeId = some r)
      (hacc : c.account = some snapshot) (h : ExpiredUnseen p snapshot tradeId r)
      (hgone : (step p c (.restoreReservations ds)).reservations.get? tradeId = none) :
      ReleasesUnseen p c tradeId r (.restoreReservations ds)

/-- What was released is an approval the contract validates. -/
theorem ReleasesUnseen.validated {p : PaperRiskPipeline F D} {c : PaperRiskCoordinator F}
    {tradeId : String} {r : Reservation F} {op : Operation p.core} (hi : ReservedInv p c)
    (h : ReleasesUnseen p c tradeId r op) : p.core.Validated r.decision := by
  cases h with
  | account hheld => exact (hi tradeId r hheld).validated
  | restore hheld =>
    exact (reservedInv_restoreLoop _ c (validated_durable _) hi tradeId r hheld).validated

/-- An approval is made within the entry window. -/
theorem Fresh.in_window {p : PaperRiskPipeline F D} {c : PaperRiskCoordinator F}
    {x : EvaluateRequest F} {venue : VenueQualityV1 F} {reservations : PaperReservations F}
    {d : RiskTradeDecisionV1 F} (h : Fresh p c x venue reservations d) (ha : d.approved = true) :
    x.decidedAtMs ≤ x.review.intent.entryExpiresTsMs := by
  have hgates := (PaperRiskPipeline.evaluate_approves h.decided ha).gates
  have hreview := (PaperRiskPipeline.gates_reasons_eq_nil hgates).2.1
  unfold PaperRiskPipeline.reviewReasons at hreview
  simp only [List.append_eq_nil_iff, reasonIf_eq_nil, decide_eq_false_iff_not] at hreview
  obtain ⟨⟨⟨⟨⟨_, hexpired⟩, _⟩, _⟩, _⟩, _⟩ := hreview
  have hexpired : ¬x.review.intent.entryExpiresTsMs < x.decidedAtMs := hexpired
  omega

/-- What is cached for the review answers the call, when nobody objects. -/
theorem evaluate_cached {p : PaperRiskPipeline F D} {c : PaperRiskCoordinator F}
    {x : EvaluateRequest F} {reviewId : String} {d : RiskTradeDecisionV1 F}
    (hid : x.review.reviewId = some reviewId) (hrec : c.recoveryComplete = true)
    (hadm : c.admissionReasons p x = []) (hcached : c.decisions.get? reviewId = some d) :
    (c.evaluate p x).1 = .ok d := by
  unfold evaluate
  rw [hid]
  dsimp only
  rw [hrec, hcached, hadm]
  rfl

/-- The coordinator would answer the call with an approval it has cached. -/
def ReplaysApproval (p : PaperRiskPipeline F D) (c : PaperRiskCoordinator F)
    (x : EvaluateRequest F) : Prop :=
  c.recoveryComplete = true ∧ c.admissionReasons p x = [] ∧
  ∃ reviewId d, x.review.reviewId = some reviewId ∧ c.decisions.get? reviewId = some d ∧
    d.approved = true

/-- **Past the entry window, an approval is a replay.** -/
theorem approved_late_iff {p : PaperRiskPipeline F D} {c : PaperRiskCoordinator F}
    {x : EvaluateRequest F} (hlate : x.review.intent.entryExpiresTsMs < x.decidedAtMs) :
    (∃ d, (c.evaluate p x).1 = .ok d ∧ d.approved = true) ↔ ReplaysApproval p c x := by
  constructor
  · rintro ⟨d, hd, ha⟩
    have late : ∀ {venue reservations}, ¬Fresh p c x venue reservations d := by
      intro venue reservations hfresh
      have := hfresh.in_window ha
      omega
    rcases hr : c.evaluate p x with ⟨result, c'⟩
    rw [hr] at hd
    -- every case but the replay decides afresh, and would refuse
    cases evaluate_cases hr with
    | raised => cases hd
    | unidentified => cases hd
    | replayed hid hrec hadm hcached =>
      cases hd
      exact ⟨hrec, hadm, _, _, hid, hcached, ha⟩
    | refused _ hfresh =>
      cases hd
      exact absurd hfresh late
    | rejected _ _ _ hfresh =>
      cases hd
      exact absurd hfresh late
    | approved _ _ _ hfresh =>
      cases hd
      exact absurd hfresh late
  · rintro ⟨hrec, hadm, reviewId, d, hid, hcached, ha⟩
    exact ⟨d, evaluate_cached hid hrec hadm hcached, ha⟩

/-! ## How long a decision stays cached -/

/-- The operation stores a new decision: nobody objects to the call, its review
has none yet, and one is made. -/
def stores (p : PaperRiskPipeline F D) (c : PaperRiskCoordinator F) : Operation p.core → Bool
  | .evaluate x =>
    c.recoveryComplete && (c.admissionReasons p x).isEmpty
      && x.review.reviewId.any (fun reviewId => !c.decisions.contains reviewId)
      && (c.evaluateFresh p x).isOk
  | _ => false

/-- How many new decisions a run stores. -/
def storedIn (p : PaperRiskPipeline F D) : PaperRiskCoordinator F → List (Operation p.core) → Nat
  | _, [] => 0
  | c, op :: ops => (stores p c op).toNat + storedIn p (step p c op) ops

theorem stores_evaluate {p : PaperRiskPipeline F D} {c : PaperRiskCoordinator F}
    {x : EvaluateRequest F} :
    stores p c (.evaluate x) = true ↔ ∃ reviewId d, Stores p c x reviewId d := by
  simp only [stores, Bool.and_eq_true, List.isEmpty_iff, Option.any_eq_true, Bool.not_eq_true']
  constructor
  · rintro ⟨⟨⟨hrec, hadm⟩, reviewId, hid, hnew⟩, hok⟩
    cases hmade : c.evaluateFresh p x with
    | error e =>
      rw [hmade] at hok
      cases hok
    | ok d =>
      exact ⟨reviewId, d, hid, hrec, hadm, by simpa [OrderedDict.contains] using hnew, hmade⟩
  · rintro ⟨reviewId, d, h⟩
    refine ⟨⟨⟨h.recovered, h.admitted⟩, reviewId, h.review, ?_⟩, ?_⟩
    · rw [OrderedDict.contains, h.unseen]
      rfl
    · rw [h.made]
      rfl

/-- A decision made for a review without one, with nobody objecting, is stored. -/
theorem stores_of_fresh {p : PaperRiskPipeline F D} {c : PaperRiskCoordinator F}
    {x : EvaluateRequest F} {venue : VenueQualityV1 F} {reservations : PaperReservations F}
    {d : RiskTradeDecisionV1 F} {reviewId : String} (h : Fresh p c x venue reservations d)
    (hid : x.review.reviewId = some reviewId) (hadm : c.admissionReasons p x = [])
    (hnew : c.decisions.get? reviewId = none) :
    stores p c (.evaluate x) = true := by
  refine stores_evaluate.mpr ⟨reviewId, d, hid, h.recovered, hadm, hnew, ?_⟩
  unfold evaluateFresh
  rw [h.held]
  dsimp only
  rw [h.view]
  exact h.decided

/-- What an operation does to the cache, once durable recovery is loaded. -/
inductive CacheStep (p : PaperRiskPipeline F D) (c : PaperRiskCoordinator F) :
    Operation p.core → Prop
  /-- It leaves it alone. -/
  | same {op : Operation p.core} (hquiet : stores p c op = false)
      (h : (step p c op).decisions = c.decisions) : CacheStep p c op
  /-- A replay makes its decision the newest. -/
  | moved {x : EvaluateRequest F} {reviewId : String} (hid : x.review.reviewId = some reviewId)
      (hquiet : stores p c (.evaluate x) = false)
      (h : (step p c (.evaluate x)).decisions = c.decisions.moveToEnd reviewId) :
      CacheStep p c (.evaluate x)
  /-- A new decision is written, and the cache trimmed. -/
  | stored {x : EvaluateRequest F} {reviewId : String} {d : RiskTradeDecisionV1 F}
      (hid : x.review.reviewId = some reviewId) (hstores : stores p c (.evaluate x) = true)
      (hnew : reviewId ∉ c.decisions.keys)
      (h : (step p c (.evaluate x)).decisions =
        OrderedDict.trim (step p c (.evaluate x)).retainsReview p.settings.paperDecisionCacheSize
          ((c.decisions.set reviewId d).moveToEnd reviewId)) :
      CacheStep p c (.evaluate x)

theorem cacheStep_of_loaded {p : PaperRiskPipeline F D} (hids : IdentifiesApprovals p.core)
    {c : PaperRiskCoordinator F} (hloaded : c.durableRecoveryLoaded = true)
    (op : Operation p.core) : CacheStep p c op := by
  cases op with
  | applyRegimeAllocation allocation receivedAtMs => exact .same rfl (decisions_step rfl)
  | applyAccount snapshot => exact .same rfl (decisions_step rfl)
  | applyVenue venue => exact .same rfl (decisions_step rfl)
  | restoreReservations ds =>
    refine .same rfl ?_
    show (c.restoreReservations p (ds.map (·.val))).2.decisions = c.decisions
    unfold restoreReservations
    rw [if_pos hloaded]
  | evaluate x =>
    have hquiet : (∀ reviewId d, ¬Stores p c x reviewId d) → stores p c (.evaluate x) = false := by
      intro hnone
      cases hs : stores p c (.evaluate x) with
      | false => rfl
      | true =>
        obtain ⟨reviewId, d, h⟩ := stores_evaluate.mp hs
        exact absurd h (hnone reviewId d)
    have hnew : ∀ {reviewId}, c.decisions.get? reviewId = none → reviewId ∉ c.decisions.keys :=
      OrderedDict.get?_eq_none.mp
    rcases hr : c.evaluate p x with ⟨result, c'⟩
    have hstep : step p c (.evaluate x) = c' := congrArg Prod.snd hr
    have hreturned : ∀ reviewId d, Stores p c x reviewId d → result = .ok d := by
      intro reviewId d h
      rw [← (h.bounded hids).1, hr]
    cases evaluate_cases hr with
    | raised e =>
      exact .same (hquiet fun _ _ h => nomatch hreturned _ _ h) (congrArg (·.decisions) hstep)
    | refused hadm =>
      exact .same (hquiet fun _ _ h => hadm h.admitted) (congrArg (·.decisions) hstep)
    | replayed hid _ _ hcached =>
      refine .moved hid (hquiet fun reviewId d h => ?_) (congrArg (·.decisions) hstep)
      rw [Option.some.inj (h.review.symm.trans hid)] at h
      rw [h.unseen] at hcached
      cases hcached
    | @rejected _ _ _ d hid hadm hget hfresh =>
      refine .stored (d := d) hid (stores_of_fresh hfresh hid hadm hget) (hnew hget) ?_
      rw [hstep]
      rfl
    | @approved _ _ _ _ d hid hadm hget hfresh =>
      refine .stored (d := d) hid (stores_of_fresh hfresh hid hadm hget) (hnew hget) ?_
      rw [hstep]
      rfl
    | unidentified hid hadm hget hfresh happ htrade =>
      have hvalid := (PaperRiskPipeline.evaluate_decidesOn hfresh.decided).validated
      exact absurd (hids _ hvalid happ) (by rw [htrade]; nofun)

/-- The run stores no more new decisions than the cache has room for. -/
def HasRoom (p : PaperRiskPipeline F D) (c : PaperRiskCoordinator F)
    (ops : List (Operation p.core)) : Prop :=
  c.decisions.size + storedIn p c ops ≤ p.settings.paperDecisionCacheSize

/-- One step with room for what it stores drops nothing. -/
theorem cached_step {p : PaperRiskPipeline F D} (hids : IdentifiesApprovals p.core)
    {c : PaperRiskCoordinator F} (hloaded : c.durableRecoveryLoaded = true) {reviewId : String}
    {d : RiskTradeDecisionV1 F} (hcached : c.decisions.get? reviewId = some d)
    (op : Operation p.core)
    (hroom : c.decisions.size + (stores p c op).toNat ≤ p.settings.paperDecisionCacheSize) :
    (step p c op).decisions.get? reviewId = some d ∧
      (step p c op).decisions.size ≤ c.decisions.size + (stores p c op).toNat := by
  cases cacheStep_of_loaded hids hloaded op with
  | same hquiet h =>
    rw [h]
    exact ⟨hcached, Nat.le_add_right _ _⟩
  | moved hid hquiet h =>
    rw [h, OrderedDict.get?_moveToEnd, OrderedDict.size_moveToEnd]
    exact ⟨hcached, Nat.le_add_right _ _⟩
  | @stored x other e hid hstores hnew h =>
    have hsize : ((c.decisions.set other e).moveToEnd other).size = c.decisions.size + 1 := by
      rw [OrderedDict.size_moveToEnd, OrderedDict.size_set_new hnew]
    rw [hstores, Bool.toNat_true, ← hsize] at hroom ⊢
    have hkept : (step p c (.evaluate x)).decisions.items
        = ((c.decisions.set other e).moveToEnd other).items := by
      rw [h]
      exact OrderedDict.trim_of_le hroom
    have hne : other ≠ reviewId := by
      rintro rfl
      exact hnew (OrderedDict.get?_isSome.mp (by rw [hcached]; rfl))
    constructor
    · rw [OrderedDict.get?_eq_some, hkept, ← OrderedDict.get?_eq_some, OrderedDict.get?_moveToEnd,
        OrderedDict.get?_set_ne _ _ hne]
      exact hcached
    · rw [OrderedDict.size, hkept]
      exact Nat.le_refl _

/-- **While there is room, nothing leaves the cache**, reserved or not. -/
theorem cached_run {p : PaperRiskPipeline F D} (hids : IdentifiesApprovals p.core)
    {reviewId : String} {d : RiskTradeDecisionV1 F} :
    ∀ (ops : List (Operation p.core)) {c : PaperRiskCoordinator F},
      c.durableRecoveryLoaded = true → c.decisions.get? reviewId = some d → HasRoom p c ops →
      (run (step p) c ops).decisions.get? reviewId = some d
  | [], _, _, hcached, _ => hcached
  | op :: ops, c, hloaded, hcached, hroom => by
    rw [HasRoom, storedIn] at hroom
    obtain ⟨hnext, hsize⟩ := cached_step hids hloaded hcached op (by omega)
    refine cached_run hids ops (loaded_stays hloaded op) hnext ?_
    rw [HasRoom]
    omega

/-- Once recovery is loaded, what is reserved was reserved before, or the call
that reserves it is about its review. -/
theorem reserved_of_step {p : PaperRiskPipeline F D} {c : PaperRiskCoordinator F}
    (hloaded : c.durableRecoveryLoaded = true) {op : Operation p.core} {d : RiskTradeDecisionV1 F}
    (hd : d ∈ (step p c op).reserved) :
    d ∈ c.reserved ∨ ∃ x, op = .evaluate x ∧ d.review = x.review := by
  cases op with
  | applyVenue venue =>
    change d ∈ (c.applyVenue venue).2.reserved at hd
    rw [applyVenue_frame] at hd
    exact Or.inl hd
  | applyRegimeAllocation allocation receivedAtMs =>
    change d ∈ (c.applyRegimeAllocation p allocation receivedAtMs).2.reserved at hd
    rcases hr : c.applyRegimeAllocation p allocation receivedAtMs with ⟨r, c'⟩
    rw [hr] at hd
    left
    cases applyRegimeAllocation_cases hr <;> exact hd
  | applyAccount snapshot =>
    change d ∈ (c.applyAccount p snapshot).2.reserved at hd
    rcases hr : c.applyAccount p snapshot with ⟨r, c'⟩
    rw [hr] at hd
    left
    cases applyAccount_cases hr with
    | reconciled _ _ _ hrec =>
      have hadopted : d ∈ (c.adopt p snapshot).reserved := reserved_of_reconcile hrec hd
      exact hadopted
    | _ => exact hd
  | restoreReservations ds =>
    change d ∈ (c.restoreReservations p (ds.map (·.val))).2.reserved at hd
    unfold restoreReservations at hd
    rw [if_pos hloaded] at hd
    exact Or.inl hd
  | evaluate x =>
    change d ∈ (c.evaluate p x).2.reserved at hd
    rcases hr : c.evaluate p x with ⟨r, c'⟩
    rw [hr] at hd
    cases evaluate_cases hr with
    | @approved _ _ _ _ e _ _ _ hfresh =>
      obtain ⟨tradeId, held, hget, rfl⟩ := mem_reserved.mp hd
      change (c.reservations.set _ _).get? tradeId = some held at hget
      rw [OrderedDict.get?_set] at hget
      split at hget
      next =>
        cases hget
        exact Or.inr ⟨x, rfl, (PaperRiskPipeline.evaluate_decidesOn hfresh.decided).review⟩
      next => exact Or.inl (mem_reserved.mpr ⟨tradeId, held, hget, rfl⟩)
    | _ => exact Or.inl hd

/-- Nothing reserves the review. Its decision, if the cache still has one, is
older than `n` others, and once there are any the cache is within its size. -/
structure Fading (p : PaperRiskPipeline F D) (c : PaperRiskCoordinator F) (reviewId : String)
    (n : Nat) : Prop where
  loaded : c.durableRecoveryLoaded = true
  unretained : c.retainsReview reviewId = false
  behind : reviewId ∈ c.decisions.keys → c.decisions.Behind reviewId n ∧
    (n = 0 ∨ c.decisions.size ≤ p.settings.paperDecisionCacheSize)

omit [DecidableEq F] [PyDecimal D] [Spelling F D] in
/-- Behind a full cache's worth of others there is no place. -/
theorem Fading.evicted {p : PaperRiskPipeline F D} {c : PaperRiskCoordinator F} {reviewId : String}
    {n : Nat} (h : Fading p c reviewId n) (hn : p.settings.paperDecisionCacheSize ≤ n) :
    reviewId ∉ c.decisions.keys := by
  intro hk
  obtain ⟨hbehind, hbounded⟩ := h.behind hk
  have hlt := hbehind.lt_size
  have hpos := p.settings.decisionCacheSize_pos
  omega

/-- **One step of other reviews**: what it stores is newer. -/
theorem fading_step {p : PaperRiskPipeline F D} (hids : IdentifiesApprovals p.core)
    {c : PaperRiskCoordinator F} {reviewId : String} {n : Nat} (h : Fading p c reviewId n)
    {op : Operation p.core}
    (hother : ∀ x, op = .evaluate x → x.review.reviewId ≠ some reviewId) :
    Fading p (step p c op) reviewId (n + (stores p c op).toNat) := by
  have hunretained : (step p c op).retainsReview reviewId = false := by
    cases hr : (step p c op).retainsReview reviewId with
    | false => rfl
    | true =>
      obtain ⟨d, hd, hreview⟩ := List.any_eq_true.mp hr
      rcases reserved_of_step h.loaded hd with hbefore | ⟨x, he, hx⟩
      · rw [← retainsReview_of_reserved hbefore (beq_iff_eq.mp hreview)]
        exact h.unretained
      · exact absurd (hx ▸ beq_iff_eq.mp hreview) (hother x he)
  refine ⟨loaded_stays h.loaded op, hunretained, ?_⟩
  cases cacheStep_of_loaded hids h.loaded op with
  | same hquiet he =>
    rw [he, hquiet]
    exact h.behind
  | @moved x other hid hquiet he =>
    have hne : reviewId ≠ other := fun hr => hother x rfl (hr ▸ hid)
    have hheld : reviewId ∈ (c.decisions.moveToEnd other).keys → reviewId ∈ c.decisions.keys := by
      rw [← OrderedDict.get?_isSome, ← OrderedDict.get?_isSome, OrderedDict.get?_moveToEnd]
      exact id
    rw [he, hquiet, OrderedDict.size_moveToEnd]
    intro hk
    obtain ⟨hbehind, hbounded⟩ := h.behind (hheld hk)
    exact ⟨hbehind.moveToEnd hne, hbounded⟩
  | @stored x other d hid hstores hnew he =>
    have hne : reviewId ≠ other := fun hr => hother x rfl (hr ▸ hid)
    rw [he, hstores, Bool.toNat_true]
    -- what survives the eviction was there before, and is one further behind
    intro hk
    obtain ⟨e, hget⟩ := Option.isSome_iff_exists.mp (OrderedDict.get?_isSome.mpr hk)
    have hget := OrderedDict.get?_of_trim hget
    rw [OrderedDict.get?_moveToEnd, OrderedDict.get?_set_ne _ _ hne.symm] at hget
    have hheld : reviewId ∈ c.decisions.keys := OrderedDict.get?_isSome.mp (by rw [hget]; rfl)
    have hbehind := ((h.behind hheld).1.set_new (w := d) hnew).moveToEnd hne
    obtain ⟨hafter, hsize⟩ := hbehind.trim hunretained hk
    exact ⟨hafter, Or.inr hsize⟩

/-- A run over other reviews leaves the decision behind everything it stores. -/
theorem fading_run {p : PaperRiskPipeline F D} (hids : IdentifiesApprovals p.core)
    {reviewId : String} : ∀ (ops : List (Operation p.core)) {c : PaperRiskCoordinator F} {n : Nat},
      Fading p c reviewId n → (∀ x, .evaluate x ∈ ops → x.review.reviewId ≠ some reviewId) →
      Fading p (run (step p) c ops) reviewId (n + storedIn p c ops)
  | [], _, _, h, _ => h
  | op :: ops, c, n, h, hother => by
    have hstep := fading_step hids h fun x he => hother x (he ▸ List.mem_cons_self)
    rw [storedIn, ← Nat.add_assoc]
    exact fading_run hids ops hstep fun x hx => hother x (List.mem_cons_of_mem _ hx)

/-- The run reviews other candidates only, and fills the cache with them. -/
structure Displaces (p : PaperRiskPipeline F D) (c : PaperRiskCoordinator F) (reviewId : String)
    (ops : List (Operation p.core)) : Prop where
  loaded : c.durableRecoveryLoaded = true
  unretained : c.retainsReview reviewId = false
  others : ∀ x, .evaluate x ∈ ops → x.review.reviewId ≠ some reviewId
  enough : p.settings.paperDecisionCacheSize ≤ storedIn p c ops

/-- **After a cache size of other decisions, the review's own is gone.** -/
theorem Displaces.evicted {p : PaperRiskPipeline F D} (hids : IdentifiesApprovals p.core)
    {c : PaperRiskCoordinator F} {reviewId : String} {ops : List (Operation p.core)}
    (h : Displaces p c reviewId ops) :
    (run (step p) c ops).decisions.get? reviewId = none := by
  have hstart : Fading p c reviewId 0 :=
    ⟨h.loaded, h.unretained, fun hk => ⟨OrderedDict.behind_zero hk, Or.inl rfl⟩⟩
  have hend := fading_run hids ops hstart h.others
  refine OrderedDict.get?_eq_none.mpr (hend.evicted ?_)
  rw [Nat.zero_add]
  exact h.enough

/-- The run made or restored the approval, and has held it since. -/
def HeldSince (p : PaperRiskPipeline F D) (before : List (Operation p.core)) (reviewId : String)
    (d : RiskTradeDecisionV1 F) : Prop :=
  ∃ start op held, before = start ++ op :: held ∧
    Installs p (run (step p) init start) reviewId d op ∧
    ∀ mid rest, held = mid ++ rest → d ∈ (run (step p) init (start ++ op :: mid)).reserved

/-- What the run has held, the cache answers. -/
theorem HeldSince.answers {p : PaperRiskPipeline F D} {before : List (Operation p.core)}
    {reviewId : String} {d : RiskTradeDecisionV1 F} (h : HeldSince p before reviewId d) :
    (run (step p) init before).Answers reviewId d ∧
      (run (step p) init before).durableRecoveryLoaded = true := by
  obtain ⟨start, op, held, rfl, hinstalls, hheld⟩ := h
  have hstate : ∀ mid, run (step p) init (start ++ op :: mid) =
      run (step p) (step p (run (step p) init start) op) mid := fun mid => by
    rw [run_append, run_cons]
  have hfirst := hstate [] ▸ hheld [] held rfl
  obtain ⟨hans, hloaded⟩ := hinstalls.answers hfirst
  have hstays : ∀ (c : PaperRiskCoordinator F) op, c.durableRecoveryLoaded = true →
      (step p c op).durableRecoveryLoaded = true := fun _ op hc => loaded_stays hc op
  rw [hstate]
  exact ⟨answers_run held hans hloaded fun mid rest he => hstate mid ▸ hheld mid rest he,
    run_invariant hstays held hloaded⟩

/-- A release takes the reservation, not the answer. -/
theorem ReleasesUnseen.answers {p : PaperRiskPipeline F D} {c : PaperRiskCoordinator F}
    {tradeId reviewId : String} {r : Reservation F} {op : Operation p.core}
    (h : ReleasesUnseen p c tradeId r op) (hans : c.Answers reviewId r.decision)
    (hloaded : c.durableRecoveryLoaded = true) : (step p c op).Answers reviewId r.decision := by
  cases h with
  | account => exact hans.update rfl
  | @restore ds =>
    show (c.restoreReservations p (ds.map (·.val))).2.Answers reviewId r.decision
    unfold restoreReservations
    rw [if_pos hloaded]
    exact hans

/-- The run evaluates the approval's review past its entry window, in the state
`c` and by the call `x`. -/
def EvaluatedLate (p : PaperRiskPipeline F D) (c : PaperRiskCoordinator F)
    (after : List (Operation p.core)) (d : RiskTradeDecisionV1 F) (c' : PaperRiskCoordinator F)
    (x : EvaluateRequest F) : Prop :=
  ∃ mid rest, after = mid ++ .evaluate x :: rest ∧ run (step p) c mid = c' ∧
    x.review = d.review ∧ d.intent.entryExpiresTsMs < x.decidedAtMs

/-- **When a released approval is not handed out again**: in a run after its
release, no evaluation of its review past the entry window returns an approval
if and only if none of them finds one of the review still cached, with recovery
complete and nobody objecting.

How long it is still cached depends on how much is decided after the release.
While the cache has room for the decisions stored since, the approval is handed
out to whoever asks; once other reviews have stored as many as the cache holds,
and nothing else reserves the review, it is not. -/
theorem released_handed_out_iff (p : PaperRiskPipeline F D)
    (hembeds : EmbedsReviewedIntent p.core) (before : List (Operation p.core))
    (op : Operation p.core) (tradeId : String) (r : Reservation F)
    (hreleased : ReleasesUnseen p (run (step p) init before) tradeId r op)
    (after : List (Operation p.core)) :
    ((∀ c x, EvaluatedLate p (step p (run (step p) init before) op) after r.decision c x →
      ∀ d, (c.evaluate p x).1 = .ok d → d.approved = false) ↔
    ∀ c x, EvaluatedLate p (step p (run (step p) init before) op) after r.decision c x →
      ¬ReplaysApproval p c x) ∧
    ∀ mid c x reviewId, c = run (step p) (step p (run (step p) init before) op) mid →
      x.review = r.decision.review → r.decision.intent.entryExpiresTsMs < x.decidedAtMs →
      x.review.reviewId = some reviewId → IdentifiesApprovals p.core →
      (HeldSince p before reviewId r.decision →
        HasRoom p (step p (run (step p) init before) op) mid →
        c.recoveryComplete = true → c.admissionReasons p x = [] →
        (c.evaluate p x).1 = .ok r.decision) ∧
      (Displaces p (step p (run (step p) init before) op) reviewId mid →
        ∀ d, (c.evaluate p x).1 = .ok d → d.approved = false) := by
  have hreached : Reached p (run (step p) init before) := ⟨before, rfl⟩
  have hintent := hembeds r.decision (hreleased.validated hreached.reserved)
  have hexpired : ∀ {x : EvaluateRequest F}, x.review = r.decision.review →
      r.decision.intent.entryExpiresTsMs < x.decidedAtMs →
      x.review.intent.entryExpiresTsMs < x.decidedAtMs := by
    intro x hreview hlate
    rw [hreview, ← hintent]
    exact hlate
  have hrefuses : ∀ {c : PaperRiskCoordinator F} {x : EvaluateRequest F},
      x.review = r.decision.review → r.decision.intent.entryExpiresTsMs < x.decidedAtMs →
      ((∀ d, (c.evaluate p x).1 = .ok d → d.approved = false) ↔ ¬ReplaysApproval p c x) := by
    intro c x hreview hlate
    rw [← approved_late_iff (hexpired hreview hlate)]
    constructor
    · rintro h ⟨d, hd, ha⟩
      rw [h d hd] at ha
      cases ha
    · intro h d hd
      cases ha : d.approved with
      | false => rfl
      | true => exact absurd ⟨d, hd, ha⟩ h
  constructor
  · refine forall_congr' fun c => forall_congr' fun x => forall_congr' fun heval => ?_
    obtain ⟨_, _, _, _, hreview, hlate⟩ := heval
    exact hrefuses hreview hlate
  · rintro mid c x reviewId rfl hreview hlate hid hids
    constructor
    · intro hheld hroom hrec hadm
      obtain ⟨hans, hloaded⟩ := hheld.answers
      have hcached := cached_run hids mid (loaded_stays hloaded op)
        (hreleased.answers hans hloaded).cached hroom
      exact evaluate_cached hid hrec hadm hcached
    · intro hdisplaced
      refine (hrefuses hreview hlate).mpr ?_
      rintro ⟨_, _, other, d, hother, hcached, _⟩
      rw [← Option.some.inj (hid.symm.trans hother), hdisplaced.evicted hids] at hcached
      cases hcached

end PaperRiskCoordinator

/-! ## Two redeliveries

The first approval of the market expires at 120000 and no snapshot ever shows
its trade; a snapshot captured at 120050 releases it, and the second idea takes
the symbol. The review of the first idea is delivered again. -/

namespace Scenario

open PaperRiskCoordinator

theorem market_embedsReviewedIntent : EmbedsReviewedIntent market.core := by
  intro d hd
  obtain ⟨i, _, habout, _⟩ := validated_about hd
  simp only [Idea.about, Bool.and_eq_true, decide_eq_true_eq, beq_iff_eq] at habout
  exact habout.1.1.trans (congrArg (·.intent) habout.1.2).symm

/-- The first approval is released, and the second idea reviewed. -/
def releasing : List (Operation market.core) :=
  [.applyAccount (account 2 120050), .applyVenue (venue "BTCUSD:DEV" 120150),
    .evaluate (request ideaB.review 120200)]

theorem account_2_expiredUnseen {p : PaperRiskPipeline Rat Rat} {r : Reservation Rat}
    (hauth : accountIsAuthoritative p (account 2 120050) = true) (hseq : r.reconciliationSeq < 2)
    (hlate : r.decision.intent.entryExpiresTsMs < 120050) :
    ExpiredUnseen p (account 2 120050) "trade-a" r :=
  ⟨hauth, ⟨fun _ hq => absurd hq List.not_mem_nil, fun _ ho => absurd ho List.not_mem_nil⟩, hseq,
    hlate⟩

/-- **A released approval is handed out again**: with room in the cache, the
redelivered review is answered by the approval of the first idea, which nothing
reserves and no snapshot has shown, next to the approval of the second idea on
the same symbol. -/
theorem released_approval_replayed :
    ReleasesUnseen market approved "trade-a" heldA (.applyAccount (account 2 120050)) ∧
    (run (step market) approved releasing).reservations.get? "trade-a" = none ∧
    ((run (step market) approved releasing).reservations.get? "trade-b").any
      (fun r => r.decision.approved && r.decision.venueSymbol == heldA.decision.venueSymbol)
        = true ∧
    ((run (step market) approved releasing).evaluate market (request ideaA.review 120300)).1
      = .ok heldA.decision ∧
    heldA.decision.approved = true ∧ heldA.decision.review = ideaA.review ∧
    heldA.decision.intent.entryExpiresTsMs < 120300 := by
  refine ⟨?_, ?_, ?_, returned_of_made ?_, ?_, ?_, ?_⟩
  · exact .account (Option.some_get _).symm
      (account_2_expiredUnseen (by decide +kernel) (by decide +kernel) (by decide +kernel))
      (by decide +kernel)
  all_goals decide +kernel

/-! With room for one decision, the second idea evicts the first. -/

/-- The reservation of the first approval, in the crowded market. -/
def crowdedHeld : Reservation Rat :=
  ((run (step crowded) init
    (crowdedFacts ++ [.evaluate (request ideaA.review 60400)])).reservations.get? "trade-a").get
    (by decide +kernel)

/-- The crowded market once the first approval is released. -/
def crowdedReleased : PaperRiskCoordinator Rat :=
  step crowded (run (step crowded) init (crowdedFacts ++ [.evaluate (request ideaA.review 60400)]))
    (.applyAccount (account 2 120050))

/-- The second idea is reviewed. -/
def crowding : List (Operation crowded.core) :=
  [.applyVenue (venue "BTCUSD:DEV" 120150), .evaluate (request ideaB.review 120200)]

/-- What follows the release. -/
def redelivering : List (Operation crowded.core) :=
  [.applyVenue (venue "BTCUSD:DEV" 120150), .evaluate (request ideaB.review 120200),
    .evaluate (request ideaA.review 120300)]

theorem crowded_heldSince :
    HeldSince crowded (crowdedFacts ++ [.evaluate (request ideaA.review 60400)]) "review-a"
      crowdedHeld.decision := by
  have hsame : crowdedHeld.decision = crowdedApproval := by decide +kernel
  rw [hsame]
  refine ⟨crowdedFacts, _, [], rfl, crowdedApproval_installed, ?_⟩
  intro mid rest he
  obtain ⟨rfl, _⟩ := List.append_eq_nil_iff.mp he.symm
  decide +kernel

/-- One decision is a cache size of them. -/
theorem crowding_displaces : Displaces crowded crowdedReleased "review-a" crowding := by
  refine ⟨by decide +kernel, by decide +kernel, ?_, by decide +kernel⟩
  intro x hx
  have hsecond : x = request ideaB.review 120200 := by simpa [crowding] using hx
  rw [hsecond]
  decide +kernel

/-- **Handed out, and then not**: redelivered before the second idea is
reviewed, the first one's review is answered by the released approval; after
it, by no approval. -/
theorem crowded_not_handed_out :
    ReleasesUnseen crowded
      (run (step crowded) init (crowdedFacts ++ [.evaluate (request ideaA.review 60400)]))
      "trade-a" crowdedHeld (.applyAccount (account 2 120050)) ∧
    (∀ c x, EvaluatedLate crowded crowdedReleased redelivering crowdedHeld.decision c x →
      ∀ d, (c.evaluate crowded x).1 = .ok d → d.approved = false) ∧
    (crowdedReleased.evaluate crowded (request ideaA.review 120300)).1
      = .ok crowdedHeld.decision ∧
    ∀ d, ((run (step crowded) crowdedReleased crowding).evaluate crowded
        (request ideaA.review 120300)).1 = .ok d → d.approved = false := by
  have hreleased : ReleasesUnseen crowded
      (run (step crowded) init (crowdedFacts ++ [.evaluate (request ideaA.review 60400)]))
      "trade-a" crowdedHeld (.applyAccount (account 2 120050)) :=
    .account (Option.some_get _).symm
      (account_2_expiredUnseen (by decide +kernel) (by decide +kernel) (by decide +kernel))
      (by decide +kernel)
  obtain ⟨hiff, hrun⟩ := released_handed_out_iff crowded market_embedsReviewedIntent
    (crowdedFacts ++ [.evaluate (request ideaA.review 60400)]) (.applyAccount (account 2 120050))
    "trade-a" crowdedHeld hreleased redelivering
  refine ⟨hreleased, hiff.mpr ?_, ?_, ?_⟩
  · rintro c x ⟨mid, rest, he, rfl, hreview, _⟩ ⟨_, _, reviewId, d, hid, hcached, _⟩
    -- the one evaluation of the review is the last call, after the eviction
    match mid, he with
    | [], he => cases he
    | [_], he =>
      cases he
      exact absurd hreview (by decide +kernel)
    | [_, _], he =>
      cases he
      have hname : reviewId = "review-a" := (Option.some.inj hid).symm
      have hevicted := crowding_displaces.evicted crowded_identifiesApprovals
      rw [← hname] at hevicted
      exact absurd (hcached.symm.trans hevicted) nofun
    | [_, _, _], he => cases he
    | _ :: _ :: _ :: _ :: _, he => cases he
  · exact (hrun [] _ (request ideaA.review 120300) "review-a" rfl (by decide +kernel)
      (by decide +kernel) rfl crowded_identifiesApprovals).1 crowded_heldSince
      (by unfold HasRoom; decide +kernel) (by decide +kernel) (by decide +kernel)
  · exact (hrun crowding _ (request ideaA.review 120300) "review-a" rfl (by decide +kernel)
      (by decide +kernel) rfl crowded_identifiesApprovals).2 crowding_displaces

end Scenario

end KairosRisk
