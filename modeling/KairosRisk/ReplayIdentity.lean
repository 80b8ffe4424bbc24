import KairosRisk.DecisionCache
import KairosRisk.Recovery

/-!
# Replay identity under cache pressure

The decision cache is an LRU whose entries are pinned while their approval is
reserved: a review must never get a second decision as long as the first one
may still become exposure. What carries it is a fact about two maps at once,
that the cache answers a review by the decision reserved for it, and one step
lemma (`answers_step`): eviction spares a retained review, a replay only
reorders, and no evaluation stores a decision for a review that already has
one.

`replay_identity` is the law over whole runs. A decision becomes the one to
replay when `evaluate` newly approves it or a completed restore installs it.
-/

namespace KairosRisk

open PyLib

variable {F D : Type}

/-- The contract assigns a trade id to every approval. -/
def IdentifiesApprovals (core : KairosCore F) : Prop :=
  ∀ d : RiskTradeDecisionV1 F, core.Validated d → d.approved = true → d.tradeId.isSome = true

namespace PaperRiskCoordinator

/-- The cache answers the review by `d`, an approval of that review. -/
structure Answers (c : PaperRiskCoordinator F) (reviewId : String) (d : RiskTradeDecisionV1 F) :
    Prop where
  cached : c.decisions.get? reviewId = some d
  review : d.review.reviewId = some reviewId

/-- A reserved approval retains its review. -/
theorem retainsReview_of_reserved {c : PaperRiskCoordinator F} {reviewId : String}
    {d : RiskTradeDecisionV1 F} (hd : d ∈ c.reserved)
    (hreview : d.review.reviewId = some reviewId) :
    c.retainsReview reviewId = true :=
  List.any_eq_true.mpr ⟨d, hd, by simp [hreview]⟩

/-- A decision cached for another review displaces nothing. -/
theorem Answers.cache {c : PaperRiskCoordinator F} {reviewId other : String}
    {d e : RiskTradeDecisionV1 F} (h : c.Answers reviewId d) (hne : other ≠ reviewId) :
    (c.cache other e).Answers reviewId d := by
  refine ⟨?_, h.review⟩
  rw [PaperRiskCoordinator.cache, OrderedDict.get?_moveToEnd, OrderedDict.get?_set_ne _ _ hne]
  exact h.cached

/-- A reservation displaces no answer. -/
theorem Answers.reserve {c : PaperRiskCoordinator F} {reviewId tradeId : String}
    {d e : RiskTradeDecisionV1 F} (h : c.Answers reviewId d) :
    (c.reserve tradeId e).Answers reviewId d := ⟨h.cached, h.review⟩

variable [PyFloat F]

/-- Eviction leaves the answer of a reserved approval. -/
theorem Answers.trim {c : PaperRiskCoordinator F} {p : PaperRiskPipeline F D} {reviewId : String}
    {d : RiskTradeDecisionV1 F} (h : c.Answers reviewId d) (hd : d ∈ c.reserved) :
    (c.trimDecisionCache p).Answers reviewId d :=
  ⟨OrderedDict.get?_trim_of_retained (retainsReview_of_reserved hd h.review) h.cached, h.review⟩

variable [DecidableEq F] [PyDecimal D] [Spelling F D]

/-! ## One step -/

/-- Facts leave the answer alone. -/
theorem Answers.update {p : PaperRiskPipeline F D} {c : PaperRiskCoordinator F} {reviewId : String}
    {d : RiskTradeDecisionV1 F} (h : c.Answers reviewId d) {op : Operation p.core}
    (hop : op.isUpdate = true) : (step p c op).Answers reviewId d :=
  ⟨(congrArg (·.get? reviewId) (decisions_step hop)).trans h.cached, h.review⟩

/-- **One step keeps the answer** for a decision that is still reserved after it. -/
theorem answers_step {p : PaperRiskPipeline F D} {c : PaperRiskCoordinator F} {reviewId : String}
    {d : RiskTradeDecisionV1 F} (h : c.Answers reviewId d)
    (hloaded : c.durableRecoveryLoaded = true) (op : Operation p.core)
    (hheld : d ∈ (step p c op).reserved) :
    (step p c op).Answers reviewId d := by
  cases op with
  | applyRegimeAllocation allocation receivedAtMs => exact h.update rfl
  | applyAccount snapshot => exact h.update rfl
  | applyVenue venue => exact h.update rfl
  | restoreReservations decisions =>
    show (c.restoreReservations p (decisions.map (·.val))).2.Answers reviewId d
    unfold restoreReservations
    rw [if_pos hloaded]
    exact h
  | evaluate request =>
    change d ∈ (c.evaluate p request).2.reserved at hheld
    show (c.evaluate p request).2.Answers reviewId d
    rcases hr : c.evaluate p request with ⟨r, c'⟩
    rw [hr] at hheld
    -- a review that already has its decision is not the one being stored
    have hother : ∀ other, c.decisions.get? other = none → other ≠ reviewId := by
      intro other hnew he
      rw [he, h.cached] at hnew
      cases hnew
    cases evaluate_cases hr with
    | raised => exact h
    | refused => exact h
    | replayed => exact ⟨by rw [OrderedDict.get?_moveToEnd]; exact h.cached, h.review⟩
    | rejected _ _ hnew => exact (h.cache (hother _ hnew)).trim hheld
    | approved _ _ hnew => exact (h.cache (hother _ hnew)).reserve.trim hheld
    | unidentified _ _ hnew => exact h.cache (hother _ hnew)

/-- Durable recovery is loaded once and for all. -/
theorem loaded_stays {p : PaperRiskPipeline F D} {c : PaperRiskCoordinator F}
    (h : c.durableRecoveryLoaded = true) (op : Operation p.core) :
    (step p c op).durableRecoveryLoaded = true := by
  cases op with
  | restoreReservations decisions =>
    show (c.restoreReservations p (decisions.map (·.val))).2.durableRecoveryLoaded = true
    unfold restoreReservations
    rw [if_pos h]
    exact h
  | _ =>
    rw [loaded_step]
    · exact h
    · intro ds he
      cases he

/-- **A run keeps the answer** of a decision that stays reserved along it. -/
theorem answers_run {p : PaperRiskPipeline F D} {reviewId : String} {d : RiskTradeDecisionV1 F} :
    ∀ (ops : List (Operation p.core)) {c : PaperRiskCoordinator F},
      c.Answers reviewId d → c.durableRecoveryLoaded = true →
      (∀ before after, ops = before ++ after → d ∈ (run (step p) c before).reserved) →
      (run (step p) c ops).Answers reviewId d
  | [], _, h, _, _ => h
  | op :: ops, c, h, hloaded, hheld => by
    have hone : d ∈ (step p c op).reserved := hheld [op] ops rfl
    refine answers_run ops (answers_step h hloaded op hone) (loaded_stays hloaded op) ?_
    intro before after he
    exact hheld (op :: before) after (congrArg (List.cons op) he)

/-! ## Where the answer comes from -/

/-- The operation makes `d` the decision of the review: a new approval, or a
durable approval restored from a list that names no review twice. -/
inductive Installs (p : PaperRiskPipeline F D) (c : PaperRiskCoordinator F) (reviewId : String)
    (d : RiskTradeDecisionV1 F) : Operation p.core → Prop
  | approved {x : EvaluateRequest F} (hid : x.review.reviewId = some reviewId)
      (h : NewlyApproves p c x d) : Installs p c reviewId d (.evaluate x)
  | restored {ds : List (DurableDecision p.core)} (hid : d.review.reviewId = some reviewId)
      (hmem : d ∈ ds.map (·.val)) (hnodup : (ds.map (·.val.review.reviewId)).Nodup)
      (hbefore : c.durableRecoveryLoaded = false)
      (hafter : (step p c (.restoreReservations ds)).durableRecoveryLoaded = true) :
      Installs p c reviewId d (.restoreReservations ds)

omit [DecidableEq F] [PyDecimal D] [Spelling F D] in
/-- Restoring other reviews leaves a review's decision alone. -/
theorem restoreLoop_other {p : PaperRiskPipeline F D} {reviewId : String} :
    ∀ (ds : List (RiskTradeDecisionV1 F)) (c : PaperRiskCoordinator F),
      (∀ e ∈ ds, p.core.Validated e) → (∀ e ∈ ds, e.review.reviewId ≠ some reviewId) →
      (restoreLoop p ds c).2.decisions.get? reviewId = c.decisions.get? reviewId
  | [], _, _, _ => rfl
  | e :: ds, c, hv, hother => by
    unfold restoreLoop
    split
    next => rfl
    next tradeId eid hkeys =>
      obtain ⟨_, hreview, _⟩ := recoveredKeys_ok (hv e (List.mem_cons_self ..)) hkeys
      have hne : eid ≠ reviewId := fun he => hother e (List.mem_cons_self ..) (he ▸ hreview)
      rw [restoreLoop_other ds _ (fun d hd => hv d (List.mem_cons_of_mem _ hd))
        (fun d hd => hother d (List.mem_cons_of_mem _ hd))]
      exact OrderedDict.get?_set_ne _ _ hne

omit [DecidableEq F] [PyDecimal D] [Spelling F D] in
/-- A restore that returned caches each decision it was given under its review,
when no two share one. -/
theorem restoreLoop_caches {p : PaperRiskPipeline F D} {reviewId : String}
    {d : RiskTradeDecisionV1 F} (hid : d.review.reviewId = some reviewId) :
    ∀ (ds : List (RiskTradeDecisionV1 F)) (c : PaperRiskCoordinator F),
      (∀ e ∈ ds, p.core.Validated e) → (ds.map (·.review.reviewId)).Nodup → d ∈ ds →
      (restoreLoop p ds c).1 = .ok () →
      (restoreLoop p ds c).2.decisions.get? reviewId = some d
  | [], _, _, _, hd, _ => absurd hd (List.not_mem_nil)
  | e :: ds, c, hv, hn, hd, hok => by
    have hv' : ∀ d ∈ ds, p.core.Validated d := fun d hd => hv d (List.mem_cons_of_mem _ hd)
    rw [List.map_cons, List.nodup_cons] at hn
    unfold restoreLoop at hok ⊢
    split at hok
    next => cases hok
    next tradeId eid hkeys =>
      obtain ⟨_, hreview, _⟩ := recoveredKeys_ok (hv e (List.mem_cons_self ..)) hkeys
      rcases List.mem_cons.mp hd with rfl | hd
      · -- the rest of the list is about other reviews
        rw [hid] at hreview
        cases hreview
        have hother : ∀ e ∈ ds, e.review.reviewId ≠ some reviewId := fun e he heq =>
          hn.1 (hid.trans heq.symm ▸ List.mem_map.mpr ⟨e, he, rfl⟩)
        rw [restoreLoop_other ds _ hv' hother]
        exact OrderedDict.get?_set_self ..
      · exact restoreLoop_caches hid ds _ hv' hn.2 hd hok

omit [PyFloat F] [PyDecimal D] [Spelling F D] in
/-- Reconciliation reserves nothing. -/
theorem reserved_of_reconcile {c c' : PaperRiskCoordinator F} {snapshot : AccountSnapshotV2 F}
    {d : RiskTradeDecisionV1 F} (h : c.reconcileReservations snapshot = .ok c')
    (hd : d ∈ c'.reserved) : d ∈ c.reserved := by
  obtain ⟨tradeId, r, hr, he⟩ := mem_reserved.mp hd
  exact mem_reserved.mpr ⟨tradeId, r, (((reconcileReservations_ok h).2.1 tradeId r).mp hr).1, he⟩

/-- What an operation installs, the cache answers, as long as it is reserved. -/
theorem Installs.answers {p : PaperRiskPipeline F D} {c : PaperRiskCoordinator F}
    {reviewId : String} {d : RiskTradeDecisionV1 F} {op : Operation p.core}
    (h : Installs p c reviewId d op) (hheld : d ∈ (step p c op).reserved) :
    (step p c op).Answers reviewId d ∧ (step p c op).durableRecoveryLoaded = true := by
  cases h with
  | approved hid hnew =>
    rename_i x
    change d ∈ (c.evaluate p x).2.reserved at hheld
    show (c.evaluate p x).2.Answers reviewId d ∧ (c.evaluate p x).2.durableRecoveryLoaded = true
    have hres := hnew.returned
    rcases hr : c.evaluate p x with ⟨r, c'⟩
    rw [hr] at hres hheld
    cases evaluate_cases hr with
    | raised => cases hres
    | unidentified => cases hres
    | replayed hid' _ _ hcached =>
      -- an approval is new only for a review that was not cached
      have hnone := hnew.notCached _ hid'
      rw [hcached] at hnone
      cases hnone
    | refused hadm => exact absurd (approved_admission hnew.returned hnew.approved) hadm
    | rejected _ _ _ _ hd =>
      cases hres
      rw [hnew.approved] at hd
      cases hd
    | approved hid' _ _ hfresh =>
      cases hres
      rw [hid] at hid'
      cases hid'
      have hreview := (PaperRiskPipeline.evaluate_decidesOn hfresh.decided).review
      have hcached : (c.cache reviewId d).decisions.get? reviewId = some d := by
        rw [cache, OrderedDict.get?_moveToEnd]
        exact OrderedDict.get?_set_self ..
      have hans : (c.cache reviewId d).Answers reviewId d :=
        ⟨hcached, (congrArg (·.reviewId) hreview).trans hid⟩
      exact ⟨hans.reserve.trim hheld, ((Bool.and_eq_true _ _).mp hfresh.recovered).1⟩
  | restored hid hmem hnodup hbefore hafter =>
    rename_i ds
    change d ∈ (c.restoreReservations p (ds.map (·.val))).2.reserved at hheld
    change (c.restoreReservations p (ds.map (·.val))).2.durableRecoveryLoaded = true at hafter
    refine ⟨?_, hafter⟩
    show (c.restoreReservations p (ds.map (·.val))).2.Answers reviewId d
    have hnodup' : ((ds.map (·.val)).map (·.review.reviewId)).Nodup := by
      rw [List.map_map]
      exact hnodup
    have hloaded : (restoreLoop p (ds.map (·.val)) c).1 = .ok () →
        d ∈ (c.loaded p (ds.map (·.val))).reserved →
        (c.loaded p (ds.map (·.val))).Answers reviewId d := by
      intro hok hd
      have hcaches := restoreLoop_caches hid _ c (validated_durable ds) hnodup' hmem hok
      have hans := Answers.trim (p := p) ⟨hcaches, hid⟩ hd
      exact ⟨hans.cached, hid⟩
    rcases hr : c.restoreReservations p (ds.map (·.val)) with ⟨r, c'⟩
    rw [hr] at hheld hafter ⊢
    -- whatever reconciliation does afterwards, the cache is as the loop left it
    cases restoreReservations_cases hr with
    | already hyes =>
      rw [hbefore] at hyes
      cases hyes
    | raised =>
      rw [restoreLoop_frame] at hafter
      have hafter : c.durableRecoveryLoaded = true := hafter
      rw [hbefore] at hafter
      cases hafter
    | waiting _ hok => exact hloaded hok hheld
    | foreign _ hok => exact ⟨(hloaded hok hheld).cached, hid⟩
    | revoked _ hok => exact ⟨(hloaded hok hheld).cached, hid⟩
    | reconciled _ hok _ _ hrec =>
      have hreserved := reserved_of_reconcile hrec hheld
      rw [(reconcileReservations_ok hrec).1]
      exact ⟨(hloaded hok hreserved).cached, hid⟩

/-! ## Every further evaluation -/

/-- A decision the cache answers with is replayed, or the inputs are missing. -/
theorem Answers.replayed {p : PaperRiskPipeline F D} {c : PaperRiskCoordinator F}
    {reviewId : String} {d : RiskTradeDecisionV1 F} (h : c.Answers reviewId d)
    {x : EvaluateRequest F} (hid : x.review.reviewId = some reviewId)
    (hadm : c.admissionReasons p x = [])
    (havailable : ∀ message, (c.evaluate p x).1 ≠ .error (.paperInputUnavailable message)) :
    (c.evaluate p x).1 = .ok d ∧ (c.evaluate p x).2.reservations = c.reservations := by
  unfold evaluate at havailable ⊢
  rw [hid] at havailable ⊢
  dsimp only at havailable ⊢
  cases hrec : c.recoveryComplete with
  | false =>
    rw [hrec] at havailable
    exact absurd rfl (havailable _)
  | true =>
    simp only [Bool.not_true, Bool.false_eq_true, if_false]
    rw [h.cached, hadm]
    exact ⟨rfl, rfl⟩

/-- An evaluation somebody objects to approves nothing and changes nothing. -/
theorem evaluate_refused {p : PaperRiskPipeline F D} {c : PaperRiskCoordinator F}
    {x : EvaluateRequest F} (hadm : c.admissionReasons p x ≠ []) :
    (c.evaluate p x).2 = c ∧ ∀ d, (c.evaluate p x).1 = .ok d → d.approved = false := by
  constructor
  · rcases hr : c.evaluate p x with ⟨r, c'⟩
    cases evaluate_cases hr with
    | raised => rfl
    | refused => rfl
    | replayed _ _ hnil => exact absurd hnil hadm
    | rejected _ hnil => exact absurd hnil hadm
    | approved _ hnil => exact absurd hnil hadm
    | unidentified _ hnil => exact absurd hnil hadm
  · intro d hd
    cases ha : d.approved with
    | false => rfl
    | true => exact absurd (approved_admission hd ha) hadm

/-! ## The size of the cache -/

/-- The call stores a decision it made. -/
structure Stores (p : PaperRiskPipeline F D) (c : PaperRiskCoordinator F) (x : EvaluateRequest F)
    (reviewId : String) (d : RiskTradeDecisionV1 F) : Prop where
  review : x.review.reviewId = some reviewId
  recovered : c.recoveryComplete = true
  admitted : c.admissionReasons p x = []
  unseen : c.decisions.get? reviewId = none
  made : c.evaluateFresh p x = .ok d

/-- After a call that stored a decision, the cache is within its size or holds
the reviews of held reservations only. -/
theorem Stores.bounded {p : PaperRiskPipeline F D} {c : PaperRiskCoordinator F}
    {x : EvaluateRequest F} {reviewId : String} {d : RiskTradeDecisionV1 F}
    (hids : IdentifiesApprovals p.core) (h : Stores p c x reviewId d) :
    (c.evaluate p x).1 = .ok d ∧
    ((c.evaluate p x).2.decisions.size ≤ p.settings.paperDecisionCacheSize ∨
      ∀ key ∈ (c.evaluate p x).2.decisions.keys, (c.evaluate p x).2.retainsReview key = true) := by
  have hevaluate : c.evaluate p x = c.store p reviewId d := by
    unfold evaluate
    rw [h.review]
    dsimp only
    rw [h.recovered, h.admitted, h.unseen, h.made]
    rfl
  obtain ⟨venue, reservations, hfresh⟩ := evaluateFresh_ok h.recovered h.made
  have hvalid := (PaperRiskPipeline.evaluate_decidesOn hfresh.decided).validated
  rw [hevaluate]
  unfold store
  dsimp only
  split
  next happ =>
    obtain ⟨tradeId, htrade⟩ := Option.isSome_iff_exists.mp (hids d hvalid happ)
    rw [htrade]
    exact ⟨rfl, OrderedDict.trim_bounded _ _ _⟩
  next => exact ⟨rfl, OrderedDict.trim_bounded _ _ _⟩

/-- **Replay identity**: from the operation that installs a decision for a
review until its reservation leaves, every evaluation of the review nobody
objects to returns exactly that decision, or finds the inputs missing, and
reserves nothing more. An evaluation somebody objects to approves nothing and
changes nothing, and one that stores a decision leaves the cache bounded. -/
theorem replay_identity (p : PaperRiskPipeline F D) (hids : IdentifiesApprovals p.core) :
    (∀ (before : List (Operation p.core)) (op : Operation p.core) (after : List (Operation p.core))
        (reviewId : String) (d : RiskTradeDecisionV1 F),
      Installs p (run (step p) init before) reviewId d op →
      (∀ mid rest, after = mid ++ rest → d ∈ (run (step p) init (before ++ op :: mid)).reserved) →
      ∀ x : EvaluateRequest F, x.review.reviewId = some reviewId →
        x.admissionRejectionReasons = [] →
        (run (step p) init (before ++ op :: after)).regimeConflict p x.review = false →
        (∀ message, ((run (step p) init (before ++ op :: after)).evaluate p x).1
          ≠ .error (.paperInputUnavailable message)) →
        ((run (step p) init (before ++ op :: after)).evaluate p x).1 = .ok d ∧
        ((run (step p) init (before ++ op :: after)).evaluate p x).2.reservations
          = (run (step p) init (before ++ op :: after)).reservations) ∧
    (∀ (c : PaperRiskCoordinator F) (x : EvaluateRequest F),
      x.admissionRejectionReasons ≠ [] ∨ c.regimeConflict p x.review = true →
      (c.evaluate p x).2 = c ∧ ∀ d, (c.evaluate p x).1 = .ok d → d.approved = false) ∧
    (∀ (c : PaperRiskCoordinator F) (x : EvaluateRequest F) (reviewId : String)
        (d : RiskTradeDecisionV1 F), Stores p c x reviewId d →
      (c.evaluate p x).1 = .ok d ∧
      ((c.evaluate p x).2.decisions.size ≤ p.settings.paperDecisionCacheSize ∨
        ∀ key ∈ (c.evaluate p x).2.decisions.keys,
          (c.evaluate p x).2.retainsReview key = true)) := by
  refine ⟨?_, ?_, fun c x reviewId d h => h.bounded hids⟩
  · intro before op after reviewId d hinstalls hheld x hid hreasons hconflict havailable
    -- installed by `op`, the answer is kept by every step of `after`
    have hstate : ∀ mid, run (step p) init (before ++ op :: mid) =
        run (step p) (step p (run (step p) init before) op) mid := fun mid => by
      rw [run_append, run_cons]
    rw [hstate] at hconflict havailable ⊢
    have hfirst : d ∈ (step p (run (step p) init before) op).reserved := by
      have := hheld [] after rfl
      rw [hstate] at this
      exact this
    obtain ⟨hans, hloaded⟩ := hinstalls.answers hfirst
    have hfinal :=
      answers_run after hans hloaded (fun mid rest he => hstate mid ▸ hheld mid rest he)
    refine hfinal.replayed hid ?_ havailable
    rw [admissionReasons, hconflict]
    exact hreasons
  · intro c x hobjection
    refine evaluate_refused ?_
    intro hnil
    obtain ⟨hconflict, hreasons⟩ := admissionReasons_eq_nil hnil
    rcases hobjection with hobjection | hobjection
    · exact hobjection hreasons
    · rw [hconflict] at hobjection
      cases hobjection

end PaperRiskCoordinator

/-! ## A cache of one

Another idea of the symbol is refused while the first is reserved; the refusal
is what the cache gives up. -/

namespace Scenario

open PaperRiskCoordinator

/-- The market with room for one decision. -/
def crowded : PaperRiskPipeline Rat Rat := { market with settings := settings 1 le_rfl }

theorem crowded_identifiesApprovals : IdentifiesApprovals crowded.core := by
  intro d hd ha
  obtain ⟨i, _, _, hids⟩ := validated_about hd
  rw [ha] at hids
  simp only [if_true, DecisionIds.mk.injEq] at hids
  rw [hids.2]
  rfl

/-- The facts before the first review. -/
def crowdedFacts : List (Operation crowded.core) :=
  [.restoreReservations [], .applyAccount (account 1 60200), .applyVenue (venue "BTCUSD:DEV" 60300)]

/-- The approval of the first idea, in the crowded market. -/
def crowdedApproval : RiskTradeDecisionV1 Rat :=
  (made crowded (run (step crowded) init crowdedFacts) (request ideaA.review 60400)).get
    (by decide +kernel)

theorem crowdedApproval_installed :
    Installs crowded (run (step crowded) init crowdedFacts) "review-a" crowdedApproval
      (.evaluate (request ideaA.review 60400)) :=
  .approved rfl
    (newlyApproves_of_made (Option.some_get _).symm (by decide +kernel) rfl (by decide +kernel))

/-- Both ideas reviewed, the second one refused. -/
def reviewed : PaperRiskCoordinator Rat :=
  run (step crowded) init
    (crowdedFacts ++ [.evaluate (request ideaA.review 60400),
      .evaluate (request ideaB.review 120200)])

/-- The refused idea evicted nothing the first review needs. -/
theorem crowded_replays_approval :
    (reviewed.evaluate crowded (request ideaA.review 120300)).1 = .ok crowdedApproval := by
  refine ((replay_identity crowded crowded_identifiesApprovals).1 crowdedFacts
    (.evaluate (request ideaA.review 60400)) [.evaluate (request ideaB.review 120200)] "review-a"
    crowdedApproval crowdedApproval_installed ?_ (request ideaA.review 120300) rfl rfl
    (by decide +kernel) ?_).1
  · intro mid rest he
    match mid, he with
    | [], _ => decide +kernel
    | [op], he =>
      cases he
      decide +kernel
    | _ :: _ :: _, he => simp at he
  · intro message he
    have hmade : (made crowded reviewed (request ideaA.review 120300)).isSome = true := by
      decide +kernel
    unfold made reviewed at hmade
    rw [he] at hmade
    cases hmade

end Scenario

end KairosRisk
