import KairosRisk.Service

/-!
# Where a decision of the coordinator comes from

A call of `evaluate` either makes its decision on the state it finds (`Makes`)
or replays the one it cached for the review. The lemmas here follow both through
a call, by what it returns (`returned_source`) and by what it leaves cached
(`cached_source`); the operations that feed the coordinator its facts leave the
cache alone.
-/

namespace KairosRisk

open PyLib

variable {F D : Type}

/-- An operation of the tasks that feed the coordinator its facts. -/
def Operation.isUpdate {core : KairosCore F} : Operation core → Bool
  | .applyVenue _ | .applyAccount _ | .applyRegimeAllocation _ _ => true
  | .restoreReservations _ | .evaluate _ => false

namespace PaperRiskCoordinator

variable [PyFloat F] [DecidableEq F] [PyDecimal D] [Spelling F D]

/-! ## The decision cache -/

/-- Facts leave the cached decisions alone. -/
theorem decisions_step {p : PaperRiskPipeline F D} {c : PaperRiskCoordinator F}
    {op : Operation p.core} (h : op.isUpdate = true) : (step p c op).decisions = c.decisions := by
  cases op with
  | applyVenue venue =>
    show (c.applyVenue venue).2.decisions = _
    rw [applyVenue_frame]
  | applyAccount snapshot =>
    show (c.applyAccount p snapshot).2.decisions = _
    rcases hr : c.applyAccount p snapshot with ⟨r, c'⟩
    cases applyAccount_cases hr with
    | reconciled _ _ _ hrec =>
      rw [(reconcileReservations_ok hrec).1]
      rfl
    | _ => rfl
  | applyRegimeAllocation allocation receivedAtMs =>
    show (c.applyRegimeAllocation p allocation receivedAtMs).2.decisions = _
    rcases hr : c.applyRegimeAllocation p allocation receivedAtMs with ⟨r, c'⟩
    cases applyRegimeAllocation_cases hr <;> rfl
  | restoreReservations decisions => cases h
  | evaluate request => cases h

theorem decisions_run {p : PaperRiskPipeline F D} (ops : List (Operation p.core))
    {c : PaperRiskCoordinator F} (h : ∀ op ∈ ops, op.isUpdate = true) :
    (run (step p) c ops).decisions = c.decisions := by
  induction ops generalizing c with
  | nil => rfl
  | cons op ops ih =>
    rw [run_cons, ih (fun o ho => h o (List.mem_cons_of_mem _ ho))]
    exact decisions_step (h op (List.mem_cons_self ..))

/-- A decision the pipeline makes on the state and the arguments of a call. -/
def Makes (p : PaperRiskPipeline F D) (c : PaperRiskCoordinator F) (x : EvaluateRequest F)
    (d : RiskTradeDecisionV1 F) : Prop :=
  ∃ venue reservations, Fresh p c x venue reservations d

/-- The decision of a call is timed by its arguments. -/
theorem Makes.decidedAtMs {p : PaperRiskPipeline F D} {c : PaperRiskCoordinator F}
    {x : EvaluateRequest F} {d : RiskTradeDecisionV1 F} (h : Makes p c x d) :
    d.decidedAtMs = max x.decidedAtMs x.review.reviewedAtMs := by
  obtain ⟨venue, reservations, hfresh⟩ := h
  exact (PaperRiskPipeline.evaluate_decidesOn hfresh.decided).decidedAtMs

/-- The call would replay a cached decision of the review. -/
def Replays (p : PaperRiskPipeline F D) (c : PaperRiskCoordinator F) (x : EvaluateRequest F)
    (reviewId : String) : Prop :=
  (c.decisions.get? reviewId).isSome = true ∧ c.admissionReasons p x = []

/-- A returned decision is the cached one, or it was made. -/
theorem returned_source {p : PaperRiskPipeline F D} {c : PaperRiskCoordinator F}
    {x : EvaluateRequest F} {d : RiskTradeDecisionV1 F} {reviewId : String}
    (hid : x.review.reviewId = some reviewId) (h : (c.evaluate p x).1 = .ok d) :
    (Makes p c x d ∧ ¬Replays p c x reviewId) ∨
      (c.decisions.get? reviewId = some d ∧ c.admissionReasons p x = []) := by
  have hnothing : (c.decisions.get? reviewId).isSome ≠ true → ¬Replays p c x reviewId :=
    fun hnew hreplays => hnew hreplays.1
  rcases hr : c.evaluate p x with ⟨r, c'⟩
  rw [hr] at h
  cases evaluate_cases hr with
  | raised => cases h
  | unidentified => cases h
  | replayed hid' _ hadm hcached =>
    cases h
    rw [hid] at hid'
    cases hid'
    exact Or.inr ⟨hcached, hadm⟩
  | refused hadm hfresh =>
    cases h
    exact Or.inl ⟨⟨_, _, hfresh⟩, fun hreplays => hadm hreplays.2⟩
  | rejected hid' _ hnew hfresh =>
    cases h
    rw [hid] at hid'
    cases hid'
    exact Or.inl ⟨⟨_, _, hfresh⟩, hnothing (by rw [hnew]; nofun)⟩
  | approved hid' _ hnew hfresh =>
    cases h
    rw [hid] at hid'
    cases hid'
    exact Or.inl ⟨⟨_, _, hfresh⟩, hnothing (by rw [hnew]; nofun)⟩

omit [PyFloat F] [DecidableEq F] in
/-- What was just cached is the one decision under its review. -/
theorem get?_cache {c : PaperRiskCoordinator F} {reviewId : String} {d e : RiskTradeDecisionV1 F}
    (h : (c.cache reviewId d).decisions.get? reviewId = some e) : e = d := by
  have hput : (c.cache reviewId d).decisions.get? reviewId = some d := by
    rw [cache, OrderedDict.get?_moveToEnd]
    exact OrderedDict.get?_set_self ..
  rw [hput] at h
  exact (Option.some.inj h).symm

/-- After a call, the review's cached decision is the one before, or the one
the call made without an objection: an approval, or the decision it returned. -/
theorem cached_source {p : PaperRiskPipeline F D} {c : PaperRiskCoordinator F}
    {x : EvaluateRequest F} {e : RiskTradeDecisionV1 F} {reviewId : String}
    (hid : x.review.reviewId = some reviewId)
    (h : (c.evaluate p x).2.decisions.get? reviewId = some e) :
    c.decisions.get? reviewId = some e ∨
      (Makes p c x e ∧ c.admissionReasons p x = [] ∧ c.decisions.get? reviewId = none ∧
        (e.approved = true ∨ (c.evaluate p x).1 = .ok e)) := by
  rcases hr : c.evaluate p x with ⟨r, c'⟩
  rw [hr] at h
  cases evaluate_cases hr with
  | raised => exact Or.inl h
  | refused => exact Or.inl h
  | replayed =>
    rw [OrderedDict.get?_moveToEnd] at h
    exact Or.inl h
  | rejected hid' hadm hnew hfresh =>
    rw [hid] at hid'
    cases hid'
    have he := get?_cache (OrderedDict.get?_of_trim h)
    subst he
    exact Or.inr ⟨⟨_, _, hfresh⟩, hadm, hnew, Or.inr rfl⟩
  | approved hid' hadm hnew hfresh happ =>
    rw [hid] at hid'
    cases hid'
    have he := get?_cache (OrderedDict.get?_of_trim h)
    subst he
    exact Or.inr ⟨⟨_, _, hfresh⟩, hadm, hnew, Or.inl happ⟩
  | unidentified hid' hadm hnew hfresh happ =>
    rw [hid] at hid'
    cases hid'
    have he := get?_cache h
    subst he
    exact Or.inr ⟨⟨_, _, hfresh⟩, hadm, hnew, Or.inl happ⟩

/-- The call finds no decision to replay and cannot make one. -/
def CannotDecide (c : PaperRiskCoordinator F) (review : CandidateReviewV1 F) (reviewId : String) :
    Prop :=
  c.recoveryComplete = false ∨
  (c.decisions.get? reviewId = none ∧
    c.venue.get? ((paperDevSymbol review.intent.symbol).getD "") = none)

/-- Such a call raises the retryable error and stores nothing. -/
theorem CannotDecide.evaluate {p : PaperRiskPipeline F D} {c : PaperRiskCoordinator F}
    {x : EvaluateRequest F} {reviewId : String} (hid : x.review.reviewId = some reviewId)
    (h : c.CannotDecide x.review reviewId) :
    ∃ message, c.evaluate p x = (.error (.paperInputUnavailable message), c) := by
  unfold PaperRiskCoordinator.evaluate
  rw [hid]
  dsimp only
  rcases h with hincomplete | ⟨hnew, hvenue⟩
  · rw [hincomplete]
    exact ⟨_, rfl⟩
  · cases c.recoveryComplete with
    | false => exact ⟨_, rfl⟩
    | true =>
      rw [hnew]
      simp only [Bool.not_true, Bool.false_eq_true, if_false]
      unfold evaluateFresh
      rw [hvenue]
      exact ⟨_, rfl⟩

/-- A call that cannot decide returns no decision. -/
theorem CannotDecide.not_returned {p : PaperRiskPipeline F D} {c : PaperRiskCoordinator F}
    {x : EvaluateRequest F} {reviewId : String} (hid : x.review.reviewId = some reviewId)
    (h : c.CannotDecide x.review reviewId) {d : RiskTradeDecisionV1 F} :
    (c.evaluate p x).1 ≠ .ok d := by
  obtain ⟨message, he⟩ := h.evaluate (p := p) hid
  rw [he]
  exact nofun

/-- Nor does it make one. -/
theorem CannotDecide.not_makes {p : PaperRiskPipeline F D} {c : PaperRiskCoordinator F}
    {x : EvaluateRequest F} {reviewId : String} (h : c.CannotDecide x.review reviewId)
    {d : RiskTradeDecisionV1 F} : ¬Makes p c x d := by
  rintro ⟨venue, reservations, hfresh⟩
  rcases h with hincomplete | ⟨_, hvenue⟩
  · rw [hfresh.recovered] at hincomplete
    cases hincomplete
  · rw [hfresh.held] at hvenue
    cases hvenue

omit [PyDecimal D] [Spelling F D] in
/-- A canary has no regime binding to contradict. -/
theorem admissionReasons_of_canary {p : PaperRiskPipeline F D} {c : PaperRiskCoordinator F}
    {x : EvaluateRequest F} (h : x.review.isCanary = true) :
    c.admissionReasons p x = x.admissionRejectionReasons := by
  have hid : x.review.intent.strategyId = paperCanaryStrategyId := by
    simpa [CandidateReviewV1.isCanary] using h
  have hconflict : c.regimeConflict p x.review = false := by
    simp [regimeConflict, needsRegimeBinding, PaperRiskPipeline.adaptive, hid]
  rw [admissionReasons, hconflict]
  rfl

/-- A canary is approved under an allocation only. -/
theorem Makes.allocation {p : PaperRiskPipeline F D} {c : PaperRiskCoordinator F}
    {x : EvaluateRequest F} {d : RiskTradeDecisionV1 F} (h : Makes p c x d)
    (hd : d.approved = true) (hcanary : x.review.isCanary = true) : x.allocation ≠ none := by
  obtain ⟨venue, reservations, hfresh⟩ := h
  have hgates := (PaperRiskPipeline.evaluate_approves hfresh.decided hd).gates
  obtain ⟨_, _, _, hallocation, _⟩ := PaperRiskPipeline.gates_reasons_eq_nil hgates
  have hid : x.review.intent.strategyId = paperCanaryStrategyId := by
    simpa [CandidateReviewV1.isCanary] using hcanary
  have hnot : ¬p.adaptive x.review.intent = true := by
    simp [PaperRiskPipeline.adaptive, hid]
  intro hnone
  have hinputs : (c.pipelineInputs p x venue reservations).allocation = none := hnone
  have hreview : (c.pipelineInputs p x venue reservations).review = x.review := rfl
  rw [PaperRiskPipeline.selectedAllocationGate, hreview, if_neg hnot, hinputs] at hallocation
  cases hallocation

end PaperRiskCoordinator

end KairosRisk
