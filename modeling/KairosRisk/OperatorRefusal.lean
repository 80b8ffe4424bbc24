import KairosRisk.Authority
import KairosRisk.DecisionCache

/-!
# What a refused operator costs

Without the operator's authority a review is to be refused before its canary's
arm is consumed. The loop records the refusal in a local, and asks for the arm
in the first round that does get an operator; neither is undone when a later
round goes the other way. So a handling that never sees the authority come or go
keeps the arm, and one that does can publish the refusal and have consumed the
arm all the same.

Which rounds matter is a condition on what a round finds and is answered
(`Steady`); `operator_refusal_keeps_arm_iff` says it is the exact one.
-/

namespace KairosRisk

open PyLib

/-- The reason recorded when the operator's authority cannot be read. -/
def operatorControlUnavailable : String := "operator_control_unavailable"

/-! ## Whose reason it is

No gate of the policy gives this reason: a decision has it exactly when the
caller of `evaluate` does. -/

section Reasons

theorem mem_reasonIf {test : Bool} {reason reason' : String} :
    reason ∈ reasonIf test reason' ↔ test = true ∧ reason = reason' := by
  cases test <;> simp [reasonIf]

theorem not_mem_reasonIf {test : Bool} {reason : String} (h : operatorControlUnavailable ≠ reason) :
    operatorControlUnavailable ∉ reasonIf test reason := by
  rw [mem_reasonIf]
  exact fun hmem => h hmem.2

theorem not_mem_ite {c : Prop} [Decidable c] {l r : List String}
    (hl : operatorControlUnavailable ∉ l) (hr : operatorControlUnavailable ∉ r) :
    operatorControlUnavailable ∉ if c then l else r := by
  split
  · exact hl
  · exact hr

/-- A venue's own code is told apart by where it comes from. -/
theorem ne_venue_code (code : String) : operatorControlUnavailable ≠ "venue_" ++ code := by
  intro h
  have hchars := congrArg String.toList h
  rw [String.toList_append] at hchars
  cases hchars

namespace PaperRiskPipeline

variable {F D : Type} [PyFloat F] {p : PaperRiskPipeline F D} {x : PaperInputs F}

theorem not_mem_reviewReasons [DecidableEq F] : operatorControlUnavailable ∉ p.reviewReasons x := by
  unfold reviewReasons
  simp only [List.mem_append, not_or]
  refine ⟨⟨⟨⟨⟨⟨⟨⟨⟨⟨⟨?_, ?_⟩, ?_⟩, ?_⟩, ?_⟩, ?_⟩, ?_⟩, ?_⟩, ?_⟩, ?_⟩, ?_⟩, ?_⟩
  · exact not_mem_reasonIf (by decide)
  · exact not_mem_reasonIf (by decide)
  · apply not_mem_reasonIf
    cases x.review.decision <;> decide
  · exact not_mem_reasonIf (by decide)
  · apply not_mem_reasonIf
    cases x.systemMode <;> decide
  · exact not_mem_reasonIf (by decide)
  · exact not_mem_reasonIf (by decide)
  · exact not_mem_reasonIf (by decide)
  · split
    · decide
    · exact not_mem_reasonIf (by decide)
  · exact not_mem_reasonIf (by decide)
  · exact not_mem_reasonIf (by decide)
  · refine not_mem_ite List.not_mem_nil ?_
    intro hmem
    rcases List.mem_cons.mp hmem with h | hmem
    · exact absurd h (by decide)
    · obtain ⟨code, _, h⟩ := List.mem_map.mp hmem
      exact ne_venue_code code h.symm

theorem not_mem_pendingOrder (strategyId : String) : ∀ (orders : List (OpenOrderSnapshotV2 F))
    (acc : List String × F × F), operatorControlUnavailable ∉ acc.1 →
    operatorControlUnavailable ∉ (orders.foldl (pendingOrder strategyId) acc).1
  | [], _, h => h
  | order :: orders, (reasons, gross, strategy), h => by
    rw [List.foldl_cons]
    apply not_mem_pendingOrder strategyId orders
    unfold pendingOrder
    dsimp only
    split
    · exact h
    · split
      · rw [List.mem_append, not_or]
        exact ⟨h, by decide⟩
      · split
        · rw [List.mem_append, not_or]
          exact ⟨h, by decide⟩
        · rw [List.mem_append, not_or]
          exact ⟨h, by decide⟩

theorem not_mem_accountGate {account : Option (AccountSnapshotV2 F)}
    {venueSymbol strategyId : String}
    {decidedAtMs : Int} {reservations : PaperReservations F} : operatorControlUnavailable
      ∉ (p.accountGate account venueSymbol strategyId decidedAtMs reservations).1 := by
  cases account with
  | none => exact (by decide : operatorControlUnavailable ∉ ["account_snapshot_missing"])
  | some a =>
    unfold accountGate
    dsimp only
    rw [List.mem_append, List.mem_append, List.mem_append, not_or, not_or, not_or]
    refine ⟨⟨⟨?_, ?_⟩, ?_⟩, not_mem_pendingOrder strategyId _ _ List.not_mem_nil⟩
    · unfold accountScopeReasons
      simp only [List.mem_append, not_or]
      refine ⟨⟨⟨⟨not_mem_reasonIf (by decide), not_mem_reasonIf (by decide)⟩,
        not_mem_reasonIf (by decide)⟩, not_mem_reasonIf (by decide)⟩, ?_⟩
      exact not_mem_ite (by decide) (not_mem_reasonIf (by decide))
    · unfold exclusivityReasons
      simp only [List.mem_append, not_or]
      exact ⟨⟨⟨not_mem_reasonIf (by decide), not_mem_reasonIf (by decide)⟩,
        not_mem_reasonIf (by decide)⟩, not_mem_reasonIf (by decide)⟩
    · unfold riskLimitReasons
      simp only [List.mem_append, not_or]
      exact ⟨⟨not_mem_reasonIf (by decide), not_mem_reasonIf (by decide)⟩,
        not_mem_reasonIf (by decide)⟩

theorem not_mem_allocationGate {allocation : Option (StrategicAllocation F)} {strategyId : String}
    {side : Side} {decidedAtMs : Int} {enforce : Bool} : operatorControlUnavailable
      ∉ (p.allocationGate allocation strategyId side decidedAtMs enforce).1 := by
  cases allocation with
  | none => exact (by decide : operatorControlUnavailable ∉ ["strategic_allocation_missing"])
  | some allocation =>
    unfold allocationGate
    simp only [List.mem_append, not_or]
    refine ⟨⟨⟨⟨not_mem_reasonIf (by decide), not_mem_reasonIf (by decide)⟩, ?_⟩,
      not_mem_reasonIf (by decide)⟩, ?_⟩
    · exact not_mem_ite (by decide) (not_mem_reasonIf (by decide))
    · exact not_mem_ite (by decide) (not_mem_ite (by decide) (not_mem_reasonIf (by decide)))

variable [DecidableEq F]

theorem not_mem_selectedAllocationGate :
    operatorControlUnavailable ∉ (p.selectedAllocationGate x).1 := by
  unfold selectedAllocationGate
  dsimp only
  split
  · unfold adaptiveAllocationGate
    split
    · exact (by decide : operatorControlUnavailable ∉ ["regime_bound_allocation_missing"])
    · split
      · exact not_mem_allocationGate
      · exact (by decide : operatorControlUnavailable ∉ ["regime_bound_allocation_invalid"])
  · exact not_mem_allocationGate

omit [DecidableEq F] in
theorem not_mem_geometryReasons {intent : StrategyIntentV1 F} {entry : F} :
    operatorControlUnavailable ∉ geometryReasons intent entry := by
  unfold geometryReasons
  split
  · exact not_mem_reasonIf (by decide)
  · exact not_mem_reasonIf (by decide)
  · exact List.not_mem_nil

omit [DecidableEq F] in
theorem not_mem_budget {reservations : PaperReservations F} {account : Option (AccountMetrics F)}
    {allocation : Option (AllocationMetrics F)} :
    operatorControlUnavailable ∉ (p.budget reservations account allocation).reasons := by
  unfold budget
  split
  · rw [List.mem_append, not_or]
    exact ⟨not_mem_reasonIf (by decide), not_mem_reasonIf (by decide)⟩
  · exact List.not_mem_nil

/-- The gates add nothing under this name to what the caller objected. -/
theorem mem_gates : operatorControlUnavailable ∈ (p.gates x).reasons ↔
    operatorControlUnavailable ∈ x.admissionRejectionReasons := by
  unfold gates
  simp only [List.mem_append, List.mem_eraseDups]
  refine ⟨?_, fun h => Or.inl (Or.inl (Or.inl (Or.inl (Or.inl h))))⟩
  rintro (((((h | h) | h) | h) | h) | h)
  · exact h
  · exact absurd h not_mem_reviewReasons
  · exact absurd h not_mem_accountGate
  · exact absurd h not_mem_selectedAllocationGate
  · exact absurd h not_mem_geometryReasons
  · exact absurd h not_mem_budget

variable [PyDecimal D] [Spelling F D]

omit [DecidableEq F] in
theorem not_mem_selectQuantity {leverage capacity quantity : F} {reasons : List String}
    (h : p.selectQuantity x leverage capacity = .ok (reasons, quantity)) :
    operatorControlUnavailable ∉ reasons := by
  unfold selectQuantity canaryQuantity at h
  split at h
  · dsimp only at h
    split at h
    · cases h
      decide
    · cases h
    · split at h
      · cases h
        decide
      · split at h
        · cases h
          decide
        · cases h
          exact List.not_mem_nil
  · cases h
    exact List.not_mem_nil

omit [DecidableEq F] in
/-- Nor does sizing. -/
theorem mem_size {g : Gates F} {reasons : List String} {quantity : F}
    (h : p.size x g = .ok (reasons, quantity)) :
    operatorControlUnavailable ∈ reasons ↔ operatorControlUnavailable ∈ g.reasons := by
  unfold size at h
  split at h
  next hnil _ _ =>
    obtain ⟨⟨selected, lot⟩, hselect, h⟩ := ok_of_bind h
    have hselected := not_mem_selectQuantity hselect
    have hnot : operatorControlUnavailable ∉ reasons := by
      dsimp only at h
      split at h
      · cases h
        rw [List.mem_append, not_or]
        exact ⟨hselected, by decide⟩
      · split at h
        · cases h
          rw [List.mem_append, not_or]
          exact ⟨hselected, by decide⟩
        · cases h
          exact hselected
    rw [hnil]
    exact iff_of_false hnot List.not_mem_nil
  next =>
    cases h
    rfl

/-- **The reason is the caller's**: a decision has it exactly when it was
among the admission rejections of the call. -/
theorem mem_rejectionReasons {d : RiskTradeDecisionV1 F} (h : p.evaluate x = .ok d) :
    operatorControlUnavailable ∈ d.rejectionReasons ↔
      operatorControlUnavailable ∈ x.admissionRejectionReasons := by
  obtain ⟨_, _, reasons, quantity, hsize, hf⟩ := evaluate_ok h
  have hreasons : d.rejectionReasons =
      (p.decisionFields x (p.gates x) reasons quantity).rejectionReasons :=
    congrArg (·.rejectionReasons) hf
  rw [hreasons, decisionFields]
  dsimp only
  rw [List.mem_append, mem_size hsize, mem_gates]
  exact or_iff_left (not_mem_reasonIf (by decide))

end PaperRiskPipeline

end Reasons

variable {F D : Type} [PyFloat F]

/-- The decision was refused for want of the operator's authority. -/
def RiskTradeDecisionV1.OperatorRefused (d : RiskTradeDecisionV1 F) : Prop :=
  d.approved = false ∧ operatorControlUnavailable ∈ d.rejectionReasons

variable [DecidableEq F] [PyDecimal D] [Spelling F D]

namespace PaperRiskCoordinator

/-! ## The cache holds no such refusal -/

section Cache

variable {p : PaperRiskPipeline F D} {c : PaperRiskCoordinator F}

/-- No cached decision was refused for want of the operator's authority. -/
def Unstained (c : PaperRiskCoordinator F) : Prop :=
  ∀ reviewId d, c.decisions.get? reviewId = some d → ¬d.OperatorRefused

omit [PyFloat F] [DecidableEq F] in
theorem Unstained.set (hc : c.Unstained) {reviewId : String} {d : RiskTradeDecisionV1 F}
    (hd : ¬d.OperatorRefused) : Unstained { c with decisions := c.decisions.set reviewId d } := by
  intro key e he
  by_cases hkey : reviewId = key
  · rw [show (c.decisions.set reviewId d).get? key = some d by
      rw [hkey]
      exact OrderedDict.get?_set_self ..] at he
    exact Option.some.inj he ▸ hd
  · exact hc key e ((OrderedDict.get?_set_ne _ _ hkey).symm.trans he)

omit [PyFloat F] [DecidableEq F] in
theorem Unstained.cache (hc : c.Unstained) {reviewId : String} {d : RiskTradeDecisionV1 F}
    (hd : ¬d.OperatorRefused) : (c.cache reviewId d).Unstained := by
  intro key e he
  rw [PaperRiskCoordinator.cache, OrderedDict.get?_moveToEnd] at he
  exact hc.set hd key e he

omit [DecidableEq F] [PyDecimal D] [Spelling F D] in
theorem Unstained.trim (hc : c.Unstained) : (c.trimDecisionCache p).Unstained := by
  intro key e he
  exact hc key e (OrderedDict.get?_of_trim he)

omit [DecidableEq F] [PyDecimal D] [Spelling F D] in
/-- What a restore files is approved. -/
theorem unstained_restoreLoop : ∀ (ds : List (RiskTradeDecisionV1 F)) {c : PaperRiskCoordinator F},
    c.Unstained → (restoreLoop p ds c).2.Unstained
  | [], _, hc => hc
  | d :: ds, c, hc => by
    unfold restoreLoop
    split
    next => exact hc
    next tradeId reviewId hkeys =>
      apply unstained_restoreLoop ds
      refine Unstained.set (c := { c with reservations := _ }) hc ?_
      intro hrefused
      unfold recoveredKeys validateRecoveredDecision at hkeys
      obtain ⟨_, hvalid, _⟩ := ok_of_bind hkeys
      obtain ⟨happroved, _⟩ := ok_of_raiseIf hvalid
      rw [hrefused.1] at happroved
      cases happroved

/-- A decision just made has the refusal exactly when the call objected so. -/
theorem Fresh.operatorRefused_iff {x : EvaluateRequest F} {venue : VenueQualityV1 F}
    {reservations : PaperReservations F} {d : RiskTradeDecisionV1 F}
    (h : Fresh p c x venue reservations d) :
    d.OperatorRefused ↔ operatorControlUnavailable ∈ c.admissionReasons p x := by
  have hmem := PaperRiskPipeline.mem_rejectionReasons h.decided
  constructor
  · intro hrefused
    exact hmem.mp hrefused.2
  · intro hobjected
    have hreason := hmem.mpr hobjected
    refine ⟨Bool.eq_false_iff.mpr ?_, hreason⟩
    intro happroved
    rw [(PaperRiskPipeline.evaluate_decidesOn h.decided).approved_iff.mp happroved] at hreason
    cases hreason

theorem Fresh.not_operatorRefused {x : EvaluateRequest F} {venue : VenueQualityV1 F}
    {reservations : PaperReservations F} {d : RiskTradeDecisionV1 F}
    (h : Fresh p c x venue reservations d) (hadm : c.admissionReasons p x = []) :
    ¬d.OperatorRefused := by
  rw [h.operatorRefused_iff, hadm]
  exact List.not_mem_nil

/-- Every operation keeps the cache free of them. -/
theorem unstained_step (c : PaperRiskCoordinator F) (op : Operation p.core) (hc : c.Unstained) :
    (step p c op).Unstained := by
  cases op with
  | applyRegimeAllocation allocation receivedAtMs =>
    intro key d hd
    rw [decisions_step rfl] at hd
    exact hc key d hd
  | applyAccount snapshot =>
    intro key d hd
    rw [decisions_step rfl] at hd
    exact hc key d hd
  | applyVenue venue =>
    intro key d hd
    rw [decisions_step rfl] at hd
    exact hc key d hd
  | restoreReservations decisions =>
    show (c.restoreReservations p (decisions.map (·.val))).2.Unstained
    have hloop := unstained_restoreLoop (p := p) (decisions.map (·.val)) hc
    rcases hr : c.restoreReservations p (decisions.map (·.val)) with ⟨r, c'⟩
    rw [hr]
    cases restoreReservations_cases hr with
    | already => exact hc
    | raised => exact hloop
    | waiting => exact hloop.trim
    | foreign => exact hloop.trim
    | reconciled _ _ _ _ hrec =>
      intro key d hd
      rw [(reconcileReservations_ok hrec).1] at hd
      exact hloop.trim key d hd
    | revoked => exact hloop.trim
  | evaluate request =>
    show (c.evaluate p request).2.Unstained
    rcases hr : c.evaluate p request with ⟨r, c'⟩
    cases evaluate_cases hr with
    | raised => exact hc
    | refused => exact hc
    | replayed =>
      intro key d hd
      rw [OrderedDict.get?_moveToEnd] at hd
      exact hc key d hd
    | rejected _ hadm _ hfresh => exact (hc.cache (hfresh.not_operatorRefused hadm)).trim
    | approved _ hadm _ hfresh =>
      refine Unstained.trim ?_
      exact hc.cache (hfresh.not_operatorRefused hadm)
    | unidentified _ hadm _ hfresh => exact hc.cache (hfresh.not_operatorRefused hadm)

/-- No process ever replays such a refusal. -/
theorem Reached.unstained (h : Reached p c) : c.Unstained := by
  refine Reachable.invariant h ?_ fun c op hc => unstained_step c op hc
  intro key d hd
  cases hd

/-- Made or replayed, so does a returned one; only a call without an objection replays. -/
theorem returned_operatorRefused_iff {x : EvaluateRequest F} {d : RiskTradeDecisionV1 F}
    (hc : c.admissionReasons p x = [] → c.Unstained) (h : (c.evaluate p x).1 = .ok d) :
    d.OperatorRefused ↔ operatorControlUnavailable ∈ c.admissionReasons p x := by
  rcases hr : c.evaluate p x with ⟨r, c'⟩
  rw [hr] at h
  cases evaluate_cases hr with
  | raised => cases h
  | unidentified => cases h
  | replayed _ _ hadm hcached =>
    cases h
    rw [hadm]
    exact iff_of_false (hc hadm _ d hcached) List.not_mem_nil
  | refused _ hfresh =>
    cases h
    exact hfresh.operatorRefused_iff
  | rejected _ _ _ hfresh =>
    cases h
    exact hfresh.operatorRefused_iff
  | approved _ _ _ hfresh =>
    cases h
    exact hfresh.operatorRefused_iff

end Cache

end PaperRiskCoordinator

/-! ## A round of the handling -/

/-- The round called the arm repository. -/
def Turn.asksForArm {core : KairosCore F} (review : CandidateReviewV1 F) (t : Turn core) : Bool :=
  RiskService.consumesArm review t.entered t.operator

namespace RiskService

section Round

variable {s : RiskService F D} {review : CandidateReviewV1 F} {v armed : ReviewLocals F}
  {pass : Pass s.pipeline.core} {arm : Option (PaperCanaryArmRecord F)} {decidedAtMs : Int}

/-- The operator's authority can be read, whether or not there is any. -/
def ReadsOperator (s : RiskService F D) (pass : Pass s.pipeline.core) : Prop :=
  s.paperOperatorScope.isSome = true ∧ ∃ operator, pass.snapshot = .ok operator

/-- The authority does not come or go across this round: it is still read once the arm
was asked for, and no arm is accepted after a reading failed. -/
structure Steady (s : RiskService F D) (review : CandidateReviewV1 F) (t : Turn s.pipeline.core) :
    Prop where
  kept : t.entered.canaryArmChecked = true → s.ReadsOperator t.pass
  clean : s.AcceptsArm review t → operatorControlUnavailable ∉ t.entered.admissionRejections

/-- The arm was asked for, and the refusal is on record all the same. -/
def Forfeited (v : ReviewLocals F) : Prop :=
  v.canaryArmChecked = true ∧ operatorControlUnavailable ∈ v.admissionRejections

omit [DecidableEq F] [PyDecimal D] [Spelling F D] in
/-- A reading leaves the locals alone, and one that fails puts the refusal on record. -/
theorem readOperator_cases (s : RiskService F D) (v : ReviewLocals F)
    (pass : Pass s.pipeline.core) :
    (s.ReadsOperator pass ∧ (s.readOperator v pass).1 = v) ∨
    (¬s.ReadsOperator pass ∧ (s.readOperator v pass).2 = none ∧
      operatorControlUnavailable ∈ (s.readOperator v pass).1.admissionRejections) := by
  unfold readOperator ReadsOperator
  split
  next operator hscope hsnapshot =>
    refine Or.inl ⟨⟨?_, operator, hsnapshot⟩, rfl⟩
    rw [hscope]
    rfl
  next hnot =>
    refine Or.inr ⟨?_, rfl, ?_⟩
    · rintro ⟨hscope, operator, hsnapshot⟩
      obtain ⟨scope, hscope⟩ := Option.isSome_iff_exists.mp hscope
      exact hnot scope operator hscope hsnapshot
    · show operatorControlUnavailable ∈ sortedNames _
      rw [sortedNames, mem_sorted, List.mem_eraseDups]
      exact List.mem_append_right _ (List.mem_cons_self ..)

omit [Spelling F D] in
/-- After a round the arm has been asked for when it was before, or in the round. -/
theorem checked_deciding
    (harm : ConsumesArm s review (s.readOperator v pass).1 (s.readOperator v pass).2 pass armed arm
      decidedAtMs) :
    armed.canaryArmChecked = true ↔ v.canaryArmChecked = true ∨
      consumesArm review v (s.readOperator v pass).2 = true := by
  obtain ⟨hchecked, _, _⟩ := readOperator_locals s v pass
  have hsame : consumesArm review (s.readOperator v pass).1 (s.readOperator v pass).2
      = consumesArm review v (s.readOperator v pass).2 := by
    rw [consumesArm, consumesArm, hchecked]
  cases harm with
  | skipped hskips =>
    rw [← hsame, hskips, hchecked]
    simp
  | missing hconsumes => simp [← hsame, hconsumes]
  | accepted hconsumes => simp [← hsame, hconsumes]
  | invalid hconsumes => simp [← hsame, hconsumes]

omit [DecidableEq F] [PyDecimal D] [Spelling F D] in
/-- The arm is asked for after a reading that did not fail, and once. -/
theorem unchecked_of_consumes (h : consumesArm review (s.readOperator v pass).1
    (s.readOperator v pass).2 = true) :
    s.ReadsOperator pass ∧ (s.readOperator v pass).1 = v ∧ v.canaryArmChecked = false := by
  obtain ⟨hchecked, _, _⟩ := readOperator_locals s v pass
  unfold consumesArm at h
  rw [Bool.and_eq_true, Bool.and_eq_true] at h
  obtain ⟨⟨_, hfirst⟩, hsome⟩ := h
  rcases readOperator_cases s v pass with ⟨hreads, hsame⟩ | ⟨_, hnone, _⟩
  · refine ⟨hreads, hsame, ?_⟩
    rw [← hchecked]
    simpa using hfirst
  · rw [hnone] at hsome
    cases hsome

omit [PyFloat F] [DecidableEq F] [PyDecimal D] [Spelling F D] in
theorem not_forfeited_of_unchecked (h : v.canaryArmChecked = false) : ¬Forfeited v := by
  intro hforfeited
  rw [hforfeited.1] at h
  cases h

/-- **One round** forfeits the arm when it is not steady, and only then. -/
theorem forfeited_deciding (found : PaperRiskCoordinator F)
    (harm : ConsumesArm s review (s.readOperator v pass).1 (s.readOperator v pass).2 pass armed arm
      decidedAtMs) :
    Forfeited armed ↔ Forfeited v ∨
      ¬s.Steady review (s.deciding review v pass found armed arm decidedAtMs) := by
  cases harm with
  | skipped hskips =>
    have hnot : ¬s.AcceptsArm review
        (s.deciding review v pass found (s.readOperator v pass).1 none pass.observedNowMs) := by
      rintro ⟨arm, _, _, harm, _⟩
      cases harm
    rcases readOperator_cases s v pass with ⟨hreads, hsame⟩ | ⟨hfails, _, hrefused⟩
    · -- nothing changed, and nothing was lost
      rw [hsame] at hnot ⊢
      exact (or_iff_left
        (not_not_intro ⟨fun _ => hreads, fun haccepts => absurd haccepts hnot⟩)).symm
    · -- the refusal is put on record, after the arm or before it
      obtain ⟨hchecked, _, _⟩ := readOperator_locals s v pass
      constructor
      · intro hforfeited
        have hlost : v.canaryArmChecked = true := hchecked ▸ hforfeited.1
        exact Or.inr fun hsteady => hfails (hsteady.kept hlost)
      · intro h
        refine ⟨?_, hrefused⟩
        rw [hchecked]
        rcases h with hforfeited | hunsteady
        · exact hforfeited.1
        · cases hfirst : v.canaryArmChecked with
          | true => rfl
          | false =>
            refine absurd ⟨fun hlost => ?_, fun haccepts => absurd haccepts hnot⟩ hunsteady
            exact absurd hlost (Bool.eq_false_iff.mp hfirst)
  | missing hconsumes =>
    obtain ⟨hreads, _, hfirst⟩ := unchecked_of_consumes hconsumes
    refine iff_of_false ?_ ?_
    · intro hforfeited
      have hrefused : operatorControlUnavailable ∈ ["technical_canary_arm_missing"] := hforfeited.2
      exact absurd hrefused (by decide)
    · rw [not_or, Classical.not_not]
      refine ⟨not_forfeited_of_unchecked hfirst, fun _ => hreads, ?_⟩
      rintro ⟨arm, _, _, harm, _⟩
      cases harm
  | invalid hconsumes hinvalid =>
    obtain ⟨hreads, _, hfirst⟩ := unchecked_of_consumes hconsumes
    refine iff_of_false ?_ ?_
    · intro hforfeited
      have hrefused : operatorControlUnavailable ∈ ["technical_canary_arm_invalid"] := hforfeited.2
      exact absurd hrefused (by decide)
    · rw [not_or, Classical.not_not]
      refine ⟨not_forfeited_of_unchecked hfirst, fun _ => hreads, ?_⟩
      rintro ⟨arm, _, _, harm, haccepted⟩
      cases harm
      rw [show (s.deciding ..).pass = pass from rfl, hinvalid] at haccepted
      cases haccepted
  | accepted hconsumes haccepted =>
    -- what was on record before the arm is on record with it
    obtain ⟨hreads, hsame, hfirst⟩ := unchecked_of_consumes hconsumes
    rw [or_iff_right (not_forfeited_of_unchecked hfirst)]
    constructor
    · intro hforfeited hsteady
      refine hsteady.clean ⟨_, _, _, rfl, haccepted⟩ ?_
      rw [hsame] at hforfeited
      exact hforfeited.2
    · intro hunsteady
      refine ⟨rfl, ?_⟩
      rw [hsame]
      refine Classical.byContradiction fun hclean => ?_
      exact hunsteady ⟨fun _ => hreads, fun _ => hclean⟩

/-- A decision published in a round is refused for want of the operator exactly when
that is on record, given that no cached one is. -/
theorem published_operatorRefused_iff {found : PaperRiskCoordinator F} {d : RiskTradeDecisionV1 F}
    (hcanary : review.isCanary = true) (hc : found.Unstained)
    (h : (s.deciding review v pass found armed arm decidedAtMs).outcome = .published d) :
    d.OperatorRefused ↔ operatorControlUnavailable ∈ armed.admissionRejections := by
  have hfirst : ∀ {e : RiskTradeDecisionV1 F},
      (found.evaluate s.pipeline (firstRequest review armed decidedAtMs pass)).1 = .ok e →
      (e.OperatorRefused ↔ operatorControlUnavailable ∈ armed.admissionRejections) := by
    intro e he
    rw [PaperRiskCoordinator.returned_operatorRefused_iff (fun _ => hc) he,
      PaperRiskCoordinator.admissionReasons_of_canary hcanary]
    rfl
  have hpublishes := decideAndBind_published h
  generalize (s.decideAndBind review armed _ decidedAtMs pass found).bound = bound at hpublishes
  cases hpublishes with
  | refused he => exact hfirst he
  | bound he => exact hfirst he
  | revoked he happroved _ c' hsecond =>
    -- nobody objected the first time, and the second evaluation objects in its own name
    have hadm : c'.admissionReasons s.pipeline (secondRequest review armed decidedAtMs pass)
        = ["operator_control_changed"] := PaperRiskCoordinator.admissionReasons_of_canary hcanary
    have hnone := (PaperRiskCoordinator.admissionReasons_eq_nil
      (PaperRiskCoordinator.approved_admission he happroved)).2
    rw [PaperRiskCoordinator.returned_operatorRefused_iff (fun hnil => by
      rw [hadm] at hnil
      cases hnil) hsecond, hadm, show armed.admissionRejections = [] from hnone]
    exact iff_of_false (by decide) List.not_mem_nil

end Round

/-! ## A whole handling -/

section Handling

variable {s : RiskService F D} {review : CandidateReviewV1 F}

theorem LeftBy.unstained {c c' : PaperRiskCoordinator F} {ops : List (Operation s.pipeline.core)}
    (h : s.LeftBy c c' ops) (hc : c.Unstained) : c'.Unstained := by
  obtain ⟨taken, rfl, _⟩ := h
  exact run_invariant PaperRiskCoordinator.unstained_step taken hc

/-- A round that goes on leaves the cache as free of refusals as it was. -/
theorem Retries.unstained {v : ReviewLocals F} {decidedAtMs : Int} {pass : Pass s.pipeline.core}
    {c c' : PaperRiskCoordinator F} (h : Retries s review v decidedAtMs pass c c')
    (hc : c.Unstained) : c'.Unstained := by
  cases h with
  | unavailable => exact PaperRiskCoordinator.unstained_step c (.evaluate _) hc
  | revoked _ _ hleft =>
    have hfirst := hleft.unstained (PaperRiskCoordinator.unstained_step c (.evaluate _) hc)
    exact PaperRiskCoordinator.unstained_step _ (.evaluate _) hfirst

/-- What the last round of a loop that published says of all its rounds. -/
structure Concludes (s : RiskService F D) (review : CandidateReviewV1 F) (v : ReviewLocals F)
    (turns : List (Turn s.pipeline.core)) (t : Turn s.pipeline.core) (d : RiskTradeDecisionV1 F) :
    Prop where
  forfeited : Forfeited t.locals ↔ Forfeited v ∨ ∃ t' ∈ turns, ¬s.Steady review t'
  checked : t.locals.canaryArmChecked = true ↔
    v.canaryArmChecked = true ∨ ∃ t' ∈ turns, t'.asksForArm review = true
  refused : d.OperatorRefused ↔ operatorControlUnavailable ∈ t.locals.admissionRejections

/-- The rounds of a loop with the locals `v`, by induction on them. -/
theorem concludes_rounds (hcanary : review.isCanary = true) :
    ∀ (passes : List (Pass s.pipeline.core)) {v : ReviewLocals F} {c : PaperRiskCoordinator F},
      c.Unstained → ∀ (earlier : List (Turn s.pipeline.core)) (t : Turn s.pipeline.core)
        (d : RiskTradeDecisionV1 F), s.rounds review passes v c = earlier ++ [t] →
        t.outcome = .published d → s.Concludes review v (earlier ++ [t]) t d
  | [], _, _, _, earlier, t, _, he, _ => by
    rw [rounds] at he
    simp at he
  | pass :: passes, v, c, hc, earlier, t, d, he, hpublished => by
    obtain ⟨first, rest, hrounds, hgoes⟩ := rounds_goes s review v c pass passes
    rw [hrounds] at he
    cases hgoes with
    | stopped _ hnot =>
      rcases List.cons_eq_append_iff.mp he with ⟨rfl, hone⟩ | ⟨earlier', _, hmore⟩
      · rw [(List.cons.inj hone).1] at hpublished
        exact absurd hpublished (hnot d)
      · simp at hmore
    | @decided found armed arm decidedAtMs hfound harm _ hrest =>
      have hfoundfree := hfound.unstained hc
      have hforfeited := forfeited_deciding found harm
      have hchecked := checked_deciding harm
      rcases List.cons_eq_append_iff.mp he with ⟨rfl, hone⟩ | ⟨earlier', rfl, hmore⟩
      · -- this round published
        cases hone
        have hrefused := published_operatorRefused_iff hcanary hfoundfree hpublished
        refine ⟨?_, ?_, hrefused⟩
        · simp only [List.nil_append, List.mem_singleton, exists_eq_left]
          exact hforfeited
        · simp only [List.nil_append, List.mem_singleton, exists_eq_left]
          exact hchecked
      · -- it went on, with the locals it left
        rcases hrest with rfl | ⟨hretry, rfl⟩
        · simp at hmore
        · have hnext := (decideAndBind_retry hretry).unstained hfoundfree
          have hlater := concludes_rounds hcanary passes hnext earlier' t d hmore hpublished
          refine ⟨?_, ?_, hlater.refused⟩
          · simp only [hlater.forfeited, hforfeited, or_assoc, List.cons_append, List.mem_cons,
              exists_eq_or_imp]
          · simp only [hlater.checked, hchecked, or_assoc, List.cons_append, List.mem_cons,
              exists_eq_or_imp]
            rfl

/-- **The arm survives the operator's refusal** exactly when every round was steady:
the authority was still read after the arm was asked for, and no arm was accepted
after a reading had failed. -/
theorem operator_refusal_keeps_arm_iff (s : RiskService F D) (review : CandidateReviewV1 F)
    (hcanary : review.isCanary = true) (passes : List (Pass s.pipeline.core))
    (c : PaperRiskCoordinator F) (hreached : PaperRiskCoordinator.Reached s.pipeline c)
    (earlier : List (Turn s.pipeline.core)) (t : Turn s.pipeline.core) (d : RiskTradeDecisionV1 F)
    (hlast : s.handlePaperReview review passes c = earlier ++ [t])
    (hpublished : t.outcome = .published d) :
    ((d.approved = false ∧ operatorControlUnavailable ∈ d.rejectionReasons) →
        ∀ t' ∈ earlier ++ [t], t'.asksForArm review = false) ↔
      ∀ t' ∈ earlier ++ [t], s.Steady review t' := by
  have hends := concludes_rounds hcanary passes hreached.unstained earlier t d hlast hpublished
  have hforfeited : Forfeited t.locals ↔ ∃ t' ∈ earlier ++ [t], ¬s.Steady review t' := by
    rw [hends.forfeited]
    exact or_iff_right (not_forfeited_of_unchecked rfl)
  have hchecked : t.locals.canaryArmChecked = true ↔
      ∃ t' ∈ earlier ++ [t], t'.asksForArm review = true := by
    rw [hends.checked]
    exact or_iff_right (by simp [ReviewLocals.start])
  constructor
  · intro hkeeps t' ht'
    refine Classical.byContradiction fun hunsteady => ?_
    obtain ⟨hasked, hrecorded⟩ := hforfeited.mpr ⟨t', ht', hunsteady⟩
    obtain ⟨asking, hmem, hasks⟩ := hchecked.mp hasked
    rw [hkeeps (hends.refused.mpr hrecorded) asking hmem] at hasks
    cases hasks
  · intro hsteady hrefused t' ht'
    refine Bool.eq_false_iff.mpr fun hasks => ?_
    have hasked := hchecked.mpr ⟨t', ht', hasks⟩
    obtain ⟨unsteady, hmem, hnot⟩ := hforfeited.mp ⟨hasked, hends.refused.mp hrefused⟩
    exact hnot (hsteady unsteady hmem)

end Handling

end RiskService

/-! ## The authority comes and goes

The operator repository fails in the first round of a canary's handling. -/

namespace Scenario

open RiskService

/-- A round in which the operator repository raises. -/
def unreadRound : Pass service.pipeline.core :=
  { canaryPass 60450 with snapshot := .error (.external "operator repository") }

/-- The same round, in which another task brings a second snapshot of the recorded sequence. -/
def revokedRound : Pass service.pipeline.core :=
  { unreadRound with
    beforeEvaluate := [.applyAccount { account 1 60200 with snapshotId := "other" }] }

/-- A round with a newer account, and the operator still out of reach. -/
def stillUnreadRound : Pass service.pipeline.core :=
  { unreadRound with observedNowMs := 60500, entering := [.applyAccount (account 2 60310)] }

/-- The refusal it publishes. -/
def unreadDecision : RiskTradeDecisionV1 Rat :=
  (publishedBy (secondTurn revokedRound stillUnreadRound)).get (by decide +kernel)

/-- Neither round asks for the arm. -/
theorem unread_rounds : goesOn (firstTurn revokedRound) = true ∧
    (firstTurn revokedRound).locals.canaryArmChecked = false ∧
    ((firstTurn revokedRound).arm.isNone && (secondTurn revokedRound stillUnreadRound).arm.isNone)
      = true := by
  decide +kernel

/-- A handling that never reaches the operator, resumed after a revoked account, refuses
the canary and leaves the arm alone. -/
theorem refused_canary_keeps_arm :
    (unreadDecision.approved = false ∧
      operatorControlUnavailable ∈ unreadDecision.rejectionReasons) ∧
    ∀ t' ∈ [firstTurn revokedRound, secondTurn revokedRound stillUnreadRound],
      t'.asksForArm canaryReview = false := by
  obtain ⟨hretry, hunchecked, harms⟩ := unread_rounds
  rw [Bool.and_eq_true, Option.isNone_iff_eq_none, Option.isNone_iff_eq_none] at harms
  have hpublished : publishedBy (secondTurn revokedRound stillUnreadRound) = some unreadDecision :=
    (Option.some_get _).symm
  have hrefused : unreadDecision.approved = false ∧
      operatorControlUnavailable ∈ unreadDecision.rejectionReasons := by decide +kernel
  obtain ⟨_, hfirst⟩ := turn_entered service canaryReview .start canaryFacts revokedRound
  obtain ⟨_, hsecond⟩ := turn_entered service canaryReview (firstTurn revokedRound).locals
    (firstTurn revokedRound).coordinator stillUnreadRound
  -- no round hands an arm over, and each is entered before one was asked for
  have steady : ∀ {t : Turn service.pipeline.core}, t.entered.canaryArmChecked = false →
      t.arm = none → service.Steady canaryReview t := by
    intro t hentered harm
    constructor
    case kept =>
      intro hasked
      rw [hentered] at hasked
      cases hasked
    case clean =>
      rintro ⟨arm, _, _, harmed, _⟩
      rw [harm] at harmed
      cases harmed
  refine ⟨hrefused, (operator_refusal_keeps_arm_iff service canaryReview rfl
    [revokedRound, stillUnreadRound] canaryFacts ⟨_, rfl⟩ [firstTurn revokedRound]
    (secondTurn revokedRound stillUnreadRound) unreadDecision (two_rounds hretry hpublished)
    (outcome_of_publishedBy hpublished)).mpr ?_ hrefused⟩
  intro t' ht'
  rcases List.mem_cons.mp ht' with rfl | ht'
  · exact steady (congrArg ReviewLocals.canaryArmChecked hfirst) harms.1
  · rw [List.mem_singleton.mp ht']
    exact steady ((congrArg ReviewLocals.canaryArmChecked hsecond).trans hunchecked) harms.2

/-- A round with a newer account and an operator. -/
def restoredRound : Pass service.pipeline.core :=
  { canaryPass 60500 with entering := [.applyAccount (account 2 60310)] }

/-- The rounds of the handling. -/
def wastefulTurns : List (Turn service.pipeline.core) :=
  service.handlePaperReview canaryReview [revokedRound, restoredRound] canaryFacts

theorem wastefulTurns_ne_nil : wastefulTurns ≠ [] := List.cons_ne_nil _ _

/-- The published decision is refused for want of the operator alone, and the
second round asked for the arm and was handed it. -/
theorem restored_operator_wastes_arm :
    ∃ (earlier : List (Turn service.pipeline.core)) (t : Turn service.pipeline.core)
      (d : RiskTradeDecisionV1 Rat),
      service.handlePaperReview canaryReview [revokedRound, restoredRound] canaryFacts
        = earlier ++ [t] ∧
      t.outcome = .published d ∧
      (d.approved = false ∧ d.rejectionReasons = [operatorControlUnavailable]) ∧
      ¬∀ t' ∈ earlier ++ [t], t'.asksForArm canaryReview = false := by
  have hrefused : ((publishedBy (wastefulTurns.getLast wastefulTurns_ne_nil)).any fun d =>
      d.approved == false && d.rejectionReasons == [operatorControlUnavailable]) = true := by
    decide +kernel
  obtain ⟨d, hd, hchecks⟩ := (Option.any_eq_true _ _).mp hrefused
  rw [Bool.and_eq_true, beq_iff_eq, beq_iff_eq] at hchecks
  refine ⟨wastefulTurns.dropLast, wastefulTurns.getLast wastefulTurns_ne_nil, d,
    (List.dropLast_concat_getLast wastefulTurns_ne_nil).symm, outcome_of_publishedBy hd,
    hchecks, ?_⟩
  intro hkept
  have hasked : (wastefulTurns.getLast wastefulTurns_ne_nil).asksForArm canaryReview = true := by
    decide +kernel
  rw [hkept _ (List.mem_append_right _ (List.mem_singleton.mpr rfl))] at hasked
  cases hasked

end Scenario

end KairosRisk
