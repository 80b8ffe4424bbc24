import KairosRisk.Authority
import KairosRisk.CanaryReading
import KairosRisk.Lib.Decimal

/-!
# What becomes of an unusable instrument binding

Risk reads a canary's binding in two places: when it sizes the trade, and when
it checks the arm. Both catch `ValueError` and nothing else. The signal of a
decimal operation goes through them: the review stays pending after its arm was
consumed. `unusable_binding_refused_iff` says for which bindings that happens.
-/

namespace KairosRisk

open PyLib

/-! ## Checking the arm -/

section Arm

variable {F D : Type} [PyFloat F] [DecidableEq F] [PyDecimal D] {core : KairosCore F}
  {review : CandidateReviewV1 F} {allocation : StrategicAllocation F} {accountId : String}

/-- The review passes the checks of `validate_canary_binding` that come before
the instrument. -/
structure FollowsPolicy (review : CandidateReviewV1 F) : Prop where
  decision : review.decision = .allow
  source : review.source = canarySource
  routeSource : review.route.source = canarySource
  intentSource : review.intent.source = canarySource
  reviewer : review.reviewer = "DETERMINISTIC"
  modelFree : review.modelProvenance = none
  reason : review.reasonCodes = ["TECHNICAL_CANARY_MANUAL_POLICY"]
  priority : review.priority = 0
  tier : review.route.reviewTier = .normal
  effort : review.route.requestedReasoningEffort = .medium
  routed : review.route.intent = review.intent
  strategyId : review.intent.strategyId = paperCanaryStrategyId
  strategyRevision : review.intent.strategyRevision = canaryStrategyRevision
  reviewId : some review.messageId = review.reviewId
  intentId : some review.intent.messageId = review.intent.intentId

omit [PyFloat F] [DecidableEq F] in
theorem escapes_canaryInstrument_iff :
    Escapes (canaryInstrument D core review.intent accountId) ↔
      BindingOvertaxed D core review.intent accountId := by
  rw [← escapes_boundCanaryInstrument_iff]
  unfold canaryInstrument
  split
  next message hraised =>
    rw [hraised]
    constructor
    · rintro ⟨e, h, hclass⟩
      cases h
      exact absurd rfl (hclass _)
    · rintro ⟨e, h, hclass⟩
      cases h
      exact absurd rfl (hclass _)
  next => exact Iff.rfl

/-- The checks of the allocation raise `ValueError` only. -/
theorem not_escapes_validateCanaryAllocation :
    ¬Escapes (validateCanaryAllocation core allocation review) := by
  intro hescapes
  unfold validateCanaryAllocation allocationIdentity at hescapes
  obtain ⟨_, hescapes⟩ := escapes_raiseIf_bind_iff.mp hescapes
  rcases escapes_bind_iff.mp hescapes with hidentity | ⟨identity, _, hescapes⟩
  · obtain ⟨_, e, h, _⟩ := escapes_raiseIf_bind_iff.mp hidentity
    cases h
  · simp only [escapes_raiseIf_bind_iff] at hescapes
    obtain ⟨_, _, _, _, _, _, _, _, hlast⟩ := hescapes
    exact not_escapes_raiseIf hlast

/-- **A signal escapes `validate_canary_binding`** exactly when the review follows
the policy up to its instrument, and the instrument's binding signals. -/
theorem escapes_validateCanaryBinding_iff :
    Escapes (validateCanaryBinding D core review allocation accountId) ↔
      FollowsPolicy review ∧ BindingOvertaxed D core review.intent accountId := by
  rw [← escapes_canaryInstrument_iff]
  unfold validateCanaryBinding
  simp only [escapes_raiseIf_bind_iff, Bool.or_eq_false_iff, decide_eq_false_iff_not,
    Decidable.not_not, Option.isSome_eq_false_iff, Option.isNone_iff_eq_none]
  have hrest : Escapes (canaryInstrument D core review.intent accountId >>= fun binding => do
      raiseIf (some binding.1.venueSymbol ≠ paperDevSymbol review.intent.symbol)
        "technical canary signal/venue symbol binding is invalid"
      raiseIf (!canaryEvidenceExact review (binding.1.rulesSha256 core))
        "technical canary bar evidence or timing is not exact"
      validateCanaryAllocation core allocation review) ↔
      Escapes (canaryInstrument D core review.intent accountId) := by
    rw [escapes_bind_iff]
    refine or_iff_left ?_
    rintro ⟨binding, _, hescapes⟩
    simp only [escapes_raiseIf_bind_iff] at hescapes
    exact not_escapes_validateCanaryAllocation hescapes.2.2
  rw [hrest]
  constructor
  · rintro ⟨hdecision, ⟨⟨hsource, hroute⟩, hintent⟩, ⟨hreviewer, hmodel⟩, hreason,
      ⟨⟨hpriority, htier⟩, heffort⟩, hrouted, ⟨hstrategy, hrevision⟩, ⟨hreviewId, hintentId⟩, h⟩
    exact ⟨⟨hdecision, hsource, hroute, hintent, hreviewer, hmodel, hreason, hpriority, htier,
      heffort, hrouted, hstrategy, hrevision, hreviewId, hintentId⟩, h⟩
  · rintro ⟨hpolicy, h⟩
    exact ⟨hpolicy.decision, ⟨⟨hpolicy.source, hpolicy.routeSource⟩, hpolicy.intentSource⟩,
      ⟨hpolicy.reviewer, hpolicy.modelFree⟩, hpolicy.reason,
      ⟨⟨hpolicy.priority, hpolicy.tier⟩, hpolicy.effort⟩, hpolicy.routed,
      ⟨hpolicy.strategyId, hpolicy.strategyRevision⟩, ⟨hpolicy.reviewId, hpolicy.intentId⟩, h⟩

/-- The computation refuses the arm when it raises at all. -/
def RefusesArm {α : Type} (result : Except PyError α) : Prop :=
  ∀ e, result = .error e → ∃ message, e = .canaryAuthorizationError message

omit [PyFloat F] [DecidableEq F] [PyDecimal D] in
theorem refusesArm_refuseIf {α : Type} {test : Bool} {message : String}
    {f : Unit → Except PyError α} (h : RefusesArm (f ())) :
    RefusesArm (refuseIf test message >>= f) := by
  intro e he
  cases test with
  | true => exact ⟨message, (Except.error.inj he).symm⟩
  | false => exact h e he

omit [PyFloat F] [DecidableEq F] [PyDecimal D] in
theorem refusesArm_bind {α β : Type} {x : Except PyError α} {f : α → Except PyError β}
    (hx : RefusesArm x) (hf : ∀ a, RefusesArm (f a)) : RefusesArm (x >>= f) := by
  intro e he
  cases hresult : x with
  | error e' =>
    rw [hresult] at he
    cases he
    exact hx e hresult
  | ok a =>
    rw [hresult] at he
    exact hf a e he

omit [DecidableEq F] [PyDecimal D] in
theorem refusesArm_validateSessionBinding {arm : PaperCanaryArmRecord F} {nowMs : Int} :
    RefusesArm (validateSessionBinding arm nowMs) := by
  have hreturned : ∀ test message, RefusesArm (refuseIf test message) := by
    intro test message e he
    cases test with
    | true => exact ⟨message, (Except.error.inj he).symm⟩
    | false => cases he
  unfold validateSessionBinding
  refine refusesArm_refuseIf ?_
  split
  next => exact hreturned _ _
  next => exact refusesArm_refuseIf (hreturned _ _)

/-- An arm is refused when nothing but a `ValueError` comes from its policy. -/
theorem refusesArm_allocationFromConsumedArm {arm : PaperCanaryArmRecord F} {nowMs : Int}
    (h : ¬Escapes (validateCanaryBinding D core review arm.allocation accountId)) :
    RefusesArm (allocationFromConsumedArm D core arm review accountId nowMs) := by
  have hpolicy : RefusesArm (canaryPolicy D core review arm.allocation accountId) := by
    intro e he
    unfold canaryPolicy at he
    split at he
    next => exact ⟨_, (Except.error.inj he).symm⟩
    next hother =>
      -- what is no `ValueError` would escape
      exact absurd ⟨e, he, fun message hsame => hother message (hsame ▸ he)⟩ h
  unfold allocationFromConsumedArm
  refine refusesArm_refuseIf (refusesArm_bind refusesArm_validateSessionBinding fun _ => ?_)
  refine refusesArm_refuseIf (refusesArm_refuseIf (refusesArm_refuseIf (refusesArm_refuseIf ?_)))
  split
  next =>
    intro e he
    exact ⟨_, (Except.error.inj he).symm⟩
  next =>
    refine refusesArm_refuseIf (refusesArm_bind hpolicy fun _ => ?_)
    intro e he
    cases he

end Arm

/-! ## Sizing the trade -/

namespace PaperRiskPipeline

variable {F D : Type} [PyFloat F] [DecidableEq F] [PyDecimal D] [Spelling F D]
  {p : PaperRiskPipeline F D} {x : PaperInputs F}

/-- The binding as sizing reads it: at the call's own worst entry. -/
def requiredQuantity (p : PaperRiskPipeline F D) (x : PaperInputs F) : Except PyError F :=
  boundCanaryQuantity D p.core x.review.intent p.settings.paperAccountId
    (worstEntry x.review.intent x.venue)

omit [DecidableEq F] in
/-- A binding refused with a `ValueError` is a reason of the canary's branch. -/
theorem canaryQuantity_refused {message : String} {leverage capacity : F}
    (h : p.requiredQuantity x = .error (.valueError message)) :
    p.canaryQuantity x leverage capacity
      = .ok (["canary_instrument_binding_invalid"], PyFloat.lit 0) := by
  unfold canaryQuantity
  unfold requiredQuantity at h
  dsimp only
  rw [h]

omit [DecidableEq F] in
/-- Any other exception goes through it. -/
theorem canaryQuantity_escapes {e : PyError} {leverage capacity : F}
    (h : p.requiredQuantity x = .error e) (hclass : ∀ message, e ≠ .valueError message) :
    p.canaryQuantity x leverage capacity = .error e := by
  unfold canaryQuantity
  unfold requiredQuantity at h
  dsimp only
  rw [h]
  split
  next hraised => exact absurd (Except.error.inj hraised) (hclass _)
  next hraised =>
    cases hraised
    rfl
  next hraised => cases hraised

/-- A refused binding leaves no quantity, and its reason among those of the sizing. -/
theorem size_refused (hcanary : x.review.intent.strategyId = paperCanaryStrategyId)
    (hsilent : (p.gates x).reasons = []) {message : String}
    (h : p.requiredQuantity x = .error (.valueError message)) :
    ∃ rest, p.size x (p.gates x)
      = .ok ("canary_instrument_binding_invalid" :: rest, PyFloat.lit 0) := by
  obtain ⟨account, allocation, haccount, hallocation⟩ := gates_metrics hsilent
  unfold size
  rw [hsilent, haccount, hallocation]
  dsimp only
  rw [selectQuantity, if_pos hcanary, canaryQuantity_refused h, ok_bind]
  dsimp only
  split
  next => exact ⟨_, rfl⟩
  next =>
    split
    next => exact ⟨_, rfl⟩
    next => exact ⟨_, rfl⟩

theorem size_escapes (hcanary : x.review.intent.strategyId = paperCanaryStrategyId)
    (hsilent : (p.gates x).reasons = []) {e : PyError} (h : p.requiredQuantity x = .error e)
    (hclass : ∀ message, e ≠ .valueError message) : p.size x (p.gates x) = .error e := by
  obtain ⟨account, allocation, haccount, hallocation⟩ := gates_metrics hsilent
  unfold size
  rw [hsilent, haccount, hallocation]
  dsimp only
  rw [selectQuantity, if_pos hcanary, canaryQuantity_escapes h hclass]
  rfl

omit [DecidableEq F] in
/-- With a reason of the gates nothing is sized. -/
theorem size_gated {g : Gates F} (h : g.reasons ≠ []) :
    p.size x g = .ok (g.reasons, PyFloat.lit 0) := by
  unfold size
  split
  next hnil _ _ => exact absurd hnil h
  next => rfl

/-- The call passes the checks of its own arguments. -/
structure WellFormed (x : PaperInputs F) : Prop where
  decidedAtMs : 0 ≤ x.decidedAtMs
  profile : x.venue.profile = .dev
  admission : ∀ reason ∈ x.admissionRejectionReasons, isNormalized reason = true

/-- A well-formed call is decided as it was sized. -/
theorem evaluate_sized (hx : WellFormed x) : p.evaluate x = p.size x (p.gates x) >>= fun sized =>
    p.core.riskTradeDecisionV1 (p.decisionFields x (p.gates x) sized.1 sized.2) := by
  unfold evaluate
  rw [raiseIf_bind (decide_eq_false (Int.not_lt.mpr hx.decidedAtMs)), raiseIf_ne_bind hx.profile,
    raiseIf_bind (by simpa using hx.admission)]

omit [PyDecimal D] [Spelling F D] in
/-- With a reason, the decision is a refusal of nothing. -/
theorem decisionFields_refused {g : Gates F} {reasons : List String} (h : reasons ≠ []) :
    (p.decisionFields x g reasons (PyFloat.lit 0)).approved = false ∧
    (p.decisionFields x g reasons (PyFloat.lit 0)).quantity = PyFloat.lit 0 ∧
    ∀ reason ∈ reasons,
      reason ∈ (p.decisionFields x g reasons (PyFloat.lit 0)).rejectionReasons := by
  refine ⟨?_, ?_, ?_⟩
  · simp [decisionFields, h]
  · simp [decisionFields]
  · intro reason hreason
    exact List.mem_append_left _ hreason

/-- The contract constructs the refusals of this call. -/
def Refusable (p : PaperRiskPipeline F D) (x : PaperInputs F) : Prop :=
  ∀ reasons, reasons ≠ [] →
    (p.core.decisionIds (p.decisionFields x (p.gates x) reasons (PyFloat.lit 0))).isSome = true

/-- The call is answered with a refusal of nothing; one that reached the binding names it. -/
def Refused (p : PaperRiskPipeline F D) (x : PaperInputs F) : Prop :=
  ∃ d, p.evaluate x = .ok d ∧ d.approved = false ∧ d.quantity = PyFloat.lit 0 ∧
    ((p.gates x).reasons = [] → "canary_instrument_binding_invalid" ∈ d.rejectionReasons)

/-- A call that is sized with reasons and no quantity is refused. -/
theorem refused_of_size (hx : WellFormed x) (hrefusable : p.Refusable x) {reasons : List String}
    (hreasons : reasons ≠ []) (h : p.size x (p.gates x) = .ok (reasons, PyFloat.lit 0))
    (hbinding : (p.gates x).reasons = [] → "canary_instrument_binding_invalid" ∈ reasons) :
    p.Refused x := by
  obtain ⟨ids, hids⟩ := Option.isSome_iff_exists.mp (hrefusable reasons hreasons)
  obtain ⟨happroved, hquantity, hmem⟩ := decisionFields_refused (p := p) (x := x)
    (g := p.gates x) hreasons
  refine ⟨⟨p.decisionFields x (p.gates x) reasons (PyFloat.lit 0), ids.decisionId, ids.tradeId⟩,
    ?_, happroved, hquantity, fun hsilent => hmem _ (hbinding hsilent)⟩
  rw [evaluate_sized hx, h, ok_bind, KairosCore.riskTradeDecisionV1, hids]

/-- **Sizing refuses** an unusable binding exactly when it is not reached, or
fails with a `ValueError`. -/
theorem refused_iff (hx : WellFormed x)
    (hcanary : x.review.intent.strategyId = paperCanaryStrategyId) (hrefusable : p.Refusable x)
    (hfails : ∀ quantity, p.requiredQuantity x ≠ .ok quantity) :
    p.Refused x ↔ ¬((p.gates x).reasons = [] ∧ Escapes (p.requiredQuantity x)) := by
  constructor
  · rintro ⟨d, hd, _⟩ ⟨hsilent, e, h, hclass⟩
    rw [evaluate_sized hx, size_escapes hcanary hsilent h hclass] at hd
    cases hd
  · intro hnot
    by_cases hsilent : (p.gates x).reasons = []
    · cases h : p.requiredQuantity x with
      | ok quantity => exact absurd h (hfails quantity)
      | error e =>
        by_cases hclass : ∀ message, e ≠ .valueError message
        · exact absurd ⟨hsilent, e, h, hclass⟩ hnot
        · simp only [ne_eq, not_forall, Decidable.not_not] at hclass
          obtain ⟨message, rfl⟩ := hclass
          obtain ⟨rest, hsize⟩ := size_refused hcanary hsilent h
          exact refused_of_size hx hrefusable (List.cons_ne_nil _ _) hsize fun _ =>
            List.mem_cons_self
    · exact refused_of_size hx hrefusable hsilent (size_gated hsilent) fun h => absurd h hsilent

end PaperRiskPipeline

/-! ## In the context of 28 digits -/

section Context

open PaperRiskPipeline

variable {F : Type} [PyFloat F] [DecidableEq F] [Spelling F Decimal]

/-- A decimal operation on the binding's figures signals where the code reaches it:
in sizing once the gates are silent, in the check of the arm once the review
follows the policy. -/
def PaperRiskPipeline.Overtaxes (p : PaperRiskPipeline F Decimal) (x : PaperInputs F) : Prop :=
  let binding := BindingOvertaxed Decimal p.core x.review.intent p.settings.paperAccountId
  ((p.gates x).reasons = [] ∧ (binding ∨
      ∃ (rule : EvedexDevInstrumentRule Decimal) (quantity : Decimal),
        Binds p.core x.review.intent p.settings.paperAccountId rule quantity ∧
        rule.LotOvertaxed (Spelling.spell (worstEntry x.review.intent x.venue)))) ∨
    (FollowsPolicy x.review ∧ binding)

/-- **An unusable binding is refused** in both places exactly when no decimal
operation on its figures signals there. -/
theorem unusable_binding_refused_iff (p : PaperRiskPipeline F Decimal) (x : PaperInputs F)
    (allocation : StrategicAllocation F) (hx : PaperRiskPipeline.WellFormed x)
    (hcanary : x.review.intent.strategyId = paperCanaryStrategyId) (hrefusable : p.Refusable x)
    (hfails : ∀ quantity, boundCanaryQuantity Decimal p.core x.review.intent
      p.settings.paperAccountId (worstEntry x.review.intent x.venue) ≠ .ok quantity) :
    (p.Refused x ∧
      (∀ e, validateCanaryBinding Decimal p.core x.review allocation p.settings.paperAccountId
        = .error e → ∃ message, e = .valueError message) ∧
      ∀ arm nowMs, arm.allocation = allocation →
        ∀ e, allocationFromConsumedArm Decimal p.core arm x.review p.settings.paperAccountId nowMs
          = .error e → ∃ message, e = .canaryAuthorizationError message) ↔
      ¬p.Overtaxes x := by
  have hsizing := refused_iff hx hcanary hrefusable hfails
  unfold requiredQuantity at hsizing
  rw [escapes_boundCanaryQuantity_iff] at hsizing
  have harm : (∀ e, validateCanaryBinding Decimal p.core x.review allocation
      p.settings.paperAccountId = .error e → ∃ message, e = .valueError message) ↔
      ¬(FollowsPolicy x.review ∧
        BindingOvertaxed Decimal p.core x.review.intent p.settings.paperAccountId) := by
    have hescapes : Escapes (validateCanaryBinding Decimal p.core x.review allocation
        p.settings.paperAccountId) ↔ _ := escapes_validateCanaryBinding_iff
    rw [← hescapes]
    unfold Escapes
    simp only [ne_eq, not_exists, not_and, not_forall, Decidable.not_not]
  rw [hsizing, harm, Overtaxes, not_or]
  constructor
  · rintro ⟨hsized, hchecked, _⟩
    exact ⟨hsized, hchecked⟩
  · rintro ⟨hsized, hchecked⟩
    refine ⟨hsized, hchecked, ?_⟩
    rintro arm nowMs rfl
    refine refusesArm_allocationFromConsumedArm ?_
    rw [escapes_validateCanaryBinding_iff]
    exact hchecked

end Context

/-! ## Two bindings

One binds a lot that is not the least; the other a greatest price that the grid
of a hundredth reaches in 10^32 steps. -/

namespace Scenario

open PaperRiskPipeline

/-- The canary's metadata with another value in one entry. -/
def withEntry (key value : String) : List (String × String) :=
  canaryMetadata.map fun item => if item.1 = key then (key, value) else item

/-- The canary's review with other metadata. -/
def withMetadata (metadata : List (String × String)) : CandidateReviewV1 Rat :=
  let intent := { canaryIntent with metadata := metadata }
  { canaryReview with intent := intent, route := { canaryReview.route with intent := intent } }

/-- The pipeline that reads decimals in the default context. -/
def contextPipeline (review : CandidateReviewV1 Rat) : PaperRiskPipeline Rat Decimal where
  core := core
    [{ review := review, venueSymbol := "BTCUSD:DEV", decisionId := "decision-canary"
       refusalId := "refusal-canary", tradeId := "trade-canary" }] canaryDigests
  settings := settings 10 ten_decisions
  regimePolicy := none

/-- A call with nothing against it but the binding. -/
def bindingInputs (review : CandidateReviewV1 Rat) : PaperInputs Rat where
  review := review
  venue := venue "BTCUSD:DEV" 60300
  account := some (account 1 60200)
  allocation := some canaryAllocation
  decidedAtMs := 60400
  systemMode := .normal
  reservations :=
    { symbols := [], openRiskUsd := 0, notionalUsd := 0, strategyNotionalUsd := []
      activeCanaryIdeas := 0 }
  admissionRejectionReasons := []
  regimeAllocation := none

/-- A lot above the least. -/
def excessReview : CandidateReviewV1 Rat := withMetadata (withEntry "canary_quantity" "0.06")

/-- A greatest price of 10^30, on a grid of a hundredth. -/
def distantReview : CandidateReviewV1 Rat :=
  withMetadata (withEntry "venue_max_price" "1000000000000000000000000000000")

/-- Its arm, consumed. -/
def distantArm : PaperCanaryArmRecord Rat := { canaryArm with review := distantReview }

theorem contextPipeline_refusable (review : CandidateReviewV1 Rat) :
    (contextPipeline review).Refusable (bindingInputs review) := by
  intro reasons _
  generalize hf : (contextPipeline review).decisionFields _ _ reasons (PyFloat.lit 0) = f
  have hintent : f.intent = review.intent := by
    rw [← hf]
    rfl
  have hreview : f.review = review := by
    rw [← hf]
    rfl
  have hsymbol : f.venueSymbol = "BTCUSD:DEV" := by
    rw [← hf]
    rfl
  -- the table knows the idea, whatever the reasons
  simp [contextPipeline, core, identities, Idea.about, hintent, hreview, hsymbol]

/-- The lot above the least is refused wherever it is read. -/
theorem excess_lot_refused :
    (contextPipeline excessReview).Refused (bindingInputs excessReview) ∧
    (∀ e, validateCanaryBinding Decimal (contextPipeline excessReview).core excessReview
      canaryAllocation "kairos-paper-dev-01" = .error e → ∃ message, e = .valueError message) ∧
    ∀ arm nowMs, arm.allocation = canaryAllocation →
      ∀ e, allocationFromConsumedArm Decimal (contextPipeline excessReview).core arm excessReview
        "kairos-paper-dev-01" nowMs = .error e →
        ∃ message, e = .canaryAuthorizationError message := by
  have hread : boundCanaryQuantity Decimal (contextPipeline excessReview).core excessReview.intent
      "kairos-paper-dev-01" (worstEntry excessReview.intent (bindingInputs excessReview).venue)
      = .error
        (.valueError "technical canary quantity is not the current effective venue minimum") :=
    by decide +kernel
  have hbound : (boundCanaryInstrument (D := Decimal) (contextPipeline excessReview).core
      excessReview.intent "kairos-paper-dev-01").toOption.isSome = true := by decide +kernel
  refine (unusable_binding_refused_iff (contextPipeline excessReview) (bindingInputs excessReview)
    canaryAllocation ⟨by decide, rfl, by decide⟩ rfl (contextPipeline_refusable _) ?_).mpr ?_
  · intro quantity h
    cases hread.symm.trans h
  · rintro (⟨_, h⟩ | ⟨_, h⟩)
    · obtain ⟨e, he, hclass⟩ := escapes_boundCanaryQuantity_iff.mpr h
      cases hread.symm.trans he
      exact hclass _ rfl
    · obtain ⟨e, he, _⟩ := escapes_boundCanaryInstrument_iff.mpr h
      have hraised : boundCanaryInstrument (D := Decimal) (contextPipeline excessReview).core
          excessReview.intent "kairos-paper-dev-01" = .error e := he
      rw [hraised] at hbound
      cases hbound

/-- The distant price signals wherever the binding is read, and no caller catches it. -/
theorem distant_price_escapes :
    (bindingInputs distantReview).review.intent.strategyId = paperCanaryStrategyId ∧
    boundCanaryQuantity Decimal (contextPipeline distantReview).core distantReview.intent
        "kairos-paper-dev-01" (worstEntry distantReview.intent (bindingInputs distantReview).venue)
      = .error (.arithmetic .invalidOperation) ∧
    (contextPipeline distantReview).evaluate (bindingInputs distantReview)
      = .error (.arithmetic .invalidOperation) ∧
    validateCanaryBinding Decimal (contextPipeline distantReview).core distantReview
        canaryAllocation "kairos-paper-dev-01"
      = .error (.arithmetic .invalidOperation) ∧
    allocationFromConsumedArm Decimal (contextPipeline distantReview).core distantArm distantReview
        "kairos-paper-dev-01" 60450
      = .error (.arithmetic .invalidOperation) := by
  refine ⟨rfl, ?_, ?_, ?_, ?_⟩ <;> decide +kernel

end Scenario

end KairosRisk
