import KairosRisk.Scenario

/-!
# Regime bindings, and the eviction that may take them

Bindings, and the markers of contradicted ones, live in one bounded map whose
eviction loop spares the intents of cached and reserved decisions. Two
consequences are stated exactly.

A binding that was just accepted is itself a candidate of that loop: it stays
if and only if its intent is retained or enough older entries are not
(`accepted_binding_held_iff`). When every older entry is retained, the call
returns true for a binding it has dropped.

A marker is forgotten in one way only, by that loop (`poison_step`). Until
then every review of the intent is refused, cached approval or not
(`poison_until_evicted`).
-/

namespace KairosRisk

open PyLib

namespace PaperRiskCoordinator

variable {F D : Type} [PyFloat F] [DecidableEq F]

/-! ## Accepted bindings -/

/-- The loop after an insertion under `intentId` spares the new entry. -/
def BindingSurvives (p : PaperRiskPipeline F D) (c : PaperRiskCoordinator F) (intentId : String) :
    Prop :=
  c.retainsIntent intentId = true ∨
  c.regimeAllocations.size + 1 ≤ p.settings.paperDecisionCacheSize
    + c.regimeAllocations.keys.countP fun k => !c.retainsIntent k

/-- The binding is held for its intent, so no review of the intent waits for it. -/
def BindingHeld (p : PaperRiskPipeline F D) (c : PaperRiskCoordinator F) (intentId : String)
    (allocation : RegimeBoundAllocationV1 F) : Prop :=
  c.regimeAllocations.get? intentId = some (some allocation) ∧
  ∀ review : CandidateReviewV1 F, review.intent.intentId = some intentId →
    c.inputsReady p review =
      (c.recoveryComplete && (paperDevSymbol review.intent.symbol).any c.venue.contains)

/-- With a binding recorded for the intent, the regime holds no review up. -/
theorem inputsReady_of_held {p : PaperRiskPipeline F D} {c : PaperRiskCoordinator F}
    {intentId : String} (h : intentId ∈ c.regimeAllocations.keys) {review : CandidateReviewV1 F}
    (hid : review.intent.intentId = some intentId) :
    c.inputsReady p review =
      (c.recoveryComplete && (paperDevSymbol review.intent.symbol).any c.venue.contains) := by
  have hregime : c.holdsRegime review.intent.intentId = true := by
    rw [hid]
    exact OrderedDict.contains_iff.mpr h
  unfold inputsReady
  simp only [hregime, Bool.or_true, Bool.and_true]

/-- **Exactly when an accepted binding is really held.** -/
theorem accepted_binding_held_iff (p : PaperRiskPipeline F D) (c : PaperRiskCoordinator F)
    (allocation : RegimeBoundAllocationV1 F) (receivedAtMs : Int) (intentId : String)
    (hid : allocation.observation.intent.intentId = some intentId)
    (haccepted : (c.applyRegimeAllocation p allocation receivedAtMs).1 = .ok true) :
    BindingHeld p (c.applyRegimeAllocation p allocation receivedAtMs).2 intentId allocation ↔
      BindingSurvives p c intentId := by
  rcases hr : c.applyRegimeAllocation p allocation receivedAtMs with ⟨r, c'⟩
  rw [hr] at haccepted
  cases applyRegimeAllocation_cases hr with
  | raised => cases haccepted
  | duplicate => cases haccepted
  | conflict => cases haccepted
  | accepted hid' hnew =>
    rw [hid] at hid'
    cases hid'
    have hsurvives : (OrderedDict.trim c.retainsIntent p.settings.paperDecisionCacheSize
        (c.regimeAllocations.set intentId (some allocation))).get? intentId
          = some (some allocation) ↔ BindingSurvives p c intentId :=
      OrderedDict.mem_trim_set_new (OrderedDict.get?_eq_none.mp hnew)
    constructor
    · intro h
      exact hsurvives.mp h.1
    · intro h
      have hget := hsurvives.mpr h
      refine ⟨hget, ?_⟩
      intro review hreview
      have hsome := Option.isSome_iff_exists.mpr ⟨_, hget⟩
      exact inputsReady_of_held (OrderedDict.get?_isSome.mp hsome) hreview

end PaperRiskCoordinator

namespace Scenario

open PaperRiskCoordinator

/-- The adaptive profile, with room for one decision and one binding. -/
def adaptiveMarket : PaperRiskPipeline Rat Rat where
  core := core [ideaA, ideaC] fun _ => ""
  settings := settings 1 (by decide)
  regimePolicy := some regimePolicy

/-- The facts both ideas need, and the binding of the first. -/
def bindingFirst : List (Operation adaptiveMarket.core) :=
  [.restoreReservations [], .applyAccount (account 1 60200), .applyVenue (venue "BTCUSD:DEV" 60300),
    .applyVenue (venue "ETHUSD:DEV" 60300),
    .applyRegimeAllocation (binding ideaA.review.intent "BULL") 60300]

/-- The first idea is bound. -/
def bound : PaperRiskCoordinator Rat := run (step adaptiveMarket) init bindingFirst

/-- The map is full of the first binding, which no decision retains: the second
takes its place, and is held. -/
theorem second_binding_held :
    bound.regimeAllocations.size = adaptiveMarket.settings.paperDecisionCacheSize ∧
    (bound.applyRegimeAllocation adaptiveMarket
      (binding ideaC.review.intent "BULL") 60450).2.regimeAllocations.get? "intent-a" = none ∧
    BindingHeld adaptiveMarket
      (bound.applyRegimeAllocation adaptiveMarket (binding ideaC.review.intent "BULL") 60450).2
      "intent-c" (binding ideaC.review.intent "BULL") :=
  ⟨by decide +kernel, by decide +kernel,
    (accepted_binding_held_iff adaptiveMarket bound (binding ideaC.review.intent "BULL") 60450
      "intent-c" rfl (by decide +kernel)).mpr (Or.inr (by decide +kernel))⟩

/-- The first idea is bound and decided, so its binding is retained. -/
def decided : PaperRiskCoordinator Rat :=
  step adaptiveMarket bound (.evaluate (request ideaA.review 60400))

/-- **An accepted binding is dropped**: the call returns true, and the review it
was for goes on waiting. -/
theorem accepted_binding_dropped :
    Reached adaptiveMarket decided ∧
    (decided.applyRegimeAllocation adaptiveMarket (binding ideaC.review.intent "BULL") 60450).1
      = .ok true ∧
    (decided.applyRegimeAllocation adaptiveMarket
      (binding ideaC.review.intent "BULL") 60450).2.regimeAllocations.get? "intent-c" = none ∧
    (decided.applyRegimeAllocation adaptiveMarket
      (binding ideaC.review.intent "BULL") 60450).2.inputsReady adaptiveMarket ideaC.review
        = false := by
  refine ⟨Reachable.snoc ⟨bindingFirst, rfl⟩ _, ?_, ?_, ?_⟩ <;> decide +kernel

end Scenario

namespace PaperRiskCoordinator

variable {F D : Type} [PyFloat F] [DecidableEq F]

/-! ## Contradicted bindings -/

/-- The intent's evidence is recorded as contradicted. -/
def Poisoned (c : PaperRiskCoordinator F) (intentId : String) : Prop :=
  c.regimeAllocations.get? intentId = some none

/-- A binding of another intent was accepted into a full map while neither a
cached nor a reserved decision was of this intent. -/
structure EvictsPoison (p : PaperRiskPipeline F D) (c : PaperRiskCoordinator F) (intentId : String)
    (allocation : RegimeBoundAllocationV1 F) (receivedAtMs : Int) : Prop where
  accepted : (c.applyRegimeAllocation p allocation receivedAtMs).1 = .ok true
  other : allocation.observation.intent.intentId ≠ some intentId
  full : p.settings.paperDecisionCacheSize ≤ c.regimeAllocations.size
  unretained : c.retainsIntent intentId = false

/-- A contradiction poisons the intent. -/
theorem conflict_poisons {p : PaperRiskPipeline F D} {c : PaperRiskCoordinator F}
    {first second : RegimeBoundAllocationV1 F} {receivedAtMs : Int} {intentId : String}
    (hpolicy : p.regimePolicy.isSome = true) (hvalid : p.core.regimeBindingValid second = true)
    (hreceived : second.boundAtMs ≤ receivedAtMs)
    (hid : second.observation.intent.intentId = some intentId)
    (hheld : c.regimeAllocations.get? intentId = some (some first))
    (hcontradicts : first.modelDump ≠ second.modelDump) :
    (c.applyRegimeAllocation p second receivedAtMs).1 =
      .error (.valueError "conflicting causal regime allocation for one intent") ∧
    Poisoned (c.applyRegimeAllocation p second receivedAtMs).2 intentId := by
  have hresult : c.applyRegimeAllocation p second receivedAtMs =
      (.error (.valueError "conflicting causal regime allocation for one intent"),
        { c with regimeAllocations := c.regimeAllocations.set intentId none }) := by
    unfold applyRegimeAllocation
    rw [if_neg (by simp [Option.isSome_iff_ne_none.mp hpolicy]), if_neg (by simp [hvalid]),
      if_neg (by omega), hid]
    simp only [hheld, Option.any_some]
    rw [if_neg (by simpa using hcontradicts)]
  rw [hresult]
  exact ⟨rfl, OrderedDict.get?_set_self ..⟩

variable [PyDecimal D] [Spelling F D]

/-- **Only eviction forgets a marker.** -/
theorem poison_step {p : PaperRiskPipeline F D} {c : PaperRiskCoordinator F} {intentId : String}
    (h : Poisoned c intentId) (op : Operation p.core)
    (hlost : ¬Poisoned (step p c op) intentId) :
    ∃ allocation receivedAtMs, op = .applyRegimeAllocation allocation receivedAtMs ∧
      EvictsPoison p c intentId allocation receivedAtMs := by
  cases op with
  | applyVenue venue =>
    refine absurd ?_ hlost
    show (c.applyVenue venue).2.regimeAllocations.get? intentId = some none
    rw [applyVenue_frame]
    exact h
  | applyAccount snapshot =>
    refine absurd ?_ hlost
    show (c.applyAccount p snapshot).2.regimeAllocations.get? intentId = some none
    rcases hr : c.applyAccount p snapshot with ⟨r, c'⟩
    cases applyAccount_cases hr with
    | reconciled _ _ _ hrec =>
      rw [(reconcileReservations_ok hrec).1]
      exact h
    | _ => exact h
  | restoreReservations decisions =>
    refine absurd ?_ hlost
    show (c.restoreReservations p (decisions.map (·.val))).2.regimeAllocations.get? intentId
      = some none
    have hloop : (restoreLoop p (decisions.map (·.val)) c).2.regimeAllocations.get? intentId
        = some none := by
      rw [restoreLoop_frame]
      exact h
    rcases hr : c.restoreReservations p (decisions.map (·.val)) with ⟨r, c'⟩
    rw [hr]
    cases restoreReservations_cases hr with
    | already => exact h
    | reconciled _ _ _ _ hrec =>
      rw [(reconcileReservations_ok hrec).1]
      exact hloop
    | _ => exact hloop
  | evaluate request =>
    refine absurd ?_ hlost
    show (c.evaluate p request).2.regimeAllocations.get? intentId = some none
    rcases hr : c.evaluate p request with ⟨r, c'⟩
    cases evaluate_cases hr <;> exact h
  | applyRegimeAllocation allocation receivedAtMs =>
    refine ⟨allocation, receivedAtMs, rfl, ?_⟩
    rcases hr : c.applyRegimeAllocation p allocation receivedAtMs with ⟨r, c'⟩
    have hfst : (c.applyRegimeAllocation p allocation receivedAtMs).1 = r := congrArg Prod.fst hr
    have hstep : step p c (.applyRegimeAllocation allocation receivedAtMs) = c' :=
      congrArg Prod.snd hr
    rw [hstep] at hlost
    cases applyRegimeAllocation_cases hr with
    | raised => exact absurd h hlost
    | duplicate => exact absurd h hlost
    | @conflict other _ hid =>
      refine absurd ?_ hlost
      show (c.regimeAllocations.set other none).get? intentId = some none
      rw [OrderedDict.get?_set]
      split
      next => rfl
      next => exact h
    | @accepted other hid hnew =>
      have hne : other ≠ intentId := by
        intro he
        rw [he, h] at hnew
        cases hnew
      have hset : (c.regimeAllocations.set other (some allocation)).get? intentId = some none :=
        (OrderedDict.get?_set_ne _ _ hne).trans h
      -- the new binding is not of this intent, so the trim took the marker out
      have hgone : intentId ∉ (OrderedDict.trim c.retainsIntent p.settings.paperDecisionCacheSize
          (c.regimeAllocations.set other (some allocation))).keys := by
        intro hmem
        obtain ⟨v, hv⟩ := Option.isSome_iff_exists.mp (OrderedDict.get?_isSome.mpr hmem)
        have hsame := OrderedDict.get?_of_trim hv
        rw [hset] at hsame
        cases hsame
        exact hlost hv
      obtain ⟨hunretained, hfull⟩ :=
        OrderedDict.evicted (OrderedDict.get?_isSome.mp (by rw [hset]; rfl)) hgone
      have hsize : (c.regimeAllocations.set other (some allocation)).size
          = c.regimeAllocations.size + 1 := by
        rw [OrderedDict.size, OrderedDict.set_items_of_new (OrderedDict.get?_eq_none.mp hnew),
          List.length_append]
        rfl
      -- one more than before is over the size, so the map was full
      refine ⟨hfst, ?_, by omega, hunretained⟩
      intro he
      rw [hid] at he
      exact hne (Option.some.inj he)

/-- A poisoned intent is refused, whatever is cached for it. -/
theorem poisoned_refused {p : PaperRiskPipeline F D} {c : PaperRiskCoordinator F}
    {intentId : String} (h : Poisoned c intentId) {x : EvaluateRequest F}
    (hid : x.review.intent.intentId = some intentId)
    (hneeds : needsRegimeBinding p x.review = true) {d : RiskTradeDecisionV1 F}
    (hd : (c.evaluate p x).1 = .ok d) : d.approved = false := by
  cases ha : d.approved with
  | false => rfl
  | true =>
    have hadm := approved_admission hd ha
    have hconflict : c.regimeConflict p x.review = true := by
      have hget : c.regimeAllocations.get? intentId = some none := h
      unfold regimeConflict holdsRegime OrderedDict.contains
      rw [hneeds, hid]
      simp [hget]
    rw [(admissionReasons_eq_nil hadm).1] at hconflict
    cases hconflict

/-- **Poison lasts until it is evicted**: the second of two contradictory bindings
of one intent raises, and an approval of the intent comes after it only once a
binding of another intent was accepted into a full map while no cached or
reserved decision was of the poisoned one. -/
theorem poison_until_evicted (p : PaperRiskPipeline F D) (c : PaperRiskCoordinator F)
    (first second : RegimeBoundAllocationV1 F) (receivedAtMs : Int) (intentId : String)
    (hpolicy : p.regimePolicy.isSome = true) (hvalid : p.core.regimeBindingValid second = true)
    (hreceived : second.boundAtMs ≤ receivedAtMs)
    (hid : second.observation.intent.intentId = some intentId)
    (hheld : c.regimeAllocations.get? intentId = some (some first))
    (hcontradicts : first.modelDump ≠ second.modelDump) :
    (c.applyRegimeAllocation p second receivedAtMs).1 =
      .error (.valueError "conflicting causal regime allocation for one intent") ∧
    ∀ (ops : List (Operation p.core)) (x : EvaluateRequest F) (d : RiskTradeDecisionV1 F),
      x.review.intent.intentId = some intentId →
      x.review.intent.strategyId ≠ paperCanaryStrategyId →
      ((run (step p) (step p c (.applyRegimeAllocation second receivedAtMs)) ops).evaluate p x).1
        = .ok d →
      d.approved = true →
      ∃ before allocation at' after,
        ops = before ++ .applyRegimeAllocation allocation at' :: after ∧
        EvictsPoison p
          (run (step p) (step p c (.applyRegimeAllocation second receivedAtMs)) before)
          intentId allocation at' := by
  obtain ⟨hraises, hpoisoned⟩ := conflict_poisons hpolicy hvalid hreceived hid hheld hcontradicts
  refine ⟨hraises, ?_⟩
  intro ops x d hx hcanary hd ha
  have hneeds : needsRegimeBinding p x.review = true := by
    unfold needsRegimeBinding PaperRiskPipeline.adaptive
    simp [hpolicy, hcanary]
  have hcured : ¬Poisoned (run (step p) (step p c (.applyRegimeAllocation second receivedAtMs)) ops)
      intentId := by
    intro h
    rw [poisoned_refused h hx hneeds hd] at ha
    cases ha
  obtain ⟨before, op, after, he, hbefore, hafter⟩ :=
    lost_at (P := fun s => Poisoned s intentId) ops hpoisoned hcured
  obtain ⟨allocation, at', rfl, hevicts⟩ := poison_step hbefore op hafter
  exact ⟨before, allocation, at', after, he, hevicts⟩

end PaperRiskCoordinator

namespace Scenario

open PaperRiskCoordinator

/-- A second regime for the intent of the first idea. -/
def contradiction : RegimeBoundAllocationV1 Rat := binding ideaA.review.intent "RANGE"

/-- Another intent's binding, then the first one again. -/
def redelivered : List (Operation adaptiveMarket.core) :=
  [.applyRegimeAllocation (binding ideaC.review.intent "BULL") 60350,
    .applyRegimeAllocation (binding ideaA.review.intent "BULL") 60360]

/-- The coordinator after the contradiction and the redelivery. -/
def revived : PaperRiskCoordinator Rat :=
  run (step adaptiveMarket)
    (step adaptiveMarket bound (.applyRegimeAllocation contradiction 60340)) redelivered

/-- The approval of the contradicted intent. -/
def revivedApproval : RiskTradeDecisionV1 Rat :=
  (made adaptiveMarket revived (request ideaA.review 60400)).get (by decide +kernel)

/-- The marker had been evicted by then. -/
theorem revived_after_eviction :
    ∃ before allocation at' after,
      redelivered = before ++ .applyRegimeAllocation allocation at' :: after ∧
      EvictsPoison adaptiveMarket
        (run (step adaptiveMarket)
          (step adaptiveMarket bound (.applyRegimeAllocation contradiction 60340)) before)
        "intent-a" allocation at' :=
  (poison_until_evicted adaptiveMarket bound (binding ideaA.review.intent "BULL") contradiction
    60340 "intent-a" rfl rfl (by decide) rfl (by decide +kernel) (by decide +kernel)).2 redelivered
    (request ideaA.review 60400) revivedApproval rfl (by decide)
    (returned_of_made (Option.some_get _).symm) (by decide +kernel)

/-- **Poison is not permanent**: the conflict was raised while the first binding
was held, and the intent is approved all the same. -/
theorem contradicted_intent_approved :
    Reached adaptiveMarket bound ∧
    bound.regimeAllocations.get? "intent-a" = some (some (binding ideaA.review.intent "BULL")) ∧
    (bound.applyRegimeAllocation adaptiveMarket contradiction 60340).1
      = .error (.valueError "conflicting causal regime allocation for one intent") ∧
    (revived.evaluate adaptiveMarket (request ideaA.review 60400)).1 = .ok revivedApproval ∧
    revivedApproval.approved = true := by
  refine ⟨⟨bindingFirst, rfl⟩, ?_, ?_, returned_of_made (Option.some_get _).symm, ?_⟩ <;>
    decide +kernel

end Scenario

end KairosRisk
