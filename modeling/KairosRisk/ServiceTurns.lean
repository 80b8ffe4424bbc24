import KairosRisk.Service

/-!
# What a round of the review loop can do

A round either stops the handling, or it takes a decision: it asked for the arm
in one of four ways (`ConsumesArm`), found the coordinator as others left it, and
evaluated there (`Takes`). Of a decision it publishes, `published_of_decideAndBind`
says where it came from: the first evaluation, with a binding if it is an
approval, or the second one, which approves nothing.
-/

namespace KairosRisk

open PyLib

variable {F D : Type} [PyFloat F]

/-- Everything others did on the coordinator during a round. -/
def Pass.updates {core : KairosCore F} (pass : Pass core) : List (Operation core) :=
  pass.entering ++ pass.wakes.flatMap (·.updates) ++ pass.duringSnapshot ++ pass.duringConsume
    ++ pass.beforeEvaluate ++ pass.duringBind ++ pass.beforeReevaluate

namespace RiskService

variable [DecidableEq F] [PyDecimal D] [Spelling F D]

/-! ## The coordinator a round finds -/

/-- `c'` is what operations among `ops` made of `c`. -/
def LeftBy (s : RiskService F D) (c c' : PaperRiskCoordinator F)
    (ops : List (Operation s.pipeline.core)) : Prop :=
  ∃ taken, c' = s.others c taken ∧ ∀ op ∈ taken, op ∈ ops

theorem LeftBy.others {s : RiskService F D} {c c' : PaperRiskCoordinator F}
    {ops : List (Operation s.pipeline.core)} (h : s.LeftBy c c' ops)
    {more : List (Operation s.pipeline.core)} (hmore : ∀ op ∈ more, op ∈ ops) :
    s.LeftBy c (s.others c' more) ops := by
  obtain ⟨taken, rfl, htaken⟩ := h
  refine ⟨taken ++ more, (run_append ..).symm, ?_⟩
  intro op hop
  rcases List.mem_append.mp hop with hop | hop
  · exact htaken op hop
  · exact hmore op hop

/-- The wait leaves what the updates made of the coordinator. -/
theorem waitForInputs_ready {s : RiskService F D} {review : CandidateReviewV1 F}
    {c₀ c' : PaperRiskCoordinator F} {ops : List (Operation s.pipeline.core)} :
    ∀ {wakes : List (Wake s.pipeline.core)} {c : PaperRiskCoordinator F},
      s.LeftBy c₀ c ops → (∀ wake ∈ wakes, ∀ op ∈ wake.updates, op ∈ ops) →
      s.waitForInputs review wakes c = .ready c' → s.LeftBy c₀ c' ops
  | [], c, hc, _, h => by
    unfold waitForInputs at h
    split at h
    next =>
      cases h
      exact hc
    next => cases h
  | wake :: wakes, c, hc, hops, h => by
    unfold waitForInputs at h
    split at h
    next =>
      cases h
      exact hc
    next =>
      split at h
      next => cases h
      next =>
        dsimp only at h
        split at h
        next => cases h
        next =>
          exact waitForInputs_ready (hc.others (hops wake (List.mem_cons_self ..)))
            (fun w hw => hops w (List.mem_cons_of_mem _ hw)) h

/-! ## Asking for the arm -/

/-- How the arm was asked for: the locals, the arm and the decision time after. -/
inductive ConsumesArm (s : RiskService F D) (review : CandidateReviewV1 F) (v : ReviewLocals F)
    (operator : Option OperatorSnapshotV1) (pass : Pass s.pipeline.core) :
    ReviewLocals F → Option (PaperCanaryArmRecord F) → Int → Prop
  | skipped (h : consumesArm review v operator = false) :
      ConsumesArm s review v operator pass v none pass.observedNowMs
  | missing (h : consumesArm review v operator = true) :
      ConsumesArm s review v operator pass
        { v with canaryArmChecked := true, admissionRejections := ["technical_canary_arm_missing"] }
        none pass.observedNowMs
  | accepted (h : consumesArm review v operator = true) {arm : PaperCanaryArmRecord F}
      {allocation : StrategicAllocation F} {decidedAtMs : Int}
      (haccepted : allocationFromConsumedArm D s.pipeline.core arm review
        s.pipeline.settings.paperAccountId pass.observedNowMs = .ok (allocation, decidedAtMs)) :
      ConsumesArm s review v operator pass
        { v with canaryArmChecked := true, canaryAllocation := some allocation } (some arm)
        decidedAtMs
  | invalid (h : consumesArm review v operator = true) {arm : PaperCanaryArmRecord F}
      {message : String}
      (hinvalid : allocationFromConsumedArm D s.pipeline.core arm review
        s.pipeline.settings.paperAccountId pass.observedNowMs
          = .error (.canaryAuthorizationError message)) :
      ConsumesArm s review v operator pass
        { v with canaryArmChecked := true, admissionRejections := ["technical_canary_arm_invalid"] }
        (some arm) pass.observedNowMs

omit [Spelling F D] in
theorem consumeArm_cases {s : RiskService F D} {review : CandidateReviewV1 F}
    {v v' : ReviewLocals F} {operator : Option OperatorSnapshotV1} {pass : Pass s.pipeline.core}
    {arm : Option (PaperCanaryArmRecord F)} {decidedAtMs : Int}
    (h : s.consumeArm review v operator pass = .ok (v', arm, decidedAtMs)) :
    ConsumesArm s review v operator pass v' arm decidedAtMs := by
  unfold consumeArm at h
  split at h
  next hconsumes =>
    dsimp only at h
    split at h
    next => cases h
    next =>
      cases h
      exact .missing hconsumes
    next arm _ =>
      split at h
      next haccepted =>
        cases h
        exact .accepted hconsumes haccepted
      next hinvalid =>
        cases h
        exact .invalid hconsumes hinvalid
      next => cases h
  next hskips =>
    cases h
    exact .skipped (Bool.eq_false_iff.mpr hskips)

/-! ## Taking a decision -/

/-- The round of a loop that asked for the arm and evaluated on `found`. -/
def deciding (s : RiskService F D) (review : CandidateReviewV1 F) (v : ReviewLocals F)
    (pass : Pass s.pipeline.core) (found : PaperRiskCoordinator F) (armed : ReviewLocals F)
    (arm : Option (PaperCanaryArmRecord F)) (decidedAtMs : Int) : Turn s.pipeline.core :=
  let operator := (s.readOperator v pass).2
  let decided := s.decideAndBind review armed operator decidedAtMs pass found
  { pass, entered := v, found, operator, arm, bound := decided.bound
    outcome := decided.outcome, locals := armed, coordinator := decided.coordinator }

/-- What a round can do. -/
inductive Takes (s : RiskService F D) (review : CandidateReviewV1 F) (v : ReviewLocals F)
    (c : PaperRiskCoordinator F) (pass : Pass s.pipeline.core) : Turn s.pipeline.core → Prop
  /-- It ended the handling, or waits. -/
  | stopped {t : Turn s.pipeline.core} (harm : t.arm = none)
      (hstopped : t.outcome = .waiting ∨ ∃ e, t.outcome = .raised e) :
      Takes s review v c pass t
  /-- It evaluated. -/
  | decided {found : PaperRiskCoordinator F} {armed : ReviewLocals F}
      {arm : Option (PaperCanaryArmRecord F)} {decidedAtMs : Int}
      (hfound : s.LeftBy c found pass.updates)
      (harm : ConsumesArm s review (s.readOperator v pass).1 (s.readOperator v pass).2 pass armed
        arm decidedAtMs) :
      Takes s review v c pass (s.deciding review v pass found armed arm decidedAtMs)

theorem turn_takes (s : RiskService F D) (review : CandidateReviewV1 F) (v : ReviewLocals F)
    (c : PaperRiskCoordinator F) (pass : Pass s.pipeline.core) :
    Takes s review v c pass (s.turn review v c pass) := by
  unfold turn
  split
  next ready hready =>
    unfold admission
    dsimp only
    split
    next e _ => exact .stopped rfl (Or.inr ⟨e, rfl⟩)
    next armed arm decidedAtMs harm =>
      refine .decided ?_ (consumeArm_cases harm)
      -- the coordinator went through every await on the way
      have hstart : s.LeftBy c (s.others c pass.entering) pass.updates :=
        ⟨pass.entering, rfl, fun op hop => by simp [Pass.updates, hop]⟩
      have hwaited := waitForInputs_ready hstart
        (fun wake hwake op hop => by
          have : op ∈ pass.wakes.flatMap (·.updates) := List.mem_flatMap.mpr ⟨wake, hwake, hop⟩
          simp only [Pass.updates, List.mem_append, this, true_or, or_true])
        hready
      have hasked : s.LeftBy c (s.afterSnapshot pass ready) pass.updates := by
        unfold afterSnapshot
        split
        next => exact hwaited.others fun op hop => by simp [Pass.updates, hop]
        next => exact hwaited
      have harmed : s.LeftBy c (s.afterConsume review (s.readOperator v pass).1
          (s.readOperator v pass).2 pass (s.afterSnapshot pass ready)) pass.updates := by
        unfold afterConsume
        split
        next => exact hasked.others fun op hop => by simp [Pass.updates, hop]
        next => exact hasked
      exact harmed.others fun op hop => by simp [Pass.updates, hop]
  next e _ _ => exact .stopped rfl (Or.inr ⟨e, rfl⟩)
  next => exact .stopped rfl (Or.inl rfl)

/-! ## Publishing -/

/-- Where a published decision came from. -/
inductive Publishes (s : RiskService F D) (review : CandidateReviewV1 F) (v : ReviewLocals F)
    (operator : Option OperatorSnapshotV1) (decidedAtMs : Int) (pass : Pass s.pipeline.core)
    (c : PaperRiskCoordinator F) (d : RiskTradeDecisionV1 F) :
    Option (RiskTradeDecisionV1 F × CanaryScope × Int) → Prop
  /-- The first evaluation refused. -/
  | refused (h : (c.evaluate s.pipeline (firstRequest review v decidedAtMs pass)).1 = .ok d)
      (hd : d.approved = false) : Publishes s review v operator decidedAtMs pass c d none
  /-- The first evaluation approved, and the operator's repository bound the approval. -/
  | bound (h : (c.evaluate s.pipeline (firstRequest review v decidedAtMs pass)).1 = .ok d)
      (hd : d.approved = true) {snapshot : OperatorSnapshotV1} {scope : CanaryScope}
      (hoperator : operator = some snapshot) (hscope : s.paperOperatorScope = some scope)
      (hbind : pass.bind = .ok ()) :
      Publishes s review v operator decidedAtMs pass c d (some (d, scope, snapshot.version))
  /-- The first evaluation approved, the binding failed, and the second refused. -/
  | revoked {first : RiskTradeDecisionV1 F}
      (h : (c.evaluate s.pipeline (firstRequest review v decidedAtMs pass)).1 = .ok first)
      (hfirst : first.approved = true)
      (hunbound : operator.isSome = true → s.paperOperatorScope.isSome = true → pass.bind ≠ .ok ())
      (c' : PaperRiskCoordinator F)
      (hsecond : (c'.evaluate s.pipeline (secondRequest review v decidedAtMs pass)).1 = .ok d) :
      Publishes s review v operator decidedAtMs pass c d none

omit [PyFloat F] [DecidableEq F] in
theorem concluded_published {r : Except PyError (RiskTradeDecisionV1 F)}
    {d : RiskTradeDecisionV1 F} (h : concluded r = .published d) : r = .ok d := by
  unfold concluded at h
  split at h
  next =>
    cases h
    rfl
  next => cases h
  next => cases h

theorem decideAndBind_published {s : RiskService F D} {review : CandidateReviewV1 F}
    {v : ReviewLocals F} {operator : Option OperatorSnapshotV1} {decidedAtMs : Int}
    {pass : Pass s.pipeline.core} {c : PaperRiskCoordinator F} {d : RiskTradeDecisionV1 F}
    (h : (s.decideAndBind review v operator decidedAtMs pass c).outcome = .published d) :
    Publishes s review v operator decidedAtMs pass c d
      (s.decideAndBind review v operator decidedAtMs pass c).bound := by
  unfold decideAndBind at h ⊢
  dsimp only at h ⊢
  split at h
  next e _ => cases concluded_published h
  next first hfirst =>
    cases happ : first.approved with
    | false =>
      rw [happ] at h
      cases h
      exact .refused hfirst happ
    | true =>
      rw [happ] at h
      simp only [if_true] at h ⊢
      split at h
      next operator scope hscope =>
        split at h
        next hbind =>
          cases h
          exact .bound hfirst happ rfl hscope hbind
        next e hbind =>
          refine .revoked hfirst happ ?_ _ (concluded_published h)
          intro _ _ hok
          rw [hok] at hbind
          cases hbind
      next hnone =>
        refine .revoked hfirst happ ?_ _ (concluded_published h)
        intro hoperator hscope
        obtain ⟨snapshot, hsnapshot⟩ := Option.isSome_iff_exists.mp hoperator
        obtain ⟨scope, hscope⟩ := Option.isSome_iff_exists.mp hscope
        exact absurd hscope (hnone snapshot scope hsnapshot)

/-- What a round that goes on leaves: the first evaluation found an input missing, or
it approved, the binding failed, and the second one found it missing. -/
inductive Retries (s : RiskService F D) (review : CandidateReviewV1 F) (v : ReviewLocals F)
    (decidedAtMs : Int) (pass : Pass s.pipeline.core) (c : PaperRiskCoordinator F) :
    PaperRiskCoordinator F → Prop
  | unavailable {message : String}
      (h : (c.evaluate s.pipeline (firstRequest review v decidedAtMs pass)).1
        = .error (.paperInputUnavailable message)) :
      Retries s review v decidedAtMs pass c
        (c.evaluate s.pipeline (firstRequest review v decidedAtMs pass)).2
  | revoked {first : RiskTradeDecisionV1 F}
      (h : (c.evaluate s.pipeline (firstRequest review v decidedAtMs pass)).1 = .ok first)
      (hfirst : first.approved = true) {c' : PaperRiskCoordinator F}
      (hleft : s.LeftBy (c.evaluate s.pipeline (firstRequest review v decidedAtMs pass)).2 c'
        pass.updates)
      {message : String}
      (hsecond : (c'.evaluate s.pipeline (secondRequest review v decidedAtMs pass)).1
        = .error (.paperInputUnavailable message)) :
      Retries s review v decidedAtMs pass c
        (c'.evaluate s.pipeline (secondRequest review v decidedAtMs pass)).2

omit [PyFloat F] [DecidableEq F] in
theorem concluded_retry {r : Except PyError (RiskTradeDecisionV1 F)}
    (h : concluded r = .retry) : ∃ message, r = .error (.paperInputUnavailable message) := by
  unfold concluded at h
  split at h
  next => cases h
  next message => exact ⟨message, rfl⟩
  next => cases h

theorem decideAndBind_retry {s : RiskService F D} {review : CandidateReviewV1 F}
    {v : ReviewLocals F} {operator : Option OperatorSnapshotV1} {decidedAtMs : Int}
    {pass : Pass s.pipeline.core} {c : PaperRiskCoordinator F} :
    (s.decideAndBind review v operator decidedAtMs pass c).outcome = .retry →
    Retries s review v decidedAtMs pass c
      (s.decideAndBind review v operator decidedAtMs pass c).coordinator := by
  unfold decideAndBind
  dsimp only
  split
  next e he =>
    intro h
    obtain ⟨message, hmessage⟩ := concluded_retry h
    exact .unavailable (he.trans hmessage)
  next first hfirst =>
    split
    next happ =>
      have hstart : s.LeftBy (c.evaluate s.pipeline (firstRequest review v decidedAtMs pass)).2
          (c.evaluate s.pipeline (firstRequest review v decidedAtMs pass)).2 pass.updates :=
        ⟨[], rfl, fun op hop => by cases hop⟩
      have hagain : ∀ op ∈ pass.beforeReevaluate, op ∈ pass.updates := fun op hop => by
        simp [Pass.updates, hop]
      split
      next =>
        split
        next => exact fun h => by cases h
        next =>
          intro h
          obtain ⟨message, hmessage⟩ := concluded_retry h
          have hbind := hstart.others (fun op (hop : op ∈ pass.duringBind) => by
            simp [Pass.updates, hop])
          exact .revoked hfirst happ (hbind.others hagain) hmessage
      next =>
        intro h
        obtain ⟨message, hmessage⟩ := concluded_retry h
        exact .revoked hfirst happ (hstart.others hagain) hmessage
    next => exact fun h => by cases h

/-! ## The rounds of a loop -/

/-- How a loop goes from its first round to the rest. -/
inductive Goes (s : RiskService F D) (review : CandidateReviewV1 F) (v : ReviewLocals F)
    (c : PaperRiskCoordinator F) (pass : Pass s.pipeline.core)
    (passes : List (Pass s.pipeline.core)) :
    Turn s.pipeline.core → List (Turn s.pipeline.core) → Prop
  /-- The first round was the last, and published nothing. -/
  | stopped {t : Turn s.pipeline.core} (harm : t.arm = none)
      (hpublished : ∀ d, t.outcome ≠ .published d) : Goes s review v c pass passes t []
  /-- It evaluated, and the loop went on only if it found an input missing. -/
  | decided {found : PaperRiskCoordinator F} {armed : ReviewLocals F}
      {arm : Option (PaperCanaryArmRecord F)} {decidedAtMs : Int}
      (hfound : s.LeftBy c found pass.updates)
      (harm : ConsumesArm s review (s.readOperator v pass).1 (s.readOperator v pass).2 pass armed
        arm decidedAtMs)
      {rest : List (Turn s.pipeline.core)}
      (hrest : rest = [] ∨
        ((s.deciding review v pass found armed arm decidedAtMs).outcome = .retry ∧
          rest = s.rounds review passes armed
            (s.deciding review v pass found armed arm decidedAtMs).coordinator)) :
      Goes s review v c pass passes (s.deciding review v pass found armed arm decidedAtMs) rest

theorem rounds_goes (s : RiskService F D) (review : CandidateReviewV1 F) (v : ReviewLocals F)
    (c : PaperRiskCoordinator F) (pass : Pass s.pipeline.core)
    (passes : List (Pass s.pipeline.core)) :
    ∃ first rest, s.rounds review (pass :: passes) v c = first :: rest ∧
      Goes s review v c pass passes first rest := by
  have htakes := turn_takes s review v c pass
  rw [rounds]
  generalize s.turn review v c pass = first at htakes ⊢
  cases htakes with
  | stopped harm hstopped =>
    refine ⟨first, [], ?_, .stopped harm ?_⟩
    · rcases hstopped with ho | ⟨e, ho⟩ <;> rw [ho]
    · intro d hd
      rw [hd] at hstopped
      rcases hstopped with ho | ⟨e, ho⟩ <;> cases ho
  | decided hfound harm =>
    refine ⟨_, _, rfl, .decided hfound harm ?_⟩
    split
    next hretry => exact Or.inr ⟨hretry, rfl⟩
    next => exact Or.inl rfl

end RiskService

end KairosRisk
