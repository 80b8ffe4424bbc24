import KairosRisk.Approvals
import KairosRisk.CanaryAuthorization

/-!
# Handling a PAPER review

`_handle_paper_review` is a loop: wait until the inputs of the review are there,
read the operator's authority, consume the canary's arm once, evaluate, bind an
approval to that authority, publish. Whenever the coordinator finds an input
missing after all, the loop starts over with the locals it has.

Other tasks run at every `await`, and the repositories answer as they like. One
round of the loop is therefore a function of what the others did and answered
during it (`Pass`), and a handling is the list of its rounds (`Turn`), each with
what the service read, consumed and bound. A value an `await` returned but the
code cannot use counts with the exceptions it leads to.
-/

namespace KairosRisk

open PyLib

/-- What an awaited call does: it returns or raises. -/
abbrev Reply (α : Type) := Except PyError α

/-- `CanaryScope`. -/
structure CanaryScope where
  environment : String
  accountId : String
  remoteAccountId : String
  configSha256 : String
  recorderCodeSha256 : String
  deriving DecidableEq

/-- `OperatorSnapshotV1`, as far as admission asks it. -/
structure OperatorSnapshotV1 where
  version : Int
  deriving DecidableEq

variable {F D : Type} [PyFloat F]

/-- The part of `RiskService` that handles PAPER reviews. -/
structure RiskService (F D : Type) [PyFloat F] where
  pipeline : PaperRiskPipeline F D
  paperOperatorScope : Option CanaryScope

/-- One wait on the coordinator's condition: the clock read before it, what
others did until the waiter ran again, and whether it ran because of the timeout. -/
structure Wake (core : KairosCore F) where
  nowMs : Int
  updates : List (Operation core)
  timedOut : Bool

/-- What the others do and answer during one round of the loop. -/
structure Pass (core : KairosCore F) where
  entering : List (Operation core)
  wakes : List (Wake core)
  observedNowMs : Int
  snapshot : Reply (Option OperatorSnapshotV1)
  duringSnapshot : List (Operation core)
  consume : Reply (Option (PaperCanaryArmRecord F))
  duringConsume : List (Operation core)
  strategicAllocation : Option (StrategicAllocation F)
  systemMode : SystemMode
  beforeEvaluate : List (Operation core)
  bind : Reply Unit
  duringBind : List (Operation core)
  strategicAllocationAgain : Option (StrategicAllocation F)
  systemModeAgain : SystemMode
  beforeReevaluate : List (Operation core)

/-- The locals of the loop. -/
structure ReviewLocals (F : Type) where
  canaryAllocation : Option (StrategicAllocation F)
  admissionRejections : List String
  canaryArmChecked : Bool

/-- The locals before the first round. -/
def ReviewLocals.start : ReviewLocals F where
  canaryAllocation := none
  admissionRejections := []
  canaryArmChecked := false

/-- How a round ends. -/
inductive Outcome (F : Type) where
  | published (decision : RiskTradeDecisionV1 F)
  | raised (e : PyError)
  /-- An input was missing after all. -/
  | retry
  /-- Still in `wait_for_inputs`. -/
  | waiting

/-- A round of the loop, with what the service learnt in it. -/
structure Turn (core : KairosCore F) where
  pass : Pass core
  /-- The locals on entry. -/
  entered : ReviewLocals F
  /-- The coordinator the first evaluation found, when there was one. -/
  found : PaperRiskCoordinator F
  operator : Option OperatorSnapshotV1
  /-- The arm the repository returned. -/
  arm : Option (PaperCanaryArmRecord F)
  /-- The arguments of a `bind_decision` that returned. -/
  bound : Option (RiskTradeDecisionV1 F × CanaryScope × Int)
  outcome : Outcome F
  /-- The locals and the coordinator it left. -/
  locals : ReviewLocals F
  coordinator : PaperRiskCoordinator F

/-- The canary's reviews. -/
def CandidateReviewV1.isCanary (review : CandidateReviewV1 F) : Bool :=
  review.intent.strategyId == paperCanaryStrategyId

namespace RiskService

variable [DecidableEq F] [PyDecimal D] [Spelling F D]

/-- What others did, on the coordinator. -/
abbrev others (s : RiskService F D) (c : PaperRiskCoordinator F)
    (ops : List (Operation s.pipeline.core)) : PaperRiskCoordinator F :=
  run (PaperRiskCoordinator.step s.pipeline) c ops

/-! ## Waiting -/

/-- The end of `wait_for_inputs`. -/
inductive Waited (F : Type) where
  | ready (c : PaperRiskCoordinator F)
  | raised (e : PyError) (c : PaperRiskCoordinator F)
  | waiting (c : PaperRiskCoordinator F)

/-- The deadline of the wait passed. -/
def deadlineExceeded : PyError :=
  .paperInputDeadlineExceeded "PAPER admission inputs did not arrive before intent expiry"

/-- `wait_for_inputs`. -/
def waitForInputs (s : RiskService F D) (review : CandidateReviewV1 F) :
    List (Wake s.pipeline.core) → PaperRiskCoordinator F → Waited F
  | [], c => if c.inputsReady s.pipeline review then .ready c else .waiting c
  | wake :: wakes, c =>
    if c.inputsReady s.pipeline review then .ready c
    else if review.intent.entryExpiresTsMs - wake.nowMs ≤ 0 then .raised deadlineExceeded c
    else
      let c := s.others c wake.updates
      if wake.timedOut then .raised deadlineExceeded c else s.waitForInputs review wakes c

/-! ## Authority -/

/-- The operator's authority, and the locals after asking for it. -/
def readOperator (s : RiskService F D) (v : ReviewLocals F) (pass : Pass s.pipeline.core) :
    ReviewLocals F × Option OperatorSnapshotV1 :=
  match s.paperOperatorScope, pass.snapshot with
  | some _, .ok operator => (v, operator)
  | _, _ =>
    ({ v with admissionRejections :=
        sortedNames (v.admissionRejections ++ ["operator_control_unavailable"]).eraseDups }, none)

/-- The arm is asked for now: a canary's, with an operator, once. -/
def consumesArm (review : CandidateReviewV1 F) (v : ReviewLocals F)
    (operator : Option OperatorSnapshotV1) : Bool :=
  review.isCanary && !v.canaryArmChecked && operator.isSome

/-- The locals, the arm and the decision time after the arm was asked for. -/
def consumeArm (s : RiskService F D) (review : CandidateReviewV1 F) (v : ReviewLocals F)
    (operator : Option OperatorSnapshotV1) (pass : Pass s.pipeline.core) :
    Except PyError (ReviewLocals F × Option (PaperCanaryArmRecord F) × Int) :=
  if consumesArm review v operator then
    let v := { v with canaryArmChecked := true }
    match pass.consume with
    | .error e => .error e
    | .ok none =>
      .ok ({ v with admissionRejections := ["technical_canary_arm_missing"] }, none,
        pass.observedNowMs)
    | .ok (some arm) =>
      match allocationFromConsumedArm D s.pipeline.core arm review
          s.pipeline.settings.paperAccountId pass.observedNowMs with
      | .ok (allocation, decidedAtMs) =>
        .ok ({ v with canaryAllocation := some allocation }, some arm, decidedAtMs)
      | .error (.canaryAuthorizationError _) =>
        .ok ({ v with admissionRejections := ["technical_canary_arm_invalid"] }, some arm,
          pass.observedNowMs)
      | .error e => .error e
  else .ok (v, none, pass.observedNowMs)

/-! ## Deciding -/

/-- The `except PaperInputUnavailable` around both evaluations. -/
def concluded : Except PyError (RiskTradeDecisionV1 F) → Outcome F
  | .ok d => .published d
  | .error (.paperInputUnavailable _) => .retry
  | .error e => .raised e

/-- The first evaluation's arguments. -/
def firstRequest (review : CandidateReviewV1 F) (v : ReviewLocals F) (decidedAtMs : Int)
    {core : KairosCore F} (pass : Pass core) : EvaluateRequest F where
  review := review
  allocation := if review.isCanary then v.canaryAllocation else pass.strategicAllocation
  decidedAtMs := decidedAtMs
  systemMode := pass.systemMode
  admissionRejectionReasons := v.admissionRejections

/-- The arguments of the evaluation after a binding that failed. -/
def secondRequest (review : CandidateReviewV1 F) (v : ReviewLocals F) (decidedAtMs : Int)
    {core : KairosCore F} (pass : Pass core) : EvaluateRequest F where
  review := review
  allocation := if review.isCanary then v.canaryAllocation else pass.strategicAllocationAgain
  decidedAtMs := decidedAtMs
  systemMode := pass.systemModeAgain
  admissionRejectionReasons := ["operator_control_changed"]

/-- What the evaluation part of a round leaves. -/
structure Decided (F : Type) where
  outcome : Outcome F
  bound : Option (RiskTradeDecisionV1 F × CanaryScope × Int)
  coordinator : PaperRiskCoordinator F

/-- External authority revokes even a cached approval. -/
def revoke (s : RiskService F D) (review : CandidateReviewV1 F) (v : ReviewLocals F)
    (decidedAtMs : Int) (pass : Pass s.pipeline.core) (c : PaperRiskCoordinator F) : Decided F :=
  let second := (s.others c pass.beforeReevaluate).evaluate s.pipeline
    (secondRequest review v decidedAtMs pass)
  { outcome := concluded second.1, bound := none, coordinator := second.2 }

/-- Evaluate, and bind an approval to the operator's version. -/
def decideAndBind (s : RiskService F D) (review : CandidateReviewV1 F) (v : ReviewLocals F)
    (operator : Option OperatorSnapshotV1) (decidedAtMs : Int) (pass : Pass s.pipeline.core)
    (c : PaperRiskCoordinator F) : Decided F :=
  let first := c.evaluate s.pipeline (firstRequest review v decidedAtMs pass)
  match first.1 with
  | .error e => { outcome := concluded (.error e), bound := none, coordinator := first.2 }
  | .ok d =>
    if d.approved then
      match operator, s.paperOperatorScope with
      | some operator, some scope =>
        let c := s.others first.2 pass.duringBind
        match pass.bind with
        | .ok () =>
          { outcome := .published d, bound := some (d, scope, operator.version), coordinator := c }
        | .error _ => s.revoke review v decidedAtMs pass c
      | _, _ => s.revoke review v decidedAtMs pass first.2
    else { outcome := .published d, bound := none, coordinator := first.2 }

/-! ## The loop -/

/-- The coordinator after the operator was asked. -/
def afterSnapshot (s : RiskService F D) (pass : Pass s.pipeline.core)
    (c : PaperRiskCoordinator F) : PaperRiskCoordinator F :=
  if s.paperOperatorScope.isSome then s.others c pass.duringSnapshot else c

/-- The coordinator after the arm was asked for. -/
def afterConsume (s : RiskService F D) (review : CandidateReviewV1 F) (v : ReviewLocals F)
    (operator : Option OperatorSnapshotV1) (pass : Pass s.pipeline.core)
    (c : PaperRiskCoordinator F) : PaperRiskCoordinator F :=
  if consumesArm review v operator then s.others c pass.duringConsume else c

/-- A round once the inputs are there. -/
def admission (s : RiskService F D) (review : CandidateReviewV1 F) (v : ReviewLocals F)
    (pass : Pass s.pipeline.core) (c : PaperRiskCoordinator F) : Turn s.pipeline.core :=
  let asked := (s.readOperator v pass).1
  let operator := (s.readOperator v pass).2
  let c := s.afterConsume review asked operator pass (s.afterSnapshot pass c)
  match s.consumeArm review asked operator pass with
  | .error e =>
    { pass, entered := v, found := c, operator, arm := none, bound := none, outcome := .raised e
      locals := asked, coordinator := c }
  | .ok (armed, arm, decidedAtMs) =>
    let c := s.others c pass.beforeEvaluate
    let decided := s.decideAndBind review armed operator decidedAtMs pass c
    { pass, entered := v, found := c, operator, arm, bound := decided.bound
      outcome := decided.outcome, locals := armed, coordinator := decided.coordinator }

/-- One round of the loop. -/
def turn (s : RiskService F D) (review : CandidateReviewV1 F) (v : ReviewLocals F)
    (c : PaperRiskCoordinator F) (pass : Pass s.pipeline.core) : Turn s.pipeline.core :=
  match s.waitForInputs review pass.wakes (s.others c pass.entering) with
  | .ready c => s.admission review v pass c
  | .raised e c =>
    { pass, entered := v, found := c, operator := none, arm := none, bound := none
      outcome := .raised e, locals := v, coordinator := c }
  | .waiting c =>
    { pass, entered := v, found := c, operator := none, arm := none, bound := none
      outcome := .waiting, locals := v, coordinator := c }

/-- A round is of its pass, and entered with its locals. -/
theorem turn_entered (s : RiskService F D) (review : CandidateReviewV1 F) (v : ReviewLocals F)
    (c : PaperRiskCoordinator F) (pass : Pass s.pipeline.core) :
    (s.turn review v c pass).pass = pass ∧ (s.turn review v c pass).entered = v := by
  unfold turn admission
  dsimp only
  split
  · split <;> exact ⟨rfl, rfl⟩
  · exact ⟨rfl, rfl⟩
  · exact ⟨rfl, rfl⟩

/-- The rounds of a loop that has the locals `v`. -/
def rounds (s : RiskService F D) (review : CandidateReviewV1 F) :
    List (Pass s.pipeline.core) → ReviewLocals F → PaperRiskCoordinator F →
      List (Turn s.pipeline.core)
  | [], _, _ => []
  | pass :: passes, v, c =>
    let t := s.turn review v c pass
    t :: match t.outcome with
      | .retry => s.rounds review passes t.locals t.coordinator
      | _ => []

/-- `_handle_paper_review`. -/
def handlePaperReview (s : RiskService F D) (review : CandidateReviewV1 F)
    (passes : List (Pass s.pipeline.core)) (c : PaperRiskCoordinator F) :
    List (Turn s.pipeline.core) := s.rounds review passes .start c

/-- One message of the review topic: what others did before it is taken up, and
what they do while it is handled. -/
structure Envelope (core : KairosCore F) where
  before : List (Operation core)
  review : CandidateReviewV1 F
  passes : List (Pass core)

/-- A handled review, with its rounds. -/
structure Handled (core : KairosCore F) where
  review : CandidateReviewV1 F
  turns : List (Turn core)

/-- `_consume_paper_reviews`: one review after the other. -/
def consumePaperReviews (s : RiskService F D) :
    List (Envelope s.pipeline.core) → PaperRiskCoordinator F → List (Handled s.pipeline.core)
  | [], _ => []
  | envelope :: envelopes, c =>
    let c := s.others c envelope.before
    let turns := s.handlePaperReview envelope.review envelope.passes c
    { review := envelope.review, turns } ::
      s.consumePaperReviews envelopes ((turns.getLast?.map (·.coordinator)).getD c)

end RiskService

end KairosRisk
