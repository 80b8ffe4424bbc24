import KairosRisk.CanaryAgreement
import KairosRisk.Service

/-!
# One canary, from the operator's session to Risk

A canary goes through three hands. A session of the command line prepares it,
asks persistence to arm it, and checks the record it gets back
(`validateArmedRecord`). Persistence consumes the arm once. Risk checks the
consumed record on its own, with none of the session's code
(`allocationFromConsumedArm`).

What the two checks have in common is worth more than either: a record the
session confirmed is one Risk takes, for as long as the entry is open
(`published_canary_is_taken`). A session arms at most once, and only what it
prepared and validated (`session_arms_once`); and a second session that prepares
the same canary later asks for the same arm (`retry_is_idempotent`).
-/

namespace KairosRisk

open PyLib

/-- `CANARY_ARM_PHRASE`. -/
def canaryArmPhrase : String := "ARM EVEDEX DEV PAPER CANARY"

variable {F : Type} [PyFloat F] [DecidableEq F] (D : Type) [PyDecimal D]

/-! ## The record persistence hands back -/

/-- `model_dump(mode="json")`, whose one mapping compares without its order. -/
def StrategicAllocation.modelDump (a : StrategicAllocation F) : StrategicAllocation F :=
  { a with strategyWeights := sortedPairs a.strategyWeights }

/-- `validate_armed_record`: persistence stored the exact arm that was requested. -/
def validateArmedRecord (core : KairosCore F) (arm : PaperCanaryArmRecord F)
    (review : CandidateReviewV1 F) (allocation : StrategicAllocation F) (accountId : String)
    (nowMs : Int) : Except PyError String := do
  refuseIf (!(["ARMED", "CONSUMED"].contains arm.status) || arm.accountId ≠ accountId)
    "persistence returned no active arm for this account"
  validateSessionBinding arm nowMs
  refuseIf
    (decide (arm.review ≠ review) || decide (arm.allocation.modelDump ≠ allocation.modelDump))
    "persistence returned a canary arm with conflicting payloads"
  refuseIf (arm.armId ≠ canaryArmIdentity core accountId review allocation)
    "persistence returned a conflicting canary arm identity"
  refuseIf (!arm.expiresAt.aware) "durable canary expiry must be timezone-aware"
  let expiresAtMs := arm.expiresAt.epochMs F
  refuseIf (expiresAtMs ≠ review.intent.entryExpiresTsMs || decide (expiresAtMs ≤ nowMs))
    "persistence returned an expired or conflicting canary arm"
  validateCanaryBinding D core review allocation accountId
  return arm.armId

/-- The arm once persistence consumed it: its status and the database's time. -/
def PaperCanaryArmRecord.consumed (arm : PaperCanaryArmRecord F) (decidedAtMs : Int) :
    PaperCanaryArmRecord F :=
  { arm with status := "CONSUMED", decidedAtMs := some decidedAtMs }

/-- What a session confirmed of an arm. -/
structure Confirmed (core : KairosCore F) (arm : PaperCanaryArmRecord F)
    (review : CandidateReviewV1 F) (allocation : StrategicAllocation F) (accountId : String) :
    Prop where
  active : ["ARMED", "CONSUMED"].contains arm.status = true
  sameAccount : arm.accountId = accountId
  binding : (arm.sessionId.any isSha256Hex && arm.attemptId.any isSha256Hex) = true
  deadline : ∃ deadline, arm.sessionExpiresAt = some deadline ∧ deadline.aware = true ∧
    review.intent.entryExpiresTsMs ≤ deadline.epochMs F
  sameReview : arm.review = review
  sameAllocation : arm.allocation = allocation
  identity : arm.armId = canaryArmIdentity core accountId review allocation
  aware : arm.expiresAt.aware = true
  expiry : arm.expiresAt.epochMs F = review.intent.entryExpiresTsMs
  policy : validateCanaryBinding D core review allocation accountId = .ok ()

omit [DecidableEq F] in
/-- The session's own binding and deadline were checked before anything else. -/
theorem validateSessionBinding_ok {arm : PaperCanaryArmRecord F} {nowMs : Int}
    (h : validateSessionBinding arm nowMs = .ok ()) :
    (arm.sessionId.any isSha256Hex && arm.attemptId.any isSha256Hex) = true ∧
    ∃ deadline, arm.sessionExpiresAt = some deadline ∧ deadline.aware = true ∧
      arm.review.intent.entryExpiresTsMs ≤ deadline.epochMs F := by
  unfold validateSessionBinding at h
  obtain ⟨hbinding, h⟩ := ok_of_refuseIf h
  refine ⟨by simpa using hbinding, ?_⟩
  split at h
  next => cases h
  next deadline hdeadline =>
    obtain ⟨haware, h⟩ := ok_of_refuseIf h
    unfold refuseIf at h
    dsimp only at h
    split at h
    next => cases h
    next hbounds =>
      simp only [Bool.or_eq_true, decide_eq_true_eq, not_or, Int.not_lt] at hbounds
      exact ⟨deadline, hdeadline, by simpa using haware, hbounds.2⟩

/-- An allocation of the canary's policy has the one weight. -/
theorem weights_of_validateCanaryBinding {core : KairosCore F} {review : CandidateReviewV1 F}
    {allocation : StrategicAllocation F} {accountId : String}
    (h : validateCanaryBinding D core review allocation accountId = .ok ()) :
    allocation.strategyWeights = [(paperCanaryStrategyId, PyFloat.lit canaryAllocationWeight)] := by
  unfold validateCanaryBinding at h
  iterate 8 obtain ⟨_, h⟩ := ok_of_raiseIf h
  obtain ⟨⟨instrument, quantity⟩, _, h⟩ := ok_of_bind h
  obtain ⟨_, h⟩ := ok_of_raiseIf h
  obtain ⟨_, h⟩ := ok_of_raiseIf h
  unfold validateCanaryAllocation at h
  obtain ⟨_, h⟩ := ok_of_raiseIf h
  obtain ⟨identity, _, h⟩ := ok_of_bind h
  iterate 3 obtain ⟨_, h⟩ := ok_of_raiseIf h
  obtain ⟨hweights, _⟩ := ok_of_raiseIf h
  exact Decidable.not_not.mp (of_decide_eq_false hweights)

omit [PyFloat F] [DecidableEq F] in
/-- One weight leaves no order to compare without. -/
theorem allocation_of_modelDump {a b : StrategicAllocation F} {weight : String × F}
    (h : a.modelDump = b.modelDump) (hb : b.strategyWeights = [weight]) : a = b := by
  have hsorted : sortedPairs a.strategyWeights = sortedPairs b.strategyWeights :=
    congrArg StrategicAllocation.strategyWeights h
  have hweights : a.strategyWeights = [weight] := by
    have hperm := sortedPairs_perm a.strategyWeights
    rw [hsorted, hb] at hperm
    exact (List.singleton_perm.mp hperm).symm
  cases a
  cases b
  simp only [StrategicAllocation.modelDump, StrategicAllocation.mk.injEq] at h hweights hb ⊢
  simp_all

theorem confirmed_of_validateArmedRecord {core : KairosCore F} {arm : PaperCanaryArmRecord F}
    {review : CandidateReviewV1 F} {allocation : StrategicAllocation F} {accountId armId : String}
    {nowMs : Int}
    (h : validateArmedRecord D core arm review allocation accountId nowMs = .ok armId) :
    Confirmed D core arm review allocation accountId ∧ armId = arm.armId := by
  unfold validateArmedRecord at h
  obtain ⟨hstatus, h⟩ := ok_of_refuseIf h
  obtain ⟨_, hsession, h⟩ := ok_of_bind h
  obtain ⟨hpayloads, h⟩ := ok_of_refuseIf h
  obtain ⟨hidentity, h⟩ := ok_of_refuseIf h
  obtain ⟨haware, h⟩ := ok_of_refuseIf h
  obtain ⟨hexpiry, h⟩ := ok_of_refuseIf h
  obtain ⟨_, hpolicy, h⟩ := ok_of_bind h
  cases h
  obtain ⟨hbinding, deadline, hdeadline, hzone, hbound⟩ := validateSessionBinding_ok hsession
  simp only [ne_eq, Bool.or_eq_false_iff, decide_eq_false_iff_not, Decidable.not_not]
    at hstatus hpayloads hexpiry
  have hidentity : arm.armId = canaryArmIdentity core accountId review allocation :=
    Decidable.not_not.mp (of_decide_eq_false hidentity)
  have hallocation : arm.allocation = allocation :=
    allocation_of_modelDump hpayloads.2 (weights_of_validateCanaryBinding D hpolicy)
  refine ⟨⟨by simpa only [Bool.not_eq_false'] using hstatus.1, hstatus.2, hbinding,
    ⟨deadline, hdeadline, hzone, ?_⟩, hpayloads.1, hallocation, hidentity, by simpa using haware,
    hexpiry.1, hpolicy⟩, rfl⟩
  rw [← hpayloads.1]
  exact hbound

/-! ## What Risk makes of it -/

/-- A check that finds nothing lets the computation go on. -/
theorem refuseIf_bind {β : Type} {test : Bool} {message : String} {f : Unit → Except PyError β}
    (h : test = false) : (refuseIf test message >>= f) = f () := by
  rw [h]
  rfl

omit [DecidableEq F] in
/-- The session binding holds until the deadline, and is refused from then on. -/
theorem validateSessionBinding_eq {arm : PaperCanaryArmRecord F} {deadline : DateTime}
    (hbinding : (arm.sessionId.any isSha256Hex && arm.attemptId.any isSha256Hex) = true)
    (hdeadline : arm.sessionExpiresAt = some deadline) (haware : deadline.aware = true)
    (hbound : arm.review.intent.entryExpiresTsMs ≤ deadline.epochMs F) (nowMs : Int) :
    validateSessionBinding arm nowMs = if nowMs < deadline.epochMs F then .ok ()
      else .error (.canaryAuthorizationError
        "durable canary session is expired or does not bound the entry") := by
  unfold validateSessionBinding
  rw [refuseIf_bind (by rw [hbinding]; rfl), hdeadline]
  dsimp only
  rw [refuseIf_bind (by rw [haware]; rfl), decide_eq_false (Int.not_lt.mpr hbound), Bool.or_false]
  unfold refuseIf
  by_cases hnow : nowMs < deadline.epochMs F
  · rw [if_pos hnow, decide_eq_false (Int.not_le.mpr hnow)]
    rfl
  · rw [if_neg hnow, decide_eq_true (Int.not_lt.mp hnow)]
    rfl

section Confirmed

variable {D} {core : KairosCore F} {arm : PaperCanaryArmRecord F} {review : CandidateReviewV1 F}
  {allocation : StrategicAllocation F} {accountId : String} {decidedAtMs nowMs : Int}

/-- The entry is still open, and the database's time lies in it. -/
def takenAt (review : CandidateReviewV1 F) (decidedAtMs nowMs : Int) : Bool :=
  decide (nowMs < review.intent.entryExpiresTsMs)
    && decisionTimeInWindow review decidedAtMs review.intent.entryExpiresTsMs nowMs

/-- Before the clock is looked at, a confirmed arm passes every check of Risk's. -/
theorem Confirmed.risk_eq (h : Confirmed D core arm review allocation accountId)
    (hstatus : arm.status = "CONSUMED") (hdecided : arm.decidedAtMs = some decidedAtMs) :
    allocationFromConsumedArm D core arm review accountId nowMs = (do
      validateSessionBinding arm nowMs
      refuseIf (decide (review.intent.entryExpiresTsMs ≤ nowMs))
        "durable canary arm is expired or has a conflicting expiry"
      refuseIf
        (!decisionTimeInWindow review decidedAtMs review.intent.entryExpiresTsMs nowMs)
        "durable canary decision time is outside the entry window"
      return (allocation, decidedAtMs)) := by
  have hpolicy : canaryPolicy D core review allocation accountId = .ok () := by
    unfold canaryPolicy
    rw [h.policy]
  unfold allocationFromConsumedArm
  rw [refuseIf_bind (by rw [hstatus, h.sameAccount]; simp)]
  congr 1
  funext _
  rw [refuseIf_bind (by rw [h.sameReview]; simp), h.sameReview, h.sameAllocation,
    refuseIf_bind (by rw [h.identity]; simp), refuseIf_bind (by rw [h.aware]; rfl)]
  dsimp only
  rw [h.expiry, hdecided, hpolicy]
  simp
  rfl

/-- A confirmed arm is confirmed again, for as long as its entry is open. -/
theorem Confirmed.validates (h : Confirmed D core arm review allocation accountId) (nowMs : Int)
    (hopen : nowMs < review.intent.entryExpiresTsMs) :
    validateArmedRecord D core arm review allocation accountId nowMs = .ok arm.armId := by
  obtain ⟨deadline, hdeadline, hzone, hbound⟩ := h.deadline
  unfold validateArmedRecord
  rw [refuseIf_bind (by rw [h.active, h.sameAccount]; simp),
    validateSessionBinding_eq h.binding hdeadline hzone (by rw [h.sameReview]; exact hbound),
    if_pos (Int.lt_of_lt_of_le hopen hbound), ok_bind,
    refuseIf_bind (by rw [h.sameReview, h.sameAllocation]; simp),
    refuseIf_bind (by rw [h.identity]; simp), refuseIf_bind (by rw [h.aware]; rfl)]
  dsimp only
  rw [h.expiry, refuseIf_bind (by simpa using hopen), h.policy]
  rfl

/-- **Risk takes what the session confirmed**, once it is consumed and while
there is time; after that it refuses, and raises nothing else. -/
theorem Confirmed.consumed (h : Confirmed D core arm review allocation accountId)
    (hstatus : arm.status = "CONSUMED") (hdecided : arm.decidedAtMs = some decidedAtMs)
    (nowMs : Int) :
    if takenAt review decidedAtMs nowMs then
      allocationFromConsumedArm D core arm review accountId nowMs = .ok (allocation, decidedAtMs)
    else ∃ message, allocationFromConsumedArm D core arm review accountId nowMs
      = .error (.canaryAuthorizationError message) := by
  obtain ⟨deadline, hdeadline, hzone, hbound⟩ := h.deadline
  rw [h.risk_eq hstatus hdecided, validateSessionBinding_eq h.binding hdeadline hzone
    (by rw [h.sameReview]; exact hbound)]
  unfold takenAt
  by_cases hopen : nowMs < review.intent.entryExpiresTsMs
  · -- while the entry is open so is the session, and the database's time decides
    rw [if_pos (Int.lt_of_lt_of_le hopen hbound), ok_bind,
      refuseIf_bind (decide_eq_false (Int.not_le.mpr hopen)), decide_eq_true hopen, Bool.true_and]
    cases decisionTimeInWindow review decidedAtMs review.intent.entryExpiresTsMs nowMs with
    | true => rfl
    | false => exact ⟨_, rfl⟩
  · rw [decide_eq_false hopen, decide_eq_true (Int.not_lt.mp hopen)]
    split
    next hlate => exact absurd hlate (by simp)
    next =>
      split
      · exact ⟨_, rfl⟩
      · exact ⟨_, rfl⟩

end Confirmed

/-! ## A session -/

/-- `CanarySession`: whether it was given a repository, and whether it ran. -/
structure CanarySession where
  armRepository : Bool
  used : Bool

/-- `CanarySession(source, arm_repository)`. -/
def CanarySession.init (armRepository : Bool) : CanarySession := ⟨armRepository, false⟩

/-- The arguments of `run`. -/
structure CanaryRequest (core : CanaryCore F) where
  plan : CanaryPlan core.toKairosCore
  accountId : String
  nowMs : Int
  publish : Bool
  arm : Option String
  accountMaxAgeMs : Int
  allocationMaxAgeS : F
  sessionId : Option String
  slotId : Option String

/-- What the awaited calls of a run answer. -/
structure CanaryReplies (core : CanaryCore F) where
  load : Reply (CanaryInputs core.toKairosCore)
  arm : Reply (PaperCanaryArmRecord F)

/-- The arguments of the repository's `arm`. -/
structure ArmRequest (F : Type) where
  accountId : String
  review : CandidateReviewV1 F
  allocation : StrategicAllocation F
  sessionId : Option String
  slotId : Option String

/-- `CanaryRunResult`. -/
structure CanaryRunResult (F : Type) where
  prepared : PreparedCanary F
  published : Bool
  armId : Option String

/-- A run: what it returned or raised, what it asked the repository for, and
the session it left. -/
structure CanaryRun (F : Type) where
  result : Except PyError (CanaryRunResult F)
  asked : Option (ArmRequest F)
  session : CanarySession

namespace CanarySession

variable [Spelling F Rat] {core : CanaryCore F}

omit [DecidableEq F] [Spelling F Rat] in
/-- The authority a publication needs. -/
def authorize (s : CanarySession) (x : CanaryRequest core) : Except PyError Unit := do
  preflightIf (x.publish && x.arm != some canaryArmPhrase)
    "exact DEV PAPER canary arm phrase is required for publication"
  preflightIf (x.publish && !s.armRepository)
    "publication requested without a durable canary-arm repository"
  preflightIf (x.publish && (x.sessionId.getD "" == "" || x.slotId.getD "" == ""))
    "publication requires a verified bounded session_id and slot_id"

/-- A run up to the point where it would arm: the canary is prepared, and for a
publication its binding is validated. -/
def prepare (s : CanarySession) (x : CanaryRequest core)
    (load : Reply (CanaryInputs core.toKairosCore)) :
    Except PyError (PreparedCanary F) := do
  s.authorize x
  let inputs ← load
  let prepared ← prepareCanary core x.plan inputs x.accountId x.nowMs x.accountMaxAgeMs
    x.allocationMaxAgeS
  if x.publish then
    validateCanaryBinding D core.toKairosCore prepared.review prepared.allocation x.accountId
  return prepared

/-- The arm is stored and its record confirmed, or the publication is not. -/
def confirm (x : CanaryRequest core) (prepared : PreparedCanary F)
    (arm : Reply (PaperCanaryArmRecord F)) : Except PyError String :=
  match (do
    let record ← arm
    validateArmedRecord D core.toKairosCore record prepared.review prepared.allocation x.accountId
      x.nowMs) with
  | .ok armId => .ok armId
  | .error _ => .error (.runtimeError ("atomic canary arm/enqueue did not confirm completion; "
      ++ "retrying the exact binding is idempotent"))

/-- What a session asks persistence to arm. -/
def request (x : CanaryRequest core) (prepared : PreparedCanary F) : ArmRequest F where
  accountId := x.accountId
  review := prepared.review
  allocation := prepared.allocation
  sessionId := x.sessionId
  slotId := x.slotId

/-- `run`. -/
def run (s : CanarySession) (x : CanaryRequest core) (replies : CanaryReplies core) : CanaryRun F :=
  if s.used then
    { result := .error (.runtimeError "this canary session already prepared one candidate")
      asked := none, session := s }
  else
    let session := { s with used := true }
    match s.prepare D x replies.load with
    | .error e => { result := .error e, asked := none, session }
    | .ok prepared =>
      if x.publish then
        { result := (confirm D x prepared replies.arm).map fun armId =>
            { prepared, published := true, armId := some armId }
          asked := some (request x prepared)
          session }
      else
        { result := .ok { prepared, published := false, armId := none }, asked := none, session }

/-! ### One arm at most -/

/-- A call of `run`, with what its awaited calls answered. -/
abbrev Call (core : CanaryCore F) := CanaryRequest core × CanaryReplies core

/-- The runs of one session, one call after the other. -/
def runs (s : CanarySession) : List (Call core) → List (Call core × CanaryRun F)
  | [] => []
  | call :: calls =>
    let r := s.run D call.1 call.2
    (call, r) :: r.session.runs calls

/-- What the repository was asked for was authorized, prepared from the facts
loaded, and validated. -/
structure Arms (armRepository : Bool) (call : Call core) (asked : ArmRequest F) : Prop where
  repository : armRepository = true
  publish : call.1.publish = true
  phrase : call.1.arm = some canaryArmPhrase
  session : call.1.sessionId.getD "" ≠ "" ∧ call.1.slotId.getD "" ≠ ""
  prepared : ∃ inputs prepared, call.2.load = .ok inputs ∧
    prepareCanary core call.1.plan inputs call.1.accountId call.1.nowMs call.1.accountMaxAgeMs
      call.1.allocationMaxAgeS = .ok prepared ∧
    asked.review = prepared.review ∧ asked.allocation = prepared.allocation
  validated : validateCanaryBinding D core.toKairosCore asked.review asked.allocation
    call.1.accountId = .ok ()

variable {D}

omit [DecidableEq F] [Spelling F Rat] in
theorem authorize_ok {s : CanarySession} {x : CanaryRequest core} (h : s.authorize x = .ok ())
    (hpublish : x.publish = true) : s.armRepository = true ∧ x.arm = some canaryArmPhrase ∧
      x.sessionId.getD "" ≠ "" ∧ x.slotId.getD "" ≠ "" := by
  unfold authorize at h
  obtain ⟨hphrase, h⟩ := ok_of_preflightIf h
  obtain ⟨hrepository, h⟩ := ok_of_preflightIf h
  unfold preflightIf at h
  rw [hpublish, Bool.true_and] at hphrase hrepository h
  split at h
  next => cases h
  next hbound =>
    rw [Bool.or_eq_true, not_or, beq_iff_eq, beq_iff_eq] at hbound
    exact ⟨by simpa using hrepository, by simpa using hphrase, hbound⟩

theorem prepare_ok {s : CanarySession} {x : CanaryRequest core}
    {load : Reply (CanaryInputs core.toKairosCore)} {prepared : PreparedCanary F}
    (h : s.prepare D x load = .ok prepared) :
    s.authorize x = .ok () ∧
    (∃ inputs, load = .ok inputs ∧ prepareCanary core x.plan inputs x.accountId x.nowMs
      x.accountMaxAgeMs x.allocationMaxAgeS = .ok prepared) ∧
    (x.publish = true → validateCanaryBinding D core.toKairosCore prepared.review
      prepared.allocation x.accountId = .ok ()) := by
  unfold prepare at h
  obtain ⟨_, hauthorized, h⟩ := ok_of_bind h
  obtain ⟨inputs, hload, h⟩ := ok_of_bind h
  obtain ⟨made, hmade, h⟩ := ok_of_bind h
  split at h
  next hpublish =>
    obtain ⟨_, hvalid, h⟩ := ok_of_bind h
    cases h
    exact ⟨hauthorized, ⟨inputs, hload, hmade⟩, fun _ => hvalid⟩
  next hpreview =>
    cases h
    exact ⟨hauthorized, ⟨inputs, hload, hmade⟩, fun h => absurd h hpreview⟩

/-- A run that asked had prepared a publication, and returns what is confirmed. -/
theorem run_eq {s : CanarySession} {call : Call core} {asked : ArmRequest F}
    (h : (s.run D call.1 call.2).asked = some asked) :
    s.used = false ∧ call.1.publish = true ∧ ∃ prepared,
      s.prepare D call.1 call.2.load = .ok prepared ∧ asked = request call.1 prepared ∧
      (s.run D call.1 call.2).result = (confirm D call.1 prepared call.2.arm).map fun armId =>
        { prepared, published := true, armId := some armId } := by
  unfold run at h ⊢
  split at h
  next => cases h
  next hused =>
    rw [if_neg hused]
    dsimp only at h
    split at h
    next => cases h
    next prepared hprepared =>
      rw [hprepared]
      dsimp only
      split at h
      next hpublish =>
        cases h
        rw [if_pos hpublish]
        exact ⟨Bool.eq_false_iff.mpr hused, hpublish, prepared, rfl, rfl, rfl⟩
      next => cases h

/-- What one run can do: nothing is asked twice, and what is asked was prepared. -/
theorem run_asked {s : CanarySession} {call : Call core} {asked : ArmRequest F}
    (h : (s.run D call.1 call.2).asked = some asked) :
    s.used = false ∧ Arms D s.armRepository call asked := by
  obtain ⟨hused, hpublish, prepared, hprepared, rfl, _⟩ := run_eq h
  obtain ⟨hauthorized, ⟨inputs, hload, hmade⟩, hvalid⟩ := prepare_ok hprepared
  obtain ⟨hrepository, hphrase, hbound⟩ := authorize_ok hauthorized hpublish
  exact ⟨hused, hrepository, hpublish, hphrase, hbound, ⟨inputs, prepared, hload, hmade, rfl, rfl⟩,
    hvalid hpublish⟩

/-- A session that ran is used, and keeps its repository. -/
theorem run_session (s : CanarySession) (call : Call core) :
    (s.run D call.1 call.2).session = { s with used := true } := by
  unfold run
  split
  next hused => rw [← hused]
  next =>
    dsimp only
    split
    next => rfl
    next => split <;> rfl

/-- A used session asks for nothing. -/
theorem runs_used : ∀ (calls : List (Call core)) {s : CanarySession}, s.used = true →
    (s.runs D calls).filterMap (·.2.asked) = []
  | [], _, _ => rfl
  | call :: calls, s, h => by
    have hnone : (s.run D call.1 call.2).asked = none := by
      unfold run
      rw [if_pos h]
    rw [runs, List.filterMap_cons]
    dsimp only
    rw [hnone, run_session]
    exact runs_used calls rfl

/-- **A session arms at most once**, however often it is run and whatever it is
answered; and what it asks persistence to arm was asked for by the phrase, in a
bounded session, and is the canary prepared from the facts it loaded, validated. -/
theorem session_arms_once (armRepository : Bool) (calls : List (Call core)) :
    (((CanarySession.init armRepository).runs D calls).filterMap (·.2.asked)).length ≤ 1 ∧
    ∀ e ∈ (CanarySession.init armRepository).runs D calls, ∀ asked, e.2.asked = some asked →
      Arms D armRepository e.1 asked := by
  constructor
  · cases calls with
    | nil => exact Nat.zero_le _
    | cons call calls =>
      rw [runs, List.filterMap_cons, run_session, runs_used calls rfl]
      split
      · exact Nat.zero_le _
      · exact Nat.le_refl _
  · have hall : ∀ (calls : List (Call core)) (s : CanarySession), s.armRepository = armRepository →
        ∀ e ∈ s.runs D calls, ∀ asked, e.2.asked = some asked → Arms D armRepository e.1 asked := by
      intro calls
      induction calls with
      | nil => exact fun _ _ e he => absurd he List.not_mem_nil
      | cons call calls ih =>
        intro s hs e he asked hasked
        rcases List.mem_cons.mp he with rfl | he
        · exact hs ▸ (run_asked hasked).2
        · exact ih _ (by rw [run_session]; exact hs) e he asked hasked
    exact hall calls _ rfl

/-! ### What was published, Risk takes -/

/-- A run that published was confirmed the arm it reports. -/
theorem run_published {s : CanarySession} {call : Call core} {result : CanaryRunResult F}
    (h : (s.run D call.1 call.2).result = .ok result) (hpublished : result.published = true) :
    ∃ arm, call.2.arm = .ok arm ∧ result.armId = some arm.armId ∧
      Confirmed D core.toKairosCore arm result.prepared.review result.prepared.allocation
        call.1.accountId := by
  unfold run at h
  split at h
  next => cases h
  next =>
    dsimp only at h
    split at h
    next => cases h
    next prepared _ =>
      split at h
      next =>
        cases hconfirm : confirm D call.1 prepared call.2.arm with
        | error e =>
          rw [hconfirm] at h
          cases h
        | ok armId =>
          rw [hconfirm] at h
          cases h
          unfold confirm at hconfirm
          split at hconfirm
          next id hid =>
            cases hconfirm
            obtain ⟨arm, harm, hvalid⟩ := ok_of_bind hid
            obtain ⟨hconfirmed, rfl⟩ := confirmed_of_validateArmedRecord D hvalid
            exact ⟨arm, harm, rfl, hconfirmed⟩
          next => cases hconfirm
      next =>
        cases h
        cases hpublished

/-- **A published canary is one Risk takes.** Whatever a session published, the
service of its account, once persistence hands it that record consumed, takes
the allocation the session bound and the database's time, as long as the entry
is open and that time lies in it; after that it records the refusal. It raises
in neither case. -/
theorem published_canary_is_taken (s : CanarySession) (call : Call core)
    (result : CanaryRunResult F) (hrun : (s.run D call.1 call.2).result = .ok result)
    (hpublished : result.published = true) :
    ∃ arm, call.2.arm = .ok arm ∧ result.armId = some arm.armId ∧
      ∀ (service : RiskService F D), service.pipeline.core = core.toKairosCore →
        service.pipeline.settings.paperAccountId = call.1.accountId →
        ∀ (v : ReviewLocals F) (operator : Option OperatorSnapshotV1)
          (pass : Pass service.pipeline.core) (decidedAtMs : Int),
        RiskService.consumesArm result.prepared.review v operator = true →
        pass.consume = .ok (some (arm.consumed decidedAtMs)) →
        service.consumeArm result.prepared.review v operator pass
          = if takenAt result.prepared.review decidedAtMs pass.observedNowMs then
              .ok ({ v with
                canaryArmChecked := true
                canaryAllocation := some result.prepared.allocation },
                some (arm.consumed decidedAtMs), decidedAtMs)
            else
              .ok ({ v with
                canaryArmChecked := true
                admissionRejections := ["technical_canary_arm_invalid"] },
                some (arm.consumed decidedAtMs), pass.observedNowMs) := by
  obtain ⟨arm, harm, hid, hconfirmed⟩ := run_published hrun hpublished
  refine ⟨arm, harm, hid, ?_⟩
  intro service hcore haccount v operator pass decidedAtMs hconsumes hconsume
  have hconsumed : Confirmed D core.toKairosCore (arm.consumed decidedAtMs) result.prepared.review
      result.prepared.allocation call.1.accountId := by
    obtain ⟨_, hsame, hbinding, hdeadline, hreview, hallocation, hidentity, haware, hexpiry,
      hpolicy⟩ :=
      hconfirmed
    exact ⟨rfl, hsame, hbinding, hdeadline, hreview, hallocation, hidentity, haware,
      hexpiry, hpolicy⟩
  have hrisk := hconsumed.consumed rfl rfl pass.observedNowMs
  rw [← hcore, ← haccount] at hrisk
  unfold RiskService.consumeArm
  rw [if_pos hconsumes]
  dsimp only
  rw [hconsume]
  dsimp only
  cases htaken : takenAt result.prepared.review decidedAtMs pass.observedNowMs with
  | true =>
    rw [htaken, if_pos rfl] at hrisk
    rw [hrisk, if_pos rfl]
  | false =>
    rw [htaken] at hrisk
    obtain ⟨message, hmessage⟩ := hrisk
    rw [hmessage]
    rfl

end CanarySession

/-! ## A retry -/

section Retry

variable [Spelling F Rat] {core : CanaryCore F}

/-- Two readings of the facts that differ in nothing a canary is made of: the
same bar, the same entry price, and the same rule, whenever it was fetched. -/
structure SameCanary {core : KairosCore F} (side : Side) (inputs inputs' : CanaryInputs core) :
    Prop where
  bar : inputs'.bar = inputs.bar
  price : canaryWorstEntry side inputs'.venue = canaryWorstEntry side inputs.venue
  rule : inputs'.instrument.toEvedexDevInstrumentRule.refetched
    = inputs.instrument.toEvedexDevInstrumentRule.refetched

omit [DecidableEq F] in
/-- The intent does not tell them apart. -/
theorem SameCanary.buildIntent_eq {plan : CanaryPlan core.toKairosCore}
    {inputs inputs' : CanaryInputs core.toKairosCore} (h : SameCanary plan.side inputs inputs')
    (accountId : String) :
    buildIntent core plan inputs'.bar inputs'.venue inputs'.instrument accountId
      = buildIntent core plan inputs.bar inputs.venue inputs.instrument accountId := by
  -- nothing of a rule but its fetch time depends on when it was fetched
  have hlot : ∀ price, inputs'.instrument.toEvedexDevInstrumentRule.effectiveMinQuantity price
      = inputs.instrument.toEvedexDevInstrumentRule.effectiveMinQuantity price := by
    intro price
    exact congrArg (fun rule => rule.effectiveMinQuantity price) h.rule
  have hhash : inputs'.instrument.toEvedexDevInstrumentRule.rulesSha256 core.toKairosCore
      = inputs.instrument.toEvedexDevInstrumentRule.rulesSha256 core.toKairosCore :=
    congrArg (fun rule => rule.rulesSha256 core.toKairosCore) h.rule
  have hmetadata : ∀ quantity,
      inputs'.instrument.toEvedexDevInstrumentRule.metadata core.toKairosCore quantity
        = inputs.instrument.toEvedexDevInstrumentRule.metadata core.toKairosCore quantity := by
    intro quantity
    exact congrArg (fun rule => rule.metadata core.toKairosCore quantity) h.rule
  have hevidence : inputs'.instrument.toEvedexDevInstrumentRule.evidence core.toKairosCore
      = inputs.instrument.toEvedexDevInstrumentRule.evidence core.toKairosCore :=
    congrArg (fun rule => rule.evidence core.toKairosCore) h.rule
  unfold buildIntent
  dsimp only
  rw [h.bar, h.price]
  simp only [hlot, hhash, hmetadata, hevidence]

omit [DecidableEq F] in
/-- Nor do the two messages, whatever the clock, the account and the current
allocation were. -/
theorem SameCanary.prepared_eq {plan : CanaryPlan core.toKairosCore}
    {inputs inputs' : CanaryInputs core.toKairosCore} (h : SameCanary plan.side inputs inputs')
    {accountId : String} {nowMs nowMs' maxAgeMs maxAgeMs' : Int} {maxAgeS maxAgeS' : F}
    {prepared prepared' : PreparedCanary F}
    (hp : prepareCanary core plan inputs accountId nowMs maxAgeMs maxAgeS = .ok prepared)
    (hp' : prepareCanary core plan inputs' accountId nowMs' maxAgeMs' maxAgeS' = .ok prepared') :
    prepared'.review = prepared.review ∧ prepared'.allocation = prepared.allocation := by
  unfold prepareCanary at hp hp'
  rw [h.buildIntent_eq, h.bar] at hp'
  obtain ⟨_, hp⟩ := ok_of_raiseIf hp
  obtain ⟨_, hp'⟩ := ok_of_raiseIf hp'
  obtain ⟨_, _, hp⟩ := ok_of_bind hp
  obtain ⟨_, _, hp'⟩ := ok_of_bind hp'
  obtain ⟨intent, hintent, hp⟩ := ok_of_bind hp
  obtain ⟨intent', hintent', hp'⟩ := ok_of_bind hp'
  cases hintent.symm.trans hintent'
  obtain ⟨_, _, hp⟩ := ok_of_bind hp
  obtain ⟨_, _, hp'⟩ := ok_of_bind hp'
  obtain ⟨route, hroute, hp⟩ := ok_of_bind hp
  obtain ⟨route', hroute', hp'⟩ := ok_of_bind hp'
  cases hroute.symm.trans hroute'
  obtain ⟨review, hreview, hp⟩ := ok_of_bind hp
  obtain ⟨review', hreview', hp'⟩ := ok_of_bind hp'
  cases hreview.symm.trans hreview'
  obtain ⟨allocation, hallocation, hp⟩ := ok_of_bind hp
  obtain ⟨allocation', hallocation', hp'⟩ := ok_of_bind hp'
  cases hallocation.symm.trans hallocation'
  obtain ⟨_, _, hp⟩ := ok_of_bind hp
  obtain ⟨_, _, hp'⟩ := ok_of_bind hp'
  cases hp
  cases hp'
  exact ⟨rfl, rfl⟩

omit [DecidableEq F] in
/-- A canary is prepared while its entry is open. -/
theorem prepareCanary_open (hcore : core.Contract) {plan : CanaryPlan core.toKairosCore}
    {inputs : CanaryInputs core.toKairosCore} {accountId : String} {nowMs maxAgeMs : Int}
    {maxAgeS : F} {prepared : PreparedCanary F}
    (h : prepareCanary core plan inputs accountId nowMs maxAgeMs maxAgeS = .ok prepared) :
    nowMs < prepared.review.intent.entryExpiresTsMs := by
  unfold prepareCanary at h
  obtain ⟨_, h⟩ := ok_of_raiseIf h
  obtain ⟨_, hinputs, h⟩ := ok_of_bind h
  obtain ⟨intent, hintent, h⟩ := ok_of_bind h
  obtain ⟨_, _, h⟩ := ok_of_bind h
  obtain ⟨route, _, h⟩ := ok_of_bind h
  obtain ⟨review, hreview, h⟩ := ok_of_bind h
  obtain ⟨allocation, _, h⟩ := ok_of_bind h
  obtain ⟨status, _, h⟩ := ok_of_bind h
  cases h
  -- the window the clock is checked against is the one the intent carries
  have hexpires : intent.entryExpiresTsMs = inputs.bar.closeTimeMs + 1 + plan.entryWindowMs := by
    unfold buildIntent at hintent
    dsimp only at hintent
    iterate 4 obtain ⟨_, _, hintent⟩ := ok_of_bind hintent
    obtain ⟨contractVersion, id, rfl⟩ := hcore.intent _ _ (orInvalid_ok hintent)
    rfl
  obtain ⟨id, rfl⟩ := hcore.review _ _ (orInvalid_ok hreview)
  unfold validateInputs at hinputs
  iterate 3 obtain ⟨_, hinputs⟩ := ok_of_preflightIf hinputs
  obtain ⟨hopen, _⟩ := ok_of_preflightIf hinputs
  show nowMs < intent.entryExpiresTsMs
  rw [hexpires]
  exact Int.not_le.mp (of_decide_eq_false hopen)

/-- **A retry is idempotent**, as the publication's error promises. Two sessions
that read the same bar, entry price and rule ask for the same arm, at whatever
times and on whatever accounts; and a record that confirms the first request
confirms the second, under the same id. -/
theorem retry_is_idempotent (core : CanaryCore F) (hcore : core.Contract)
    (first second : CanarySession) (call call' : CanarySession.Call core)
    (inputs inputs' : CanaryInputs core.toKairosCore) (hload : call.2.load = .ok inputs)
    (hload' : call'.2.load = .ok inputs') (hplan : call'.1.plan = call.1.plan)
    (haccount : call'.1.accountId = call.1.accountId)
    (hsame : SameCanary call.1.plan.side inputs inputs') (asked asked' : ArmRequest F)
    (hasked : (first.run D call.1 call.2).asked = some asked)
    (hasked' : (second.run D call'.1 call'.2).asked = some asked') :
    asked'.review = asked.review ∧ asked'.allocation = asked.allocation ∧
    ∀ arm nowMs armId,
      validateArmedRecord D core.toKairosCore arm asked.review asked.allocation
        call.1.accountId nowMs
        = .ok armId → call'.2.arm = .ok arm →
      ∃ prepared, (second.run D call'.1 call'.2).result
        = .ok { prepared, published := true, armId := some armId } := by
  obtain ⟨_, _, prepared, hprepared, rfl, _⟩ := CanarySession.run_eq hasked
  obtain ⟨_, _, prepared', hprepared', rfl, hresult⟩ := CanarySession.run_eq hasked'
  obtain ⟨_, ⟨_, hloaded, hmade⟩, _⟩ := CanarySession.prepare_ok hprepared
  obtain ⟨_, ⟨_, hloaded', hmade'⟩, _⟩ := CanarySession.prepare_ok hprepared'
  cases hload.symm.trans hloaded
  cases hload'.symm.trans hloaded'
  have hopen := prepareCanary_open hcore hmade'
  rw [hplan, haccount] at hmade'
  obtain ⟨hreview, hallocation⟩ := hsame.prepared_eq hmade hmade'
  refine ⟨hreview, hallocation, ?_⟩
  intro arm nowMs armId hvalid harm
  obtain ⟨hconfirmed, rfl⟩ := confirmed_of_validateArmedRecord D hvalid
  refine ⟨prepared', ?_⟩
  have hreview : prepared'.review = prepared.review := hreview
  have hagain := hconfirmed.validates call'.1.nowMs (show call'.1.nowMs <
    prepared.review.intent.entryExpiresTsMs by rw [← hreview]; exact hopen)
  rw [hresult, CanarySession.confirm, harm, ok_bind, hreview, hallocation, haccount]
  show Except.map _ (match validateArmedRecord D core.toKairosCore arm prepared.review
    prepared.allocation call.1.accountId call'.1.nowMs with | .ok armId => _ | .error _ => _) = _
  rw [show validateArmedRecord D core.toKairosCore arm prepared.review prepared.allocation
    call.1.accountId call'.1.nowMs = .ok arm.armId from hagain]
  rfl

end Retry

namespace Scenario

/-- The operator publishes the canary of the ordinary rule. -/
def canaryRequest : CanaryRequest canaryCore where
  plan := canaryPlan
  accountId := "kairos-paper-dev-01"
  nowMs := 60400
  publish := true
  arm := some canaryArmPhrase
  accountMaxAgeMs := 30000
  allocationMaxAgeS := 93600
  sessionId := some "session-1"
  slotId := some "slot-1"

/-- The record of a canary, armed. -/
def armedRecord (prepared : PreparedCanary Rat) : PaperCanaryArmRecord Rat where
  armId := digest 'a'
  accountId := "kairos-paper-dev-01"
  review := prepared.review
  allocation := prepared.allocation
  status := "ARMED"
  expiresAt := { aware := true, us := 90000000 }
  decidedAtMs := none
  sessionId := some (digest '1')
  attemptId := some (digest '2')
  sessionExpiresAt := some { aware := true, us := 3600000000 }

/-- Persistence arms what it is asked for. -/
def canaryReplies (rule : InstrumentRule canaryCore.toKairosCore) : CanaryReplies canaryCore where
  load := .ok (canaryInputs rule)
  arm := (prepareCanary canaryCore canaryPlan (canaryInputs rule) "kairos-paper-dev-01" 60400 30000
    93600).map armedRecord

/-- The run of one session at the ordinary rule. -/
def publishing : CanaryRun Rat :=
  (CanarySession.init true).run Rat canaryRequest (canaryReplies ordinaryRule)

/-- It publishes under the arm's id, and 60401 lies in the entry. -/
theorem publishing_publishes : publishing.asked.isSome = true ∧
    publishing.result.map (fun r => (r.published, r.armId, takenAt r.prepared.review 60401 60402))
      = .ok (true, some (digest 'a'), true) := by
  decide +kernel

/-- It is published, and Risk takes the record consumed at 60401 up to 90000. -/
theorem ordinary_canary_taken : ∃ result, publishing.result = .ok result ∧
    ∃ arm, result.armId = some (digest 'a') ∧
      ∀ (service : RiskService Rat Rat), service.pipeline.core = canaryCore.toKairosCore →
        service.pipeline.settings.paperAccountId = "kairos-paper-dev-01" →
        ∀ (v : ReviewLocals Rat) (operator : Option OperatorSnapshotV1)
          (pass : Pass service.pipeline.core),
        RiskService.consumesArm result.prepared.review v operator = true →
        pass.consume = .ok (some (PaperCanaryArmRecord.consumed arm 60401)) →
        pass.observedNowMs = 60402 →
        service.consumeArm result.prepared.review v operator pass
          = .ok ({ v with
              canaryArmChecked := true
              canaryAllocation := some result.prepared.allocation },
              some (arm.consumed 60401), 60401) := by
  obtain ⟨_, hmap⟩ := publishing_publishes
  cases hresult : publishing.result with
  | error e =>
    rw [hresult] at hmap
    cases hmap
  | ok result =>
    rw [hresult] at hmap
    have hmap := Except.ok.inj hmap
    simp only [Prod.mk.injEq] at hmap
    obtain ⟨hpublished, hid, hopen⟩ := hmap
    obtain ⟨arm, _, _, htaken⟩ := CanarySession.published_canary_is_taken (CanarySession.init true)
      (canaryRequest, canaryReplies ordinaryRule) result hresult hpublished
    refine ⟨result, rfl, arm, hid, ?_⟩
    intro service hcore haccount v operator pass hconsumes hconsume hnow
    have h := htaken service hcore haccount v operator pass 60401 hconsumes hconsume
    rw [hnow, hopen] at h
    exact h

/-- The same rule, fetched two seconds later. -/
def refetchedRule : InstrumentRule canaryCore.toKairosCore where
  toEvedexDevInstrumentRule := { canaryRule (1 / 1000) 5 with fetchedAtMs := 62000 }
  valid := by decide +kernel
  decimals := decimals_of_dvd 3 (by decide +kernel)

/-- The retry, two seconds later, is answered with the record of the first. -/
def retryCall : CanarySession.Call canaryCore :=
  ({ canaryRequest with nowMs := 62400 },
    { canaryReplies ordinaryRule with load := .ok (canaryInputs refetchedRule) })

def retrying : CanaryRun Rat := (CanarySession.init true).run Rat retryCall.1 retryCall.2

/-- It asks too, and persistence had armed the first. -/
theorem retrying_asks : retrying.asked.isSome = true ∧
    (canaryReplies ordinaryRule).arm.toOption.isSome = true := by
  decide +kernel

/-- It asks for the same arm, and is published under the id of the first. -/
theorem ordinary_retry_idempotent :
    (retrying.asked.get retrying_asks.1).review
      = (publishing.asked.get publishing_publishes.1).review ∧
    (retrying.asked.get retrying_asks.1).allocation
      = (publishing.asked.get publishing_publishes.1).allocation ∧
    ∃ prepared, retrying.result
      = .ok { prepared, published := true, armId := some (digest 'a') } := by
  obtain ⟨hreview, hallocation, hagain⟩ := retry_is_idempotent Rat canaryCore canaryCore_contract
    (CanarySession.init true) (CanarySession.init true)
    (canaryRequest, canaryReplies ordinaryRule) retryCall (canaryInputs ordinaryRule)
    (canaryInputs refetchedRule) rfl rfl rfl rfl ⟨rfl, rfl, rfl⟩
    (publishing.asked.get publishing_publishes.1) (retrying.asked.get retrying_asks.1)
    (Option.some_get publishing_publishes.1).symm (Option.some_get retrying_asks.1).symm
  exact ⟨hreview, hallocation, hagain _ 60400 _ (by decide +kernel)
    (eq_ok_of_isSome retrying_asks.2)⟩

end Scenario

end KairosRisk
