import KairosRisk.Lib.Logged
import KairosRisk.CanarySession

/-!
# The bounded session controller

The controller of a canary session is a command line: each invocation reads the
session from persistence, does one thing and exits. What it knows of earlier
invocations is the session's ledger, which persistence keeps: the plan, the
attempts and where they stand.

`runCli` is an invocation with the calls it made. No call is made that the
command, the phrase, the settings and the session's scope do not allow
(`controller_calls`); and over any number of invocations a session publishes the
slots of its plan in order, each at most once (`slots_published_in_order`).
-/

namespace KairosRisk

open PyLib

variable {F : Type} [PyFloat F]

/-- `int(x)`. -/
class PyTruncate (F : Type) where
  toInt : F → Int

instance : PyTruncate Rat := ⟨fun x => if 0 ≤ x then x.floor else -(-x).floor⟩

/-! ## The session, as persistence keeps it -/

/-- A slot of a session's plan. -/
structure CanarySlot (F : Type) where
  slotId : String
  symbol : String
  side : String
  stopDistanceBps : F
  targetDistanceBps : F
  maxHoldingMs : Int
  entryWindowMs : Int

/-- `BoundedCanaryPlan`. -/
structure BoundedCanaryPlan (F : Type) where
  maxAttempts : Int
  slots : List (CanarySlot F)

/-- An attempt of the ledger. -/
structure CanaryAttempt where
  attemptId : String
  ordinal : Int
  slotId : String
  symbol : String
  state : String
  terminalReason : Option String
  deriving DecidableEq

/-- A status of the repository, with what validating its plan and its scope gives. -/
structure SessionStatus (F : Type) where
  sessionId : String
  receiptId : String
  state : String
  armedAt : Option DateTime
  entryDeadlineAt : Option DateTime
  attemptsReserved : Int
  maxAttempts : Int
  lastProgressAt : Option DateTime
  stopReason : Option String
  attempts : Option (List CanaryAttempt)
  plan : Reply (BoundedCanaryPlan F)
  scope : Reply CanaryScope

/-- `status.get("attempts", [])`. -/
def SessionStatus.ledger (s : SessionStatus F) : List CanaryAttempt := s.attempts.getD []

/-- What `safe_status` leaves of a status. -/
structure SafeStatus where
  sessionId : String
  receiptId : String
  state : String
  armedAt : Option DateTime
  entryDeadlineAt : Option DateTime
  attemptsReserved : Int
  maxAttempts : Int
  lastProgressAt : Option DateTime
  stopReason : Option String
  attempts : List CanaryAttempt
  paperQualified : Bool

/-- `safe_status`. -/
def safeStatus (s : SessionStatus F) : SafeStatus where
  sessionId := s.sessionId
  receiptId := s.receiptId
  state := s.state
  armedAt := s.armedAt
  entryDeadlineAt := s.entryDeadlineAt
  attemptsReserved := s.attemptsReserved
  maxAttempts := s.maxAttempts
  lastProgressAt := s.lastProgressAt
  stopReason := s.stopReason
  attempts := s.ledger
  paperQualified := false

/-! ## The next slot -/

/-- `Side(value)`. -/
def sideOf (value : String) : Except PyError Side :=
  match [Side.long, Side.short, Side.flat].find? fun side => side.value == value with
  | some side => .ok side
  | none => .error (.valueError ("'" ++ value ++ "' is not a valid Side"))

/-- `CanaryPlan(...)`. -/
def CanaryPlanFields.validated (core : KairosCore F) (fields : CanaryPlanFields F) :
    Except PyError (CanaryPlan core) :=
  match h : fields.postInit core with
  | .ok () => .ok ⟨fields, h⟩
  | .error e => .error e

/-- The canary plan of a slot. -/
def CanarySlot.canaryPlan (core : KairosCore F) (slot : CanarySlot F) :
    Except PyError (CanaryPlan core) := do
  let side ← sideOf slot.side
  CanaryPlanFields.validated core
    { symbol := slot.symbol
      side
      stopDistanceBps := slot.stopDistanceBps
      targetDistanceBps := slot.targetDistanceBps
      maxHoldingMs := slot.maxHoldingMs
      entryWindowMs := slot.entryWindowMs }

/-- `next_slot`. -/
def nextSlot (core : KairosCore F) (s : SessionStatus F) :
    Except PyError (Option (String × CanaryPlan core)) := do
  let plan ← s.plan
  preflightIf (!(["ARMED", "RUNNING"].contains s.state)) "session is not admitting entries"
  preflightIf (s.ledger.any fun item => item.state != "TERMINAL")
    "previous attempt awaits authoritative Risk/execution completion"
  let count := s.attemptsReserved
  preflightIf ((s.ledger.length : Int) != count) "session attempt counter differs from its ledger"
  if plan.maxAttempts ≤ count || (plan.slots.length : Int) ≤ count then return none
  match plan.slots[count.toNat]? with
  | none => .error (.external "IndexError: tuple index out of range")
  | some slot =>
    let plan ← slot.canaryPlan core
    return some (slot.slotId, plan)

/-! ## An invocation -/

/-- `SESSION_ARM_PHRASE`. -/
def sessionArmPhrase : String := "ARM ONE BOUNDED EVEDEX DEV CANARY SESSION"

/-- The settings of the command line. -/
structure RunnerSettings (F : Type) [PyFloat F] extends RiskSettings F where
  tradingMode : TradingMode
  evedexProfile : EvedexProfile
  busBackend : String
  environment : String

/-- `_validate_publish_settings`. -/
def validatePublishSettings (settings : RunnerSettings F) : Except PyError Unit := do
  preflightIf (settings.tradingMode ≠ .paper) "publication requires KAIROS_TRADING_MODE=PAPER"
  preflightIf (settings.evedexProfile ≠ .dev) "publication requires the exact EVEDEX DEV profile"
  preflightIf (settings.busBackend == "memory")
    "publication requires durable Redis/PostgreSQL transport"
  preflightIf (!settings.paperStrategyAllowed paperCanaryStrategyId canaryStrategyRevision)
    ("publication requires KAIROS_PAPER_STRATEGY_ALLOWLIST containing " ++ canaryStrategyRef)

/-- `check_runtime_scope`. -/
def checkRuntimeScope (scope : CanaryScope) (settings : RunnerSettings F) :
    Except PyError Unit := do
  validatePublishSettings settings
  preflightIf
    (scope.accountId ≠ settings.paperAccountId || scope.environment ≠ settings.environment)
    "session scope does not match the configured PAPER account/environment"

/-- The subcommands about a session, with their arguments and what reading their
files gives. -/
inductive SessionCommand (F : Type) where
  | armSession (scope : Reply CanaryScope) (plan : Reply (BoundedCanaryPlan F)) (receiptId : String)
      (operatorNonce : String) (arm : String) (receiptMaxAgeMs : Int)
  | status (sessionId : String)
  | stop (sessionId : String)
  | submitNext (sessionId : String) (arm : String)

/-- The subcommands. -/
inductive RunnerCommand (F : Type) where
  | previewPlan (plan : Reply (BoundedCanaryPlan F))
  | session (command : SessionCommand F)

/-- `args.arm`, of the subcommands that have one. -/
def SessionCommand.phrase : SessionCommand F → Option String
  | .armSession _ _ _ _ arm _ => some arm
  | .submitNext _ arm => some arm
  | _ => none

/-- The calls that leave the process. -/
inductive RunnerCall (F : Type) where
  | connect
  | close
  | armSession (receiptId : String) (scope : CanaryScope) (plan : BoundedCanaryPlan F)
      (operatorNonce : String) (receiptMaxAgeMs : Int)
  | status (sessionId : String)
  | stop (sessionId : String)
  | refresh (sessionId : String)
  | arm (asked : ArmRequest F)

/-- What the world answers an invocation, and what its clock reads. -/
structure RunnerWorld (core : CanaryCore F) where
  connect : Reply Unit
  close : Reply Unit
  armSession : Reply (SessionStatus F)
  status : Reply (SessionStatus F)
  stop : Reply (SessionStatus F)
  refresh : Reply (SessionStatus F)
  nowMs : Int
  canary : CanaryReplies core

/-- What an invocation prints. -/
inductive RunnerResult (F : Type) where
  | plan (plan : BoundedCanaryPlan F)
  | status (status : SafeStatus)
  | submitted (result : CanaryRunResult F) (sessionId : String) (slotId : String)

section Invocation

variable [DecidableEq F] (D : Type) [PyDecimal D] [Spelling F Rat] [PyTruncate F]

/-- An invocation, and its log. -/
abbrev Invoked (F : Type) := Logged (RunnerCall F) PyError

/-- What `submit-next` asks a canary session for. -/
def submission {core : CanaryCore F} (settings : RunnerSettings F) (nowMs : Int)
    (sessionId slotId : String) (plan : CanaryPlan core.toKairosCore) : CanaryRequest core where
  plan := plan
  accountId := settings.paperAccountId
  nowMs := nowMs
  publish := true
  arm := some canaryArmPhrase
  accountMaxAgeMs := PyTruncate.toInt (settings.paperAccountSnapshotMaxAgeS * PyFloat.lit 1000)
  allocationMaxAgeS := settings.strategicAllocationMaxAgeS
  sessionId := some sessionId
  slotId := some slotId

/-- The run of a canary session, with its call of `arm`. -/
def CanaryRun.logged (r : CanaryRun F) : Invoked F (CanaryRunResult F) :=
  ⟨(r.asked.map RunnerCall.arm).toList, r.result⟩

/-- The end of `submit-next`. -/
def submitNext (core : CanaryCore F) (settings : RunnerSettings F) (world : RunnerWorld core)
    (sessionId : String) : Invoked F (RunnerResult F) := do
  let status ← .call (.refresh sessionId) world.refresh
  match ← .quiet (nextSlot core.toKairosCore status) with
  | none => return .status (safeStatus status)
  | some (slotId, plan) =>
    let result ← ((CanarySession.init true).run D
      (submission settings world.nowMs sessionId slotId plan) world.canary).logged
    return .submitted result sessionId slotId

/-- The session a command is about is read, and its scope checked. -/
def readSession (core : CanaryCore F) (settings : RunnerSettings F) (world : RunnerWorld core)
    (sessionId : String) : Invoked F (SessionStatus F) := do
  let status ← .call (.status sessionId) world.status
  let scope ← .quiet status.scope
  .quiet (checkRuntimeScope scope settings)
  return status

/-- What is done with the database connected. -/
def connected (core : CanaryCore F) (settings : RunnerSettings F) (world : RunnerWorld core) :
    SessionCommand F → Invoked F (RunnerResult F)
  | .armSession scope plan receiptId operatorNonce _ receiptMaxAgeMs => do
    let scope ← .quiet scope
    .quiet (checkRuntimeScope scope settings)
    let plan ← .quiet plan
    let status ← .call (.armSession receiptId scope plan operatorNonce receiptMaxAgeMs)
      world.armSession
    return .status (safeStatus status)
  | .stop sessionId => do
    let _ ← readSession core settings world sessionId
    let status ← .call (.stop sessionId) world.stop
    return .status (safeStatus status)
  | .status sessionId => do
    let status ← readSession core settings world sessionId
    return .status (safeStatus status)
  | .submitNext sessionId _ => do
    let _ ← readSession core settings world sessionId
    submitNext D core settings world sessionId

/-- `run_cli`. -/
def runCli (core : CanaryCore F) (settings : RunnerSettings F) (world : RunnerWorld core) :
    RunnerCommand F → Invoked F (RunnerResult F)
  | .previewPlan plan => do
    let plan ← .quiet plan
    return .plan plan
  | .session command => do
    .quiet (preflightIf (command.phrase.any fun arm => arm != sessionArmPhrase)
      "exact bounded DEV session arm phrase is required")
    .quiet (validatePublishSettings settings)
    .call .connect world.connect
    (connected D core settings world command).ensure (.call .close world.close)

end Invocation

/-! ## What was asked, and when -/

/-- The scope is of the configured account and environment. -/
def CanaryScope.Configured (scope : CanaryScope) (settings : RunnerSettings F) : Prop :=
  scope.accountId = settings.paperAccountId ∧ scope.environment = settings.environment

/-- The slot that is next, and its plan. -/
structure NextSlot (core : KairosCore F) (s : SessionStatus F) (p : BoundedCanaryPlan F)
    (slot : CanarySlot F) (plan : CanaryPlan core) : Prop where
  planned : s.plan = .ok p
  admitting : s.state = "ARMED" ∨ s.state = "RUNNING"
  settled : ∀ item ∈ s.ledger, item.state = "TERMINAL"
  counted : s.attemptsReserved = s.ledger.length
  allowed : (s.ledger.length : Int) < p.maxAttempts
  first : p.slots[s.ledger.length]? = some slot
  canary : slot.canaryPlan core = .ok plan

theorem preflightIf_ok {test : Bool} {message : String} (h : preflightIf test message = .ok ()) :
    test = false := by
  cases test with
  | true => cases h
  | false => rfl

theorem checkRuntimeScope_ok {scope : CanaryScope} {settings : RunnerSettings F}
    (h : checkRuntimeScope scope settings = .ok ()) : scope.Configured settings := by
  unfold checkRuntimeScope at h
  obtain ⟨_, _, h⟩ := ok_of_bind h
  have hsame := preflightIf_ok h
  rw [Bool.or_eq_false_iff] at hsame
  exact ⟨by simpa using hsame.1, by simpa using hsame.2⟩

/-- **The next slot** is the first one without an attempt, and there is none
while an attempt is open or the session admits nothing. -/
theorem nextSlot_some {core : KairosCore F} {s : SessionStatus F} {slotId : String}
    {plan : CanaryPlan core} (h : nextSlot core s = .ok (some (slotId, plan))) :
    ∃ p slot, NextSlot core s p slot plan ∧ slot.slotId = slotId := by
  unfold nextSlot at h
  obtain ⟨p, hplan, h⟩ := ok_of_bind h
  obtain ⟨hstate, h⟩ := ok_of_preflightIf h
  obtain ⟨hsettled, h⟩ := ok_of_preflightIf h
  obtain ⟨hcount, h⟩ := ok_of_preflightIf h
  have hcount : s.attemptsReserved = s.ledger.length := (bne_eq_false_iff_eq.mp hcount).symm
  split at h
  next => cases h
  next hbounds =>
    rw [hcount, Bool.or_eq_true, decide_eq_true_eq, decide_eq_true_eq, not_or,
      Int.not_le] at hbounds
    split at h
    next => cases h
    next slot hslot =>
      obtain ⟨made, hmade, h⟩ := ok_of_bind h
      cases h
      refine ⟨p, slot, ⟨hplan, ?_, ?_, hcount, hbounds.1, ?_, hmade⟩, rfl⟩
      · rw [Bool.not_eq_false', List.contains_eq_mem, decide_eq_true_eq] at hstate
        simpa using hstate
      · simpa using hsettled
      · rw [hcount] at hslot
        exact hslot

section Calls

variable {core : CanaryCore F} {settings : RunnerSettings F} {world : RunnerWorld core}

/-- The session was read, and is of the configured account and environment. -/
def Read (settings : RunnerSettings F) (world : RunnerWorld core) : Prop :=
  ∃ status scope, world.status = .ok status ∧ status.scope = .ok scope ∧ scope.Configured settings

/-- Reading the session is one call. -/
theorem readSession_log (sessionId : String) :
    (readSession core settings world sessionId).log = [.status sessionId] := by
  let checked (status : SessionStatus F) : Invoked F (SessionStatus F) := do
    let scope ← .quiet status.scope
    .quiet (checkRuntimeScope scope settings)
    return status
  have hquiet : ∀ status, (checked status).log = [] := fun status =>
    Logged.log_bind_nil rfl fun _ => Logged.log_bind_nil rfl fun _ => rfl
  rcases Logged.log_bind_split (.call (.status sessionId) world.status) checked
    with h | ⟨status, _, h⟩
  · exact h
  · exact h.trans (congrArg (RunnerCall.status sessionId :: ·) (hquiet status))

theorem eq_status_of_read {sessionId : String} {c : RunnerCall F}
    (h : c ∈ (readSession core settings world sessionId).log) : c = .status sessionId := by
  rw [readSession_log] at h
  exact List.mem_singleton.mp h

theorem readSession_ok {sessionId : String} {s : SessionStatus F}
    (h : (readSession core settings world sessionId).result = .ok s) : Read settings world := by
  unfold readSession at h
  obtain ⟨status, hstatus, h⟩ := Logged.ok_of_bind h
  obtain ⟨scope, hscope, h⟩ := Logged.ok_of_bind h
  obtain ⟨_, hcheck, _⟩ := Logged.ok_of_bind h
  exact ⟨status, scope, hstatus, hscope, checkRuntimeScope_ok hcheck⟩

variable [DecidableEq F] {D : Type} [PyDecimal D] [Spelling F Rat] [PyTruncate F]

/-- The call asks persistence to arm a canary. -/
def RunnerCall.isArm : RunnerCall F → Bool
  | .arm _ => true
  | _ => false

/-- An arm was asked for by `submit-next`: for the next slot, and the canary is
prepared from the slot's plan and validated. -/
structure ArmsNext (D : Type) [PyDecimal D] (settings : RunnerSettings F) (world : RunnerWorld core)
    (sessionId : String) (asked : ArmRequest F) (s : SessionStatus F) (p : BoundedCanaryPlan F)
    (slot : CanarySlot F) (plan : CanaryPlan core.toKairosCore) : Prop where
  refreshed : world.refresh = .ok s
  next : NextSlot core.toKairosCore s p slot plan
  account : asked.accountId = settings.paperAccountId
  session : asked.sessionId = some sessionId
  chosen : asked.slotId = some slot.slotId
  arms : CanarySession.Arms D true
    (submission settings world.nowMs sessionId slot.slotId plan, world.canary) asked

/-- What a call of an invocation presupposes. -/
def Allowed (D : Type) [PyDecimal D] (settings : RunnerSettings F) (world : RunnerWorld core)
    (command : SessionCommand F) : RunnerCall F → Prop
  | .connect | .close => False
  | .armSession receiptId scope plan operatorNonce receiptMaxAgeMs => ∃ arm,
    command = .armSession (.ok scope) (.ok plan) receiptId operatorNonce arm receiptMaxAgeMs ∧
      scope.Configured settings
  | .status sessionId => command = .status sessionId ∨ command = .stop sessionId ∨
    ∃ arm, command = .submitNext sessionId arm
  | .stop sessionId => command = .stop sessionId ∧ Read settings world
  | .refresh sessionId => (∃ arm, command = .submitNext sessionId arm) ∧ Read settings world
  | .arm asked => Read settings world ∧ ∃ sessionId arm, command = .submitNext sessionId arm ∧
    ∃ s p slot plan, ArmsNext D settings world sessionId asked s p slot plan

/-- What a call follows in the log: a session is read before it is acted on, and
refreshed before an arm is asked for. -/
def RunnerCall.Follows (earlier : List (RunnerCall F)) : RunnerCall F → Prop
  | .stop sessionId | .refresh sessionId => .status sessionId ∈ earlier
  | .arm asked => ∃ sessionId, asked.sessionId = some sessionId ∧ .status sessionId ∈ earlier ∧
    .refresh sessionId ∈ earlier
  | _ => True

/-- What `submit-next` calls once the session is read. -/
theorem submitNext_log {sessionId : String} {c : RunnerCall F}
    (h : c ∈ (submitNext D core settings world sessionId).log) : c = .refresh sessionId ∨
      ∃ asked s p slot plan, c = .arm asked ∧
        ArmsNext D settings world sessionId asked s p slot plan := by
  unfold submitNext at h
  rcases Logged.mem_log_bind.mp h with h | ⟨s, hrefresh, h⟩
  · exact Or.inl (List.mem_singleton.mp h)
  obtain ⟨choice, hnext, h⟩ := Logged.mem_log_quiet.mp h
  cases choice with
  | none => cases h
  | some choice =>
    obtain ⟨slotId, plan⟩ := choice
    obtain ⟨p, slot, hslot, rfl⟩ := nextSlot_some hnext
    rcases Logged.mem_log_bind.mp h with h | ⟨_, _, h⟩
    · obtain ⟨asked, hasked, rfl⟩ := Option.map_eq_some_iff.mp (Option.mem_toList.mp h)
      let call : CanarySession.Call core :=
        (submission settings world.nowMs sessionId slot.slotId plan, world.canary)
      have hasked : ((CanarySession.init true).run D call.1 call.2).asked = some asked := hasked
      obtain ⟨_, _, prepared, _, hrequest, _⟩ := CanarySession.run_eq hasked
      refine Or.inr ⟨asked, s, p, slot, plan, rfl, hrefresh, hslot, ?_, ?_, ?_,
        (CanarySession.run_asked hasked).2⟩
      · rw [hrequest]
        rfl
      · rw [hrequest]
        rfl
      · rw [hrequest]
        rfl
    · cases h

/-- Every call made while connected is allowed. -/
theorem connected_log {command : SessionCommand F} {c : RunnerCall F}
    (h : c ∈ (connected D core settings world command).log) :
    Allowed D settings world command c := by
  cases command with
  | armSession scope plan receiptId operatorNonce arm receiptMaxAgeMs =>
    obtain ⟨readScope, hscope, h⟩ := Logged.mem_log_quiet.mp h
    obtain ⟨_, hcheck, h⟩ := Logged.mem_log_quiet.mp h
    obtain ⟨readPlan, hplan, h⟩ := Logged.mem_log_quiet.mp h
    rw [hscope, hplan]
    rcases Logged.mem_log_bind.mp h with h | ⟨_, _, h⟩
    · rw [List.mem_singleton.mp h]
      exact ⟨arm, rfl, checkRuntimeScope_ok hcheck⟩
    · cases h
  | status sessionId =>
    rcases Logged.mem_log_bind.mp h with h | ⟨_, _, h⟩
    · rw [eq_status_of_read h]
      exact Or.inl rfl
    · cases h
  | stop sessionId =>
    rcases Logged.mem_log_bind.mp h with h | ⟨_, hread, h⟩
    · rw [eq_status_of_read h]
      exact Or.inr (Or.inl rfl)
    rcases Logged.mem_log_bind.mp h with h | ⟨_, _, h⟩
    · rw [List.mem_singleton.mp h]
      exact ⟨rfl, readSession_ok hread⟩
    · cases h
  | submitNext sessionId arm =>
    rcases Logged.mem_log_bind.mp h with h | ⟨_, hread, h⟩
    · rw [eq_status_of_read h]
      exact Or.inr (Or.inr ⟨arm, rfl⟩)
    rcases submitNext_log h with rfl | ⟨asked, s, p, slot, plan, rfl, harms⟩
    · exact ⟨⟨arm, rfl⟩, readSession_ok hread⟩
    · exact ⟨readSession_ok hread, sessionId, arm, rfl, s, p, slot, plan, harms⟩

omit [PyFloat F] [DecidableEq F] [Spelling F Rat] [PyTruncate F] in
/-- The first call of a log comes before every other one. -/
theorem first_mem {first call : RunnerCall F} {rest earlier later : List (RunnerCall F)}
    (h : first :: rest = earlier ++ call :: later) (hother : call ≠ first) :
    first ∈ earlier ∧ rest = earlier.tail ++ call :: later := by
  cases earlier with
  | nil => exact absurd (List.cons.inj h).1.symm hother
  | cons head earlier =>
    obtain ⟨rfl, hrest⟩ := List.cons.inj h
    exact ⟨List.mem_cons_self, hrest⟩

/-- A command that stops a session or submits to it reads it first. -/
theorem stop_begins {sessionId : String} {calls : List (RunnerCall F)}
    (h : (connected D core settings world (.stop sessionId)).log = calls) :
    ∃ rest, .status sessionId :: rest = calls := by
  subst h
  rcases Logged.log_bind_split (readSession core settings world sessionId) _ with h | ⟨_, _, h⟩
  · exact ⟨[], (h.trans (readSession_log sessionId)).symm⟩
  · rw [readSession_log] at h
    exact ⟨_, h.symm⟩

/-- Then `submit-next` refreshes it. -/
theorem submitNext_begins {sessionId arm : String} {calls : List (RunnerCall F)}
    (h : (connected D core settings world (.submitNext sessionId arm)).log = calls) :
    ∃ rest, .status sessionId :: rest = calls ∧
      (rest = [] ∨ ∃ rest', rest = .refresh sessionId :: rest') := by
  subst h
  rcases Logged.log_bind_split (readSession core settings world sessionId)
    (fun _ => submitNext D core settings world sessionId) with h | ⟨_, _, h⟩
  · exact ⟨[], (h.trans (readSession_log sessionId)).symm, Or.inl rfl⟩
  · rw [readSession_log] at h
    refine ⟨_, h.symm, Or.inr ?_⟩
    rcases Logged.log_bind_split (.call (RunnerCall.refresh sessionId) world.refresh) _
      with h | ⟨_, _, h⟩
    · exact ⟨[], h⟩
    · exact ⟨_, h⟩

/-- **The order of the calls** made while connected. -/
theorem connected_follows {command : SessionCommand F} {earlier later : List (RunnerCall F)}
    {call : RunnerCall F}
    (h : (connected D core settings world command).log = earlier ++ call :: later) :
    call.Follows earlier := by
  have hallowed := connected_log (show call ∈ (connected D core settings world command).log by
    rw [h]
    exact List.mem_append_right _ List.mem_cons_self)
  cases call with
  | stop sessionId =>
    obtain ⟨rfl, _⟩ := hallowed
    obtain ⟨_, hrest⟩ := stop_begins h
    exact (first_mem hrest (by simp)).1
  | refresh sessionId =>
    obtain ⟨⟨arm, rfl⟩, _⟩ := hallowed
    obtain ⟨_, hrest, _⟩ := submitNext_begins h
    exact (first_mem hrest (by simp)).1
  | arm asked =>
    obtain ⟨_, sessionId, arm, rfl, s, p, slot, plan, harms⟩ := hallowed
    obtain ⟨_, hrest, hnext⟩ := submitNext_begins h
    obtain ⟨hread, hrest⟩ := first_mem hrest (by simp)
    refine ⟨sessionId, harms.session, hread, ?_⟩
    rcases hnext with hnil | ⟨rest', hnext⟩
    · rw [hnil] at hrest
      simp at hrest
    · rw [hnext] at hrest
      exact List.mem_of_mem_tail (first_mem hrest (by simp)).1
  | _ => trivial

/-- An invocation asks for one arm at most. -/
theorem connected_arms (command : SessionCommand F) :
    (connected D core settings world command).log.countP RunnerCall.isArm ≤ 1 := by
  have hnone : ∀ {l : List (RunnerCall F)}, (∀ c ∈ l, RunnerCall.isArm c = false) →
      l.countP RunnerCall.isArm ≤ 0 := by
    intro l h
    rw [List.countP_eq_zero.mpr fun c hc => Bool.eq_false_iff.mp (h c hc)]
  have hread : ∀ sessionId, (readSession core settings world sessionId).log.countP
      RunnerCall.isArm ≤ 0 := by
    intro sessionId
    apply hnone
    intro c hc
    rw [eq_status_of_read hc]
    rfl
  cases command with
  | submitNext sessionId arm =>
    refine Logged.countP_log_bind (m := 0) (n := 1) (hread sessionId) fun _ _ => ?_
    refine Logged.countP_log_bind (m := 0) (n := 1) (hnone (by simp [RunnerCall.isArm]))
      fun _ _ => ?_
    refine Logged.countP_log_bind (m := 0) (n := 1) (Nat.le_refl 0) fun choice _ => ?_
    cases choice with
    | none => exact Nat.zero_le 1
    | some choice =>
      refine Logged.countP_log_bind (m := 1) (n := 0) ?_ fun _ _ => Nat.le_refl 0
      refine Nat.le_trans List.countP_le_length ?_
      exact Option.length_toList_le
  | _ =>
    refine Nat.le_succ_of_le (hnone fun c hc => ?_)
    have hallowed := connected_log hc
    cases c with
    | arm asked =>
      obtain ⟨_, _, _, hcommand, _⟩ := hallowed
      cases hcommand
    | _ => rfl

/-- The check of the phrase a command was given. -/
def checkPhrase (command : SessionCommand F) : Except PyError Unit :=
  preflightIf (command.phrase.any fun arm => arm != sessionArmPhrase)
    "exact bounded DEV session arm phrase is required"

/-- The log of an invocation about a session. -/
theorem runCli_log (command : SessionCommand F) :
    (runCli D core settings world (.session command)).log =
      match checkPhrase command, validatePublishSettings settings, world.connect with
      | .ok _, .ok _, .error _ => [.connect]
      | .ok _, .ok _, .ok _ => .connect :: (connected D core settings world command).log ++ [.close]
      | _, _, _ => [] := by
  show (Logged.bind (.quiet (checkPhrase command)) fun _ =>
    Logged.bind (.quiet (validatePublishSettings settings)) fun _ =>
      Logged.bind (.call .connect world.connect) fun _ =>
        (connected D core settings world command).ensure (.call .close world.close)).log = _
  cases checkPhrase command with
  | error e => rfl
  | ok _ =>
    cases validatePublishSettings settings with
    | error e => rfl
    | ok _ =>
      cases world.connect with
      | error e => rfl
      | ok _ => rfl

/-- An arm was asked for while connected. -/
theorem connected_of_arm {command : RunnerCommand F} {asked : ArmRequest F}
    (h : .arm asked ∈ (runCli D core settings world command).log) :
    ∃ c, command = .session c ∧ .arm asked ∈ (connected D core settings world c).log := by
  cases command with
  | previewPlan plan =>
    obtain ⟨_, _, h⟩ := Logged.mem_log_quiet.mp h
    cases h
  | session command =>
    rw [runCli_log] at h
    refine ⟨command, rfl, ?_⟩
    split at h
    next => simp at h
    next => simpa using h
    next => simp at h

/-- **An invocation makes no call that it should not.** Without the exact phrase or
with settings that do not publish it makes none; connected, it closes what it
connected to whatever comes of the rest; every call between is allowed by the
command and the session's scope, and comes after the session was read; and one arm
at most is asked for. -/
theorem controller_calls (core : CanaryCore F) (settings : RunnerSettings F)
    (world : RunnerWorld core) (command : RunnerCommand F) :
    (runCli D core settings world command).log = [] ∨ ∃ c, command = .session c ∧
      (∀ arm, c.phrase = some arm → arm = sessionArmPhrase) ∧
      validatePublishSettings settings = .ok () ∧
      (((runCli D core settings world command).log = [.connect] ∧ ∃ e, world.connect = .error e) ∨
        ∃ calls, (runCli D core settings world command).log = .connect :: calls ++ [.close] ∧
          (∀ call ∈ calls, Allowed D settings world c call) ∧
          (∀ earlier call later, calls = earlier ++ call :: later → call.Follows earlier) ∧
          calls.countP RunnerCall.isArm ≤ 1) := by
  cases command with
  | previewPlan plan =>
    left
    apply List.eq_nil_iff_forall_not_mem.mpr
    intro c hc
    obtain ⟨_, _, hc⟩ := Logged.mem_log_quiet.mp hc
    cases hc
  | session command =>
    rw [runCli_log]
    cases hphrase : checkPhrase command with
    | error e => exact Or.inl rfl
    | ok _ =>
      cases validatePublishSettings settings with
      | error e => exact Or.inl rfl
      | ok _ =>
        refine Or.inr ⟨command, rfl, ?_, rfl, ?_⟩
        · intro arm harm
          have hexact := preflightIf_ok hphrase
          rw [harm] at hexact
          simpa using hexact
        · cases world.connect with
          | error e => exact Or.inl ⟨rfl, e, rfl⟩
          | ok _ => exact Or.inr ⟨_, rfl, fun _ hc => connected_log hc,
              fun _ _ _ h => connected_follows h, connected_arms command⟩

end Calls

/-! ## Many invocations -/

/-- Picks that go forward through a list are some of its elements, in its order. -/
theorem sublist_of_forward {ι β : Type} {pick : ι → Option β} {place : ι → Nat} {l : List β} :
    ∀ {is : List ι} {k : Nat},
      is.Pairwise (fun i j => pick i ≠ none → pick j ≠ none → place i < place j) →
      (∀ i ∈ is, ∀ b, pick i = some b → k ≤ place i ∧ l[place i]? = some b) →
      (is.filterMap pick).Sublist (l.drop k)
  | [], _, _, _ => List.nil_sublist _
  | i :: is, k, hforward, hpicks => by
    obtain ⟨hfirst, hrest⟩ := List.pairwise_cons.mp hforward
    obtain ⟨hpick, hpicks⟩ := List.forall_mem_cons.mp hpicks
    cases hi : pick i with
    | none =>
      rw [List.filterMap_cons_none hi]
      exact sublist_of_forward hrest hpicks
    | some b =>
      obtain ⟨hplace, hget⟩ := hpick b hi
      rw [List.filterMap_cons_some hi]
      obtain ⟨hlt, hget⟩ := List.getElem?_eq_some_iff.mp hget
      have hlater : ∀ j ∈ is, ∀ b', pick j = some b' →
          place i + 1 ≤ place j ∧ l[place j]? = some b' := by
        intro j hj b' hb'
        refine ⟨hfirst j hj ?_ ?_, (hpicks j hj b' hb').2⟩
        · rw [hi]
          exact Option.some_ne_none b
        · rw [hb']
          exact Option.some_ne_none b'
      have hsub := (sublist_of_forward hrest hlater).cons_cons b
      rw [← hget, ← List.drop_eq_getElem_cons hlt] at hsub
      exact hget ▸ hsub.trans (List.drop_sublist_drop_left l hplace)

/-- An invocation of the command line: its settings, its command and its world. -/
structure Invocation (core : CanaryCore F) where
  settings : RunnerSettings F
  command : RunnerCommand F
  world : RunnerWorld core

namespace Invocation

variable [DecidableEq F] {D : Type} [PyDecimal D] [Spelling F Rat] [PyTruncate F]
  {core : CanaryCore F} {sessionId : String}

/-- What comes of it. -/
def run (D : Type) [PyDecimal D] (i : Invocation core) : Invoked F (RunnerResult F) :=
  runCli D core i.settings i.world i.command

/-- What came of its command before the connection was closed: an exception of the
closing hides a publication, and does not undo it. -/
def outcome (D : Type) [PyDecimal D] (i : Invocation core) : Except PyError (RunnerResult F) :=
  ({ i with world := { i.world with close := .ok () } }.run D).result

/-- The slot of the session that it published. -/
def published (D : Type) [PyDecimal D] (sessionId : String) (i : Invocation core) : Option String :=
  match i.outcome D with
  | .ok (.submitted result id slotId) =>
    if id = sessionId ∧ result.published = true then some slotId else none
  | _ => none

omit [PyFloat F] [DecidableEq F] [Spelling F Rat] [PyTruncate F] in
/-- It went to submit the next slot of the session, and read this status for it. -/
def Reads (sessionId : String) (i : Invocation core) (s : SessionStatus F) : Prop :=
  (∃ arm, i.command = .session (.submitNext sessionId arm)) ∧ i.world.refresh = .ok s

/-- It asked persistence to arm a slot of the session. -/
def Asks (D : Type) [PyDecimal D] (sessionId : String) (i : Invocation core) (slotId : String) :
    Prop :=
  ∃ asked, .arm asked ∈ (i.run D).log ∧ asked.sessionId = some sessionId ∧
    asked.slotId = some slotId

/-- Persistence kept what the first published: the ledger the second reads is longer
than the one the first read. -/
def KeptBetween (D : Type) [PyDecimal D] (sessionId : String) (i j : Invocation core) : Prop :=
  i.published D sessionId ≠ none → ∀ s s', i.Reads sessionId s → j.Reads sessionId s' →
    s.ledger.length < s'.ledger.length

/-- What was submitted was the next slot. -/
theorem submitted_next {i : Invocation core} {result : CanaryRunResult F} {slotId : String}
    (h : i.outcome D = .ok (.submitted result sessionId slotId)) :
    ∃ s p slot plan, i.Reads sessionId s ∧ NextSlot core.toKairosCore s p slot plan ∧
      slot.slotId = slotId := by
  obtain ⟨settings, command, world⟩ := i
  cases command with
  | previewPlan plan =>
    obtain ⟨_, _, h⟩ := Logged.ok_of_bind h
    cases h
  | session command =>
    obtain ⟨_, _, h⟩ := Logged.ok_of_bind h
    obtain ⟨_, _, h⟩ := Logged.ok_of_bind h
    obtain ⟨_, _, h⟩ := Logged.ok_of_bind h
    have h := Logged.ok_of_ensure h
    -- only `submit-next` returns a submission, and only past the choice of a slot
    cases command with
    | armSession scope plan receiptId operatorNonce arm receiptMaxAgeMs =>
      obtain ⟨_, _, h⟩ := Logged.ok_of_bind h
      obtain ⟨_, _, h⟩ := Logged.ok_of_bind h
      obtain ⟨_, _, h⟩ := Logged.ok_of_bind h
      obtain ⟨_, _, h⟩ := Logged.ok_of_bind h
      cases h
    | status id =>
      obtain ⟨_, _, h⟩ := Logged.ok_of_bind h
      cases h
    | stop id =>
      obtain ⟨_, _, h⟩ := Logged.ok_of_bind h
      obtain ⟨_, _, h⟩ := Logged.ok_of_bind h
      cases h
    | submitNext id arm =>
      obtain ⟨_, _, h⟩ := Logged.ok_of_bind h
      obtain ⟨s, hrefresh, h⟩ := Logged.ok_of_bind h
      obtain ⟨choice, hnext, h⟩ := Logged.ok_of_bind h
      cases choice with
      | none => cases h
      | some choice =>
        obtain ⟨chosen, plan⟩ := choice
        obtain ⟨_, _, h⟩ := Logged.ok_of_bind h
        cases h
        obtain ⟨p, slot, hslot, hid⟩ := nextSlot_some hnext
        exact ⟨s, p, slot, plan, ⟨⟨arm, rfl⟩, hrefresh⟩, hslot, hid⟩

theorem published_next {i : Invocation core} {slotId : String}
    (h : i.published D sessionId = some slotId) :
    ∃ s p slot plan, i.Reads sessionId s ∧ NextSlot core.toKairosCore s p slot plan ∧
      slot.slotId = slotId := by
  unfold published at h
  split at h
  next result id chosen hresult =>
    split at h
    next hsame =>
      cases h
      rw [hsame.1] at hresult
      exact submitted_next hresult
    next => cases h
  next => cases h

theorem asks_next {i : Invocation core} {slotId : String} (h : i.Asks D sessionId slotId) :
    ∃ s p slot plan, i.Reads sessionId s ∧ NextSlot core.toKairosCore s p slot plan ∧
      slot.slotId = slotId := by
  obtain ⟨asked, hasked, hsession, hslot⟩ := h
  obtain ⟨settings, command, world⟩ := i
  obtain ⟨c, hcommand, hasked⟩ := connected_of_arm hasked
  obtain ⟨_, id, arm, hsubmit, s, p, slot, plan, hrefresh, hnext, _, hasks, hchosen, _⟩ :=
    connected_log hasked
  have hid : id = sessionId := Option.some.inj (hasks.symm.trans hsession)
  have hchosen : slot.slotId = slotId := Option.some.inj (hchosen.symm.trans hslot)
  refine ⟨s, p, slot, plan, ⟨⟨arm, ?_⟩, hrefresh⟩, hnext, hchosen⟩
  rw [← hid, ← hsubmit]
  exact hcommand

/-- Where the ledger stood when the next slot was read. -/
def place (i : Invocation core) : Nat :=
  match i.world.refresh with
  | .ok s => s.ledger.length
  | .error _ => 0

omit [DecidableEq F] [Spelling F Rat] [PyTruncate F] in
theorem place_of_reads {i : Invocation core} {s : SessionStatus F} (h : i.Reads sessionId s) :
    i.place = s.ledger.length := by
  unfold place
  rw [h.2]

/-- What was published stood in the plan where the ledger ended. -/
theorem published_place {i : Invocation core} {p : BoundedCanaryPlan F} {slotId : String}
    (hplan : ∀ s, i.Reads sessionId s → s.plan = .ok p)
    (h : i.published D sessionId = some slotId) :
    ∃ slot, p.slots[i.place]? = some slot ∧ slot.slotId = slotId ∧
      (i.place : Int) < p.maxAttempts := by
  obtain ⟨s, p', slot, plan, hreads, hnext, rfl⟩ := published_next h
  have hsame := hnext.planned
  rw [hplan s hreads] at hsame
  cases hsame
  rw [place_of_reads hreads]
  exact ⟨slot, hnext.first, rfl, hnext.allowed⟩

/-- What was published with the ledger shorter than `m` are slots among the first `m`. -/
theorem published_sublist {p : BoundedCanaryPlan F} {l : List (Invocation core)} {m : Nat}
    (hkept : l.Pairwise (KeptBetween D sessionId))
    (hplan : ∀ i ∈ l, ∀ s, i.Reads sessionId s → s.plan = .ok p)
    (hbelow : ∀ i ∈ l, i.published D sessionId ≠ none → i.place < m) :
    (l.filterMap (published D sessionId)).Sublist ((p.slots.take m).map (·.slotId)) := by
  have hforward : l.Pairwise fun i j => i.published D sessionId ≠ none →
      j.published D sessionId ≠ none → i.place < j.place := by
    refine hkept.imp fun {i j} hij hi hj => ?_
    obtain ⟨_, hi'⟩ := Option.ne_none_iff_exists'.mp hi
    obtain ⟨_, hj'⟩ := Option.ne_none_iff_exists'.mp hj
    obtain ⟨s, _, _, _, hreads, _⟩ := published_next hi'
    obtain ⟨s', _, _, _, hreads', _⟩ := published_next hj'
    rw [place_of_reads hreads, place_of_reads hreads']
    exact hij hi s s' hreads hreads'
  have hpicks : ∀ i ∈ l, ∀ slotId, i.published D sessionId = some slotId →
      0 ≤ i.place ∧ ((p.slots.take m).map (·.slotId))[i.place]? = some slotId := by
    intro i hi slotId h
    obtain ⟨slot, hslot, rfl, _⟩ := published_place (hplan i hi) h
    refine ⟨Nat.zero_le _, ?_⟩
    rw [List.getElem?_map, List.getElem?_take_of_lt (hbelow i hi (by rw [h]; nofun)), hslot]
    rfl
  exact sublist_of_forward hforward hpicks

/-- **A session publishes the slots of its plan in order, each at most once**, and
no more than its plan allows, over any invocations of the controller: restarted,
with other settings, whatever came of them and whatever else was done between.
An arm is asked for only past everything published, and with every earlier
attempt at its end. -/
theorem slots_published_in_order (D : Type) [PyDecimal D] (core : CanaryCore F) (sessionId : String)
    (p : BoundedCanaryPlan F) (runs : List (Invocation core))
    (hplan : ∀ i ∈ runs, ∀ s, i.Reads sessionId s → s.plan = .ok p)
    (hkept : runs.Pairwise (KeptBetween D sessionId)) :
    (runs.filterMap (published D sessionId)).Sublist
      ((p.slots.take p.maxAttempts.toNat).map (·.slotId)) ∧
    ∀ before i after, runs = before ++ i :: after → ∀ slotId, i.Asks D sessionId slotId →
      ∃ s slot, i.Reads sessionId s ∧ p.slots[s.ledger.length]? = some slot ∧
        slot.slotId = slotId ∧ (s.ledger.length : Int) < p.maxAttempts ∧
        (∀ item ∈ s.ledger, item.state = "TERMINAL") ∧
        (before.filterMap (published D sessionId)).Sublist
          ((p.slots.take s.ledger.length).map (·.slotId)) := by
  constructor
  · refine published_sublist hkept hplan fun i hi h => ?_
    obtain ⟨_, h⟩ := Option.ne_none_iff_exists'.mp h
    obtain ⟨_, _, _, hallowed⟩ := published_place (hplan i hi) h
    omega
  · intro before i after hruns slotId hasks
    subst hruns
    obtain ⟨hbefore, _, hacross⟩ := List.pairwise_append.mp hkept
    obtain ⟨s, p', slot, plan, hreads, hnext, rfl⟩ := asks_next hasks
    have hsame := hnext.planned
    rw [hplan i (by simp) s hreads] at hsame
    cases hsame
    refine ⟨s, slot, hreads, hnext.first, rfl, hnext.allowed, hnext.settled, ?_⟩
    refine published_sublist hbefore (fun j hj => hplan j (by simp [hj])) fun j hj h => ?_
    obtain ⟨_, h'⟩ := Option.ne_none_iff_exists'.mp h
    obtain ⟨s', _, _, _, hreads', _⟩ := published_next h'
    rw [place_of_reads hreads']
    exact hacross j hj i List.mem_cons_self h s' s hreads' hreads

end Invocation

/-! ## A session of two slots -/

namespace Scenario

/-- A slot for the ordinary canary. -/
def ordinarySlot (slotId : String) : CanarySlot Rat where
  slotId := slotId
  symbol := "BTCUSDT"
  side := "LONG"
  stopDistanceBps := 50
  targetDistanceBps := 75
  maxHoldingMs := 300000
  entryWindowMs := 30000

/-- Two slots, with attempts to spare. -/
def twoSlots : BoundedCanaryPlan Rat := ⟨10, [ordinarySlot "slot-1", ordinarySlot "slot-2"]⟩

/-- The account and environment of the session. -/
def sessionScope : CanaryScope where
  environment := "paper-dev"
  accountId := "kairos-paper-dev-01"
  remoteAccountId := "synthetic"
  configSha256 := digest 'a'
  recorderCodeSha256 := digest 'b'

/-- The session with these attempts. -/
def sessionWith (attempts : List CanaryAttempt) : SessionStatus Rat where
  sessionId := "session-1"
  receiptId := "receipt"
  state := "RUNNING"
  armedAt := none
  entryDeadlineAt := none
  attemptsReserved := attempts.length
  maxAttempts := 10
  lastProgressAt := none
  stopReason := none
  attempts := some attempts
  plan := .ok twoSlots
  scope := .ok sessionScope

/-- An attempt at a slot. -/
def attempt (ordinal : Int) (slotId state : String) : CanaryAttempt :=
  ⟨"attempt", ordinal, slotId, "BTCUSDT", state, none⟩

/-- `submit-next`, with the session at these attempts. -/
def submitting (attempts : List CanaryAttempt) : Invocation canaryCore where
  settings :=
    { settings 10 ten_decisions with
      tradingMode := .paper, evedexProfile := .dev, busBackend := "redis"
      environment := "paper-dev" }
  command := .session (.submitNext "session-1" sessionArmPhrase)
  world :=
    { connect := .ok ()
      close := .ok ()
      armSession := .error (.external "connection lost")
      status := .ok (sessionWith attempts)
      stop := .error (.external "connection lost")
      refresh := .ok (sessionWith attempts)
      nowMs := 60400
      canary := canaryReplies ordinaryRule }

/-- What four invocations find: the second comes too early, for the fourth no slot is
left. -/
def fourLedgers : List (List CanaryAttempt) :=
  [[], [attempt 1 "slot-1" "CONSUMED"], [attempt 1 "slot-1" "TERMINAL"],
    [attempt 1 "slot-1" "TERMINAL", attempt 2 "slot-2" "TERMINAL"]]

/-- The two slots are published, each once. -/
theorem two_slots_published :
    (fourLedgers.map submitting).filterMap (Invocation.published Rat "session-1")
      = ["slot-1", "slot-2"] ∧
    ((fourLedgers.map submitting).filterMap (Invocation.published Rat "session-1")).Sublist
      ((twoSlots.slots.take 10).map (·.slotId)) := by
  have hlengths : fourLedgers.Pairwise fun attempts attempts' =>
      (submitting attempts).published Rat "session-1" ≠ none →
        attempts.length < attempts'.length := by
    decide +kernel
  refine ⟨by decide +kernel, ?_⟩
  refine (Invocation.slots_published_in_order Rat canaryCore "session-1" twoSlots
    (fourLedgers.map submitting) ?_ ?_).1
  · intro i hi s hreads
    obtain ⟨attempts, _, rfl⟩ := List.mem_map.mp hi
    cases hreads.2
    rfl
  · refine List.pairwise_map.mpr (hlengths.imp ?_)
    intro attempts attempts' h hpublished s s' hs hs'
    cases hs.2
    cases hs'.2
    exact h hpublished

end Scenario

end KairosRisk
