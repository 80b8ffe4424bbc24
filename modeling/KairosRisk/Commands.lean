import KairosRisk.AllocationFeed
import KairosRisk.Pipeline

/-!
# Handling a tactical command

`_handle_command` answers every command with one published decision. The gates
of the service come first, each with a refusal of its own; then the account in
force is read again for the command's symbol, which may raise where reading it
for no symbol did not; then the allocation's and the price's gates; and what
is left goes to the pipeline. A command whose handling raises stays pending.
-/

namespace KairosRisk

open PyLib

variable {F : Type} [PyFloat F]

/-- What a handling finds outside the service: the times of its clock readings
and the mode of the breakers. -/
structure CommandTurn where
  readyAt : DateTime
  freshAt : DateTime
  systemMode : SystemMode

/-- The fields of `RiskService` that the legacy route uses. -/
structure LegacyService (F : Type) [PyFloat F] where
  pipeline : RiskPipeline F
  /-- `settings.symbol_allowed`. -/
  symbolAllowed : String → Bool
  account : LegacyAccount F
  allocation : LegacyAllocation F

/-- `_NON_ENTRY_REASONS`. -/
def nonEntryReasons : List ReasonCode := [.closePosition, .hold, .noTrade, .reduceLeverage]

namespace LegacyService

/-- `_account_ready`. A snapshot in force has an aware time. -/
def accountReady (s : LegacyService F) (now : DateTime) : Bool :=
  let settings := s.pipeline.settings
  match s.account.accountSnapshot with
  | none =>
    -- a failure reported by Execution wins over the setting
    s.account.latestAccountCapturedAt.isNone && !settings.requireReconciledAccount
  | some snapshot =>
    if !settings.requireReconciledAccount then true
    else if !snapshot.reconciled then false
    else
      let ageS : F := PyFloat.lit ((now.us - snapshot.capturedAt.us : Int) / 1000000 : Rat)
      !(decide (ageS < PyFloat.lit 0) || decide (settings.accountSnapshotMaxAgeS < ageS))

variable [DecidableEq F]

/-- The account as a command's symbol sees it. -/
def accountFor (s : LegacyService F) (symbol : String) : Except PyError (AccountState F) :=
  match s.account.accountSnapshot with
  | some snapshot => AccountState.fromSnapshot snapshot (some symbol)
  | none => .ok s.account.account

/-- The price's gate, and the pipeline. -/
def decidePriced (s : LegacyService F) (command : TacticalCommand F) (account : AccountState F)
    (allocation : Option (StrategicAllocation F)) (systemMode : SystemMode) :
    Except PyError (ValidatedOrder F) :=
  let price := command.referencePrice
  if price ≤ PyFloat.lit 0 then
    s.pipeline.refuse command "positive reference price required for deterministic sizing"
  else s.pipeline.validate command account price allocation systemMode

/-- The allocation's gates, which new risk alone has to pass. -/
def decideFor (s : LegacyService F) (command : TacticalCommand F) (account : AccountState F)
    (turn : CommandTurn) : Except PyError (ValidatedOrder F) :=
  let settings := s.pipeline.settings
  let isNewRisk := !nonEntryReasons.contains command.reasonCode
  if settings.requireStrategicAllocation && isNewRisk
      && decide (turn.systemMode ≠ .localQuantMode) then
    match s.allocation.strategicAllocation with
    | none => s.pipeline.refuse command "required strategic allocation unavailable"
    | some allocation =>
      if !isFresh allocation settings.strategicAllocationMaxAgeS turn.freshAt then
        s.pipeline.refuse command "required strategic allocation is stale"
      else s.decidePriced command account (some allocation) turn.systemMode
  else s.decidePriced command account none turn.systemMode

/-- `_handle_command`: the decision it publishes. -/
def handleCommand (s : LegacyService F) (command : TacticalCommand F) (turn : CommandTurn) :
    Except PyError (ValidatedOrder F) :=
  if !s.symbolAllowed command.symbol then s.pipeline.refuse command "symbol is not allowed"
  else if !s.accountReady turn.readyAt then
    s.pipeline.refuse command "authoritative account reconciliation unavailable"
  else do
    let account ← s.accountFor command.symbol
    s.decideFor command account turn

/-! ## What can be raised -/

/-- What the contracts raise when they reject a message. -/
def contractErrors : List PyError :=
  [.valueError "OrderIntent validation failed", .valueError "ValidatedOrder validation failed"]

omit [PyFloat F] [DecidableEq F] in
/-- Building an intent and the order around it raises what the contracts raise. -/
theorem construct_error {core : PipelineCore F} {intent : OrderIntent F}
    {order : OrderIntent F → ValidatedOrder F} {e : PyError}
    (h : (core.orderIntent intent >>= fun i => core.validatedOrder (order i)) = .error e) :
    e ∈ contractErrors := by
  unfold PipelineCore.orderIntent at h
  by_cases hintent : core.orderIntentValid intent = true
  · rw [if_pos hintent, ok_bind, PipelineCore.validatedOrder] at h
    split at h
    next => cases h
    next =>
      cases h
      exact List.mem_cons_of_mem _ List.mem_cons_self
  · rw [if_neg hintent] at h
    cases h
    exact List.mem_cons_self

omit [DecidableEq F] in
theorem refuse_error {p : RiskPipeline F} {command : TacticalCommand F} {adjustment : String}
    {e : PyError} (h : p.refuse command adjustment = .error e) : e ∈ contractErrors :=
  construct_error h

theorem validate_error {p : RiskPipeline F} {command : TacticalCommand F} {account : AccountState F}
    {price : F} {allocation : Option (StrategicAllocation F)} {systemMode : SystemMode}
    {e : PyError} (h : p.validate command account price allocation systemMode = .error e) :
    e ∈ contractErrors := by
  unfold RiskPipeline.validate at h
  split at h
  next => exact construct_error h
  next => exact construct_error h

variable {s : LegacyService F} {command : TacticalCommand F} {turn : CommandTurn} {e : PyError}

/-- With an account to decide about, nothing else raises. -/
theorem decideFor_error {account : AccountState F}
    (h : s.decideFor command account turn = .error e) :
    e ∈ contractErrors := by
  have hpriced : ∀ allocation,
      s.decidePriced command account allocation turn.systemMode = .error e →
      e ∈ contractErrors := by
    intro allocation hpriced
    unfold decidePriced at hpriced
    dsimp only at hpriced
    split at hpriced
    next => exact refuse_error hpriced
    next => exact validate_error hpriced
  unfold decideFor at h
  dsimp only at h
  split at h
  next =>
    split at h
    next => exact refuse_error h
    next =>
      split at h
      next => exact refuse_error h
      next => exact hpriced _ h
  next => exact hpriced _ h

/-- A handling raises what the contracts raise, or what reading the account for
the symbol does. -/
theorem handleCommand_error (h : s.handleCommand command turn = .error e) :
    e ∈ contractErrors ∨ s.accountFor command.symbol = .error e := by
  unfold handleCommand at h
  split at h
  next => exact Or.inl (refuse_error h)
  next =>
    split at h
    next => exact Or.inl (refuse_error h)
    next =>
      cases haccount : s.accountFor command.symbol with
      | error e' =>
        rw [haccount] at h
        cases h
        exact Or.inr rfl
      | ok account =>
        rw [haccount, ok_bind] at h
        exact Or.inl (decideFor_error h)

end LegacyService

end KairosRisk
