import KairosRisk.AccountFeed
import KairosRisk.Config
import KairosRisk.Strategy

/-!
# The legacy risk pipeline

Outside PAPER a tactical command becomes one `ValidatedOrder`: approved with a
sized intent, or refused with a token one. `RiskPipeline.size` is the part of
`validate` that decides: the gates on new risk, the allocation's limits, the
leverage cap, the quantity of an exit or of an entry and the exchange minimum,
each of which may end it with a refusal. `validate` then builds the order.
-/

namespace KairosRisk

open PyLib

variable {F : Type} [PyFloat F]

/-! ## Sizing -/

/-- `position_quantity`. -/
def positionQuantity (equityUsd price leverage riskFraction maxNotionalUsd : F) : F :=
  let zero : F := PyFloat.lit 0
  let values := [equityUsd, price, leverage, riskFraction, maxNotionalUsd]
  if !values.all PyFloat.isFinite then zero
  else if decide (equityUsd ≤ zero) || decide (price ≤ zero) || decide (leverage ≤ zero)
      || !(decide (zero < riskFraction) && decide (riskFraction ≤ PyFloat.lit 1)) then zero
  else if maxNotionalUsd ≤ zero then zero
  else
    let notional := PyFloat.min (equityUsd * riskFraction * leverage) [maxNotionalUsd]
    PyFloat.max zero [notional / price]

/-! ## The parts of the pipeline outside the repository -/

/-- What the contracts accept, and how the interpreter writes numbers and
derives identities. -/
structure PipelineCore (F : Type) where
  /-- `f"{x:g}"`. -/
  general : F → String
  /-- `f"{x:.2f}"`. -/
  fixed2 : F → String
  /-- `f"{x:,.0f}"`. -/
  grouped : F → String
  /-- `str(uuid5(NAMESPACE_URL, name))`. -/
  uuid5Url : String → String
  /-- `OrderIntent(...)` does not raise. -/
  orderIntentValid : OrderIntent F → Bool
  /-- `ValidatedOrder(...)` does not raise. -/
  validatedOrderValid : ValidatedOrder F → Bool

/-- `OrderIntent(...)`. -/
def PipelineCore.orderIntent (core : PipelineCore F) (fields : OrderIntent F) :
    Except PyError (OrderIntent F) :=
  if core.orderIntentValid fields then .ok fields
  else .error (.valueError "OrderIntent validation failed")

/-- `ValidatedOrder(...)`. -/
def PipelineCore.validatedOrder (core : PipelineCore F) (fields : ValidatedOrder F) :
    Except PyError (ValidatedOrder F) :=
  if core.validatedOrderValid fields then .ok fields
  else .error (.valueError "ValidatedOrder validation failed")

omit [PyFloat F] in
/-- A constructed intent was accepted. -/
theorem PipelineCore.orderIntent_ok {core : PipelineCore F} {fields intent : OrderIntent F}
    (h : core.orderIntent fields = .ok intent) : core.orderIntentValid fields = true := by
  unfold orderIntent at h
  split at h
  next hvalid => exact hvalid
  next => cases h

omit [PyFloat F] in
/-- A constructed order is the one whose fields were given, and was accepted. -/
theorem PipelineCore.validatedOrder_ok {core : PipelineCore F} {fields order : ValidatedOrder F}
    (h : core.validatedOrder fields = .ok order) :
    order = fields ∧ core.validatedOrderValid fields = true := by
  unfold validatedOrder at h
  split at h
  next hvalid => exact ⟨(Except.ok.inj h).symm, hvalid⟩
  next => cases h

/-! ## The filters -/

/-- `ENTRY_CODES` and `_NEW_RISK_REASONS`. -/
def ReasonCode.isNewRisk (reason : ReasonCode) : Bool :=
  [.enterLongTrend, .enterShortTrend, .rebalance].contains reason

/-- `cap_leverage`. -/
def capLeverage (core : PipelineCore F) (requested : F) (settings : LegacyRiskSettings F) :
    F × Option String :=
  if !PyFloat.isFinite requested || decide (requested ≤ PyFloat.lit 0) then
    (PyFloat.lit 0, some "invalid leverage -> entry refused")
  else if settings.hardLeverageLimit < requested then
    -- treated as a model error
    (settings.safeLeverageCap,
      some ("leverage " ++ core.general requested ++ "x exceeds hard limit "
      ++ core.general settings.hardLeverageLimit ++ "x -> capped to "
      ++ core.general settings.safeLeverageCap ++ "x (suspected error)"))
  else if settings.maxAllowedLeverage < requested then
    (settings.maxAllowedLeverage, some ("leverage " ++ core.general requested ++ "x clamped to "
      ++ core.general settings.maxAllowedLeverage ++ "x"))
  else
    (requested, none)

/-- `drawdown_gate`. -/
def drawdownGate (core : PipelineCore F) (reason : ReasonCode) (account : AccountState F)
    (settings : LegacyRiskSettings F) : Option String :=
  if reason.isNewRisk && decide (settings.maxDailyDrawdownPct ≤ account.dailyDrawdownPct) then
    some ("daily drawdown " ++ core.fixed2 account.dailyDrawdownPct ++ "% >= "
      ++ core.fixed2 settings.maxDailyDrawdownPct ++ "% -> entry refused, forcing NO_TRADE")
  else
    none

/-- `enforce_min_notional`. -/
def enforceMinNotional (core : PipelineCore F) (qty price : F) (settings : LegacyRiskSettings F) :
    F × Option String :=
  let zero : F := PyFloat.lit 0
  if !PyFloat.isFinite qty || !PyFloat.isFinite price || decide (qty ≤ zero)
      || decide (price ≤ zero) then
    (zero, some "invalid quantity or price -> zeroed")
  else if qty * price < settings.minNotionalUsd then
    (zero, some ("notional below exchange minimum $" ++ core.general settings.minNotionalUsd
      ++ " -> zeroed"))
  else
    (qty, none)

/-! ## The pipeline -/

/-- A refusal on the way to an order, with the adjustments noted until then. -/
structure Refusal where
  reasonCode : ReasonCode
  adjustments : List String
  deriving DecidableEq

/-- Refuse the trade when the test holds. -/
def noTradeIf (test : Bool) (adjustments : List String) (message : String) : Except Refusal Unit :=
  if test then .error ⟨.noTrade, adjustments ++ [message]⟩ else .ok ()

/-- Refuse the trade when a filter has something to say. -/
def noTradeFor : Option String → Except Refusal Unit
  | some note => .error ⟨.noTrade, [note]⟩
  | none => .ok ()

/-- `_SIDE_MAP.get(reason)`. -/
def sideMap : ReasonCode → Option OrderSide
  | .enterLongTrend => some .buy
  | .enterShortTrend => some .sell
  | _ => none

/-- `_EXPECTED_ENTRY_SIDE.get(reason)`. -/
def expectedEntrySide : ReasonCode → Option Side
  | .enterLongTrend => some .long
  | .enterShortTrend => some .short
  | _ => none

/-- An order as sized: what is left to `validate` is to build it. -/
structure Sized (F : Type) where
  side : Option OrderSide
  quantity : F
  leverage : F
  adjustments : List String

/-- `RiskPipeline`. -/
structure RiskPipeline (F : Type) [PyFloat F] where
  core : PipelineCore F
  settings : LegacyRiskSettings F

namespace RiskPipeline

/-- The note about an entry whose reason and target side differ. -/
def sideMismatch (command : TacticalCommand F) : Option String :=
  match expectedEntrySide command.reasonCode with
  | some expected =>
    if command.targetSide ≠ expected then
      some (command.reasonCode.value ++ " requires target_side=" ++ expected.value
        ++ ", received " ++ command.targetSide.value)
    else none
  | none => none

/-- The gates before anything is sized. -/
def passGates (p : RiskPipeline F) (command : TacticalCommand F) (account : AccountState F)
    (price : F) (systemMode : SystemMode) : Except Refusal Unit := do
  let reason := command.reasonCode
  noTradeIf (!PyFloat.isFinite price || decide (price ≤ PyFloat.lit 0)) []
    "finite positive reference price required"
  noTradeIf (decide (systemMode = .localQuantMode) && reason.isNewRisk) []
    "LOCAL_QUANT_MODE blocks new risk"
  noTradeFor (sideMismatch command)
  noTradeIf (reason.isNewRisk && !account.grossExposureKnown) []
    "authoritative gross exposure is unavailable"
  noTradeFor (drawdownGate p.core reason account p.settings)
  -- codes that ask for no order are passed through
  if [.hold, .noTrade, .reduceLeverage].contains reason then .error ⟨reason, []⟩ else .ok ()

/-- The allocation's limits: they apply to everything but an exit. -/
def strategicFor (command : TacticalCommand F) (account : AccountState F)
    (allocation : Option (StrategicAllocation F)) : Except Refusal (Option (StrategicLimits F)) :=
  match allocation with
  | none => .ok none
  | some allocation =>
    if command.reasonCode = .closePosition then .ok none
    else
      let strategic :=
        limitsFor allocation command.reasonCode account.equityUsd account.grossExposureUsd
      if strategic.allowed then .ok (some strategic) else .error ⟨.noTrade, strategic.notes⟩

/-- The leverage within the settings and the allocation, and the notes about it. -/
def leverageFor (p : RiskPipeline F) (command : TacticalCommand F)
    (strategic : Option (StrategicLimits F)) : F × List String :=
  let capped := capLeverage p.core command.requestedLeverage p.settings
  match strategic with
  | none => (capped.1, capped.2.toList)
  | some limits =>
    if limits.maxLeverage < capped.1 then
      (limits.maxLeverage, ("leverage capped by strategic allocation to "
        ++ p.core.general limits.maxLeverage ++ "x") :: capped.2.toList)
    else (capped.1, capped.2.toList)

/-- The side of an entry. -/
def entrySide (command : TacticalCommand F) (adjustments : List String) :
    Except Refusal (Option OrderSide) :=
  if command.reasonCode = .rebalance then
    match command.targetSide with
    | .long => .ok (some .buy)
    | .short => .ok (some .sell)
    | .flat => .error ⟨.noTrade, adjustments ++ ["rebalance requires LONG or SHORT target_side"]⟩
  else .ok (sideMap command.reasonCode)

/-- What an entry may add up to: the position's own cap, and the allocation's. -/
def roomFor (p : RiskPipeline F) (account : AccountState F)
    (strategic : Option (StrategicLimits F)) : F :=
  let own := PyFloat.max (PyFloat.lit 0)
    [p.settings.maxPositionNotionalUsd - account.openPositionNotionalUsd]
  match strategic with
  | none => own
  | some limits => PyFloat.min own [limits.remainingGrossNotionalUsd]

/-- `_derived_id`. -/
def derivedId (p : RiskPipeline F) (command : TacticalCommand F) (kind : String) : String :=
  p.core.uuid5Url ("kairos:risk:" ++ kind ++ ":" ++ command.messageId)

/-- `command.correlation_id or command.message_id`. -/
def correlation (command : TacticalCommand F) : String :=
  match command.correlationId with
  | some text => if text = "" then command.messageId else text
  | none => command.messageId

/-- `_refuse`. The account it is given is not used. -/
def refuseAs (p : RiskPipeline F) (command : TacticalCommand F) (reasonCode : ReasonCode)
    (adjustments : List String) : Except PyError (ValidatedOrder F) := do
  let intent ← p.core.orderIntent
    { source := p.settings.serviceName
      messageId := p.derivedId command "intent"
      correlationId := correlation command
      causationId := command.messageId
      symbol := command.symbol
      side := some .buy
      orderType := .market
      quantity := PyFloat.lit (1 / 1000000000)
      price := none
      leverage := none
      reduceOnly := none
      reasonCode := reasonCode }
  p.core.validatedOrder
    { source := p.settings.serviceName
      messageId := p.derivedId command "decision"
      correlationId := correlation command
      causationId := command.messageId
      intent := intent
      approved := false
      reasonCode := reasonCode
      adjustments := adjustments
      riskNotes := "refused by risk manager" }

/-- `refuse`. The account it makes up when it is given none always validates. -/
def refuse (p : RiskPipeline F) (command : TacticalCommand F) (adjustment : String) :
    Except PyError (ValidatedOrder F) :=
  p.refuseAs command .noTrade [adjustment]

/-- The intent of an approved order. -/
def intentOf (p : RiskPipeline F) (command : TacticalCommand F) (price : F) (sized : Sized F) :
    OrderIntent F where
  source := p.settings.serviceName
  messageId := p.derivedId command "intent"
  correlationId := correlation command
  causationId := command.messageId
  symbol := command.symbol
  side := sized.side
  orderType := .limit
  quantity := sized.quantity
  price := some price
  leverage := some sized.leverage
  reduceOnly := some (command.reasonCode = .closePosition)
  reasonCode := command.reasonCode

/-- The order that approves an intent. -/
def approvalOf (p : RiskPipeline F) (command : TacticalCommand F) (account : AccountState F)
    (price : F) (sized : Sized F) : ValidatedOrder F where
  source := p.settings.serviceName
  messageId := p.derivedId command "decision"
  correlationId := correlation command
  causationId := command.messageId
  intent := p.intentOf command price sized
  approved := true
  reasonCode := command.reasonCode
  adjustments := sized.adjustments
  riskNotes := "equity=$" ++ p.core.grouped account.equityUsd ++ " dd="
    ++ p.core.fixed2 account.dailyDrawdownPct ++ "%"

variable [DecidableEq F]

/-- An exit closes the position exactly. -/
def sizeExit (account : AccountState F) (adjustments : List String) :
    Except Refusal (Option OrderSide × F) :=
  let held := account.openPositionQty
  if held = PyFloat.lit 0 then .error ⟨.noTrade, adjustments ++ ["no open position to close"]⟩
  else .ok (some (if PyFloat.lit 0 < held then .sell else .buy), PyFloat.abs held)

/-- An entry on a symbol with a position may only add to it. -/
def extendsPosition (command : TacticalCommand F) (account : AccountState F)
    (adjustments : List String) : Except Refusal Unit :=
  let held := account.openPositionQty
  if held = PyFloat.lit 0 then .ok ()
  else do
    noTradeIf (command.targetSide ≠ if PyFloat.lit 0 < held then .long else .short) adjustments
      "entry target opposes the open position; close it before changing direction"
    noTradeIf (!account.openPositionNotionalKnown) adjustments
      "command-symbol position notional is unavailable"

/-- The quantity of an entry. -/
def sizeEntry (p : RiskPipeline F) (command : TacticalCommand F) (account : AccountState F)
    (price : F) (strategic : Option (StrategicLimits F)) (leverage : F)
    (adjustments : List String) :
    Except Refusal (Option OrderSide × F) := do
  let side ← entrySide command adjustments
  extendsPosition command account adjustments
  let maxNotional := p.roomFor account strategic
  noTradeIf (decide (maxNotional ≤ PyFloat.lit 0)) adjustments
    "position or strategic gross-notional cap exhausted"
  let sizingEquity := strategic.elim account.equityUsd fun limits => limits.availableEquityUsd
  .ok (side,
    positionQuantity sizingEquity price leverage p.settings.perTradeRiskFraction maxNotional)

/-- The side and the quantity before the exchange minimum. -/
def requested (p : RiskPipeline F) (command : TacticalCommand F) (account : AccountState F)
    (price : F) (strategic : Option (StrategicLimits F)) (leverage : F)
    (adjustments : List String) :
    Except Refusal (Option OrderSide × F) :=
  if command.reasonCode = .closePosition then sizeExit account adjustments
  else p.sizeEntry command account price strategic leverage adjustments

/-- `validate` up to the construction of the order. -/
def size (p : RiskPipeline F) (command : TacticalCommand F) (account : AccountState F) (price : F)
    (allocation : Option (StrategicAllocation F)) (systemMode : SystemMode) :
    Except Refusal (Sized F) := do
  p.passGates command account price systemMode
  let strategic ← strategicFor command account allocation
  let leverage := p.leverageFor command strategic
  let adjustments := (strategic.elim [] fun limits => limits.notes) ++ leverage.2
  let sized ← p.requested command account price strategic leverage.1 adjustments
  -- the exchange minimum applies to both
  let enforced := enforceMinNotional p.core sized.2 price p.settings
  let adjustments := adjustments ++ enforced.2.toList
  if enforced.1 ≤ PyFloat.lit 0 then .error ⟨.noTrade, adjustments⟩
  else
    .ok
      { side := sized.1, quantity := enforced.1, leverage := leverage.1
        adjustments := adjustments }

/-- `validate`. -/
def validate (p : RiskPipeline F) (command : TacticalCommand F) (account : AccountState F)
    (price : F) (allocation : Option (StrategicAllocation F)) (systemMode : SystemMode) :
    Except PyError (ValidatedOrder F) :=
  match p.size command account price allocation systemMode with
  | .error refusal => p.refuseAs command refusal.reasonCode refusal.adjustments
  | .ok sized => do
    let _ ← p.core.orderIntent (p.intentOf command price sized)
    p.core.validatedOrder (p.approvalOf command account price sized)

/-! ## What each part says -/

omit [PyFloat F] [DecidableEq F]

section Steps

variable {α β : Type}

/-- A computation that was not refused went through its first step. -/
theorem step_ok_iff {x : Except Refusal α} {f : α → Except Refusal β} {b : β} :
    (x >>= f) = .ok b ↔ ∃ a, x = .ok a ∧ f a = .ok b := by
  constructor
  · intro h
    cases x with
    | error e => cases h
    | ok a => exact ⟨a, rfl, h⟩
  · intro h
    obtain ⟨a, rfl, hf⟩ := h
    exact hf

theorem ok_step {a : α} {f : α → Except Refusal β} : (Except.ok a >>= f) = f a := rfl

theorem gate_ok_iff {x : Except Refusal Unit} {f : Unit → Except Refusal β} {b : β} :
    (x >>= f) = .ok b ↔ x = .ok () ∧ f () = .ok b := by
  rw [step_ok_iff]
  exact ⟨fun ⟨_, h⟩ => h, fun h => ⟨(), h⟩⟩

theorem noTradeIf_ok_iff {test : Bool} {adjustments : List String} {message : String} :
    noTradeIf test adjustments message = .ok () ↔ test = false := by
  cases test <;> simp [noTradeIf]

theorem noTradeFor_ok_iff {note : Option String} : noTradeFor note = .ok () ↔ note = none := by
  cases note <;> simp [noTradeFor]

end Steps

/-- A command that `passGates` lets through. -/
structure Admitted [PyFloat F] (p : RiskPipeline F) (command : TacticalCommand F)
    (account : AccountState F) (price : F) (systemMode : SystemMode) : Prop where
  finite : PyFloat.isFinite price = true
  positive : ¬price ≤ PyFloat.lit 0
  mode : command.reasonCode.isNewRisk = true → systemMode ≠ .localQuantMode
  side : ∀ expected, expectedEntrySide command.reasonCode = some expected →
    command.targetSide = expected
  exposure : command.reasonCode.isNewRisk = true → account.grossExposureKnown = true
  drawdown : command.reasonCode.isNewRisk = true →
    ¬p.settings.maxDailyDrawdownPct ≤ account.dailyDrawdownPct
  actionable : command.reasonCode ∉ [ReasonCode.hold, .noTrade, .reduceLeverage]

theorem sideMismatch_none_iff {command : TacticalCommand F} : sideMismatch command = none ↔
    ∀ expected, expectedEntrySide command.reasonCode = some expected →
      command.targetSide = expected := by
  unfold sideMismatch
  cases expectedEntrySide command.reasonCode with
  | none => simp
  | some expected => simp

variable [PyFloat F] {p : RiskPipeline F} {command : TacticalCommand F} {account : AccountState F}
  {price : F} {allocation : Option (StrategicAllocation F)} {systemMode : SystemMode}

theorem passGates_ok_iff :
    p.passGates command account price systemMode = .ok () ↔
      p.Admitted command account price systemMode := by
  have hcode : (if [ReasonCode.hold, .noTrade, .reduceLeverage].contains command.reasonCode then
      Except.error (⟨command.reasonCode, []⟩ : Refusal) else .ok ()) = .ok () ↔
      command.reasonCode ∉ [ReasonCode.hold, .noTrade, .reduceLeverage] := by
    split <;> simp_all
  unfold passGates
  simp only [gate_ok_iff, noTradeIf_ok_iff, noTradeFor_ok_iff, sideMismatch_none_iff, hcode,
    Bool.or_eq_false_iff, Bool.and_eq_false_iff, Bool.not_eq_false', decide_eq_false_iff_not]
  unfold drawdownGate
  constructor
  · intro h
    obtain ⟨⟨hfinite, hpositive⟩, hmode, hside, hexposure, hdrawdown, hactionable⟩ := h
    refine ⟨hfinite, hpositive, ?_, hside, ?_, ?_, hactionable⟩
    · intro hnew
      rw [hnew] at hmode
      simpa using hmode
    · intro hnew
      rw [hnew] at hexposure
      simpa using hexposure
    · intro hnew
      rw [hnew] at hdrawdown
      simpa using hdrawdown
  · intro h
    refine ⟨⟨h.finite, h.positive⟩, ?_, h.side, ?_, ?_, h.actionable⟩
    · by_cases hnew : command.reasonCode.isNewRisk = true
      · exact Or.inl (h.mode hnew)
      · exact Or.inr (by simpa using hnew)
    · by_cases hnew : command.reasonCode.isNewRisk = true
      · exact Or.inr (h.exposure hnew)
      · exact Or.inl (by simpa using hnew)
    · by_cases hnew : command.reasonCode.isNewRisk = true
      · simp [hnew, h.drawdown hnew]
      · simp [hnew]

variable [DecidableEq F]

/-- How a sized order came about. -/
theorem size_ok {sized : Sized F}
    (h : p.size command account price allocation systemMode = .ok sized) :
    p.Admitted command account price systemMode ∧
    ∃ strategic stage adjustments, strategicFor command account allocation = .ok strategic ∧
      p.requested command account price strategic (p.leverageFor command strategic).1 adjustments
        = .ok stage ∧
      sized.side = stage.1 ∧ sized.leverage = (p.leverageFor command strategic).1 ∧
      sized.quantity = (enforceMinNotional p.core stage.2 price p.settings).1 ∧
      ¬sized.quantity ≤ PyFloat.lit 0 := by
  unfold size at h
  obtain ⟨hgates, h⟩ := gate_ok_iff.mp h
  obtain ⟨strategic, hstrategic, h⟩ := step_ok_iff.mp h
  obtain ⟨stage, hstage, h⟩ := step_ok_iff.mp h
  dsimp only at h
  split at h
  next => cases h
  next hpositive =>
    cases h
    exact ⟨passGates_ok_iff.mp hgates, strategic, stage, _, hstrategic, hstage, rfl, rfl, rfl,
      hpositive⟩

/-- Only a sized order is approved. -/
theorem validate_approved {order : ValidatedOrder F}
    (h : p.validate command account price allocation systemMode = .ok order)
    (happroved : order.approved = true) :
    ∃ sized, p.size command account price allocation systemMode = .ok sized ∧
      order = p.approvalOf command account price sized := by
  unfold validate at h
  split at h
  next refusal _ =>
    unfold refuseAs at h
    obtain ⟨_, _, h⟩ := ok_of_bind h
    obtain ⟨rfl, _⟩ := PipelineCore.validatedOrder_ok h
    cases happroved
  next sized hsized =>
    obtain ⟨_, _, h⟩ := ok_of_bind h
    exact ⟨sized, hsized, (PipelineCore.validatedOrder_ok h).1⟩

end RiskPipeline

end KairosRisk
