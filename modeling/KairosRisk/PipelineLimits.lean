import KairosRisk.AllocationFeed
import KairosRisk.Lib.ExactOrder
import KairosRisk.Pipeline
import Mathlib.Algebra.Order.Field.Rat
import Mathlib.Tactic.Linarith

/-!
# What an approved entry respects

New risk enters through three reason codes, and one chain of early returns lets
it pass: some of its links ask about the reason, some about the allocation, and
the quantity depends on a leverage that two sources cap. Each part of the chain
has a lemma about what it leaves when it lets the command through, in exact
arithmetic; `new_risk_respects_limits` collects them.
-/

namespace KairosRisk

open PyLib

/-! ## The parts -/

section Parts

variable {core : PipelineCore Rat} {settings : LegacyRiskSettings Rat}

/-- A capped leverage is within the allowed one. -/
theorem capLeverage_le (core : PipelineCore Rat) (settings : LegacyRiskSettings Rat)
    (requested : Rat) :
    (capLeverage core requested settings).1 ≤ settings.maxAllowedLeverage := by
  unfold capLeverage
  split
  · exact le_of_lt settings.maxAllowedLeverage_pos
  · split
    · exact settings.safe_le_allowed
    · split
      · exact le_refl _
      next hle => exact not_lt.mp hle

/-- A quantity that survives the exchange minimum is the one asked for, and reaches it. -/
theorem enforceMinNotional_pos {qty price : Rat}
    (h : ¬(enforceMinNotional core qty price settings).1 ≤ 0) :
    (enforceMinNotional core qty price settings).1 = qty ∧
      settings.minNotionalUsd ≤ qty * price := by
  unfold enforceMinNotional at h ⊢
  dsimp only at h ⊢
  split at h
  next => exact absurd (le_refl (0 : Rat)) h
  next =>
    rw [if_neg ‹_›]
    split at h
    next => exact absurd (le_refl (0 : Rat)) h
    next hreached =>
      rw [if_neg hreached]
      exact ⟨rfl, not_lt.mp hreached⟩

/-- A positive quantity is worth no more than the budget and the room it was sized for. -/
theorem positionQuantity_pos {equity price leverage fraction room : Rat}
    (h : 0 < positionQuantity equity price leverage fraction room) :
    0 < leverage ∧
      positionQuantity equity price leverage fraction room * price ≤ equity * fraction * leverage ∧
      positionQuantity equity price leverage fraction room * price ≤ room := by
  unfold positionQuantity at h ⊢
  dsimp only at h ⊢
  split at h
  next => exact absurd h (lt_irrefl 0)
  next =>
    rw [if_neg ‹_›]
    split at h
    next => exact absurd h (lt_irrefl 0)
    next hinputs =>
      rw [if_neg hinputs]
      simp only [Bool.or_eq_true, decide_eq_true_eq, not_or] at hinputs
      obtain ⟨⟨⟨_, hprice⟩, hleverage⟩, _⟩ := hinputs
      split at h
      next => exact absurd h (lt_irrefl 0)
      next =>
        rw [if_neg ‹_›]
        have hworth :
            PyFloat.max 0 [PyFloat.min (equity * fraction * leverage) [room] / price] * price
            = PyFloat.min (equity * fraction * leverage) [room] := by
          rw [PyFloat.rat_max_zero h]
          exact div_mul_cancel₀ _ (not_le.mp hprice).ne'
        refine ⟨not_le.mp hleverage, ?_, ?_⟩
        · exact hworth.trans_le (PyFloat.rat_min_le List.mem_cons_self)
        · exact hworth.trans_le (PyFloat.rat_min_le (by simp))

/-- The trend entry that a regime has nothing against. -/
def RegimePermits (regime : MarketRegime) (reason : ReasonCode) : Prop :=
  ¬(regime = .bear ∧ reason = .enterLongTrend) ∧ ¬(regime = .bull ∧ reason = .enterShortTrend) ∧
    ¬(regime = .chop ∧ (reason = .enterLongTrend ∨ reason = .enterShortTrend))

theorem regimeForbids_nil {regime : MarketRegime} {reason : ReasonCode}
    (h : regimeForbids regime reason = []) : RegimePermits regime reason := by
  unfold regimeForbids at h
  simp only [Bool.and_eq_true, Bool.or_eq_true, decide_eq_true_eq] at h
  split at h
  next => cases h
  next hbear =>
    split at h
    next => cases h
    next hbull =>
      split at h
      next => cases h
      next hchop => exact ⟨hbear, hbull, hchop⟩

/-- A valid allocation reserves no more than everything. -/
theorem allocationError_reserve {allocation : StrategicAllocation Rat}
    (h : allocationError allocation = none) : allocation.stableReservePct ≤ 1 := by
  unfold allocationError at h
  dsimp only at h
  split at h
  next => cases h
  next hreserve =>
    simp only [Bool.or_eq_true, Bool.not_eq_true', Bool.and_eq_false_iff, decide_eq_false_iff_not,
      not_or, not_not] at hreserve
    exact hreserve.2.2

/-- What an allocation that allows an entry leaves to it. -/
structure Allows (allocation : StrategicAllocation Rat) (reason : ReasonCode) (equity gross : Rat)
    (limits : StrategicLimits Rat) : Prop where
  valid : allocationError allocation = none
  permits : RegimePermits allocation.regime reason
  maxLeverage : limits.maxLeverage = allocation.maxGrossLeverage
  availableEquity : limits.availableEquityUsd = equity * (1 - allocation.stableReservePct)
  remaining : limits.remainingGrossNotionalUsd
    = equity * allocation.maxGrossLeverage * (1 - allocation.stableReservePct) - gross

theorem limitsFor_allowed {allocation : StrategicAllocation Rat} {reason : ReasonCode}
    {equity gross : Rat} (h : (limitsFor allocation reason equity gross).allowed = true) :
    Allows allocation reason equity gross (limitsFor allocation reason equity gross) := by
  unfold limitsFor at h ⊢
  dsimp only at h ⊢
  split at h
  next => cases h
  next =>
    rw [if_neg ‹_›]
    cases hvalid : allocationError allocation with
    | some invalid =>
      rw [hvalid] at h
      cases h
    | none =>
      rw [hvalid] at h
      simp only [Bool.and_eq_true, List.isEmpty_iff, Bool.not_eq_true', decide_eq_false_iff_not,
        not_le] at h
      obtain ⟨hregime, hremaining⟩ := h
      have hbudget : PyFloat.max (PyFloat.lit 0 : Rat) [PyFloat.lit 1 - allocation.stableReservePct]
          = 1 - allocation.stableReservePct := by
        rw [PyFloat.rat_max_eq]
        exact max_eq_right (sub_nonneg.mpr (allocationError_reserve hvalid))
      have hroom := PyFloat.rat_max_zero hremaining
      rw [hbudget] at hroom
      refine ⟨hvalid, regimeForbids_nil hregime, rfl, ?_, ?_⟩
      · dsimp only
        rw [hbudget]
      · dsimp only
        rw [hbudget]
        exact hroom

end Parts

/-! ## The stages of an entry -/

namespace RiskPipeline

variable {p : RiskPipeline Rat} {command : TacticalCommand Rat} {account : AccountState Rat}
  {price : Rat} {allocation : Option (StrategicAllocation Rat)} {systemMode : SystemMode}
  {strategic : Option (StrategicLimits Rat)}

/-- New risk is not an exit. -/
theorem not_exit_of_isNewRisk {reason : ReasonCode} (h : reason.isNewRisk = true) :
    reason ≠ .closePosition := by
  intro hclose
  rw [hclose] at h
  exact absurd h (by decide)

theorem leverageFor_le (p : RiskPipeline Rat) (command : TacticalCommand Rat)
    (strategic : Option (StrategicLimits Rat)) :
    (p.leverageFor command strategic).1 ≤ p.settings.maxAllowedLeverage ∧
      ∀ limits ∈ strategic, (p.leverageFor command strategic).1 ≤ limits.maxLeverage := by
  have hcap := capLeverage_le p.core p.settings command.requestedLeverage
  cases strategic with
  | none => exact ⟨hcap, nofun⟩
  | some limits =>
    simp only [Option.mem_some_iff, forall_eq']
    unfold leverageFor
    dsimp only
    by_cases hover : limits.maxLeverage
      < (capLeverage p.core command.requestedLeverage p.settings).1
    · rw [if_pos hover]
      exact ⟨hover.le.trans hcap, le_refl _⟩
    · rw [if_neg hover]
      exact ⟨hcap, not_lt.mp hover⟩

/-- Room that there is lies within the position's cap and the allocation's. -/
theorem roomFor_pos (h : 0 < p.roomFor account strategic) :
    p.roomFor account strategic
        ≤ p.settings.maxPositionNotionalUsd - account.openPositionNotionalUsd ∧
      ∀ limits ∈ strategic, p.roomFor account strategic ≤ limits.remainingGrossNotionalUsd := by
  unfold roomFor at h ⊢
  dsimp only at h ⊢
  cases strategic with
  | none => exact ⟨(PyFloat.rat_max_zero h).le, nofun⟩
  | some limits =>
    dsimp only at h ⊢
    have hown := PyFloat.rat_lt_min_iff.mp h _ List.mem_cons_self
    refine ⟨?_, ?_⟩
    · exact (PyFloat.rat_min_le List.mem_cons_self).trans (PyFloat.rat_max_zero hown).le
    · simp only [Option.mem_some_iff, forall_eq']
      exact PyFloat.rat_min_le (by simp)

/-- An allocation that is there constrains an entry. -/
theorem strategicFor_entry (hreason : command.reasonCode ≠ .closePosition)
    (h : strategicFor command account allocation = .ok strategic) :
    ∀ a ∈ allocation, ∃ limits ∈ strategic,
      Allows a command.reasonCode account.equityUsd account.grossExposureUsd limits := by
  cases allocation with
  | none =>
    intro a ha
    cases ha
  | some a =>
    simp only [Option.mem_some_iff, forall_eq']
    unfold strategicFor at h
    dsimp only at h
    rw [if_neg hreason] at h
    split at h
    next hallowed =>
      cases h
      exact ⟨_, rfl, limitsFor_allowed hallowed⟩
    next => cases h

/-- An entry is sized for its side, next to the position it extends, in the room there is. -/
theorem sizeEntry_ok {leverage : Rat} {adjustments : List String} {stage : Option OrderSide × Rat}
    (h : p.sizeEntry command account price strategic leverage adjustments = .ok stage) :
    entrySide command adjustments = .ok stage.1 ∧
      extendsPosition command account adjustments = .ok () ∧
      0 < p.roomFor account strategic ∧
      stage.2 = positionQuantity
        (strategic.elim account.equityUsd fun limits => limits.availableEquityUsd)
        price leverage p.settings.perTradeRiskFraction (p.roomFor account strategic) := by
  unfold sizeEntry at h
  obtain ⟨side, hside, h⟩ := step_ok_iff.mp h
  obtain ⟨hextends, h⟩ := gate_ok_iff.mp h
  obtain ⟨hroom, h⟩ := gate_ok_iff.mp h
  cases h
  rw [noTradeIf_ok_iff, decide_eq_false_iff_not] at hroom
  exact ⟨hside, hextends, not_le.mp hroom, rfl⟩

/-- The order goes the way of the command. -/
theorem entrySide_ok {adjustments : List String} {side : Option OrderSide}
    (hnew : command.reasonCode.isNewRisk = true)
    (hexpected : ∀ expected, expectedEntrySide command.reasonCode = some expected →
      command.targetSide = expected)
    (h : entrySide command adjustments = .ok side) :
    command.targetSide = .long ∧ side = some .buy ∨
      command.targetSide = .short ∧ side = some .sell := by
  unfold entrySide at h
  by_cases hrebalance : command.reasonCode = .rebalance
  · rw [if_pos hrebalance] at h
    cases htarget : command.targetSide with
    | long =>
      rw [htarget] at h
      cases h
      exact Or.inl ⟨rfl, rfl⟩
    | short =>
      rw [htarget] at h
      cases h
      exact Or.inr ⟨rfl, rfl⟩
    | flat =>
      rw [htarget] at h
      cases h
  · rw [if_neg hrebalance] at h
    cases h
    -- an entry's side is the one its reason expects
    have hreason : command.reasonCode = .enterLongTrend ∨
      command.reasonCode = .enterShortTrend := by
      simpa [ReasonCode.isNewRisk, hrebalance] using hnew
    rcases hreason with hlong | hshort
    · rw [hlong] at hexpected ⊢
      exact Or.inl ⟨hexpected _ rfl, rfl⟩
    · rw [hshort] at hexpected ⊢
      exact Or.inr ⟨hexpected _ rfl, rfl⟩

theorem extendsPosition_ok {adjustments : List String}
    (h : extendsPosition command account adjustments = .ok ())
    (hheld : account.openPositionQty ≠ 0) :
    account.openPositionNotionalKnown = true ∧
      command.targetSide = if 0 < account.openPositionQty then .long else .short := by
  unfold extendsPosition at h
  dsimp only at h
  rw [if_neg (show ¬account.openPositionQty = PyFloat.lit 0 from hheld), gate_ok_iff,
    noTradeIf_ok_iff, noTradeIf_ok_iff, decide_eq_false_iff_not, not_not, Bool.not_eq_false'] at h
  exact ⟨h.2, h.1⟩

/-- Below the drawdown limit the day's loss and the fall from the peak are both below it. -/
theorem drawdown_lt (h : ¬p.settings.maxDailyDrawdownPct ≤ account.dailyDrawdownPct) :
    max (-account.dailyPnlPct)
      ((account.peakEquityUsd - account.equityUsd) / account.peakEquityUsd * 100)
      < p.settings.maxDailyDrawdownPct := by
  have hlt := not_le.mp h
  -- the maximum of three is taken two at a time
  have hdrawdown : account.dailyDrawdownPct = max (max 0 (-account.dailyPnlPct))
      (max 0 ((account.peakEquityUsd - account.equityUsd) / account.peakEquityUsd * 100)) := by
    rw [← PyFloat.rat_max_eq 0, ← PyFloat.rat_max_eq 0, ← PyFloat.rat_max_eq]
    rfl
  rw [hdrawdown] at hlt
  exact (max_le_max (le_max_right _ _) (le_max_right _ _)).trans_lt hlt

end RiskPipeline

/-! ## All the limits -/

/-- The limits that an approved entry respects, all at once. -/
structure RespectsLimits (settings : LegacyRiskSettings Rat) (command : TacticalCommand Rat)
    (account : AccountState Rat) (price : Rat) (allocation : Option (StrategicAllocation Rat))
    (systemMode : SystemMode) (intent : OrderIntent Rat) : Prop where
  mode : systemMode ≠ .localQuantMode
  exposure : account.grossExposureKnown = true
  /-- The worse of the daily loss and the fall from the peak. -/
  drawdown : max (-account.dailyPnlPct)
      ((account.peakEquityUsd - account.equityUsd) / account.peakEquityUsd * 100)
    < settings.maxDailyDrawdownPct
  side : command.targetSide = .long ∧ intent.side = some .buy ∨
    command.targetSide = .short ∧ intent.side = some .sell
  position : account.openPositionQty ≠ 0 → account.openPositionNotionalKnown = true ∧
    command.targetSide = if 0 < account.openPositionQty then .long else .short
  priced : intent.price = some price
  minimum : settings.minNotionalUsd ≤ intent.quantity * price
  maximum : account.openPositionNotionalUsd + intent.quantity * price
    ≤ settings.maxPositionNotionalUsd
  leverage : ∃ leverage, intent.leverage = some leverage ∧ 0 < leverage ∧
    leverage ≤ settings.maxAllowedLeverage ∧
    ∀ a ∈ allocation, leverage ≤ a.maxGrossLeverage ∧ allocationError a = none ∧
      RegimePermits a.regime command.reasonCode ∧
      intent.quantity * price ≤ account.equityUsd * (1 - a.stableReservePct)
        * settings.perTradeRiskFraction * leverage ∧
      account.grossExposureUsd + intent.quantity * price
        ≤ account.equityUsd * (1 - a.stableReservePct) * a.maxGrossLeverage

/-- **Approved new risk respects every limit at once.** -/
theorem new_risk_respects_limits (p : RiskPipeline Rat) (command : TacticalCommand Rat)
    (account : AccountState Rat) (price : Rat) (allocation : Option (StrategicAllocation Rat))
    (systemMode : SystemMode) (order : ValidatedOrder Rat)
    (hreason : command.reasonCode = .enterLongTrend ∨ command.reasonCode = .enterShortTrend ∨
      command.reasonCode = .rebalance)
    (h : p.validate command account price allocation systemMode = .ok order)
    (happroved : order.approved = true) :
    RespectsLimits p.settings command account price allocation systemMode order.intent := by
  have hnew : command.reasonCode.isNewRisk = true := by
    rcases hreason with hreason | hreason | hreason <;> rw [hreason] <;> rfl
  have hentry := RiskPipeline.not_exit_of_isNewRisk hnew
  obtain ⟨sized, hsized, rfl⟩ := RiskPipeline.validate_approved h happroved
  obtain ⟨hpassed, strategic, stage, adjustments, hstrategic, hstage, hside, hleverage, hquantity,
    hpositive⟩ := RiskPipeline.size_ok hsized
  have hallows := RiskPipeline.strategicFor_entry hentry hstrategic
  rw [RiskPipeline.requested, if_neg hentry] at hstage
  obtain ⟨hentrySide, hextends, hroom, hstageQuantity⟩ := RiskPipeline.sizeEntry_ok hstage
  -- the quantity is the one sized: the exchange minimum let it through
  have hkept := enforceMinNotional_pos (hquantity ▸ hpositive)
  rw [← hquantity] at hkept
  obtain ⟨hrequested, hminimum⟩ := hkept
  rw [← hrequested] at hminimum
  have hpos : 0 < positionQuantity
      (strategic.elim account.equityUsd fun limits => limits.availableEquityUsd) price
      (p.leverageFor command strategic).1 p.settings.perTradeRiskFraction
      (p.roomFor account strategic) := by
    rw [← hstageQuantity, ← hrequested]
    exact not_le.mp hpositive
  obtain ⟨hleveragePos, hbudget, hcap⟩ := positionQuantity_pos hpos
  rw [← hstageQuantity, ← hrequested] at hbudget hcap
  obtain ⟨hallowed, hmacro⟩ := RiskPipeline.leverageFor_le p command strategic
  obtain ⟨hown, hgross⟩ := RiskPipeline.roomFor_pos hroom
  refine ⟨hpassed.mode hnew, hpassed.exposure hnew,
    RiskPipeline.drawdown_lt (hpassed.drawdown hnew), ?_,
    fun hheld => RiskPipeline.extendsPosition_ok hextends hheld, rfl, hminimum, ?_,
    sized.leverage, rfl, hleverage ▸ hleveragePos, hleverage ▸ hallowed, ?_⟩
  · show _ ∧ sized.side = _ ∨ _ ∧ sized.side = _
    rw [hside]
    exact RiskPipeline.entrySide_ok hnew hpassed.side hentrySide
  · have hroomLeft := hcap.trans hown
    show _ + sized.quantity * price ≤ _
    linarith
  · intro a ha
    obtain ⟨limits, rfl, hlimits⟩ := hallows a ha
    have hbudget' : sized.quantity * price
        ≤ limits.availableEquityUsd * p.settings.perTradeRiskFraction * sized.leverage := by
      rw [hleverage]
      exact hbudget
    have hremaining := hcap.trans (hgross limits rfl)
    rw [hlimits.availableEquity] at hbudget'
    rw [hlimits.remaining] at hremaining
    refine ⟨?_, hlimits.valid, hlimits.permits, hbudget', ?_⟩
    · rw [hleverage, ← hlimits.maxLeverage]
      exact hmacro limits rfl
    · have hcomm : account.equityUsd * a.maxGrossLeverage * (1 - a.stableReservePct)
          = account.equityUsd * (1 - a.stableReservePct) * a.maxGrossLeverage :=
        mul_right_comm _ _ _
      show _ + sized.quantity * price ≤ _
      linarith

namespace Scenario

/-- The identities of a command's two messages, and numbers as they are written
when they are in the thousands at most. -/
def writtenCore : PipelineCore Rat where
  general := PyDecimal.formatF
  fixed2 x := String.ofList (withPoint (x * 100).floor.natAbs 2)
  grouped x :=
    let n := x.floor.natAbs
    if n < 1000 then toString n
    else toString (n / 1000) ++ "," ++ String.ofList ((Nat.toDigits 10 (1000 + n % 1000)).drop 1)
  uuid5Url name :=
    if name = "kairos:risk:intent:command-1" then "a46bf59b-a73b-5493-9670-3adf353fb8fc"
    else "79f2d998-c416-571e-89c7-67472461bb41"
  orderIntentValid intent := intent.side.isSome && decide (0 < intent.quantity)
  validatedOrderValid _ := true

/-- The pipeline with the default limits. -/
def legacyPipeline : RiskPipeline Rat := ⟨writtenCore, LegacyRiskSettings.defaults⟩

/-- A command to trade long, for a reason. -/
def commandFor (reasonCode : ReasonCode) : TacticalCommand Rat where
  messageId := "command-1"
  correlationId := none
  symbol := "BTCUSD"
  reasonCode := reasonCode
  targetSide := .long
  requestedLeverage := 20
  referencePrice := 50

/-- The order of a trend entry at 50: twice too much leverage is cut to the safe
cap, and that to the allocation's. -/
def trendOrder : ValidatedOrder Rat where
  source := "kairos-risk-manager"
  messageId := "79f2d998-c416-571e-89c7-67472461bb41"
  correlationId := "command-1"
  causationId := "command-1"
  intent :=
    { source := "kairos-risk-manager", messageId := "a46bf59b-a73b-5493-9670-3adf353fb8fc"
      correlationId := "command-1", causationId := "command-1", symbol := "BTCUSD"
      side := some .buy, orderType := .limit, quantity := 2, price := some 50, leverage := some 1
      reduceOnly := some false, reasonCode := .enterLongTrend }
  approved := true
  reasonCode := .enterLongTrend
  adjustments := ["leverage capped by strategic allocation to 1x",
    "leverage 20x exceeds hard limit 10x -> capped to 5x (suspected error)"]
  riskNotes := "equity=$10,000 dd=0.00%"

/-- Half the capital in reserve leaves a position of a hundred dollars. -/
theorem trend_entry_within_limits :
    RespectsLimits LegacyRiskSettings.defaults (commandFor .enterLongTrend) startAccount 50
      (some (allocationAt 1 .bull (1 / 2))) .normal trendOrder.intent :=
  new_risk_respects_limits legacyPipeline (commandFor .enterLongTrend) startAccount 50
    (some (allocationAt 1 .bull (1 / 2))) .normal trendOrder (Or.inl rfl) (by decide +kernel) rfl

end Scenario

end KairosRisk
