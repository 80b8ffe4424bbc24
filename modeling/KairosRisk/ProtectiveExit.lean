import KairosRisk.PipelineLimits

/-!
# Which exits get through

An exit passes every gate on new risk whatever the mode, the exposure, the
drawdown, the allocation and the leverage asked for, and it is sized from the
position alone. What it does not pass by is the exchange minimum, which stands
after the sizing of exits and entries alike: a position worth less than that at
the command's price stays open. `exit_available_iff` says that nothing else
keeps it open.
-/

namespace KairosRisk

open PyLib

variable {F : Type} [PyFloat F] [DecidableEq F]

/-! ## What an exit is to do -/

/-- A position after an intent was filled. -/
def filledBy (intent : OrderIntent F) (position : F) : F :=
  match intent.side with
  | some .buy => position + intent.quantity
  | some .sell => position - intent.quantity
  | none => position

omit [DecidableEq F] in
/-- The order is an approval that closes the position exactly. -/
structure Closes (command : TacticalCommand F) (account : AccountState F)
    (order : ValidatedOrder F) : Prop where
  approved : order.approved = true
  symbol : order.intent.symbol = command.symbol
  reduceOnly : order.intent.reduceOnly = some true
  quantity : order.intent.quantity = PyFloat.abs account.openPositionQty
  side : order.intent.side = some (if PyFloat.lit 0 < account.openPositionQty then .sell else .buy)
  flat : filledBy order.intent account.openPositionQty = PyFloat.lit 0

namespace RiskPipeline

variable {p : RiskPipeline F} {command : TacticalCommand F} {account : AccountState F}
  {price : F} {systemMode : SystemMode}

/-- The exit of a position: its size and its side, and the leverage of the settings. -/
def exitOf (p : RiskPipeline F) (command : TacticalCommand F) (account : AccountState F) :
    Sized F where
  side := some (if PyFloat.lit 0 < account.openPositionQty then .sell else .buy)
  quantity := PyFloat.abs account.openPositionQty
  leverage := (p.leverageFor command none).1
  adjustments := (p.leverageFor command none).2

/-- The contracts accept the messages of the exit. -/
def ContractsAcceptExit (p : RiskPipeline F) (command : TacticalCommand F)
    (account : AccountState F) (price : F) : Prop :=
  p.core.orderIntentValid (p.intentOf command price (p.exitOf command account)) = true ∧
    p.core.validatedOrderValid (p.approvalOf command account price (p.exitOf command account))
      = true

/-! ## The way through the pipeline -/

omit [DecidableEq F] in
/-- The gates on new risk do not ask about an exit. -/
theorem passes_exit (hreason : command.reasonCode = .closePosition)
    (hfinite : PyFloat.isFinite price = true) (hpositive : ¬price ≤ PyFloat.lit 0) :
    p.Admitted command account price systemMode := by
  have hold : command.reasonCode.isNewRisk ≠ true := by
    rw [hreason]
    decide
  refine ⟨hfinite, hpositive, fun hnew => absurd hnew hold, ?_, fun hnew => absurd hnew hold,
    fun hnew => absurd hnew hold, ?_⟩
  · rw [hreason]
    exact nofun
  · rw [hreason]
    decide

omit [DecidableEq F] in
/-- The size of a position is a quantity, and it is kept when it reaches the minimum. -/
theorem enforceMinNotional_exit [LawfulSign F] (hheld : account.openPositionQty ≠ PyFloat.lit 0)
    (hfinite : PyFloat.isFinite price = true) (hpositive : ¬price ≤ PyFloat.lit 0) :
    enforceMinNotional p.core (PyFloat.abs account.openPositionQty) price p.settings =
      if PyFloat.abs account.openPositionQty * price < p.settings.minNotionalUsd then
        (PyFloat.lit 0, some ("notional below exchange minimum $"
          ++ p.core.general p.settings.minNotionalUsd ++ " -> zeroed"))
      else (PyFloat.abs account.openPositionQty, none) := by
  have hbounds := account.in_bounds
  simp only [AccountStateFields.inBounds, Bool.and_eq_true] at hbounds
  have hqty := LawfulSign.abs_finite hbounds.1.1.2
  have hsize := LawfulSign.abs_pos hbounds.1.1.2 hheld
  unfold enforceMinNotional
  dsimp only
  rw [if_neg]
  simp [hqty, hfinite, hsize, hpositive]

/-- An exit is sized, unless it is worth too little. -/
theorem size_exit [LawfulSign F] (allocation : Option (StrategicAllocation F))
    (systemMode : SystemMode) (hreason : command.reasonCode = .closePosition)
    (hheld : account.openPositionQty ≠ PyFloat.lit 0)
    (hfinite : PyFloat.isFinite price = true) (hpositive : ¬price ≤ PyFloat.lit 0) :
    p.size command account price allocation systemMode =
      if PyFloat.abs account.openPositionQty * price < p.settings.minNotionalUsd then
        .error ⟨.noTrade, (p.leverageFor command none).2 ++ ["notional below exchange minimum $"
          ++ p.core.general p.settings.minNotionalUsd ++ " -> zeroed"]⟩
      else .ok (p.exitOf command account) := by
  have hgates : p.passGates command account price systemMode = .ok () :=
    passGates_ok_iff.mpr (passes_exit hreason hfinite hpositive)
  have hstrategic : strategicFor command account allocation = .ok none := by
    cases allocation with
    | none => rfl
    | some a => exact if_pos hreason
  have hrequested : ∀ strategic leverage adjustments,
      p.requested command account price strategic leverage adjustments
        = .ok (some (if PyFloat.lit 0 < account.openPositionQty then .sell else .buy),
            PyFloat.abs account.openPositionQty) := by
    intro strategic leverage adjustments
    rw [requested, if_pos hreason]
    exact if_neg hheld
  have hbounds := account.in_bounds
  simp only [AccountStateFields.inBounds, Bool.and_eq_true] at hbounds
  unfold size
  rw [hgates, ok_step, hstrategic, ok_step]
  dsimp only
  rw [hrequested, ok_step]
  dsimp only
  rw [enforceMinNotional_exit hheld hfinite hpositive]
  by_cases hsmall : PyFloat.abs account.openPositionQty * price < p.settings.minNotionalUsd
  · rw [if_pos hsmall, if_pos hsmall, if_pos LawfulSign.zero_le_zero]
    rfl
  · rw [if_neg hsmall, if_neg hsmall, if_neg (LawfulSign.abs_pos hbounds.1.1.2 hheld)]
    unfold exitOf
    simp

omit [DecidableEq F] in
/-- Filling the exit leaves nothing. -/
theorem exitOf_closes [LawfulSign F] (hreason : command.reasonCode = .closePosition)
    (hheld : account.openPositionQty ≠ PyFloat.lit 0) :
    Closes command account (p.approvalOf command account price (p.exitOf command account)) := by
  have hbounds := account.in_bounds
  simp only [AccountStateFields.inBounds, Bool.and_eq_true] at hbounds
  have hfinite := hbounds.1.1.2
  refine ⟨rfl, rfl, ?_, rfl, rfl, ?_⟩
  · show some (decide (command.reasonCode = .closePosition)) = some true
    rw [hreason]
    rfl
  · by_cases hlong : PyFloat.lit 0 < account.openPositionQty
    · have hside : (p.exitOf command account).side = some .sell := congrArg some (if_pos hlong)
      unfold filledBy approvalOf intentOf
      dsimp only
      rw [hside]
      exact LawfulSign.sub_abs hfinite hlong
    · have hside : (p.exitOf command account).side = some .buy := congrArg some (if_neg hlong)
      unfold filledBy approvalOf intentOf
      dsimp only
      rw [hside]
      exact LawfulSign.add_abs hfinite hlong hheld

end RiskPipeline

/-- **Only the exchange minimum stands before an exit.** Whatever else the call
says, an exit of an open position is approved, and closes it exactly, when the
position reaches the minimum at the price and the contracts accept the order. -/
theorem exit_available_iff [LawfulSign F] (p : RiskPipeline F) (command : TacticalCommand F)
    (account : AccountState F) (price : F) (allocation : Option (StrategicAllocation F))
    (systemMode : SystemMode) (hreason : command.reasonCode = .closePosition)
    (hheld : account.openPositionQty ≠ PyFloat.lit 0)
    (hfinite : PyFloat.isFinite price = true) (hpositive : PyFloat.lit 0 < price) :
    (∃ order, p.validate command account price allocation systemMode = .ok order ∧
      Closes command account order) ↔
    ¬PyFloat.abs account.openPositionQty * price < p.settings.minNotionalUsd ∧
      p.ContractsAcceptExit command account price := by
  have hsize := p.size_exit allocation systemMode hreason hheld hfinite
    (LawfulSign.not_le_of_pos hpositive)
  constructor
  · intro h
    obtain ⟨order, hvalidate, hcloses⟩ := h
    obtain ⟨sized, hsized, rfl⟩ := RiskPipeline.validate_approved hvalidate hcloses.approved
    by_cases hsmall : PyFloat.abs account.openPositionQty * price < p.settings.minNotionalUsd
    · rw [hsize, if_pos hsmall] at hsized
      cases hsized
    · rw [hsize, if_neg hsmall] at hsized
      cases hsized
      refine ⟨hsmall, ?_⟩
      unfold RiskPipeline.validate at hvalidate
      rw [hsize, if_neg hsmall] at hvalidate
      dsimp only at hvalidate
      obtain ⟨_, hintent, horder⟩ := ok_of_bind hvalidate
      exact ⟨PipelineCore.orderIntent_ok hintent, (PipelineCore.validatedOrder_ok horder).2⟩
  · intro h
    obtain ⟨hsmall, hintent, horder⟩ := h
    refine ⟨p.approvalOf command account price (p.exitOf command account), ?_,
      RiskPipeline.exitOf_closes hreason hheld⟩
    unfold RiskPipeline.validate
    rw [hsize, if_neg hsmall]
    dsimp only
    rw [PipelineCore.orderIntent, if_pos hintent, ok_bind, PipelineCore.validatedOrder,
      if_pos horder]

namespace Scenario

/-- An account with a position at 50. -/
def holding (quantity : Rat) : AccountStateFields Rat where
  equityUsd := 10000
  peakEquityUsd := 10000
  dailyPnlPct := 0
  grossExposureUsd := PyFloat.abs quantity * 50
  grossExposureKnown := true
  openPositionQty := quantity
  openPositionNotionalUsd := PyFloat.abs quantity * 50
  openPositionNotionalKnown := true
  reconciled := true

/-- A short position of one. -/
def shortAccount : AccountState Rat := ⟨holding (-1), by decide +kernel, by decide +kernel⟩

/-- A long position worth a twentieth of a cent. -/
def dustAccount : AccountState Rat := ⟨holding (1 / 100000), by decide +kernel, by decide +kernel⟩

/-- The short position is bought back in the mode that allows no new risk. -/
theorem short_position_closed : ∃ order,
    legacyPipeline.validate (commandFor .closePosition) shortAccount 50 none .localQuantMode
      = .ok order ∧
      Closes (commandFor .closePosition) shortAccount order :=
  (exit_available_iff legacyPipeline (commandFor .closePosition) shortAccount 50 none
    .localQuantMode rfl (by decide +kernel) rfl (by decide +kernel)).mpr
    ⟨by decide +kernel, by decide +kernel, by decide +kernel⟩

/-- The dust is there, at a finite positive price, and is not sold. -/
theorem dust_not_closed : dustAccount.openPositionQty ≠ 0 ∧ ¬∃ order,
    legacyPipeline.validate (commandFor .closePosition) dustAccount 50 none .normal = .ok order ∧
      Closes (commandFor .closePosition) dustAccount order := by
  refine ⟨by decide +kernel, ?_⟩
  intro h
  obtain ⟨order, hvalidate, hcloses⟩ := h
  obtain ⟨sized, hsized, _⟩ := RiskPipeline.validate_approved hvalidate hcloses.approved
  have hrefused : (legacyPipeline.size (commandFor .closePosition) dustAccount 50 none
    .normal).toBool = false := by decide +kernel
  rw [hsized] at hrefused
  cases hrefused

end Scenario

end KairosRisk
