import KairosRisk.Contracts

/-!
# Risk limits

The part of `RiskSettings` the PAPER route reads, with the bounds its pydantic
fields declare as proof fields: a settings value that violates one cannot be
built. Which strategies may trade is decided here too, by the hard-denied ids
and the exact allowlist.
-/

namespace KairosRisk

open PyLib

/-- `PAPER_DEV_SYMBOL_MAP`. -/
def paperDevSymbolMap : List (String × String) :=
  [("BTCUSDT", "BTCUSD:DEV"), ("ETHUSDT", "ETHUSD:DEV"), ("SOLUSDT", "SOLUSD:DEV"),
    ("BNBUSDT", "BNBUSD:DEV"), ("XRPUSDT", "XRPUSD:DEV")]

/-- `PAPER_DEV_SYMBOL_MAP.get(symbol)`. -/
def paperDevSymbol (symbol : String) : Option String := paperDevSymbolMap.lookup symbol

/-- `symbol in PAPER_DEV_SYMBOL_MAP.values()`. -/
def isPaperDevVenueSymbol (symbol : String) : Bool :=
  (paperDevSymbolMap.map Prod.snd).contains symbol

/-- `PAPER_CANARY_STRATEGY_ID`. -/
def paperCanaryStrategyId : String := "technical-canary"

/-- `REJECTED_PAPER_STRATEGY_IDS`. -/
def rejectedPaperStrategyIds : List String :=
  ["trend_breakout_v1", "trend_pullback_reclaim_v1", "range_mean_reversion_v1",
    "orderflow_volatility_expansion_v1", "regime_veto_retest_reclaim_v1"]

/-- The limits, as validated by their own field constraints. -/
structure RiskSettings (F : Type) [PyFloat F] where
  serviceName : String
  maxDailyDrawdownPct : F
  strategicAllocationMaxAgeS : F
  paperStrategyAllowlist : List String
  paperAccountId : String
  paperAccountSnapshotMaxAgeS : F
  paperPerTradeRiskFraction : F
  paperMaxTotalOpenRiskFraction : F
  paperMaxLeverage : F
  paperMaxPositionNotionalUsd : F
  paperMinNotionalUsd : F
  paperDecisionCacheSize : Nat
  paperRegimeMacroSource : String
  perTradeRiskFraction_pos : PyFloat.lit 0 < paperPerTradeRiskFraction
  perTradeRiskFraction_le : paperPerTradeRiskFraction ≤ PyFloat.lit (25 / 10000)
  totalOpenRiskFraction_pos : PyFloat.lit 0 < paperMaxTotalOpenRiskFraction
  totalOpenRiskFraction_le : paperMaxTotalOpenRiskFraction ≤ PyFloat.lit (1 / 100)
  leverage_ge : PyFloat.lit 1 ≤ paperMaxLeverage
  leverage_le : paperMaxLeverage ≤ PyFloat.lit 5
  decisionCacheSize_pos : 1 ≤ paperDecisionCacheSize

/-- The defaults of the source, which pass their own checks. -/
def RiskSettings.defaults : RiskSettings Rat where
  serviceName := "kairos-risk-manager"
  maxDailyDrawdownPct := 3
  strategicAllocationMaxAgeS := 26 * 60 * 60
  paperStrategyAllowlist := []
  paperAccountId := "kairos-paper-dev-01"
  paperAccountSnapshotMaxAgeS := 30
  paperPerTradeRiskFraction := 25 / 10000
  paperMaxTotalOpenRiskFraction := 1 / 100
  paperMaxLeverage := 1
  paperMaxPositionNotionalUsd := 1000
  paperMinNotionalUsd := 5
  paperDecisionCacheSize := 10000
  paperRegimeMacroSource := "kairos-macro-strategist"
  perTradeRiskFraction_pos := by decide +kernel
  perTradeRiskFraction_le := by decide +kernel
  totalOpenRiskFraction_pos := by decide +kernel
  totalOpenRiskFraction_le := by decide +kernel
  leverage_ge := by decide +kernel
  leverage_le := by decide +kernel
  decisionCacheSize_pos := by decide

/-- The limits of the legacy `TacticalCommand` route, on top of those above. -/
structure LegacyRiskSettings (F : Type) [PyFloat F] extends RiskSettings F where
  hardLeverageLimit : F
  safeLeverageCap : F
  maxAllowedLeverage : F
  perTradeRiskFraction : F
  maxPositionNotionalUsd : F
  minNotionalUsd : F
  requireReconciledAccount : Bool
  accountSnapshotMaxAgeS : F
  requireStrategicAllocation : Bool
  hardLeverageLimit_pos : PyFloat.lit 0 < hardLeverageLimit
  safeLeverageCap_pos : PyFloat.lit 0 < safeLeverageCap
  maxAllowedLeverage_pos : PyFloat.lit 0 < maxAllowedLeverage
  dailyDrawdown_pos : PyFloat.lit 0 < maxDailyDrawdownPct
  dailyDrawdown_le : maxDailyDrawdownPct ≤ PyFloat.lit 100
  riskFraction_pos : PyFloat.lit 0 < perTradeRiskFraction
  riskFraction_le : perTradeRiskFraction ≤ PyFloat.lit 1
  maxPositionNotional_pos : PyFloat.lit 0 < maxPositionNotionalUsd
  minNotional_pos : PyFloat.lit 0 < minNotionalUsd
  snapshotMaxAge_pos : PyFloat.lit 0 < accountSnapshotMaxAgeS
  allocationMaxAge_pos : PyFloat.lit 0 < strategicAllocationMaxAgeS
  /-- `validate_limit_ordering`, the part about these limits. -/
  safe_le_allowed : safeLeverageCap ≤ maxAllowedLeverage
  allowed_le_hard : maxAllowedLeverage ≤ hardLeverageLimit
  min_le_max : ¬maxPositionNotionalUsd < minNotionalUsd
  /-- `allow_inf_nan=False`. -/
  finite : ∀ x ∈ [hardLeverageLimit, safeLeverageCap, maxAllowedLeverage, maxDailyDrawdownPct,
    perTradeRiskFraction, maxPositionNotionalUsd, minNotionalUsd, accountSnapshotMaxAgeS,
    strategicAllocationMaxAgeS], PyFloat.isFinite x = true

/-- The defaults of the source pass their own checks as well. -/
def LegacyRiskSettings.defaults : LegacyRiskSettings Rat where
  toRiskSettings := RiskSettings.defaults
  hardLeverageLimit := 10
  safeLeverageCap := 5
  maxAllowedLeverage := 10
  perTradeRiskFraction := 2 / 100
  maxPositionNotionalUsd := 250000
  minNotionalUsd := 5
  requireReconciledAccount := true
  accountSnapshotMaxAgeS := 60
  requireStrategicAllocation := true
  hardLeverageLimit_pos := by decide +kernel
  safeLeverageCap_pos := by decide +kernel
  maxAllowedLeverage_pos := by decide +kernel
  dailyDrawdown_pos := by decide +kernel
  dailyDrawdown_le := by decide +kernel
  riskFraction_pos := by decide +kernel
  riskFraction_le := by decide +kernel
  maxPositionNotional_pos := by decide +kernel
  minNotional_pos := by decide +kernel
  snapshotMaxAge_pos := by decide +kernel
  allocationMaxAge_pos := by decide +kernel
  safe_le_allowed := by decide +kernel
  allowed_le_hard := by decide +kernel
  min_le_max := by decide +kernel
  finite _ _ := rfl

variable {F : Type} [PyFloat F]

/-- `paper_strategy_allowed`. -/
def RiskSettings.paperStrategyAllowed (settings : RiskSettings F)
    (strategyId strategyRevision : String) : Bool :=
  !rejectedPaperStrategyIds.contains strategyId
    && settings.paperStrategyAllowlist.contains (strategyId ++ "@" ++ strategyRevision)

end KairosRisk
