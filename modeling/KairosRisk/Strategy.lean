import KairosRisk.Contracts

/-!
# Deterministic enforcement of Macro Strategist capital allocation
-/

namespace KairosRisk

open PyLib

variable {F : Type} [PyFloat F]

/-- Why a strategic allocation is unsafe to consume, if anything. -/
def allocationError (allocation : StrategicAllocation F) : Option String :=
  let weights := allocation.strategyWeights.map Prod.snd
  if !PyFloat.isFinite allocation.stableReservePct
      || !(decide (PyFloat.lit 0 ≤ allocation.stableReservePct)
        && decide (allocation.stableReservePct ≤ PyFloat.lit 1)) then
    some "strategic stable reserve must be a finite value in [0, 1]"
  else if !PyFloat.isFinite allocation.maxGrossLeverage
      || decide (allocation.maxGrossLeverage ≤ PyFloat.lit 0) then
    some "strategic maximum leverage must be finite and positive"
  else if weights.any fun w => !PyFloat.isFinite w
      || !(decide (PyFloat.lit 0 ≤ w) && decide (w ≤ PyFloat.lit 1)) then
    some "strategic weights must be finite values in [0, 1]"
  else if PyFloat.lit (10001 / 10000) < allocation.stableReservePct + PyFloat.sum weights then
    some "strategic reserve and weights exceed total capital"
  else
    none

/-- `is_fresh` at a given time. -/
def isFresh (allocation : StrategicAllocation F) (maxAgeS : F) (now : DateTime) : Bool :=
  if !PyFloat.isFinite maxAgeS || decide (maxAgeS ≤ PyFloat.lit 0) then false
  else if !now.aware || !allocation.producedAt.aware then false
  else
    -- `total_seconds()` divides the microseconds of the difference
    let ageS : F := PyFloat.lit ((now.us - allocation.producedAt.us : Int) / 1000000 : Rat)
    decide (PyFloat.lit 0 ≤ ageS) && decide (ageS ≤ maxAgeS)

/-- `StrategicLimits`. -/
structure StrategicLimits (F : Type) where
  allowed : Bool
  maxLeverage : F
  availableEquityUsd : F
  remainingGrossNotionalUsd : F
  notes : List String

/-- Limits that allow nothing. -/
def StrategicLimits.refused (note : String) : StrategicLimits F where
  allowed := false
  maxLeverage := PyFloat.lit 0
  availableEquityUsd := PyFloat.lit 0
  remainingGrossNotionalUsd := PyFloat.lit 0
  notes := [note]

/-- The note of a regime that forbids an entry. -/
def regimeForbids (regime : MarketRegime) (reason : ReasonCode) : List String :=
  if regime = .bear && reason = .enterLongTrend then
    ["strategic regime BEAR forbids new long trend entries"]
  else if regime = .bull && reason = .enterShortTrend then
    ["strategic regime BULL forbids new short trend entries"]
  else if regime = .chop && (reason = .enterLongTrend || reason = .enterShortTrend) then
    ["strategic regime CHOP forbids new trend entries"]
  else
    []

/-- `limits_for`. -/
def limitsFor (allocation : StrategicAllocation F) (reason : ReasonCode)
    (equityUsd grossExposureUsd : F) : StrategicLimits F :=
  let zero : F := PyFloat.lit 0
  if !PyFloat.isFinite equityUsd || decide (equityUsd ≤ zero)
      || !PyFloat.isFinite grossExposureUsd || decide (grossExposureUsd < zero) then
    .refused "account inputs for strategic limits are invalid"
  else match allocationError allocation with
    | some invalid => .refused invalid
    | none =>
      let forbidden := regimeForbids allocation.regime reason
      let riskBudget := PyFloat.max zero [PyFloat.lit 1 - allocation.stableReservePct]
      let availableEquity := equityUsd * riskBudget
      let grossCap := equityUsd * allocation.maxGrossLeverage * riskBudget
      let remaining := PyFloat.max zero [grossCap - grossExposureUsd]
      { allowed := forbidden.isEmpty && !decide (remaining ≤ zero)
        maxLeverage := allocation.maxGrossLeverage
        availableEquityUsd := availableEquity
        remainingGrossNotionalUsd := remaining
        notes :=
          forbidden ++ if remaining ≤ zero then ["strategic gross exposure cap exhausted"] else [] }

end KairosRisk
