import KairosRisk.BindingRefusal
import KairosRisk.Lib.Grid

/-!
# The lot a canary trades

The venue trades in whole increments, from a least quantity and a least volume
on and up to a greatest quantity. At a price there is one least legal lot
(`EvedexDevInstrumentRule.lots`). `effective_min_quantity` finds it and does not
adjust it to anything, and an approved canary trades it.
-/

namespace KairosRisk

open PyLib

/-! ## The least legal lot -/

namespace EvedexDevInstrumentRule

variable {F : Type} {core : KairosCore F} {rule : EvedexDevInstrumentRule Rat}
  {price quantity : Rat}

/-- The quantities that are large enough at a price, whatever the greatest one is. -/
def lots (rule : EvedexDevInstrumentRule Rat) (price : Rat) : Set Rat :=
  {q | Multiple rule.quantityIncrement q ∧ rule.minQuantity ≤ q ∧ rule.minVolumeUsd ≤ q * price}

theorem isPositive_iff_pos {v : Rat} : IsPositive v ↔ 0 < v := by
  show (!decide (((0 : Int) : Rat) < v)) = false ↔ 0 < v
  simp

/-- A remainder by a step is zero for the multiples and nothing else. -/
theorem aligned_iff {step x : Rat} (hstep : 0 < step) : Aligned x step ↔ Multiple step x := by
  rw [← rem_eq_zero_iff hstep.ne']
  constructor
  · rintro ⟨rest, hrest, hzero⟩
    have hrest0 : rest = 0 := of_decide_eq_true hzero
    rw [hrest, hrest0]
  · intro h
    exact ⟨0, h, rfl⟩

/-- The volume's minimum is the volume rounded up to whole increments. -/
theorem volumeMinimum_ok (hprice : price ≠ 0) (hstep : rule.quantityIncrement ≠ 0) :
    rule.volumeMinimum price = .ok
      (((rule.minVolumeUsd / price / rule.quantityIncrement).ceil : Rat)
        * rule.quantityIncrement) := by
  have hvolume : PyDecimal.div rule.minVolumeUsd price = .ok (rule.minVolumeUsd / price) :=
    if_neg hprice
  have hlots : PyDecimal.div (rule.minVolumeUsd / price) rule.quantityIncrement
      = .ok (rule.minVolumeUsd / price / rule.quantityIncrement) := if_neg hstep
  rw [volumeMinimum, hvolume]
  show (PyDecimal.div (rule.minVolumeUsd / price) rule.quantityIncrement >>= _) = _
  rw [hlots]
  rfl

/-- **`effective_min_quantity`** of an accepted rule succeeds exactly when the price
is legal and the least lot at it is not above the greatest quantity, and it is that lot. -/
theorem effectiveMinQuantity_eq_iff (haccepted : rule.postInit core = .ok ()) :
    rule.effectiveMinQuantity price = .ok quantity ↔
      rule.minPrice ≤ price ∧ price ≤ rule.maxPrice ∧ Multiple rule.priceIncrement price ∧
        IsLeast (rule.lots price) quantity ∧ quantity ≤ rule.maxQuantity := by
  obtain ⟨hcoherent, hgrid⟩ := postInit_ok_iff.mp haccepted
  have hpos : ∀ v ∈ rule.figures, 0 < v :=
    fun v hv => isPositive_iff_pos.mp (hcoherent.figures v hv)
  have hstep : 0 < rule.quantityIncrement := hpos _ (by simp [figures])
  have hpriceStep : 0 < rule.priceIncrement := hpos _ (by simp [figures])
  have hminPrice : 0 < rule.minPrice := hpos _ (by simp [figures])
  have hquoted : rule.Quoted price ↔ rule.minPrice ≤ price ∧ price ≤ rule.maxPrice := by
    constructor
    · intro h
      exact ⟨not_lt.mp (of_decide_eq_false h.ge), not_lt.mp (of_decide_eq_false h.le)⟩
    · rintro ⟨hge, hle⟩
      exact ⟨isPositive_iff_pos.mpr (hminPrice.trans_le hge), decide_eq_false (not_lt.mpr hge),
        decide_eq_false (not_lt.mpr hle)⟩
  rw [effectiveMinQuantity_ok_iff, hquoted, aligned_iff hpriceStep, and_assoc]
  refine and_congr_right fun hge => and_congr_right fun _ => and_congr_right fun _ => ?_
  have hprice : 0 < price := hminPrice.trans_le hge
  -- the volume is reached from `min_volume_usd / price` on
  have hlots : rule.lots price = {q | Multiple rule.quantityIncrement q ∧ rule.minQuantity ≤ q ∧
      rule.minVolumeUsd / price ≤ q} := by
    ext q
    simp only [lots, Set.mem_ofPred_eq, div_le_iff₀ hprice]
  have hleast : IsLeast (rule.lots price) (PyDecimal.max rule.minQuantity
      (((rule.minVolumeUsd / price / rule.quantityIncrement).ceil : Rat)
        * rule.quantityIncrement)) := by
    rw [hlots]
    exact isLeast_max hstep ((aligned_iff hstep).mp hgrid.minQuantity) _
  rw [volumeMinimum_ok hprice.ne' hstep.ne']
  constructor
  · rintro ⟨minimum, hminimum, rfl, hle⟩
    cases hminimum
    exact ⟨hleast, not_lt.mp (of_decide_eq_false hle)⟩
  · rintro ⟨hquantity, hle⟩
    exact ⟨_, rfl, hleast.unique hquantity, decide_eq_false (not_lt.mpr hle)⟩

end EvedexDevInstrumentRule

/-! ## The lot an approved canary trades -/

section Decision

variable {F : Type} [PyFloat F] [Spelling F Rat] {core : KairosCore F}

/-- A required quantity is the bound lot, and the least one at the price it was asked for. -/
theorem boundCanaryQuantity_ok {intent : StrategyIntentV1 F} {accountId : String}
    {price quantity : F} (h : boundCanaryQuantity Rat core intent accountId price = .ok quantity) :
    ∃ (rule : EvedexDevInstrumentRule Rat) (lot : Rat),
      boundCanaryInstrument core intent accountId = .ok (rule, lot) ∧
      IsLeast (rule.lots (Spelling.spell price)) lot ∧ lot ≤ rule.maxQuantity ∧
      quantity = Spelling.toFloat lot := by
  unfold boundCanaryQuantity at h
  obtain ⟨⟨rule, lot⟩, hbound, h⟩ := ok_of_bind h
  obtain ⟨expected, hexpected, h⟩ := ok_of_bind h
  obtain ⟨hsame, h⟩ := ok_of_raiseIf h
  obtain ⟨_, h⟩ := ok_of_raiseIf h
  cases h
  have hlot : lot = expected := by simpa [PyDecimal.eqv] using hsame
  have hbinds := boundCanaryInstrument_ok_iff.mp hbound
  have haccepted := EvedexDevInstrumentRule.postInit_ok_iff.mpr ⟨hbinds.coherent, hbinds.onGrid⟩
  obtain ⟨_, _, _, hleast, hle⟩ :=
    (EvedexDevInstrumentRule.effectiveMinQuantity_eq_iff haccepted).mp hexpected
  exact ⟨rule, lot, hbound, hlot ▸ hleast, hlot ▸ hle, rfl⟩

namespace PaperRiskPipeline

variable [DecidableEq F]

/-- **A canary trades the least legal lot.** `effective_min_quantity` gives that lot
or nothing, and an approved canary has it at its own worst entry, as it was bound,
within the risk capacity. -/
theorem canary_trades_least_lot :
    (∀ (core : KairosCore F) (rule : EvedexDevInstrumentRule Rat) (price quantity : Rat),
      rule.postInit core = .ok () → 0 < price →
      (rule.effectiveMinQuantity price = .ok quantity ↔
        rule.minPrice ≤ price ∧ price ≤ rule.maxPrice ∧ Multiple rule.priceIncrement price ∧
          IsLeast (rule.lots price) quantity ∧ quantity ≤ rule.maxQuantity)) ∧
    ∀ (p : PaperRiskPipeline F Rat) (x : PaperInputs F) (d : RiskTradeDecisionV1 F),
      x.review.intent.strategyId = paperCanaryStrategyId →
      p.evaluate x = .ok d → d.approved = true →
      d.worstEntryPrice = worstEntry x.review.intent x.venue ∧
      (∃ (rule : EvedexDevInstrumentRule Rat) (lot : Rat),
        boundCanaryInstrument p.core x.review.intent p.settings.paperAccountId = .ok (rule, lot) ∧
        IsLeast (rule.lots (Spelling.spell d.worstEntryPrice)) lot ∧ lot ≤ rule.maxQuantity ∧
        d.quantity = Spelling.toFloat lot) ∧
      ∃ account allocation, (p.gates x).accountMetrics = some account ∧
        (p.gates x).allocationMetrics = some allocation ∧
        ¬p.sizeQuantity x.review.intent.side x.review.intent.exitPlan.stopPrice d.worstEntryPrice
            x.venue (p.gates x).lossBudget (p.gates x).leverage account allocation x.reservations
          + PyFloat.lit (1 / 1000000000000) < d.quantity := by
  refine ⟨fun _ _ _ _ haccepted _ =>
    EvedexDevInstrumentRule.effectiveMinQuantity_eq_iff haccepted, ?_⟩
  intro p x d hcanary h ha
  obtain ⟨quantity, hsize, _, hquantity, _, _⟩ := approved_sized h ha
  have hentry : d.worstEntryPrice = worstEntry x.review.intent x.venue := by
    obtain ⟨_, _, _, _, _, hfields⟩ := evaluate_ok h
    rw [hfields]
    rfl
  obtain ⟨account, allocation, haccount, hallocation⟩ := gates_metrics (size_no_reasons hsize)
  obtain ⟨_, hselect, _, _⟩ := (size_nil_iff haccount hallocation).mp hsize
  rw [selectQuantity, if_pos hcanary] at hselect
  obtain ⟨hrequired, _, hcapacity⟩ := canaryQuantity_nil_iff.mp hselect
  rw [hentry, hquantity]
  exact ⟨rfl, boundCanaryQuantity_ok hrequired, account, allocation, haccount, hallocation,
    hcapacity⟩

end PaperRiskPipeline

end Decision

/-! ## A canary at 100.01 -/

namespace Scenario

open PaperRiskPipeline

/-- The rule the canary's metadata bind. -/
def boundRule : EvedexDevInstrumentRule Rat where
  venueSymbol := "BTCUSD:DEV"
  trading := "all"
  marketState := "OPEN"
  updatedAtMs := 50000
  lotSize := 1
  priceIncrement := 1 / 100
  quantityIncrement := 1 / 1000
  multiplier := 1
  minVolumeUsd := 5
  minPrice := 1 / 100
  maxPrice := 1000000
  minQuantity := 1 / 1000
  maxQuantity := 1000
  fetchedAtMs := 50000

/-- What the pipeline decides of the canary. -/
def leastLotDecision : RiskTradeDecisionV1 Rat :=
  (service.pipeline.evaluate (bindingInputs canaryReview)).toOption.get (by decide +kernel)

/-- A twentieth is the least lot at 100.01, and the canary trades it. -/
theorem canary_trades_a_twentieth :
    IsLeast (boundRule.lots (10001 / 100)) (1 / 20) ∧
    ∃ (rule : EvedexDevInstrumentRule Rat) (lot : Rat),
      boundCanaryInstrument service.pipeline.core canaryReview.intent
        service.pipeline.settings.paperAccountId = .ok (rule, lot) ∧
      IsLeast (rule.lots (Spelling.spell leastLotDecision.worstEntryPrice)) lot ∧
      lot ≤ rule.maxQuantity ∧ leastLotDecision.quantity = Spelling.toFloat lot := by
  obtain ⟨hlot, hdecision⟩ := canary_trades_least_lot (F := Rat)
  have hleast := (hlot service.pipeline.core boundRule (10001 / 100) (1 / 20) (by decide +kernel)
    (by decide +kernel)).mp (by decide +kernel)
  have hdecided := hdecision service.pipeline (bindingInputs canaryReview) leastLotDecision rfl
    (eq_ok_of_isSome (by decide +kernel)) (by decide +kernel)
  exact ⟨hleast.2.2.2.1, hdecided.2.1⟩

end Scenario

end KairosRisk
