import KairosRisk.Lib.Grid
import KairosRisk.LiveCeilings

/-!
# LIVE orders on the instrument's grid

Where the verified inputs carry instrument rules, an approved LIVE order is one
the instrument takes as it is: each price a whole number of ticks within the
price bounds, the quantity a whole number of lots within its own, the notional
between the instrument's two. The prices are tested and never rounded; the
quantity is floored to lots and given up one lot at a time, and a lot that no
float spells ends the sizing (`correct_unrepresentable`), so that what is
emitted is always the decimal lot itself (`attempt_lot`).
-/

namespace KairosRisk

open PyLib PaperRiskPipeline

variable {F E : Type} [PyFloat F] [Spelling F Rat] {core : LiveCore F}

/-- The order fits the instrument: intent, exits and entry as they came in, every price
on a tick, and the quantity a lot of a notional the instrument takes. -/
structure FitsInstrument (rules : VerifiedLiveInstrumentRulesV1 Rat core) (x : LiveInputs F E)
    (d : RiskTradeDecisionV1 F) : Prop where
  intent : d.intent = x.review.intent
  exitPlan : d.exitPlan = x.review.intent.exitPlan
  entry : d.worstEntryPrice = worstEntry x.review.intent x.venue
  prices : ∀ price ∈ [d.worstEntryPrice, d.exitPlan.stopPrice, d.exitPlan.targetPrice],
    Multiple rules.priceIncrement (Spelling.spell price) ∧
    rules.minPrice ≤ Spelling.spell price ∧ Spelling.spell price ≤ rules.maxPrice
  long : d.intent.side = .long →
    (Spelling.spell d.exitPlan.stopPrice : Rat) < Spelling.spell d.worstEntryPrice ∧
    (Spelling.spell d.worstEntryPrice : Rat) < Spelling.spell d.exitPlan.targetPrice
  short : d.intent.side = .short →
    (Spelling.spell d.exitPlan.targetPrice : Rat) < Spelling.spell d.worstEntryPrice ∧
    (Spelling.spell d.worstEntryPrice : Rat) < Spelling.spell d.exitPlan.stopPrice
  lot : Multiple rules.quantityIncrement (Spelling.spell d.quantity)
  minQuantity : rules.minQuantity ≤ Spelling.spell d.quantity
  maxQuantity : Spelling.spell d.quantity ≤ rules.maxQuantity
  minNotional : rules.minNotionalUsd ≤ Spelling.spell d.quantity * Spelling.spell d.worstEntryPrice
  maxNotional : ∀ cap, rules.maxNotionalUsd = some cap →
    Spelling.spell d.quantity * Spelling.spell d.worstEntryPrice ≤ cap

namespace LiveRiskEvaluator

variable {e : LiveRiskEvaluator F Rat E core} {x : LiveInputs F E}
  {rules : VerifiedLiveInstrumentRulesV1 Rat core}

/-! ## The prices -/

section Prices

omit [PyFloat F] [Spelling F Rat] in
/-- `a % step == 0`, where it is asked, tells multiples. -/
theorem multiple_of_isZero {a step rest : Rat} (h : liftSignal (PyDecimal.rem a step) = .ok rest)
    (hzero : (!decimalIsZero rest) = false) : Multiple step a := by
  have hrest : rest = 0 := by simpa [decimalIsZero, PyDecimal.eqv] using hzero
  rw [hrest] at h
  apply multiple_of_rem
  cases hrem : PyDecimal.rem a step with
  | error signal =>
    rw [hrem] at h
    cases h
  | ok r =>
    rw [hrem] at h
    exact congrArg Except.ok (Except.ok.inj h)

omit [PyFloat F] [Spelling F Rat] in
theorem within_of_decimalLe {lower upper price : Rat}
    (h : (!(decimalLe lower price && decimalLe price upper)) = false) :
    lower ≤ price ∧ price ≤ upper := by
  rw [Bool.not_eq_false', Bool.and_eq_true] at h
  constructor
  · simpa [decimalLe] using h.1
  · simpa [decimalLe] using h.2

omit [PyFloat F] in
theorem checkExitPrice_ok {price : F} (h : checkExitPrice rules price = .ok ()) :
    Multiple rules.priceIncrement (Spelling.spell price) ∧
    rules.minPrice ≤ Spelling.spell price ∧ Spelling.spell price ≤ rules.maxPrice := by
  unfold checkExitPrice at h
  obtain ⟨hbounds, h⟩ := ok_of_raiseIf h
  obtain ⟨rest, hrest, h⟩ := ok_of_bind h
  exact ⟨multiple_of_isZero hrest (raiseIf_ok h), within_of_decimalLe hbounds⟩

omit [PyFloat F] [Spelling F Rat] in
theorem checkPrice_ok {price : Rat} {offGrid outside : String}
    (h : checkPrice rules price offGrid outside = .ok ()) :
    Multiple rules.priceIncrement price ∧ rules.minPrice ≤ price ∧ price ≤ rules.maxPrice := by
  unfold checkPrice at h
  obtain ⟨rest, hrest, h⟩ := ok_of_bind h
  obtain ⟨hzero, h⟩ := ok_of_raiseIf h
  exact ⟨multiple_of_isZero hrest hzero, within_of_decimalLe (raiseIf_ok h)⟩

/-- The entry, the stop and the target are on ticks, and on the sides they belong. -/
structure OnTicks (rules : VerifiedLiveInstrumentRulesV1 Rat core) (intent : StrategyIntentV1 F)
    (entry : F) : Prop where
  prices : ∀ price ∈ [entry, intent.exitPlan.stopPrice, intent.exitPlan.targetPrice],
    Multiple rules.priceIncrement (Spelling.spell price) ∧
    rules.minPrice ≤ Spelling.spell price ∧ Spelling.spell price ≤ rules.maxPrice
  long : intent.side = .long →
    (Spelling.spell intent.exitPlan.stopPrice : Rat) < Spelling.spell entry ∧
    (Spelling.spell entry : Rat) < Spelling.spell intent.exitPlan.targetPrice
  short : intent.side = .short →
    (Spelling.spell intent.exitPlan.targetPrice : Rat) < Spelling.spell entry ∧
    (Spelling.spell entry : Rat) < Spelling.spell intent.exitPlan.stopPrice

omit [PyFloat F] in
/-- **Geometry that passed** is that of the prices as they came in. -/
theorem instrumentEntry_onTicks {intent : StrategyIntentV1 F} {entry entry' : F}
    (h : instrumentEntry intent entry rules = .ok entry') : OnTicks rules intent entry := by
  unfold instrumentEntry at h
  obtain ⟨_, hstop, h⟩ := ok_of_bind h
  obtain ⟨_, htarget, h⟩ := ok_of_bind h
  obtain ⟨_, hentry, h⟩ := ok_of_bind h
  obtain ⟨hlong, h⟩ := ok_of_raiseIf h
  obtain ⟨hshort, _⟩ := ok_of_raiseIf h
  refine ⟨?_, ?_, ?_⟩
  · simp only [List.forall_mem_cons]
    exact ⟨checkPrice_ok hentry, checkExitPrice_ok hstop, checkExitPrice_ok htarget, nofun⟩
  · intro hside
    simpa [hside] using hlong
  · intro hside
    simpa [hside] using hshort

omit [PyFloat F] in
/-- No reason from the entry stage means that the geometry passed. -/
theorem entryStage_onTicks {entry : F}
    (h : entryStage x (some rules) = .ok (entry, [])) :
    OnTicks rules x.review.intent (worstEntry x.review.intent x.venue) := by
  unfold entryStage at h
  dsimp only at h
  split at h
  next hok => exact instrumentEntry_onTicks hok
  next =>
    split at h
    next => cases h
    next => cases h

end Prices

/-! ## The lots -/

section Lots

variable {c : UnitCosts Rat} {budget cap exact lot : Rat} {sizing : LiveSizing F}
  {corrections : Nat} {violates : Bool}

/-- Some float spells the lot, and it is the one the lot is converted to. -/
def Representable (F : Type) [PyFloat F] [Spelling F Rat] (lot : Rat) : Prop :=
  ∃ quantity : F, lowerFloat lot = .ok quantity ∧ Spelling.spell quantity = lot

/-- The lots the correction loop converts, from `exact` on. -/
inductive Tries (c : UnitCosts Rat) (budget cap : Rat)
    (rules : VerifiedLiveInstrumentRulesV1 Rat core) : Nat → Rat → Rat → Prop
  | now {corrections : Nat} {exact : Rat} (hpositive : 0 < exact) :
      Tries c budget cap rules (corrections + 1) exact exact
  | next {corrections : Nat} {exact lot : Rat} {sizing : LiveSizing F} (hpositive : 0 < exact)
      (hviolates : attempt c budget cap (some rules) exact = .ok (sizing, true))
      (hrest : Tries c budget cap rules corrections (exact - rules.quantityIncrement) lot) :
      Tries c budget cap rules (corrections + 1) exact lot

/-- A pass converted its lot, and the float it got was tested against the instrument. -/
theorem attempt_checks (h : attempt c budget cap (some rules) exact = .ok (sizing, violates)) :
    lowerFloat exact = .ok sizing.quantity ∧
    checkLot (some rules) (Spelling.spell sizing.quantity) exact = .ok () := by
  unfold attempt at h
  obtain ⟨_, _, h⟩ := ok_of_bind h
  obtain ⟨quantity, hquantity, h⟩ := ok_of_bind h
  obtain ⟨_, hcheck, h⟩ := ok_of_bind h
  obtain ⟨_, _, h⟩ := ok_of_bind h
  obtain ⟨_, _, h⟩ := ok_of_bind h
  obtain ⟨_, _, h⟩ := ok_of_bind h
  obtain ⟨_, _, h⟩ := ok_of_bind h
  obtain ⟨_, _, h⟩ := ok_of_bind h
  obtain ⟨_, _, h⟩ := ok_of_bind h
  obtain ⟨rfl, _⟩ := Prod.mk.inj (Except.ok.inj h)
  exact ⟨hquantity, hcheck⟩

/-- **The emitted quantity is the decimal lot**: on the grid, and within the maximum. -/
theorem attempt_lot (h : attempt c budget cap (some rules) exact = .ok (sizing, violates)) :
    Spelling.spell sizing.quantity = exact ∧
    Multiple rules.quantityIncrement (Spelling.spell sizing.quantity) ∧
    Spelling.spell sizing.quantity ≤ rules.maxQuantity := by
  obtain ⟨_, hcheck⟩ := attempt_checks h
  unfold checkLot at hcheck
  obtain ⟨hsame, hcheck⟩ := ok_of_raiseIf hcheck
  obtain ⟨rest, hrest, hcheck⟩ := ok_of_bind hcheck
  obtain ⟨hzero, hcheck⟩ := ok_of_raiseIf hcheck
  refine ⟨by simpa [PyDecimal.eqv] using hsame, multiple_of_isZero hrest hzero, ?_⟩
  simpa using raiseIf_ok hcheck

/-- A pass over a lot that no float spells raises what `evaluate` catches. -/
theorem attempt_unrepresentable (h : ¬Representable F lot) :
    ∃ err, attempt (F := F) c budget cap (some rules) lot = .error err ∧ err.isNumeric = true := by
  cases hconverted : (lowerFloat lot : Except PyError F) with
  | error err =>
    refine ⟨err, ?_, ?_⟩
    · unfold attempt
      rw [hconverted]
      rfl
    · unfold lowerFloat at hconverted
      split at hconverted
      · cases hconverted
      · cases hconverted
        rfl
  | ok quantity =>
    have hother : Spelling.spell quantity ≠ lot := fun hsame => h ⟨quantity, hconverted, hsame⟩
    refine ⟨.valueError "instrument quantity cannot be represented exactly in Core", ?_, rfl⟩
    have hcheck : checkLot (some rules) (Spelling.spell quantity) lot
        = .error (.valueError "instrument quantity cannot be represented exactly in Core") := by
      simp [checkLot, raiseIf, PyDecimal.eqv, hother, bind, Except.bind]
    obtain ⟨priced, hpriced⟩ : ∃ priced, c.economics lot = .ok priced := ⟨_, rfl⟩
    unfold attempt
    rw [hpriced, hconverted, ok_bind, ok_bind]
    dsimp only
    rw [hcheck]
    rfl

/-- **A lot that no float spells** ends the loop with an error, wherever it comes up. -/
theorem correct_unrepresentable (htries : Tries c budget cap rules corrections exact lot)
    (h : ¬Representable F lot) : ∃ err,
      correct (F := F) c budget cap (some rules) corrections exact = .error err ∧
      err.isNumeric = true := by
  induction htries with
  | now hpositive =>
    obtain ⟨err, hattempt, hnumeric⟩ :
        ∃ err, attempt (F := F) c budget cap (some rules) _ = .error err ∧
          err.isNumeric = true := attempt_unrepresentable h
    refine ⟨err, ?_, hnumeric⟩
    rw [correct, if_neg (by simpa [decimalLe] using hpositive), hattempt]
    rfl
  | next hpositive hviolates _ ih =>
    obtain ⟨err, hrest, hnumeric⟩ := ih h
    refine ⟨err, ?_, hnumeric⟩
    rw [correct, if_neg (by simpa [decimalLe] using hpositive), hviolates]
    exact hrest

end Lots

/-! ## The decision -/

section Decision

variable {v : VerifiedLiveAccountV1 F Rat core} {allocation : StrategicAllocation F}
  {lossBudget : F} {lot : Rat} {sizing : LiveSizing F}

/-- Sizing the call under these rules converts this lot. -/
structure Converts (e : LiveRiskEvaluator F Rat E core) (x : LiveInputs F E)
    (v : VerifiedLiveAccountV1 F Rat core) (allocation : StrategicAllocation F)
    (rules : VerifiedLiveInstrumentRulesV1 Rat core) (lossBudget : F) (lot : Rat) : Prop where
  budgeted : e.lossBudget v = .ok lossBudget
  tries : ∃ (c : UnitCosts Rat) (cap start : Rat),
    unitCosts x.review.intent x.venue (worstEntry x.review.intent x.venue) = .ok c ∧
    0 < c.lossPerUnit ∧ (0 : Rat) < Spelling.spell lossBudget ∧
    e.notionalCap x allocation v (some rules) = .ok cap ∧
    startQuantity c (Spelling.spell lossBudget) cap (some rules) = .ok start ∧
    Tries c (Spelling.spell lossBudget) cap rules 3 start lot

/-- Sizing that comes to a lot no float spells raises what `evaluate` catches. -/
theorem size_unrepresentable (hconverts : e.Converts x v allocation rules lossBudget lot)
    (h : ¬Representable F lot) : ∃ err,
      e.size x allocation v lossBudget (worstEntry x.review.intent x.venue) (some rules)
        = .error err ∧ err.isNumeric = true := by
  obtain ⟨c, cap, start, hcosts, hloss, hbudget, hcap, hstart, htries⟩ := hconverts.tries
  obtain ⟨err, hcorrect, hnumeric⟩ := correct_unrepresentable htries h
  refine ⟨err, ?_, hnumeric⟩
  unfold size
  rw [hcosts, ok_bind]
  dsimp only
  rw [if_neg (by simp [decimalLe, hloss, hbudget]), hcap, ok_bind, hstart, ok_bind]
  exact hcorrect

/-- It is a reason, and no size. -/
theorem caughtSize_unrepresentable (hconverts : e.Converts x v allocation rules lossBudget lot)
    (h : ¬Representable F lot) :
    e.caughtSize x allocation v lossBudget (worstEntry x.review.intent x.venue) (some rules)
      = .ok (LiveSizing.zero, ["sizing_numeric_invalid"]) := by
  obtain ⟨err, hsize, hnumeric⟩ := size_unrepresentable hconverts h
  unfold caughtSize
  rw [hsize]
  exact if_pos hnumeric

/-- Nothing against a position means that it reaches both of the instrument's minima. -/
theorem capacityReasons_nil {entry : F}
    (h : e.capacityReasons sizing entry (some rules) = .ok [])
    (hposition : PyFloat.lit 0 < sizing.quantity) :
    rules.minQuantity ≤ Spelling.spell sizing.quantity ∧
    rules.minNotionalUsd ≤ Spelling.spell sizing.quantity * Spelling.spell entry := by
  unfold capacityReasons at h
  dsimp only at h
  rw [if_pos hposition] at h
  obtain ⟨notional, hnotional, h⟩ := ok_of_bind h
  cases hnotional
  have hnil := Except.ok.inj h
  simp only [List.append_eq_nil_iff, reasonIf_eq_nil, PyDecimal.rat_lt,
    decide_eq_false_iff_not, Rat.not_lt] at hnil
  exact ⟨hnil.1.2, hnil.2⟩

/-- The notional cap is within the instrument's own. -/
theorem notionalCap_le_instrument {cap instrumentCap : Rat}
    (h : e.notionalCap x allocation v (some rules) = .ok cap)
    (hcap : rules.maxNotionalUsd = some instrumentCap) : cap ≤ instrumentCap := by
  unfold notionalCap at h
  obtain ⟨_, _, h⟩ := ok_of_bind h
  obtain ⟨_, _, h⟩ := ok_of_bind h
  obtain ⟨_, _, h⟩ := ok_of_bind h
  obtain ⟨_, _, h⟩ := ok_of_bind h
  cases h
  unfold withInstrumentCap
  rw [Option.bind_some, hcap]
  exact PyDecimal.min_le _ _ (by simp)

/-- **LIVE instrument geometry.** Under the rules the verified inputs carry, an approved
order fits the instrument exactly, and a lot that no float spells is refused. -/
theorem instrument_geometry_exact [DecidableEq F] [LawfulSpelling F]
    {inputs : VerifiedLiveInputsV1 Rat core}
    (hinputs : e.InputsVouched x inputs ∧ e.InputsBound x inputs)
    (hrules : inputs.instrumentRules = some rules)
    {r : LiveRiskEvaluationV1 F Rat core} (h : e.evaluate x = .ok r) :
    (r.decision.approved = true → FitsInstrument rules x r.decision) ∧
    ∀ v allocation lossBudget lot, (e.AccountVouched x v ∧ e.AccountBound x v) →
      x.allocation = some allocation → e.Converts x v allocation rules lossBudget lot →
      ¬Representable F lot →
      e.caughtSize x allocation v lossBudget (worstEntry x.review.intent x.venue) (some rules)
          = .ok (LiveSizing.zero, ["sizing_numeric_invalid"]) ∧
        r.decision.approved = false := by
  have hinforce : (e.verifiedInputs x).1.bind (·.instrumentRules) = some rules := by
    rw [verifiedInputs_eq_some.mpr hinputs]
    exact hrules
  constructor
  · intro happroved
    obtain ⟨v, allocation, lossBudget, sizing, hemits, hunder⟩ := evaluate_emits h happroved
    rw [hinforce] at hunder
    obtain ⟨_, _, c, _, _, _, hfields⟩ := evaluate_ok h
    have hintent : r.decision.intent = x.review.intent := by rw [hfields, decisionFields]
    have hticks := entryStage_onTicks hunder.entry
    obtain ⟨costs, cap, exact, hcosts, _, hcap, hexact, hattempt⟩ :=
      size_ok hunder.sized hemits.position
    obtain ⟨hlot, hgrid, hmax⟩ := attempt_lot hattempt
    have hposition : PyFloat.lit 0 < sizing.quantity := by
      rcases lowerFloat_ok (attempt_checks hattempt).1 with hzero | ⟨hpositive, _⟩
      · have hnone := hemits.position
        rw [hzero] at hnone
        exact absurd LawfulSpelling.zero_le_zero hnone
      · exact hpositive
    obtain ⟨hminQuantity, hminNotional⟩ := capacityReasons_nil hunder.capacity hposition
    have hdisplayed := (attempt_ok hattempt).displayed
    rw [(unitCosts_ok hcosts).1] at hdisplayed
    constructor
    · exact hintent
    · exact hemits.exitPlan
    · exact hemits.entry
    · rw [hemits.entry, hemits.exitPlan]
      exact hticks.prices
    · rw [hintent, hemits.entry, hemits.exitPlan]
      exact hticks.long
    · rw [hintent, hemits.entry, hemits.exitPlan]
      exact hticks.short
    · rw [hemits.quantity]
      exact hgrid
    · rw [hemits.quantity]
      exact hminQuantity
    · rw [hemits.quantity]
      exact hmax
    · rw [hemits.quantity, hemits.entry]
      exact hminNotional
    · intro instrumentCap hsome
      rw [hemits.quantity, hemits.entry]
      exact Rat.le_trans hdisplayed (notionalCap_le_instrument hcap hsome)
  · intro v allocation lossBudget lot hv hallocation hconverts hlot
    refine ⟨caughtSize_unrepresentable hconverts hlot, Bool.eq_false_iff.mpr ?_⟩
    intro happroved
    -- an approval was sized for the same account, allocation and budget
    obtain ⟨v', allocation', lossBudget', sizing, hemits, hunder⟩ := evaluate_emits h happroved
    rw [hinforce] at hunder
    have hsame : v' = v :=
      Option.some.inj (hemits.verified.symm.trans (verifiedAccount_eq_some.mpr hv))
    subst hsame
    have hallocated : allocation' = allocation :=
      Option.some.inj (hemits.allocated.symm.trans hallocation)
    subst hallocated
    have hbudget : lossBudget' = lossBudget :=
      Except.ok.inj (hemits.budgeted.symm.trans hconverts.budgeted)
    subst hbudget
    obtain ⟨err, hsize, _⟩ := size_unrepresentable hconverts hlot
    rw [hunder.sized] at hsize
    cases hsize

end Decision

end LiveRiskEvaluator

namespace Scenario

open LiveRiskEvaluator

/-- The inputs the idea's receipt vouches for. -/
def liveInputs : VerifiedLiveInputsV1 Rat liveCore :=
  (liveEvaluator.verifiedInputs liveCall).1.get (by decide +kernel)

/-- The rules they carry. -/
def liveInstrument : VerifiedLiveInstrumentRulesV1 Rat liveCore :=
  liveInputs.instrumentRules.get (by decide +kernel)

/-- The idea's order fits its instrument. -/
theorem liveEvaluation_fits : FitsInstrument liveInstrument liveCall liveEvaluation.decision := by
  have hinputs : (liveEvaluator.verifiedInputs liveCall).1 = some liveInputs :=
    (Option.some_get _).symm
  have hrules : liveInputs.instrumentRules = some liveInstrument := (Option.some_get _).symm
  exact (instrument_geometry_exact (verifiedInputs_eq_some.mp hinputs) hrules
    liveEvaluation_returned).1 liveEvaluation_approved

end Scenario

end KairosRisk
