import KairosRisk.Lib.ExactOrder
import KairosRisk.PaperLeverage
import Mathlib.Order.Bounds.Basic
import Mathlib.Tactic.Ring

/-!
# PAPER admission, condition by condition

Four functions write into one list of reasons, and sizing runs only when the
list is empty. Under the legacy profile and for any strategy but the canary,
what that comes to is a list of conditions on the call (`Admits`), no gate of
which can be bypassed and beyond which nothing is refused, and a quantity that
is the greatest the loss budget and the notional caps allow.

Each gate has its own structure of conditions and a lemma that the gate is
silent exactly when they hold; the arithmetic is exact throughout.
-/

namespace KairosRisk

open PyLib PaperRiskPipeline

namespace PaperRiskPipeline

variable {D : Type}

/-! ## The conditions -/

/-- The stop and the target lie on their sides of the entry. A flat intent has none. -/
def Ordered : Side → (stop entry target : Rat) → Prop
  | .long, stop, entry, target => stop < entry ∧ entry < target
  | .short, stop, entry, target => target < entry ∧ entry < stop
  | .flat, _, _, _ => True

/-- What the review, the clock and the venue have to say. -/
structure ReviewAdmits (p : PaperRiskPipeline Rat D) (x : PaperInputs Rat) : Prop where
  sameIntent : x.review.route.intent = x.review.intent
  notSimOnly : x.review.intent.contractVersion ≠ "strategy-intent.observed-sim.v2"
  allowed : x.review.decision = .allow
  listed : x.review.intent.strategyId ++ "@" ++ x.review.intent.strategyRevision
    ∈ p.settings.paperStrategyAllowlist
  notDenied : x.review.intent.strategyId ∉ rejectedPaperStrategyIds
  normalMode : x.systemMode = .normal
  reviewed : x.review.reviewedAtMs ≤ x.decidedAtMs
  eligible : x.review.intent.entryEligibleTsMs ≤ x.decidedAtMs
  unexpired : x.decidedAtMs ≤ x.review.intent.entryExpiresTsMs
  mapped : paperDevSymbol x.review.intent.symbol = some x.venue.symbol
  observed : x.venue.observedAtMs ≤ x.decidedAtMs
  quality : x.decidedAtMs ≤ x.venue.expiresAtMs
  entryAllowed : x.venue.entryAllowed = true

/-- What the account has to be, and to be free of. -/
structure AccountAdmits (p : PaperRiskPipeline Rat D) (x : PaperInputs Rat)
    (a : AccountSnapshotV2 Rat) : Prop where
  mode : a.tradingMode = .paper
  profile : a.evedexProfile = .dev
  configured : a.accountId = p.settings.paperAccountId
  reconciled : a.reconciled = true
  sequence : 0 < a.reconciliationSeq
  captured : a.capturedAtMs ≤ x.decidedAtMs
  fresh : ((x.decidedAtMs - a.capturedAtMs : Int) : Rat)
    ≤ p.settings.paperAccountSnapshotMaxAgeS * 1000
  unreserved : x.venue.symbol ∉ x.reservations.symbols
  noPosition : ∀ q ∈ a.positions, q.venueSymbol ≠ x.venue.symbol
  noOrder : ∀ o ∈ a.openOrders, o.venueSymbol ≠ x.venue.symbol
  noEntry : ∀ o ∈ a.openOrders, o.orderRole ≠ .entry
  stated : (a.positions.map positionStopRisk).sum - 1 / 1000000 ≤ a.totalOpenRiskUsd
  belowCap : a.totalOpenRiskUsd + x.reservations.openRiskUsd
    < a.equityUsd * p.settings.paperMaxTotalOpenRiskFraction - 1 / 1000000000
  drawdown : dailyDrawdown a * 100 < p.settings.maxDailyDrawdownPct

/-- What the macro has to allow. -/
structure AllocationAdmits (p : PaperRiskPipeline Rat D) (x : PaperInputs Rat)
    (al : StrategicAllocation Rat) : Prop where
  valid : allocationError al = none
  aware : al.producedAt.aware = true
  produced : al.producedAt.us.tdiv 1000 ≤ x.decidedAtMs
  fresh : ((x.decidedAtMs - al.producedAt.us.tdiv 1000 : Int) : Rat)
    ≤ p.settings.strategicAllocationMaxAgeS * 1000
  weighted : 0 < (al.strategyWeights.lookup x.review.intent.strategyId).getD 0
  notChop : al.regime ≠ .chop
  bear : al.regime = .bear → x.review.intent.side ≠ .long
  bull : al.regime = .bull → x.review.intent.side ≠ .short
  leverage : 1 ≤ al.maxGrossLeverage

/-- `loss_budget`, of an account. -/
def accountLossBudget (p : PaperRiskPipeline Rat D) (x : PaperInputs Rat)
    (a : AccountSnapshotV2 Rat) : Rat :=
  PyFloat.min (a.equityUsd * p.settings.paperPerTradeRiskFraction)
    [p.remainingOpenRisk (accountMetrics a x.review.intent.strategyId) x.reservations]

/-- The notional caps on a trade of this call. -/
def tradeCaps (p : PaperRiskPipeline Rat D) (x : PaperInputs Rat) (a : AccountSnapshotV2 Rat)
    (al : StrategicAllocation Rat) : List Rat :=
  p.notionalCaps x.venue (p.effectiveLeverage al) (accountMetrics a x.review.intent.strategyId)
    (allocationMetrics al x.review.intent.strategyId) x.reservations

/-- The loss of one unit of this call. -/
def tradeLossPerUnit (x : PaperInputs Rat) : Rat :=
  lossPerUnit x.review.intent.side x.review.intent.exitPlan.stopPrice
    (worstEntry x.review.intent x.venue) x.venue

/-- A quantity whose loss at the stop fits the budget and whose notional fits every cap. -/
structure Affordable (p : PaperRiskPipeline Rat D) (x : PaperInputs Rat)
    (a : AccountSnapshotV2 Rat) (al : StrategicAllocation Rat) (quantity : Rat) : Prop where
  loss : (economics quantity x.review.intent.exitPlan.stopPrice
      (worstEntry x.review.intent x.venue) x.review.intent.side x.venue).worstLoss
    ≤ p.accountLossBudget x a
  notional : ∀ cap ∈ p.tradeCaps x a al, quantity * worstEntry x.review.intent x.venue ≤ cap

/-- What the trade has to leave room for. -/
structure SizeAdmits (p : PaperRiskPipeline Rat D) (x : PaperInputs Rat)
    (a : AccountSnapshotV2 Rat) (al : StrategicAllocation Rat) : Prop where
  ordered : Ordered x.review.intent.side x.review.intent.exitPlan.stopPrice
    (worstEntry x.review.intent x.venue) x.review.intent.exitPlan.targetPrice
  price : 0 < worstEntry x.review.intent x.venue
  lossPerUnit : 0 < tradeLossPerUnit x
  lossBudget : 0 < p.accountLossBudget x a
  caps : ∀ cap ∈ p.tradeCaps x a al, 0 < cap
  minimum : ∃ quantity, p.Affordable x a al quantity ∧
    p.settings.paperMinNotionalUsd ≤ quantity * worstEntry x.review.intent x.venue + 1 / 1000000000

/-- The conditions of an approval. -/
structure Admits (p : PaperRiskPipeline Rat D) (x : PaperInputs Rat) : Prop where
  clock : 0 ≤ x.decidedAtMs
  unopposed : x.admissionRejectionReasons = []
  review : p.ReviewAdmits x
  facts : ∃ a al, x.account = some a ∧ x.allocation = some al ∧ p.AccountAdmits x a ∧
    p.AllocationAdmits x al ∧ p.SizeAdmits x a al

/-! ## Each gate is silent exactly when its conditions hold -/

theorem reviewReasons_eq_nil_iff {p : PaperRiskPipeline Rat D} {x : PaperInputs Rat} :
    p.reviewReasons x = [] ↔ p.ReviewAdmits x := by
  unfold reviewReasons
  simp only [List.append_eq_nil_iff, reasonIf_eq_nil, decide_eq_false_iff_not, Decidable.not_not,
    not_lt, Bool.not_eq_false', RiskSettings.paperStrategyAllowed, Bool.and_eq_true,
    Bool.not_eq_true', beq_eq_false_iff_ne, List.contains_eq_mem, decide_eq_true_eq]
  constructor
  · rintro ⟨⟨⟨⟨⟨⟨⟨⟨⟨⟨⟨hintent, hsim⟩, hallow⟩, hdenied, hlisted⟩, hmode⟩, hreviewed⟩, heligible⟩,
      hexpires⟩, hsymbol⟩, hobserved⟩, hquality⟩, hentry⟩
    refine ⟨hintent, hsim, hallow, hlisted, hdenied, hmode, hreviewed, heligible, hexpires, ?_,
      hobserved, hquality, ?_⟩
    · split at hsymbol
      next => cases hsymbol
      next expected hexpected =>
        have hsame : x.venue.symbol = expected := by simpa using hsymbol
        rw [hexpected, hsame]
    · split at hentry
      next hopen => exact hopen
      next => cases hentry
  · intro h
    refine ⟨⟨⟨⟨⟨⟨⟨⟨⟨⟨⟨h.sameIntent, h.notSimOnly⟩, h.allowed⟩, h.notDenied, h.listed⟩,
      h.normalMode⟩, h.reviewed⟩, h.eligible⟩, h.unexpired⟩, ?_⟩, h.observed⟩, h.quality⟩, ?_⟩
    · rw [h.mapped]
      simp
    · rw [if_pos h.entryAllowed]

/-- A snapshot's age is within bounds when it is neither from the future nor too old. -/
theorem ageReasons_eq_nil_iff {age : Int} {limit : Rat} {future stale : String} :
    (if age < 0 then [future] else reasonIf (PyFloat.intGt age limit) stale) = []
      ↔ 0 ≤ age ∧ (age : Rat) ≤ limit := by
  have hgt : PyFloat.intGt age limit = decide (limit < age) := rfl
  rw [hgt]
  by_cases hage : age < 0
  · rw [if_pos hage]
    constructor
    · intro h
      cases h
    · rintro ⟨hnonneg, _⟩
      omega
  · rw [if_neg hage, reasonIf_eq_nil, decide_eq_false_iff_not, not_lt]
    constructor
    · intro h
      exact ⟨by omega, h⟩
    · rintro ⟨_, h⟩
      exact h

/-- Open orders raise nothing exactly when none of them is an entry. -/
theorem pendingOrder_eq_nil_iff {strategyId : String} {gross strategy : Rat}
    {orders : List (OpenOrderSnapshotV2 Rat)} :
    (orders.foldl (pendingOrder strategyId) ([], gross, strategy)).1 = []
      ↔ ∀ o ∈ orders, o.orderRole ≠ .entry := by
  constructor
  · intro h
    exact (pendingOrder_fold strategyId orders [] gross strategy h).2.1
  · intro h
    rw [pendingOrder_fold_of_ne_entry strategyId ([], gross, strategy) orders h]

theorem accountScopeReasons_eq_nil_iff {p : PaperRiskPipeline Rat D} {a : AccountSnapshotV2 Rat}
    {decidedAtMs : Int} :
    p.accountScopeReasons a decidedAtMs = []
      ↔ (a.tradingMode = .paper ∧ a.evedexProfile = .dev) ∧
        a.accountId = p.settings.paperAccountId ∧
        a.reconciled = true ∧ 0 < a.reconciliationSeq ∧ a.capturedAtMs ≤ decidedAtMs ∧
        ((decidedAtMs - a.capturedAtMs : Int) : Rat)
          ≤ p.settings.paperAccountSnapshotMaxAgeS * 1000 := by
  unfold accountScopeReasons
  dsimp only
  rw [List.append_eq_nil_iff, ageReasons_eq_nil_iff]
  simp only [List.append_eq_nil_iff, reasonIf_eq_nil, decide_eq_false_iff_not, Decidable.not_not,
    Bool.or_eq_false_iff, Bool.not_eq_false', not_le, and_assoc, Int.sub_nonneg]
  rfl

theorem riskLimitReasons_eq_nil_iff {p : PaperRiskPipeline Rat D} {a : AccountSnapshotV2 Rat}
    {reservations : PaperReservations Rat} :
    p.riskLimitReasons a reservations = []
      ↔ (a.positions.map positionStopRisk).sum - 1 / 1000000 ≤ a.totalOpenRiskUsd ∧
        a.totalOpenRiskUsd + reservations.openRiskUsd
          < a.equityUsd * p.settings.paperMaxTotalOpenRiskFraction - 1 / 1000000000 ∧
        dailyDrawdown a * 100 < p.settings.maxDailyDrawdownPct := by
  unfold riskLimitReasons
  dsimp only
  simp only [List.append_eq_nil_iff, reasonIf_eq_nil, decide_eq_false_iff_not, and_assoc]
  show ¬ a.totalOpenRiskUsd + 1 / 1000000 < (a.positions.map positionStopRisk).sum ∧
    ¬ a.equityUsd * p.settings.paperMaxTotalOpenRiskFraction - 1 / 1000000000
      ≤ a.totalOpenRiskUsd + reservations.openRiskUsd ∧
    ¬ p.settings.maxDailyDrawdownPct ≤ dailyDrawdown a * 100 ↔ _
  rw [not_lt, not_le, not_le, sub_le_iff_le_add]

/-- **The account gate** is silent exactly when the account admits the trade. -/
theorem accountGate_eq_nil_iff {p : PaperRiskPipeline Rat D} {x : PaperInputs Rat}
    {a : AccountSnapshotV2 Rat} (hstrategy : x.review.intent.strategyId ≠ paperCanaryStrategyId) :
    (p.accountGate (some a) x.venue.symbol x.review.intent.strategyId x.decidedAtMs
      x.reservations).1 = [] ↔ p.AccountAdmits x a := by
  unfold accountGate
  dsimp only
  rw [List.append_eq_nil_iff, List.append_eq_nil_iff, List.append_eq_nil_iff,
    accountScopeReasons_eq_nil_iff, exclusivityReasons_eq_nil_iff,
    riskLimitReasons_eq_nil_iff, pendingOrder_eq_nil_iff]
  constructor
  · rintro ⟨⟨⟨⟨⟨hmode, hprofile⟩, hid, hreconciled, hsequence, hcaptured, hfresh⟩, hreserved,
      hposition, horder, _⟩, hstated, hcap, hdrawdown⟩, hentry⟩
    exact ⟨hmode, hprofile, hid, hreconciled, hsequence, hcaptured, hfresh, hreserved, hposition,
      horder, hentry, hstated, hcap, hdrawdown⟩
  · intro h
    exact ⟨⟨⟨⟨⟨h.mode, h.profile⟩, h.configured, h.reconciled, h.sequence, h.captured, h.fresh⟩,
      h.unreserved, h.noPosition, h.noOrder, fun hcanary => absurd hcanary hstrategy⟩, h.stated,
      h.belowCap, h.drawdown⟩, h.noEntry⟩

theorem geometryReasons_eq_nil_iff {intent : StrategyIntentV1 Rat} {entry : Rat} :
    geometryReasons intent entry = []
      ↔ Ordered intent.side intent.exitPlan.stopPrice entry intent.exitPlan.targetPrice := by
  unfold geometryReasons
  cases hside : intent.side with
  | long =>
    simp only [reasonIf_eq_nil, Bool.not_eq_false', Bool.and_eq_true, decide_eq_true_eq]
    rfl
  | short =>
    simp only [reasonIf_eq_nil, Bool.not_eq_false', Bool.and_eq_true, decide_eq_true_eq]
    rfl
  | flat => exact iff_of_true rfl trivial

/-- **The legacy allocation gate** is silent exactly when the macro allows the trade. -/
theorem allocationGate_eq_nil_iff {p : PaperRiskPipeline Rat D} {al : StrategicAllocation Rat}
    {strategyId : String} {side : Side} {decidedAtMs : Int} :
    (p.allocationGate (some al) strategyId side decidedAtMs true).1 = []
      ↔ allocationError al = none ∧ al.producedAt.aware = true ∧
        al.producedAt.us.tdiv 1000 ≤ decidedAtMs ∧
        ((decidedAtMs - al.producedAt.us.tdiv 1000 : Int) : Rat)
          ≤ p.settings.strategicAllocationMaxAgeS * 1000 ∧
        0 < (al.strategyWeights.lookup strategyId).getD 0 ∧
        al.regime ≠ .chop ∧ (al.regime = .bear → side ≠ .long) ∧
        (al.regime = .bull → side ≠ .short) := by
  have hregime : (if true && al.regime == .chop then ["macro_regime_chop"]
      else if true && al.regime == .bear && side == .long then ["macro_regime_forbids_long"]
      else reasonIf (true && al.regime == .bull && side == .short) "macro_regime_forbids_short")
        = []
      ↔ al.regime ≠ .chop ∧ (al.regime = .bear → side ≠ .long) ∧
        (al.regime = .bull → side ≠ .short) := by
    cases al.regime <;> cases side <;> simp [reasonIf]
  unfold allocationGate
  dsimp only
  simp only [List.append_eq_nil_iff]
  rw [hregime, ageReasons_eq_nil_iff]
  simp only [reasonIf_eq_nil, Option.isSome_eq_false_iff, Option.isNone_iff_eq_none,
    Bool.not_eq_false', decide_eq_false_iff_not]
  constructor
  · rintro ⟨⟨⟨⟨hvalid, haware⟩, hproduced, hfresh⟩, hweight⟩, hregime⟩
    rw [haware] at hproduced hfresh
    exact ⟨hvalid, haware, Int.sub_nonneg.mp hproduced, hfresh, not_le.mp hweight, hregime⟩
  · rintro ⟨hvalid, haware, hproduced, hfresh, hweight, hregime⟩
    rw [haware]
    exact ⟨⟨⟨⟨hvalid, rfl⟩, Int.sub_nonneg.mpr hproduced, hfresh⟩, not_le.mpr hweight⟩, hregime⟩

/-- The budget stage objects to an empty budget and to a macro below leverage one. -/
theorem budget_reasons_eq_nil_iff {p : PaperRiskPipeline Rat D} {x : PaperInputs Rat}
    {a : AccountSnapshotV2 Rat} {al : StrategicAllocation Rat} :
    (p.budget x.reservations (some (accountMetrics a x.review.intent.strategyId))
      (some (allocationMetrics al x.review.intent.strategyId))).reasons = []
      ↔ 0 < p.accountLossBudget x a ∧ 1 ≤ al.maxGrossLeverage := by
  unfold budget
  dsimp only
  rw [List.append_eq_nil_iff, reasonIf_eq_nil, reasonIf_eq_nil, decide_eq_false_iff_not,
    decide_eq_false_iff_not]
  show ¬p.accountLossBudget x a ≤ 0 ∧ ¬p.effectiveLeverage al < 1 ↔ _
  rw [not_le, not_lt]
  apply and_congr_right
  intro _
  unfold effectiveLeverage
  rw [PyFloat.rat_le_min_iff]
  constructor
  · intro h
    exact h al.maxGrossLeverage (by simp)
  · intro h y hy
    rcases List.mem_cons.mp hy with rfl | hy
    · exact p.settings.leverage_ge
    · rw [List.mem_singleton.mp hy]
      exact h

/-- **The gates** of `evaluate`, together. -/
theorem gates_reasons_eq_nil_iff {p : PaperRiskPipeline Rat D} {x : PaperInputs Rat}
    (hlegacy : p.regimePolicy = none)
    (hstrategy : x.review.intent.strategyId ≠ paperCanaryStrategyId) :
    (p.gates x).reasons = [] ↔ x.admissionRejectionReasons = [] ∧ p.ReviewAdmits x ∧
      ∃ a al, x.account = some a ∧ x.allocation = some al ∧ p.AccountAdmits x a ∧
        p.AllocationAdmits x al ∧
        Ordered x.review.intent.side x.review.intent.exitPlan.stopPrice
          (worstEntry x.review.intent x.venue) x.review.intent.exitPlan.targetPrice ∧
        0 < p.accountLossBudget x a := by
  have hadaptive : p.adaptive x.review.intent = false := by
    unfold adaptive
    rw [hlegacy]
    rfl
  have hgate : p.selectedAllocationGate x = p.allocationGate x.allocation x.review.intent.strategyId
      x.review.intent.side x.decidedAtMs true := by
    unfold selectedAllocationGate
    dsimp only
    rw [hadaptive]
    rfl
  have hused : p.usedAllocation x = x.allocation := by
    unfold usedAllocation
    rw [hadaptive]
    rfl
  constructor
  · intro h
    obtain ⟨_, hreview, haccount, hallocation, hgeometry, hbudget⟩ := gates_silent_iff.mp h
    obtain ⟨a, hacc, _⟩ := accountGate_eq_nil haccount
    rw [hgate] at hallocation
    cases hal : x.allocation with
    | none =>
      rw [hal] at hallocation
      cases hallocation
    | some al =>
      have hsized := gates_sizedWith h hacc (hused.trans hal)
      rw [hsized.account, hsized.allocation] at hbudget
      obtain ⟨hpositive, hleverage⟩ := budget_reasons_eq_nil_iff.mp hbudget
      rw [hacc] at haccount
      rw [hal] at hallocation
      obtain ⟨hvalid, haware, hproduced, hfresh, hweight, hchop, hbear, hbull⟩ :=
        allocationGate_eq_nil_iff.mp hallocation
      exact ⟨gates_admission h, reviewReasons_eq_nil_iff.mp hreview, a, al, hacc, rfl,
        (accountGate_eq_nil_iff hstrategy).mp haccount,
        ⟨hvalid, haware, hproduced, hfresh, hweight, hchop, hbear, hbull, hleverage⟩,
        geometryReasons_eq_nil_iff.mp hgeometry, hpositive⟩
  · rintro ⟨hnone, hreview, a, al, hacc, hal, haccount, hallocation, hordered, hpositive⟩
    have haccountGate := (accountGate_eq_nil_iff hstrategy).mpr haccount
    have hallocationGate : (p.allocationGate (some al) x.review.intent.strategyId
        x.review.intent.side x.decidedAtMs true).1 = [] :=
      allocationGate_eq_nil_iff.mpr ⟨hallocation.valid, hallocation.aware, hallocation.produced,
        hallocation.fresh, hallocation.weighted, hallocation.notChop, hallocation.bear,
        hallocation.bull⟩
    unfold gates
    rw [hgate, hacc, hal, hnone]
    dsimp only
    rw [accountGate_metrics haccountGate]
    simp only [List.append_eq_nil_iff]
    exact ⟨⟨⟨⟨⟨rfl, reviewReasons_eq_nil_iff.mpr hreview⟩, haccountGate⟩, hallocationGate⟩,
      geometryReasons_eq_nil_iff.mpr hordered⟩,
      budget_reasons_eq_nil_iff.mpr ⟨hpositive, hallocation.leverage⟩⟩

/-! ## The greatest affordable quantity -/

/-- The loss of a quantity is that of one unit, so many times. -/
theorem worstLoss_eq (quantity stopPrice entry : Rat) (side : Side) (venue : VenueQualityV1 Rat) :
    (economics quantity stopPrice entry side venue).worstLoss
      = quantity * lossPerUnit side stopPrice entry venue := by
  show quantity * PyFloat.abs (entry - stopPrice)
      + quantity * (entry + stopPrice) * venue.takerFeeBps / 10000
      + quantity * venue.venueMidPrice * sideSlippageBps side venue / 10000
    = quantity * (PyFloat.abs (entry - stopPrice)
      + (entry + stopPrice) * venue.takerFeeBps / 10000
      + venue.venueMidPrice * sideSlippageBps side venue / 10000)
  ring

section Capacity

variable {p : PaperRiskPipeline Rat D} {side : Side} {stopPrice entry : Rat}
  {venue : VenueQualityV1 Rat} {lossBudget leverage : Rat} {account : AccountMetrics Rat}
  {allocation : AllocationMetrics Rat} {reservations : PaperReservations Rat}

theorem notionalCap_pos_iff :
    0 < p.notionalCap venue leverage account allocation reservations
      ↔ ∀ cap ∈ p.notionalCaps venue leverage account allocation reservations, 0 < cap := by
  unfold notionalCap notionalCaps
  rw [PyFloat.rat_lt_min_iff]
  simp only [List.forall_mem_cons, PyFloat.rat_max_zero_pos_iff, List.not_mem_nil, false_implies,
    implies_true]

/-- There is a capacity exactly when a unit can lose something, the price is
positive, and so are the budget and every cap. -/
theorem sizeQuantity_pos_iff :
    0 < p.sizeQuantity side stopPrice entry venue lossBudget leverage account allocation
      reservations
      ↔ 0 < lossPerUnit side stopPrice entry venue ∧ 0 < lossBudget ∧ 0 < entry ∧
        ∀ cap ∈ p.notionalCaps venue leverage account allocation reservations, 0 < cap := by
  constructor
  · intro h
    obtain ⟨hcap, hquantity⟩ := sizeQuantity_pos h
    have hguard : 0 < lossPerUnit side stopPrice entry venue ∧ 0 < lossBudget := by
      by_contra hno
      have hzero : p.sizeQuantity side stopPrice entry venue lossBudget leverage account allocation
          reservations = 0 := by
        unfold sizeQuantity
        dsimp only
        apply if_pos
        show (false || decide (lossPerUnit side stopPrice entry venue ≤ 0)
          || decide (lossBudget ≤ 0)) = true
        rw [Bool.false_or, Bool.or_eq_true, decide_eq_true_eq, decide_eq_true_eq]
        by_contra hboth
        rw [not_or, not_le, not_le] at hboth
        exact hno hboth
      rw [hzero] at h
      exact absurd h (lt_irrefl 0)
    rw [hquantity, PyFloat.rat_max_zero_pos_iff, PyFloat.rat_lt_min_iff] at h
    have hshare :=
      h (p.notionalCap venue leverage account allocation reservations / entry) (by simp)
    exact ⟨hguard.1, hguard.2, (div_pos_iff_of_pos_left hcap).mp hshare,
      notionalCap_pos_iff.mp hcap⟩
  · rintro ⟨hloss, hbudget, hentry, hcaps⟩
    have hcap := notionalCap_pos_iff.mpr hcaps
    unfold sizeQuantity
    dsimp only
    rw [if_neg, if_neg]
    · refine PyFloat.rat_max_zero_pos_iff.mpr (PyFloat.rat_lt_min_iff.mpr ?_)
      intro y hy
      rcases List.mem_cons.mp hy with rfl | hy
      · exact div_pos hbudget hloss
      · rw [List.mem_singleton.mp hy]
        exact div_pos hcap hentry
    · show ¬(false || decide (p.notionalCap venue leverage account allocation reservations ≤ 0))
        = true
      simpa using hcap
    · show ¬(false || decide (lossPerUnit side stopPrice entry venue ≤ 0)
        || decide (lossBudget ≤ 0)) = true
      simpa using And.intro hloss hbudget

/-- **The capacity is the greatest quantity** within the loss budget and every cap. -/
theorem sizeQuantity_isGreatest
    (h : 0 < p.sizeQuantity side stopPrice entry venue lossBudget leverage account allocation
      reservations) :
    IsGreatest {quantity | quantity * lossPerUnit side stopPrice entry venue ≤ lossBudget ∧
        ∀ cap ∈ p.notionalCaps venue leverage account allocation reservations,
          quantity * entry ≤ cap}
      (p.sizeQuantity side stopPrice entry venue lossBudget leverage account allocation
        reservations) := by
  obtain ⟨hloss, _, hentry, _⟩ := sizeQuantity_pos_iff.mp h
  have hle := sizeQuantity_notional_le_iff h
  constructor
  · constructor
    · have hshare := (hle _).mpr (Or.inl (le_refl _))
      exact (le_div_iff₀ hloss).mp (le_of_mul_le_mul_right hshare hentry)
    · intro cap hcap
      exact (hle cap).mpr (Or.inr ⟨cap, hcap, le_refl cap⟩)
  · rintro quantity ⟨hbudget, hcaps⟩
    apply le_of_mul_le_mul_right _ hentry
    -- the capacity is worth no less than the budget, or than one of the caps
    rcases (hle _).mp (le_refl _) with hworth | ⟨cap, hcap, hworth⟩
    · have hshare := (le_div_iff₀ hloss).mpr hbudget
      exact le_trans (mul_le_mul_of_nonneg_right hshare hentry.le) hworth
    · exact le_trans (hcaps cap hcap) hworth

end Capacity

/-! ## Admission -/

/-- An approval that is consistent in itself. -/
structure SoundApproval (f : RiskTradeDecisionFields Rat) : Prop where
  approved : f.approved = true
  reasons : f.rejectionReasons = []
  paper : f.tradingMode = .paper
  dev : f.evedexProfile = .dev
  venueDev : f.venueQuality.profile = .dev
  sameIntent : f.intent = f.review.intent
  sameRoute : f.review.route.intent = f.intent
  allowed : f.review.decision = .allow
  sameSymbol : f.venueSymbol = f.venueQuality.symbol
  entryAllowed : f.venueQuality.entryAllowed = true
  reviewed : f.review.reviewedAtMs ≤ f.decidedAtMs
  eligible : f.intent.entryEligibleTsMs ≤ f.decidedAtMs
  unexpired : f.decidedAtMs ≤ f.intent.entryExpiresTsMs
  observed : f.venueQuality.observedAtMs ≤ f.decidedAtMs
  quality : f.decidedAtMs ≤ f.venueQuality.expiresAtMs
  exitPlan : f.exitPlan = f.intent.exitPlan
  quantity : 0 < f.quantity
  price : f.worstEntryPrice = worstEntry f.intent f.venueQuality
  leverage : 1 ≤ f.leverage
  notional : f.notionalUsd = f.quantity * f.worstEntryPrice
  lossBudget : 0 < f.lossBudgetUsd
  loss : f.worstCaseLossUsd ≤ f.lossBudgetUsd + 1 / 1000000
  costs : f.worstCaseLossUsd
    = f.quantity * PyFloat.abs (f.worstEntryPrice - f.exitPlan.stopPrice) + f.estimatedFeesUsd
      + f.estimatedSlippageUsd

/-- The contract constructs the approvals of a review at a venue that are
consistent in themselves. -/
def ConstructsApprovals (core : KairosCore Rat) (review : CandidateReviewV1 Rat)
    (venue : VenueQualityV1 Rat) : Prop :=
  ∀ f, f.review = review → f.venueQuality = venue → SoundApproval f →
    (core.decisionIds f).isSome = true

/-- The capacity of this call. -/
def tradeCapacity (p : PaperRiskPipeline Rat D) (x : PaperInputs Rat) (a : AccountSnapshotV2 Rat)
    (al : StrategicAllocation Rat) : Rat :=
  p.sizeQuantity x.review.intent.side x.review.intent.exitPlan.stopPrice
    (worstEntry x.review.intent x.venue) x.venue (p.accountLossBudget x a) (p.effectiveLeverage al)
    (accountMetrics a x.review.intent.strategyId)
    (allocationMetrics al x.review.intent.strategyId) x.reservations

section Admission

variable {p : PaperRiskPipeline Rat D} {x : PaperInputs Rat} {a : AccountSnapshotV2 Rat}
  {al : StrategicAllocation Rat}

theorem affordable_iff {quantity : Rat} : p.Affordable x a al quantity ↔
    quantity * tradeLossPerUnit x ≤ p.accountLossBudget x a ∧
      ∀ cap ∈ p.tradeCaps x a al, quantity * worstEntry x.review.intent x.venue ≤ cap := by
  constructor
  · rintro ⟨hloss, hnotional⟩
    rw [worstLoss_eq] at hloss
    exact ⟨hloss, hnotional⟩
  · rintro ⟨hloss, hnotional⟩
    refine ⟨?_, hnotional⟩
    rw [worstLoss_eq]
    exact hloss

/-- The capacity is the greatest affordable quantity. -/
theorem tradeCapacity_isGreatest (h : 0 < p.tradeCapacity x a al) :
    IsGreatest {quantity | p.Affordable x a al quantity} (p.tradeCapacity x a al) := by
  have hsets : {quantity | p.Affordable x a al quantity}
      = {quantity | quantity * tradeLossPerUnit x ≤ p.accountLossBudget x a ∧
        ∀ cap ∈ p.tradeCaps x a al, quantity * worstEntry x.review.intent x.venue ≤ cap} :=
    Set.ext fun _ => affordable_iff
  rw [hsets]
  exact sizeQuantity_isGreatest h

variable [PyDecimal D] [Spelling Rat D]

/-- Past silent gates, the sizing approves the capacity when it is positive and
worth the minimum notional. -/
theorem size_capacity_iff {quantity : Rat}
    (hstrategy : x.review.intent.strategyId ≠ paperCanaryStrategyId)
    (hgates : (p.gates x).reasons = []) (hsized : SizedWith p x a al) :
    p.size x (p.gates x) = .ok ([], quantity) ↔ quantity = p.tradeCapacity x a al ∧ 0 < quantity ∧
      p.settings.paperMinNotionalUsd
        ≤ quantity * worstEntry x.review.intent x.venue + 1 / 1000000000 := by
  rw [size_nil_iff hsized.account hsized.allocation]
  unfold selectQuantity
  rw [if_neg hstrategy, hsized.lossBudget, hsized.leverage]
  show _ ∧ Except.ok ([], p.tradeCapacity x a al) = Except.ok ([], quantity) ∧ ¬quantity ≤ 0 ∧
    ¬quantity * worstEntry x.review.intent x.venue + 1 / 1000000000
      < p.settings.paperMinNotionalUsd ↔ _
  rw [not_le, not_lt]
  constructor
  · rintro ⟨_, hquantity, hpositive, hminimum⟩
    cases hquantity
    exact ⟨rfl, hpositive, hminimum⟩
  · rintro ⟨rfl, hpositive, hminimum⟩
    exact ⟨hgates, rfl, hpositive, hminimum⟩

omit [PyDecimal D] [Spelling Rat D] in
/-- The check after the sizing, against rounding, has nothing to object to. -/
theorem Affordable.within {quantity : Rat} (h : p.Affordable x a al quantity)
    (hsized : SizedWith p x a al) :
    ¬(p.gates x).lossBudget + PyFloat.lit (1 / 1000000)
      < (economics quantity x.review.intent.exitPlan.stopPrice
        (worstEntry x.review.intent x.venue) x.review.intent.side x.venue).worstLoss := by
  rw [hsized.lossBudget]
  apply not_lt.mpr
  show _ ≤ p.accountLossBudget x a + 1 / 1000000
  have hloss := h.loss
  linarith

omit [PyDecimal D] [Spelling Rat D] in
/-- The leverage is never below one. -/
theorem gates_leverage : 1 ≤ (p.gates x).leverage := by
  show 1 ≤ (p.budget x.reservations _ _).leverage
  unfold budget
  split
  next =>
    dsimp only
    split
    next => exact le_refl 1
    next hbelow => exact not_lt.mp fun hlt => hbelow (decide_eq_true hlt)
  next => exact le_refl 1

omit [PyDecimal D] [Spelling Rat D] in
/-- What `evaluate` builds past silent gates is consistent in itself. -/
theorem decisionFields_sound (hdev : x.venue.profile = .dev) (hgates : (p.gates x).reasons = [])
    {quantity : Rat} (hpositive : 0 < quantity)
    (hloss : ¬(p.gates x).lossBudget + PyFloat.lit (1 / 1000000)
      < (economics quantity x.review.intent.exitPlan.stopPrice
        (worstEntry x.review.intent x.venue) x.review.intent.side x.venue).worstLoss) :
    SoundApproval (p.decisionFields x (p.gates x) [] quantity) := by
  obtain ⟨_, hreviewReasons, _⟩ := gates_reasons_eq_nil hgates
  have hreview := reviewReasons_eq_nil_iff.mp hreviewReasons
  obtain ⟨_, _, _, hbudget⟩ := gates_lossBudget hgates
  have htime : max x.decidedAtMs x.review.reviewedAtMs = x.decidedAtMs :=
    Int.max_eq_left hreview.reviewed
  unfold decisionFields
  dsimp only
  rw [decide_eq_false hloss, htime]
  exact {
    approved := rfl
    reasons := rfl
    paper := rfl
    dev := rfl
    venueDev := hdev
    sameIntent := rfl
    sameRoute := hreview.sameIntent
    allowed := hreview.allowed
    sameSymbol := rfl
    entryAllowed := hreview.entryAllowed
    reviewed := hreview.reviewed
    eligible := hreview.eligible
    unexpired := hreview.unexpired
    observed := hreview.observed
    quality := hreview.quality
    exitPlan := rfl
    quantity := hpositive
    price := rfl
    leverage := gates_leverage
    notional := rfl
    lossBudget := not_le.mp hbudget
    loss := not_lt.mp hloss
    costs := rfl }

/-- A sized quantity within the budget becomes an approval. -/
theorem sized_approved (hclock : 0 ≤ x.decidedAtMs) (hdev : x.venue.profile = .dev)
    (hcontract : ConstructsApprovals p.core x.review x.venue) {quantity : Rat}
    (hsize : p.size x (p.gates x) = .ok ([], quantity)) (hpositive : 0 < quantity)
    (hloss : ¬(p.gates x).lossBudget + PyFloat.lit (1 / 1000000)
      < (economics quantity x.review.intent.exitPlan.stopPrice
        (worstEntry x.review.intent x.venue) x.review.intent.side x.venue).worstLoss) :
    ∃ d, p.evaluate x = .ok d ∧ d.approved = true ∧ d.quantity = quantity ∧
      d.notionalUsd = quantity * worstEntry x.review.intent x.venue ∧
      d.lossBudgetUsd = (p.gates x).lossBudget := by
  have hgates := size_no_reasons hsize
  have hnone := gates_admission hgates
  have hsound := decisionFields_sound hdev hgates hpositive hloss
  obtain ⟨ids, hids⟩ := Option.isSome_iff_exists.mp (hcontract _ rfl rfl hsound)
  have hbuilt : p.core.riskTradeDecisionV1 (p.decisionFields x (p.gates x) [] quantity)
      = .ok ⟨p.decisionFields x (p.gates x) [] quantity, ids.decisionId, ids.tradeId⟩ := by
    unfold KairosCore.riskTradeDecisionV1
    rw [hids]
  obtain ⟨hd, ha⟩ := evaluate_approved_iff.mpr
    ⟨hclock, hdev, by simp [hnone], quantity, hsize, hloss, hbuilt⟩
  obtain ⟨quantity', hsize', _, hquantity, hnotional, hbudget⟩ := approved_sized hd ha
  rw [hsize] at hsize'
  cases hsize'
  exact ⟨_, hd, ha, hquantity, hnotional, hbudget⟩

omit [PyDecimal D] [Spelling Rat D] in
/-- Under the legacy profile the ceilings are those of the allocation given. -/
theorem usedAllocation_legacy (hlegacy : p.regimePolicy = none) :
    p.usedAllocation x = x.allocation := by
  unfold usedAllocation adaptive
  rw [hlegacy]
  rfl

/-- An approval met the conditions, and is of the greatest affordable quantity. -/
theorem approved_admits (hlegacy : p.regimePolicy = none)
    (hstrategy : x.review.intent.strategyId ≠ paperCanaryStrategyId) {d : RiskTradeDecisionV1 Rat}
    (h : p.evaluate x = .ok d) (ha : d.approved = true) :
    p.Admits x ∧ ∃ a al, x.account = some a ∧ x.allocation = some al ∧
      IsGreatest {quantity | p.Affordable x a al quantity} d.quantity := by
  have hclock := (evaluate_approved_iff.mp ⟨h, ha⟩).1
  obtain ⟨quantity, hsize, _, hfinal, _⟩ := approved_sized h ha
  have hgates := size_no_reasons hsize
  obtain ⟨hnone, hreview, a, al, hacc, hal, haccount, hallocation, hordered, hbudget⟩ :=
    (gates_reasons_eq_nil_iff hlegacy hstrategy).mp hgates
  have hsized := gates_sizedWith hgates hacc ((usedAllocation_legacy hlegacy).trans hal)
  obtain ⟨hquantity, hpositive, hminimum⟩ := (size_capacity_iff hstrategy hgates hsized).mp hsize
  rw [hquantity] at hpositive hminimum
  have hgreatest := tradeCapacity_isGreatest hpositive
  obtain ⟨hlossPerUnit, _, hprice, hcaps⟩ := sizeQuantity_pos_iff.mp hpositive
  have hfits : p.SizeAdmits x a al :=
    ⟨hordered, hprice, hlossPerUnit, hbudget, hcaps, _, hgreatest.1, hminimum⟩
  rw [hfinal, hquantity]
  exact ⟨⟨hclock, hnone, hreview, a, al, hacc, hal, haccount, hallocation, hfits⟩, a, al, hacc, hal,
    hgreatest⟩

/-- A call that meets the conditions is approved. -/
theorem admitted_approved (hlegacy : p.regimePolicy = none)
    (hstrategy : x.review.intent.strategyId ≠ paperCanaryStrategyId)
    (hdev : x.venue.profile = .dev) (hcontract : ConstructsApprovals p.core x.review x.venue)
    (h : p.Admits x) : ∃ d, p.evaluate x = .ok d ∧ d.approved = true := by
  obtain ⟨hclock, hnone, hreview, a, al, hacc, hal, haccount, hallocation, hsize⟩ := h
  have hgates := (gates_reasons_eq_nil_iff hlegacy hstrategy).mpr
    ⟨hnone, hreview, a, al, hacc, hal, haccount, hallocation, hsize.ordered, hsize.lossBudget⟩
  have hsized := gates_sizedWith hgates hacc ((usedAllocation_legacy hlegacy).trans hal)
  have hpositive : 0 < p.tradeCapacity x a al :=
    sizeQuantity_pos_iff.mpr ⟨hsize.lossPerUnit, hsize.lossBudget, hsize.price, hsize.caps⟩
  have hgreatest := tradeCapacity_isGreatest hpositive
  have hminimum : p.settings.paperMinNotionalUsd
      ≤ p.tradeCapacity x a al * worstEntry x.review.intent x.venue + 1 / 1000000000 := by
    obtain ⟨quantity, haffordable, hle⟩ := hsize.minimum
    have hworth := mul_le_mul_of_nonneg_right (hgreatest.2 haffordable) hsize.price.le
    linarith
  have hfits := (size_capacity_iff hstrategy hgates hsized).mpr ⟨rfl, hpositive, hminimum⟩
  obtain ⟨d, hd, ha, _⟩ :=
    sized_approved hclock hdev hcontract hfits hpositive (hgreatest.1.within hsized)
  exact ⟨d, hd, ha⟩

end Admission

end PaperRiskPipeline

namespace Scenario

/-- The contract constructs what is about an idea of the table. -/
theorem market_constructs (observedAtMs : Int) :
    ConstructsApprovals market.core ideaA.review (venue "BTCUSD:DEV" observedAtMs) := by
  intro f hreview hvenue hf
  have hsymbol : f.venueSymbol = "BTCUSD:DEV" := by
    rw [hf.sameSymbol, hvenue]
    rfl
  have habout : ideaA.about f = true := by
    unfold Idea.about
    rw [hf.sameIntent, hreview, hsymbol, decide_eq_true rfl, decide_eq_true rfl]
    rfl
  have hfind : [ideaA, ideaB].find? (fun i => i.about f) = some ideaA :=
    List.find?_cons_of_pos habout
  show (([ideaA, ideaB].find? fun i => i.about f).map _).isSome = true
  rw [hfind]
  rfl

end Scenario

end KairosRisk
