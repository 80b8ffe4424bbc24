import KairosRisk.Scenario
import Mathlib.Algebra.Order.Field.Basic
import Mathlib.Algebra.Order.Ring.Rat
import Mathlib.Tactic.Linarith

/-!
# PAPER leverage and the portfolio

A PAPER approval carries `min(paper_max_leverage, macro leverage)` as its
leverage. The sizing applies it to the margin of the new trade alone: the cap
on the gross notional of the portfolio is taken at the macro's own leverage.
Where the macro allows more than the configured maximum, the portfolio can
outgrow the configured one, and with it the reserve the macro sets aside.

The notional of an approval is the least of seven figures
(`approved_notional`), so the portfolio stays within the leverage of the
decision exactly when one of the seven fits the room that leverage leaves
(`paper_leverage_ceiling_iff`).
-/

namespace KairosRisk

open PyLib PaperRiskPipeline

namespace PaperRiskPipeline

section Approval

variable {F D : Type} [PyFloat F]

/-- The allocation whose ceilings `evaluate` applies. -/
def usedAllocation (p : PaperRiskPipeline F D) (x : PaperInputs F) :
    Option (StrategicAllocation F) :=
  if p.adaptive x.review.intent then x.regimeAllocation.map fun b => b.capitalBasis.allocation
  else x.allocation

/-- What the sizing is given of an account without pending entries. -/
def accountMetrics (a : AccountSnapshotV2 F) (strategyId : String) : AccountMetrics F where
  equityUsd := a.equityUsd
  availableBalanceUsd := a.availableBalanceUsd
  totalOpenRiskUsd := a.totalOpenRiskUsd
  grossNotionalUsd :=
    PyFloat.sum (a.positions.map fun q => PyFloat.abs q.signedQuantity * q.markPrice)
  strategyNotionalUsd :=
    PyFloat.sum ((a.positions.filter fun q => q.strategyId == strategyId).map fun q =>
      PyFloat.abs q.signedQuantity * q.markPrice)

/-- What the sizing is given of an allocation. -/
def allocationMetrics (al : StrategicAllocation F) (strategyId : String) : AllocationMetrics F where
  strategyId := strategyId
  stableReserveFraction := al.stableReservePct
  strategyWeight := (al.strategyWeights.lookup strategyId).getD (PyFloat.lit 0)
  maxGrossLeverage := al.maxGrossLeverage

/-- An order that is no entry changes nothing. -/
theorem pendingOrder_of_ne_entry {strategyId : String} {acc : List String × F × F}
    {order : OpenOrderSnapshotV2 F} (h : order.orderRole ≠ .entry) :
    pendingOrder strategyId acc order = acc := by
  unfold pendingOrder
  exact if_pos h

/-- An entry order leaves a reason, whatever its quantity and price. -/
theorem pendingOrder_entry {strategyId : String} {acc : List String × F × F}
    {order : OpenOrderSnapshotV2 F} (h : order.orderRole = .entry) :
    (pendingOrder strategyId acc order).1 ≠ [] := by
  unfold pendingOrder
  dsimp only
  rw [if_neg (not_not_intro h)]
  split
  · simp
  · split
    · simp
    · simp

/-- Orders that raised nothing added nothing: none of them is an entry. -/
theorem pendingOrder_fold (strategyId : String) : ∀ (orders : List (OpenOrderSnapshotV2 F))
    (reasons : List String) (gross strategy : F),
    (orders.foldl (pendingOrder strategyId) (reasons, gross, strategy)).1 = [] →
    reasons = [] ∧ (∀ o ∈ orders, o.orderRole ≠ .entry) ∧
      orders.foldl (pendingOrder strategyId) (reasons, gross, strategy) = ([], gross, strategy)
  | [], reasons, gross, strategy, h => by
    have hreasons : reasons = [] := h
    rw [hreasons]
    exact ⟨rfl, nofun, rfl⟩
  | order :: orders, reasons, gross, strategy, h => by
    rw [List.foldl_cons] at h ⊢
    rcases hnext : pendingOrder strategyId (reasons, gross, strategy) order with
      ⟨reasons', gross', strategy'⟩
    rw [hnext] at h
    obtain ⟨hreasons, hrest, hfold⟩ :=
      pendingOrder_fold strategyId orders reasons' gross' strategy' h
    have hrole : order.orderRole ≠ .entry := by
      intro hentry
      have hnone := (congrArg Prod.fst hnext).trans hreasons
      exact pendingOrder_entry hentry hnone
    rw [pendingOrder_of_ne_entry hrole] at hnext
    cases hnext
    exact ⟨hreasons, List.forall_mem_cons.mpr ⟨hrole, hrest⟩, hfold⟩

/-- Orders none of which is an entry leave the figures as they are. -/
theorem pendingOrder_fold_of_ne_entry (strategyId : String) (acc : List String × F × F) :
    ∀ (orders : List (OpenOrderSnapshotV2 F)), (∀ o ∈ orders, o.orderRole ≠ .entry) →
      orders.foldl (pendingOrder strategyId) acc = acc
  | [], _ => rfl
  | order :: orders, h => by
    obtain ⟨hrole, hrest⟩ := List.forall_mem_cons.mp h
    rw [List.foldl_cons, pendingOrder_of_ne_entry hrole]
    exact pendingOrder_fold_of_ne_entry strategyId acc orders hrest

/-- The account gate without a reason passes the account's own figures on. -/
theorem accountGate_metrics {p : PaperRiskPipeline F D} {a : AccountSnapshotV2 F}
    {venueSymbol strategyId : String} {decidedAtMs : Int} {reservations : PaperReservations F}
    (h : (p.accountGate (some a) venueSymbol strategyId decidedAtMs reservations).1 = []) :
    (p.accountGate (some a) venueSymbol strategyId decidedAtMs reservations).2
      = some (accountMetrics a strategyId) := by
  unfold accountGate at h ⊢
  dsimp only at h ⊢
  have hpending := (List.append_eq_nil_iff.mp h).2
  rw [(pendingOrder_fold strategyId a.openOrders _ _ _ hpending).2.2]
  rfl

variable [DecidableEq F]

/-- The allocation gate without a reason passes the figures of the allocation on. -/
theorem selectedAllocationGate_used {p : PaperRiskPipeline F D} {x : PaperInputs F}
    {al : StrategicAllocation F} (h : (p.selectedAllocationGate x).1 = [])
    (hal : p.usedAllocation x = some al) :
    (p.selectedAllocationGate x).2 = some (allocationMetrics al x.review.intent.strategyId) := by
  unfold selectedAllocationGate usedAllocation at *
  by_cases ha : p.adaptive x.review.intent = true
  · -- under the adaptive profile the figures are those of the binding
    simp only [if_pos ha] at h hal ⊢
    obtain ⟨binding, hbinding, rfl⟩ := Option.map_eq_some_iff.mp hal
    rw [hbinding] at h ⊢
    unfold adaptiveAllocationGate at h ⊢
    dsimp only at h ⊢
    by_cases hadmits : p.regimeBindingAdmits binding x.review.intent x.account x.decidedAtMs = true
    · rw [if_pos hadmits]
      rfl
    · rw [if_neg hadmits] at h
      cases h
  · simp only [if_neg ha] at h hal ⊢
    rw [hal]
    rfl

variable [PyDecimal D] [Spelling F D] {p : PaperRiskPipeline F D} {x : PaperInputs F}
  {d : RiskTradeDecisionV1 F} {a : AccountSnapshotV2 F} {al : StrategicAllocation F}

/-- The figures an approval was sized with. -/
structure SizedWith (p : PaperRiskPipeline F D) (x : PaperInputs F) (a : AccountSnapshotV2 F)
    (al : StrategicAllocation F) : Prop where
  account : (p.gates x).accountMetrics = some (accountMetrics a x.review.intent.strategyId)
  allocation : (p.gates x).allocationMetrics
    = some (allocationMetrics al x.review.intent.strategyId)
  lossBudget : (p.gates x).lossBudget =
    PyFloat.min (a.equityUsd * p.settings.paperPerTradeRiskFraction)
      [p.remainingOpenRisk (accountMetrics a x.review.intent.strategyId) x.reservations]
  leverage : (p.gates x).leverage = PyFloat.min p.settings.paperMaxLeverage [al.maxGrossLeverage]

omit [PyDecimal D] [Spelling F D] in
theorem gates_sizedWith (h : (p.gates x).reasons = []) (hacc : x.account = some a)
    (hal : p.usedAllocation x = some al) : SizedWith p x a al := by
  obtain ⟨_, _, haccount, hallocation, hbudget⟩ := gates_reasons_eq_nil h
  have ham : (p.gates x).accountMetrics = some (accountMetrics a x.review.intent.strategyId) := by
    rw [hacc] at haccount
    unfold gates
    rw [hacc]
    exact accountGate_metrics haccount
  have hlm : (p.gates x).allocationMetrics
      = some (allocationMetrics al x.review.intent.strategyId) :=
    selectedAllocationGate_used hallocation hal
  rw [ham, hlm] at hbudget
  have hgates : p.budget x.reservations (p.gates x).accountMetrics (p.gates x).allocationMetrics
      = p.budget x.reservations (some (accountMetrics a x.review.intent.strategyId))
        (some (allocationMetrics al x.review.intent.strategyId)) := by
    rw [ham, hlm]
  refine { account := ham, allocation := hlm, lossBudget := ?_, leverage := ?_ }
  · exact congrArg Budget.lossBudget hgates
  · refine (congrArg Budget.leverage hgates).trans ?_
    -- the gates let nothing below one through
    have hone := reasonIf_eq_nil.mp (List.append_eq_nil_iff.mp hbudget).2
    unfold budget
    dsimp only
    rw [hone]
    rfl

/-- **The quantity of an approval** that is not the canary's is the capacity. -/
theorem approved_quantity (h : p.evaluate x = .ok d) (ha : d.approved = true)
    (hstrategy : x.review.intent.strategyId ≠ paperCanaryStrategyId)
    (hacc : x.account = some a) (hal : p.usedAllocation x = some al) :
    d.notionalUsd = d.quantity * worstEntry x.review.intent x.venue ∧
      ¬d.quantity ≤ PyFloat.lit 0 ∧
      d.quantity = p.sizeQuantity x.review.intent.side x.review.intent.exitPlan.stopPrice
        (worstEntry x.review.intent x.venue) x.venue (p.gates x).lossBudget (p.gates x).leverage
        (accountMetrics a x.review.intent.strategyId)
        (allocationMetrics al x.review.intent.strategyId) x.reservations := by
  have happroves := evaluate_approves h ha
  have hsized := gates_sizedWith happroves.gates hacc hal
  obtain ⟨_, _, reasons, quantity, hsize, hf⟩ := evaluate_ok h
  have hreasons := happroves.approved_iff.mp ha
  rw [hf] at hreasons
  obtain ⟨hnil, hloss⟩ := List.append_eq_nil_iff.mp hreasons
  have hwithin := reasonIf_eq_nil.mp hloss
  subst hnil
  -- the loss check at the end would have zeroed the quantity
  have hquantity : d.quantity = quantity := by
    rw [hf]
    simp only [decisionFields, hwithin, List.nil_append]
    rfl
  have hnotional : d.notionalUsd = d.quantity * worstEntry x.review.intent x.venue := by
    rw [hf]
    rfl
  refine ⟨hnotional, ?_⟩
  unfold size selectQuantity at hsize
  rw [happroves.gates, hsized.account, hsized.allocation] at hsize
  dsimp only at hsize
  rw [if_neg hstrategy] at hsize
  dsimp only [bind, Except.bind] at hsize
  rw [hquantity]
  split at hsize
  next => simp [pure, Except.pure] at hsize
  next hpositive =>
    split at hsize
    next => simp [pure, Except.pure] at hsize
    next =>
      cases hsize
      exact ⟨hpositive, rfl⟩

end Approval

/-! ## Exact sizes -/

section Exact

variable {D : Type}

/-- The loss of one unit at the stop. -/
def lossPerUnit (side : Side) (stopPrice worstEntry : Rat) (venue : VenueQualityV1 Rat) : Rat :=
  PyFloat.abs (worstEntry - stopPrice) + (worstEntry + stopPrice) * venue.takerFeeBps / 10000
    + venue.venueMidPrice * sideSlippageBps side venue / 10000

section Caps

variable (p : PaperRiskPipeline Rat D) (venue : VenueQualityV1 Rat) (leverage : Rat)
  (account : AccountMetrics Rat) (allocation : AllocationMetrics Rat)
  (reservations : PaperReservations Rat)

/-- What the margin has room for. -/
def marginCap : Rat :=
  PyFloat.min account.availableBalanceUsd
    [account.equityUsd * (1 - allocation.stableReserveFraction)] * leverage
      - reservations.notionalUsd

/-- What the macro's gross leverage has room for. -/
def grossRemainder : Rat :=
  account.equityUsd * (1 - allocation.stableReserveFraction) * allocation.maxGrossLeverage
    - account.grossNotionalUsd - reservations.notionalUsd

/-- What the strategy's share has room for. -/
def strategyRemainder : Rat :=
  account.equityUsd * allocation.strategyWeight * allocation.maxGrossLeverage
    - account.strategyNotionalUsd - reservations.notionalForStrategy allocation.strategyId

/-- The notional caps of `_size_quantity`, before `max(0, ...)`. -/
def notionalCaps : List Rat :=
  [p.settings.paperMaxPositionNotionalUsd, venue.assessedNotionalUsd, venue.depthUsd,
    marginCap leverage account allocation reservations,
    grossRemainder account allocation reservations,
    strategyRemainder account allocation reservations]

/-- `notional_cap`. -/
def notionalCap : Rat :=
  PyFloat.min p.settings.paperMaxPositionNotionalUsd
    [venue.assessedNotionalUsd, venue.depthUsd,
      PyFloat.max 0 [marginCap leverage account allocation reservations],
      PyFloat.max 0 [grossRemainder account allocation reservations],
      PyFloat.max 0 [strategyRemainder account allocation reservations]]

variable {p venue leverage account allocation reservations}

/-- A positive cap is the least of the caps. -/
theorem notionalCap_le_iff (h : 0 < p.notionalCap venue leverage account allocation reservations)
    (c : Rat) :
    p.notionalCap venue leverage account allocation reservations ≤ c
      ↔ ∃ cap ∈ p.notionalCaps venue leverage account allocation reservations, cap ≤ c := by
  unfold notionalCap at h ⊢
  have hpositive := PyFloat.rat_lt_min_iff.mp h
  rw [PyFloat.rat_max_zero (hpositive (PyFloat.max 0 [marginCap leverage account allocation
      reservations]) (by simp)),
    PyFloat.rat_max_zero (hpositive (PyFloat.max 0 [grossRemainder account allocation
      reservations]) (by simp)),
    PyFloat.rat_max_zero (hpositive (PyFloat.max 0 [strategyRemainder account allocation
      reservations]) (by simp)),
    PyFloat.rat_min_le_iff]
  rfl

end Caps

/-- A smaller of two quotients by a positive price, taken times the price. -/
theorem min_mul_le_iff {risk cap entry c : Rat} (hentry : 0 < entry) :
    PyFloat.min risk [cap / entry] * entry ≤ c ↔ risk * entry ≤ c ∨ cap ≤ c := by
  rw [← le_div_iff₀ hentry, PyFloat.rat_min_le_iff]
  simp only [List.mem_cons, List.not_mem_nil, or_false, exists_eq_or_imp, exists_eq_left]
  rw [le_div_iff₀ hentry, div_le_div_iff_of_pos_right hentry]

section Capacity

variable {p : PaperRiskPipeline Rat D} {side : Side} {stopPrice worstEntry : Rat}
  {venue : VenueQualityV1 Rat} {lossBudget leverage : Rat} {account : AccountMetrics Rat}
  {allocation : AllocationMetrics Rat} {reservations : PaperReservations Rat}

/-- A positive capacity got through both refusals of `_size_quantity`. -/
theorem sizeQuantity_pos (h : 0 < p.sizeQuantity side stopPrice worstEntry venue lossBudget leverage
      account allocation reservations) :
    0 < p.notionalCap venue leverage account allocation reservations ∧
      p.sizeQuantity side stopPrice worstEntry venue lossBudget leverage account allocation
          reservations
        = PyFloat.max 0 [PyFloat.min (lossBudget / lossPerUnit side stopPrice worstEntry venue)
          [p.notionalCap venue leverage account allocation reservations / worstEntry]] := by
  unfold sizeQuantity at h ⊢
  dsimp only at h ⊢
  split at h
  next => exact absurd h Rat.lt_irrefl
  next hguard =>
    rw [if_neg hguard]
    split at h
    next => exact absurd h Rat.lt_irrefl
    next hcap =>
      rw [if_neg hcap]
      rw [PyFloat.rat_isFinite, Bool.not_true, Bool.false_or, decide_eq_true_eq] at hcap
      exact ⟨Rat.not_le.mp hcap, rfl⟩

/-- **What a positive capacity is worth**: the least of the loss budget's
notional and the caps. -/
theorem sizeQuantity_notional_le_iff (h : 0 < p.sizeQuantity side stopPrice worstEntry venue
      lossBudget leverage account allocation reservations) (c : Rat) :
    p.sizeQuantity side stopPrice worstEntry venue lossBudget leverage account allocation
        reservations * worstEntry ≤ c
      ↔ lossBudget / lossPerUnit side stopPrice worstEntry venue * worstEntry ≤ c
        ∨ ∃ cap ∈ p.notionalCaps venue leverage account allocation reservations, cap ≤ c := by
  obtain ⟨hcap, hquantity⟩ := sizeQuantity_pos h
  rw [hquantity] at h ⊢
  have hleast := PyFloat.rat_max_zero h
  rw [hleast] at h ⊢
  -- a price that is not positive would leave no quantity
  have hshare : 0 < p.notionalCap venue leverage account allocation reservations / worstEntry :=
    PyFloat.rat_lt_min_iff.mp h _ (by simp)
  have hentry : 0 < worstEntry := by
    by_contra hnonpositive
    have := div_nonpos_of_nonneg_of_nonpos (le_of_lt hcap) (not_lt.mp hnonpositive)
    exact absurd hshare (not_lt.mpr this)
  rw [min_mul_le_iff hentry, notionalCap_le_iff hcap]

end Capacity

/-! ## The ceiling -/

/-- The gross notional of the account's positions. -/
def openNotional (a : AccountSnapshotV2 Rat) : Rat :=
  (a.positions.map fun q => PyFloat.abs q.signedQuantity * q.markPrice).sum

/-- The equity the macro does not reserve. -/
def deployable (a : AccountSnapshotV2 Rat) (al : StrategicAllocation Rat) : Rat :=
  a.equityUsd * (1 - al.stableReservePct)

/-- The leverage of an approval. -/
def effectiveLeverage (p : PaperRiskPipeline Rat D) (al : StrategicAllocation Rat) : Rat :=
  PyFloat.min p.settings.paperMaxLeverage [al.maxGrossLeverage]

/-- What that leverage, taken of the whole portfolio, leaves for a trade. -/
def leverageRoom (p : PaperRiskPipeline Rat D) (x : PaperInputs Rat) (a : AccountSnapshotV2 Rat)
    (al : StrategicAllocation Rat) : Rat :=
  p.effectiveLeverage al * deployable a al - openNotional a - x.reservations.notionalUsd

/-- The notional that would lose the loss budget at the stop. -/
def lossBudgetNotional (p : PaperRiskPipeline Rat D) (x : PaperInputs Rat)
    (a : AccountSnapshotV2 Rat) : Rat :=
  let intent := x.review.intent
  let entry := worstEntry intent x.venue
  PyFloat.min (a.equityUsd * p.settings.paperPerTradeRiskFraction)
      [p.remainingOpenRisk (accountMetrics a intent.strategyId) x.reservations]
    / lossPerUnit intent.side intent.exitPlan.stopPrice entry x.venue * entry

/-- Something keeps the trade within that room. -/
inductive KeepsLeverage (p : PaperRiskPipeline Rat D) (x : PaperInputs Rat)
    (a : AccountSnapshotV2 Rat) (al : StrategicAllocation Rat) : Prop
  /-- The macro allows no more than the settings, or nothing is deployable. -/
  | macroLeverage (h : al.maxGrossLeverage * deployable a al
      ≤ p.effectiveLeverage al * deployable a al)
  /-- The open positions tie up as much of the available balance as they have notional. -/
  | margin (h : openNotional a ≤ p.effectiveLeverage al
      * (deployable a al - PyFloat.min a.availableBalanceUsd [deployable a al]))
  | lossBudget (h : p.lossBudgetNotional x a ≤ p.leverageRoom x a al)
  | position (h : p.settings.paperMaxPositionNotionalUsd ≤ p.leverageRoom x a al)
  | assessed (h : x.venue.assessedNotionalUsd ≤ p.leverageRoom x a al)
  | depth (h : x.venue.depthUsd ≤ p.leverageRoom x a al)
  | strategyShare (h : strategyRemainder (accountMetrics a x.review.intent.strategyId)
      (allocationMetrics al x.review.intent.strategyId) x.reservations ≤ p.leverageRoom x a al)

section Room

variable {p : PaperRiskPipeline Rat D} {x : PaperInputs Rat} {a : AccountSnapshotV2 Rat}
  {al : StrategicAllocation Rat}

/-- It is so whenever the macro allows no more leverage than the settings. -/
theorem KeepsLeverage.of_macro_le (h : al.maxGrossLeverage ≤ p.settings.paperMaxLeverage) :
    p.KeepsLeverage x a al := by
  have hmin : p.effectiveLeverage al = al.maxGrossLeverage := by
    apply le_antisymm
    · exact (PyFloat.rat_min_le_iff _ _).mpr ⟨al.maxGrossLeverage, by simp, le_refl _⟩
    · apply Rat.not_lt.mp
      intro hlt
      obtain ⟨y, hy, hyl⟩ := (PyFloat.rat_min_le_iff _ _).mp (le_refl (p.effectiveLeverage al))
      rcases List.mem_cons.mp hy with rfl | hy
      · linarith
      · rw [List.mem_singleton.mp hy] at hyl
        linarith
  apply KeepsLeverage.macroLeverage
  rw [hmin]

/-- The macro's remainder is the room, but for the leverage. -/
theorem grossRemainder_le_room_iff (strategyId : String) :
    grossRemainder (accountMetrics a strategyId) (allocationMetrics al strategyId) x.reservations
        ≤ p.leverageRoom x a al
      ↔ al.maxGrossLeverage * deployable a al ≤ p.effectiveLeverage al * deployable a al := by
  show a.equityUsd * (1 - al.stableReservePct) * al.maxGrossLeverage - openNotional a
    - x.reservations.notionalUsd ≤ p.leverageRoom x a al ↔ _
  unfold leverageRoom deployable
  constructor
  · intro h
    linarith
  · intro h
    linarith

/-- The margin is taken of the balance that is left, the room of the whole equity. -/
theorem marginCap_le_room_iff (strategyId : String) :
    marginCap (p.effectiveLeverage al) (accountMetrics a strategyId)
        (allocationMetrics al strategyId) x.reservations ≤ p.leverageRoom x a al
      ↔ openNotional a ≤ p.effectiveLeverage al
        * (deployable a al - PyFloat.min a.availableBalanceUsd [deployable a al]) := by
  show PyFloat.min a.availableBalanceUsd [deployable a al] * p.effectiveLeverage al
    - x.reservations.notionalUsd ≤ p.leverageRoom x a al ↔ _
  unfold leverageRoom
  constructor
  · intro h
    linarith
  · intro h
    linarith

end Room

section Ceiling

variable [PyDecimal D] [Spelling Rat D] {p : PaperRiskPipeline Rat D} {x : PaperInputs Rat}
  {d : RiskTradeDecisionV1 Rat} {a : AccountSnapshotV2 Rat} {al : StrategicAllocation Rat}

/-- **The portfolio stays within the leverage of an approval exactly when** the
macro allows no more than the settings, the open positions tie up the available
balance, or another limit of the sizing fits the room that is left. -/
theorem paper_leverage_ceiling_iff (h : p.evaluate x = .ok d) (ha : d.approved = true)
    (hstrategy : x.review.intent.strategyId ≠ paperCanaryStrategyId)
    (hacc : x.account = some a) (hal : p.usedAllocation x = some al) :
    d.leverage = PyFloat.min p.settings.paperMaxLeverage [al.maxGrossLeverage] ∧
    (openNotional a + x.reservations.notionalUsd + d.notionalUsd
        ≤ d.leverage * (a.equityUsd * (1 - al.stableReservePct))
      ↔ p.KeepsLeverage x a al) := by
  have happroves := evaluate_approves h ha
  have hsized := gates_sizedWith happroves.gates hacc hal
  have hleverage : d.leverage = p.effectiveLeverage al := happroves.leverage.trans hsized.leverage
  refine ⟨hleverage, ?_⟩
  obtain ⟨hnotional, hpositive, hquantity⟩ := approved_quantity h ha hstrategy hacc hal
  have hpositive := Rat.not_le.mp hpositive
  rw [hquantity] at hpositive
  have hiff := sizeQuantity_notional_le_iff hpositive (p.leverageRoom x a al)
  rw [← hquantity, ← hnotional] at hiff
  have hroom : openNotional a + x.reservations.notionalUsd + d.notionalUsd
      ≤ d.leverage * (a.equityUsd * (1 - al.stableReservePct))
      ↔ d.notionalUsd ≤ p.leverageRoom x a al := by
    rw [hleverage]
    unfold leverageRoom deployable
    constructor
    · intro hle
      linarith
    · intro hle
      linarith
  -- the notional fits exactly when one of the caps it is the least of does
  rw [hroom, hiff, hsized.lossBudget, hsized.leverage]
  simp only [notionalCaps, List.mem_cons, List.not_mem_nil, or_false, exists_eq_or_imp,
    exists_eq_left]
  constructor
  · rintro (hloss | hposition | hassessed | hdepth | hmargin | hgross | hstrategy)
    · exact .lossBudget hloss
    · exact .position hposition
    · exact .assessed hassessed
    · exact .depth hdepth
    · exact .margin ((marginCap_le_room_iff _).mp hmargin)
    · exact .macroLeverage ((grossRemainder_le_room_iff _).mp hgross)
    · exact .strategyShare hstrategy
  · intro hkeeps
    cases hkeeps with
    | lossBudget hloss => exact .inl hloss
    | position hposition => exact .inr (.inl hposition)
    | assessed hassessed => exact .inr (.inr (.inl hassessed))
    | depth hdepth => exact .inr (.inr (.inr (.inl hdepth)))
    | margin hmargin =>
      exact .inr (.inr (.inr (.inr (.inl ((marginCap_le_room_iff _).mpr hmargin)))))
    | macroLeverage hgross =>
      exact .inr (.inr (.inr (.inr (.inr (.inl ((grossRemainder_le_room_iff _).mpr hgross))))))
    | strategyShare hstrategy => exact .inr (.inr (.inr (.inr (.inr (.inr hstrategy)))))

end Ceiling

end Exact

end PaperRiskPipeline

namespace Scenario

/-- An account that holds 79 of another symbol at 100, its stop at the entry. -/
def investedAccount : AccountSnapshotV2 Rat :=
  { account 1 60200 with
    availableBalanceUsd := 2100
    positions :=
      [{ tradeId := "trade-e", venueSymbol := "ETHUSD:DEV", strategyId := "other-strategy"
         strategyRevision := "1", intentId := "intent-e", riskDecisionId := "decision-e"
         side := .long, exitPlan := { stopPrice := 100, targetPrice := 105, maxHoldingMs := 180000 }
         signedQuantity := 79, entryPrice := 100, markPrice := 100 }] }

/-- The first idea, against an account: the macro allows a leverage of two, the
settings one, and a fifth of the equity of 10000 is the reserve. -/
def investing (a : AccountSnapshotV2 Rat) : PaperInputs Rat where
  review := ideaA.review
  venue := venue "BTCUSD:DEV" 60300
  account := some a
  allocation := some (allocation 58999)
  decidedAtMs := 60400
  systemMode := .normal
  reservations :=
    { symbols := [], openRiskUsd := 0, notionalUsd := 0, strategyNotionalUsd := []
      activeCanaryIdeas := 0 }
  admissionRejectionReasons := []
  regimeAllocation := none

/-- The decision against an account that holds nothing. -/
def firstInvestment : RiskTradeDecisionV1 Rat :=
  (market.evaluate (investing (account 1 60200))).toOption.get (by decide +kernel)

theorem first_investment_made :
    market.evaluate (investing (account 1 60200)) = .ok firstInvestment :=
  eq_ok_of_isSome (by decide +kernel)

/-- An account whose position of 2000 ties up as much of its deployable 8000. -/
def marginedAccount : AccountSnapshotV2 Rat :=
  { investedAccount with
    availableBalanceUsd := 6000
    positions := investedAccount.positions.map fun q => { q with signedQuantity := 20 } }

/-- The first idea against it, with 300 reserved on a third symbol. -/
def marginedInputs : PaperInputs Rat :=
  { investing marginedAccount with
    reservations :=
      { symbols := ["SOLUSD:DEV"], openRiskUsd := 15, notionalUsd := 300
        strategyNotionalUsd := [("other-strategy", 300)], activeCanaryIdeas := 0 } }

/-- The decision on them. -/
def marginedInvestment : RiskTradeDecisionV1 Rat :=
  (market.evaluate marginedInputs).toOption.get (by decide +kernel)

/-- With the open position on margin, the next investment stays out of the reserve. -/
theorem margined_investment_within :
    openNotional marginedAccount = 2000 ∧
    2000 + 300 + marginedInvestment.notionalUsd
      ≤ marginedInvestment.leverage * (10000 * (1 - 2 / 10)) := by
  have hmade : market.evaluate marginedInputs = .ok marginedInvestment :=
    eq_ok_of_isSome (by decide +kernel)
  have hused : market.usedAllocation marginedInputs = some (allocation 58999) := rfl
  have hopen : openNotional marginedAccount = 2000 := by decide +kernel
  refine ⟨hopen, hopen ▸ (paper_leverage_ceiling_iff hmade (by decide +kernel) (by decide) rfl
    hused).2.mpr (.margin (by decide +kernel))⟩

/-- The decision against the invested account. -/
def furtherInvestment : RiskTradeDecisionV1 Rat :=
  (market.evaluate (investing investedAccount)).toOption.get (by decide +kernel)

/-- **An approval that spends the reserve**: 7900 are open, and at a leverage of
one the macro left 8000. -/
theorem reserve_spent :
    market.evaluate (investing investedAccount) = .ok furtherInvestment ∧
    furtherInvestment.approved = true ∧
    ideaA.review.intent.strategyId ≠ paperCanaryStrategyId ∧
    furtherInvestment.leverage = 1 ∧
    furtherInvestment.leverage * (10000 * (1 - 2 / 10))
      < openNotional investedAccount + 0 + furtherInvestment.notionalUsd := by
  refine ⟨eq_ok_of_isSome (by decide +kernel), ?_, ?_, ?_, ?_⟩ <;> decide +kernel

end Scenario

end KairosRisk
