import KairosRisk.PipelineLimits
import KairosRisk.ReservationOrder

/-!
# Admission on a healthier account, and at another time

Two questions a trader asks of a refusal. Would it have passed with less at
stake elsewhere? An account that holds part of the positions, and has no less
equity, balance and realized result and no more open risk, admits whatever the
other admits, at least as large (`paper_admission_healthier`); for a canary the
lot stays what it is. Would it have passed a moment earlier, or later? The times
at which a call is admitted form an interval, on which the decision is the same
up to its time (`paper_admission_interval`).

Each compares the stages of `evaluate` on two calls that differ in one argument.
-/

namespace KairosRisk

open PyLib PaperRiskPipeline

namespace PaperRiskPipeline

variable {D : Type} {p : PaperRiskPipeline Rat D}

/-! ## A call that is no harder -/

/-- What one account leaves room for, the other does too. -/
structure Roomier (m m' : AccountMetrics Rat) : Prop where
  equity : m'.equityUsd ≤ m.equityUsd
  available : m'.availableBalanceUsd ≤ m.availableBalanceUsd
  openRisk : m.totalOpenRiskUsd ≤ m'.totalOpenRiskUsd
  gross : m.grossNotionalUsd ≤ m'.grossNotionalUsd
  strategy : m.strategyNotionalUsd ≤ m'.strategyNotionalUsd

theorem Roomier.refl (m : AccountMetrics Rat) : Roomier m m :=
  ⟨le_refl _, le_refl _, le_refl _, le_refl _, le_refl _⟩

/-- The figures of an allocation that is valid. -/
structure Apportions (l : AllocationMetrics Rat) : Prop where
  reserve : l.stableReserveFraction ≤ 1
  weight : 0 ≤ l.strategyWeight
  leverage : 0 ≤ l.maxGrossLeverage

section Stages

variable {m m' : AccountMetrics Rat} {l : AllocationMetrics Rat}
  {reservations : PaperReservations Rat}

theorem remainingOpenRisk_roomier (h : Roomier m m') :
    p.remainingOpenRisk m' reservations ≤ p.remainingOpenRisk m reservations := by
  show PyFloat.max 0 [m'.equityUsd * p.settings.paperMaxTotalOpenRiskFraction
      - m'.totalOpenRiskUsd - reservations.openRiskUsd]
    ≤ PyFloat.max 0 [m.equityUsd * p.settings.paperMaxTotalOpenRiskFraction
      - m.totalOpenRiskUsd - reservations.openRiskUsd]
  have hfraction : (0 : Rat) < p.settings.paperMaxTotalOpenRiskFraction :=
    p.settings.totalOpenRiskFraction_pos
  have hceiling := mul_le_mul_of_nonneg_right h.equity hfraction.le
  have hrisk := h.openRisk
  rw [PyFloat.rat_max_eq, PyFloat.rat_max_eq]
  apply max_le_max_left
  linarith

/-- The loss budget is no smaller with more room, and the leverage is the macro's. -/
theorem budget_roomier (h : Roomier m m') :
    (p.budget reservations (some m') (some l)).lossBudget
        ≤ (p.budget reservations (some m) (some l)).lossBudget ∧
      (p.budget reservations (some m) (some l)).leverage
        = (p.budget reservations (some m') (some l)).leverage ∧
      ((p.budget reservations (some m') (some l)).reasons = [] →
        (p.budget reservations (some m) (some l)).reasons = []) := by
  have hfraction : (0 : Rat) < p.settings.paperPerTradeRiskFraction :=
    p.settings.perTradeRiskFraction_pos
  have hbudget : (p.budget reservations (some m') (some l)).lossBudget
      ≤ (p.budget reservations (some m) (some l)).lossBudget := by
    apply PyFloat.rat_min_mono
    simp only [List.mem_cons, List.not_mem_nil, or_false]
    rintro y (rfl | rfl)
    · exact ⟨_, Or.inl rfl, mul_le_mul_of_nonneg_right h.equity hfraction.le⟩
    · exact ⟨_, Or.inr rfl, remainingOpenRisk_roomier h⟩
  refine ⟨hbudget, rfl, ?_⟩
  intro hsilent
  obtain ⟨hpositive, hleverage⟩ := List.append_eq_nil_iff.mp hsilent
  have hpositive' := not_le.mp (of_decide_eq_false (reasonIf_eq_nil.mp hpositive))
  refine List.append_eq_nil_iff.mpr ⟨reasonIf_eq_nil.mpr (decide_eq_false ?_), hleverage⟩
  exact not_le.mpr (lt_of_lt_of_le hpositive' hbudget)

/-- Each notional cap is no lower with more room. -/
theorem notionalCaps_roomier (h : Roomier m m') (hl : Apportions l) {venue : VenueQualityV1 Rat}
    {leverage cap : Rat} (hleverage : 0 ≤ leverage)
    (hcap : cap ∈ p.notionalCaps venue leverage m l reservations) :
    ∃ cap' ∈ p.notionalCaps venue leverage m' l reservations, cap' ≤ cap := by
  have hdeployable : m'.equityUsd * (1 - l.stableReserveFraction)
      ≤ m.equityUsd * (1 - l.stableReserveFraction) :=
    mul_le_mul_of_nonneg_right h.equity (by linarith [hl.reserve])
  simp only [notionalCaps, List.mem_cons, List.not_mem_nil, or_false, exists_eq_or_imp,
    exists_eq_left] at hcap ⊢
  rcases hcap with rfl | rfl | rfl | rfl | rfl | rfl
  · exact Or.inl (le_refl _)
  · exact Or.inr (Or.inl (le_refl _))
  · exact Or.inr (Or.inr (Or.inl (le_refl _)))
  · refine Or.inr (Or.inr (Or.inr (Or.inl ?_)))
    unfold marginCap
    apply sub_le_sub_right
    apply mul_le_mul_of_nonneg_right _ hleverage
    apply PyFloat.rat_min_mono
    simp only [List.mem_cons, List.not_mem_nil, or_false]
    rintro y (rfl | rfl)
    · exact ⟨_, Or.inl rfl, h.available⟩
    · exact ⟨_, Or.inr rfl, hdeployable⟩
  · refine Or.inr (Or.inr (Or.inr (Or.inr (Or.inl ?_))))
    unfold grossRemainder
    have hgross := h.gross
    have hscaled := mul_le_mul_of_nonneg_right hdeployable hl.leverage
    linarith
  · refine Or.inr (Or.inr (Or.inr (Or.inr (Or.inr ?_))))
    unfold strategyRemainder
    have hstrategy := h.strategy
    have hscaled := mul_le_mul_of_nonneg_right
      (mul_le_mul_of_nonneg_right h.equity hl.weight) hl.leverage
    linarith

/-- **The capacity** is no smaller under a larger budget and higher caps. -/
theorem sizeQuantity_roomier {side : Side} {stopPrice entry : Rat} {venue : VenueQualityV1 Rat}
    {lossBudget lossBudget' leverage : Rat} (hbudget : lossBudget' ≤ lossBudget)
    (h : Roomier m m') (hl : Apportions l) (hleverage : 0 ≤ leverage) :
    p.sizeQuantity side stopPrice entry venue lossBudget' leverage m' l reservations
      ≤ p.sizeQuantity side stopPrice entry venue lossBudget leverage m l reservations := by
  by_cases hpositive : 0 < p.sizeQuantity side stopPrice entry venue lossBudget' leverage m' l
    reservations
  · obtain ⟨hloss, hpositive', hentry, hcaps⟩ := sizeQuantity_pos_iff.mp hpositive
    have hroom : 0 < p.sizeQuantity side stopPrice entry venue lossBudget leverage m l
        reservations := by
      refine sizeQuantity_pos_iff.mpr ⟨hloss, lt_of_lt_of_le hpositive' hbudget, hentry, ?_⟩
      intro cap hcap
      obtain ⟨cap', hcap', hle⟩ := notionalCaps_roomier h hl hleverage hcap
      exact lt_of_lt_of_le (hcaps cap' hcap') hle
    -- what was affordable still is
    obtain ⟨⟨haffordable, hnotional⟩, _⟩ := sizeQuantity_isGreatest hpositive
    refine (sizeQuantity_isGreatest hroom).2 ⟨le_trans haffordable hbudget, ?_⟩
    intro cap hcap
    obtain ⟨cap', hcap', hle⟩ := notionalCaps_roomier h hl hleverage hcap
    exact le_trans (hnotional cap' hcap') hle
  · exact le_trans (not_lt.mp hpositive) sizeQuantity_nonneg

end Stages

/-- A valid allocation has a positive leverage. -/
theorem allocationError_leverage {allocation : StrategicAllocation Rat}
    (h : allocationError allocation = none) : 0 < allocation.maxGrossLeverage := by
  unfold allocationError at h
  dsimp only at h
  split at h
  next => cases h
  next =>
    split at h
    next => cases h
    next hleverage =>
      simp only [Bool.or_eq_true, decide_eq_true_eq, not_or, not_le] at hleverage
      exact hleverage.2

/-- A valid allocation apportions the equity. -/
theorem allocationGate_apportions {allocation : Option (StrategicAllocation Rat)}
    {strategyId : String} {side : Side} {decidedAtMs : Int} {legacy : Bool}
    (h : (p.allocationGate allocation strategyId side decidedAtMs legacy).1 = []) :
    ∃ l, (p.allocationGate allocation strategyId side decidedAtMs legacy).2 = some l ∧
      Apportions l := by
  cases allocation with
  | none => cases h
  | some al =>
    refine ⟨allocationMetrics al strategyId, rfl, ?_⟩
    unfold allocationGate at h
    dsimp only at h
    simp only [List.append_eq_nil_iff, reasonIf_eq_nil, Option.isSome_eq_false_iff,
      Option.isNone_iff_eq_none, decide_eq_false_iff_not] at h
    obtain ⟨⟨⟨hvalid, _⟩, hweight⟩, _⟩ := h
    have hreserve := allocationError_reserve hvalid.1
    have hleverage := allocationError_leverage hvalid.1
    exact ⟨hreserve, (not_le.mp hweight).le, hleverage.le⟩

theorem selectedAllocationGate_apportions {x : PaperInputs Rat}
    (h : (p.selectedAllocationGate x).1 = []) :
    ∃ l, (p.selectedAllocationGate x).2 = some l ∧ Apportions l := by
  unfold selectedAllocationGate at h ⊢
  by_cases ha : p.adaptive x.review.intent = true
  · simp only [if_pos ha] at h ⊢
    unfold adaptiveAllocationGate at h ⊢
    split at h
    next => cases h
    next =>
      split at h
      next hadmits =>
        rw [if_pos hadmits]
        exact allocationGate_apportions h
      next => cases h
  · simp only [if_neg ha] at h ⊢
    exact allocationGate_apportions h

end PaperRiskPipeline

/-! ## Accounts -/

/-- Part of the positions and orders, no less equity, balance and realized
result, no more open risk, seen no earlier. -/
structure Healthier (a a' : AccountSnapshotV2 Rat) : Prop where
  mode : a.tradingMode = a'.tradingMode
  profile : a.evedexProfile = a'.evedexProfile
  accountId : a.accountId = a'.accountId
  reconciled : a.reconciled = a'.reconciled
  sequence : a'.reconciliationSeq ≤ a.reconciliationSeq
  captured : a'.capturedAtMs ≤ a.capturedAtMs
  positions : a.positions.Subperm a'.positions
  orders : a.openOrders ⊆ a'.openOrders
  equity : a'.equityUsd ≤ a.equityUsd
  available : a'.availableBalanceUsd ≤ a.availableBalanceUsd
  openRisk : a.totalOpenRiskUsd ≤ a'.totalOpenRiskUsd
  realized : a'.dailyRealizedPnlUsd ≤ a.dailyRealizedPnlUsd
  dayStart : a.durableDayStartEquityUsd = a'.durableDayStartEquityUsd
  peak : a.durablePeakEquityUsd = a'.durablePeakEquityUsd

/-- The figures that are positive in every snapshot of an account, and an open
risk that is not understated. -/
structure Stated (a : AccountSnapshotV2 Rat) : Prop where
  dayStart : 0 < a.durableDayStartEquityUsd
  peak : 0 < a.durablePeakEquityUsd
  openRisk : (a.positions.map positionStopRisk).sum - 1 / 1000000 ≤ a.totalOpenRiskUsd

/-- The same call on an account. -/
def PaperInputs.on (x : PaperInputs Rat) (a : AccountSnapshotV2 Rat) : PaperInputs Rat :=
  { x with account := some a }

section Accounts

variable {a a' : AccountSnapshotV2 Rat}

/-- No more is lost against the day's start and the peak. -/
theorem Healthier.dailyDrawdown_le (h : Healthier a a') (hstated : Stated a) :
    dailyDrawdown a ≤ dailyDrawdown a' := by
  have hequity := h.equity
  have hrealized := h.realized
  unfold dailyDrawdown
  rw [← h.dayStart, ← h.peak]
  apply PyFloat.rat_max_mono
  simp only [List.mem_cons, List.not_mem_nil, or_false]
  rintro y (rfl | rfl | rfl | rfl)
  · exact ⟨_, Or.inl rfl, le_refl _⟩
  · refine ⟨_, Or.inr (Or.inl rfl), div_le_div_of_nonneg_right ?_ hstated.dayStart.le⟩
    linarith
  · refine ⟨_, Or.inr (Or.inr (Or.inl rfl)), div_le_div_of_nonneg_right ?_ hstated.dayStart.le⟩
    linarith
  · refine ⟨_, Or.inr (Or.inr (Or.inr rfl)), div_le_div_of_nonneg_right ?_ hstated.peak.le⟩
    linarith

/-- No more canaries are open. -/
theorem Healthier.canaries_le (h : Healthier a a') :
    (activeCanaryTradeIds a).length ≤ (activeCanaryTradeIds a').length := by
  have hsubset : activeCanaryTradeIds a ⊆ activeCanaryTradeIds a' := by
    intro tradeId htrade
    unfold activeCanaryTradeIds at htrade ⊢
    rw [List.mem_eraseDups, List.mem_append, List.mem_map, List.mem_map] at htrade ⊢
    rcases htrade with ⟨q, hq, hid⟩ | ⟨o, ho, hid⟩
    · obtain ⟨hmem, hcanary⟩ := List.mem_filter.mp hq
      exact Or.inl ⟨q, List.mem_filter.mpr ⟨h.positions.subset hmem, hcanary⟩, hid⟩
    · obtain ⟨hmem, hentry⟩ := List.mem_filter.mp ho
      exact Or.inr ⟨o, List.mem_filter.mpr ⟨h.orders hmem, hentry⟩, hid⟩
  exact (List.subperm_of_subset (nodup_eraseDups _) hsubset).length_le

/-- There is no less room in the account. -/
theorem Healthier.roomier (h : Healthier a a') (hmarks : ∀ q ∈ a'.positions, 0 ≤ q.markPrice)
    (strategyId : String) :
    Roomier (accountMetrics a strategyId) (accountMetrics a' strategyId) := by
  have hnotional : ∀ q ∈ a'.positions, 0 ≤ PyFloat.abs q.signedQuantity * q.markPrice :=
    fun q hq => mul_nonneg (PyFloat.rat_abs_nonneg _) (hmarks q hq)
  refine ⟨h.equity, h.available, h.openRisk, ?_, ?_⟩
  · exact sum_le_of_subperm h.positions hnotional
  · exact sum_le_of_subperm (h.positions.filter _) fun q hq =>
      hnotional q (List.mem_of_mem_filter hq)

namespace PaperRiskPipeline

variable {D : Type} {p : PaperRiskPipeline Rat D} {x : PaperInputs Rat}

theorem accountGate_healthier (h : Healthier a a') (hstated : Stated a)
    {venueSymbol strategyId : String} {decidedAtMs : Int} {reservations : PaperReservations Rat}
    (hcaptured : a.capturedAtMs ≤ decidedAtMs)
    (hsilent : (p.accountGate (some a') venueSymbol strategyId decidedAtMs reservations).1 = []) :
    (p.accountGate (some a) venueSymbol strategyId decidedAtMs reservations).1 = [] := by
  unfold accountGate at hsilent ⊢
  dsimp only at hsilent ⊢
  rw [List.append_eq_nil_iff, List.append_eq_nil_iff, List.append_eq_nil_iff,
    accountScopeReasons_eq_nil_iff, exclusivityReasons_eq_nil_iff, riskLimitReasons_eq_nil_iff,
    pendingOrder_eq_nil_iff] at hsilent ⊢
  obtain ⟨⟨⟨⟨⟨hmode, hprofile⟩, hid, hreconciled, hsequence, _, hfresh⟩, hreserved, hposition,
    horder, hcanary⟩, _, hcap, hdrawdown⟩, hentry⟩ := hsilent
  have hrisk := h.openRisk
  have hequity := h.equity
  have hworse := h.dailyDrawdown_le hstated
  have hcanaries := h.canaries_le
  have hfraction : (0 : Rat) < p.settings.paperMaxTotalOpenRiskFraction :=
    p.settings.totalOpenRiskFraction_pos
  have hceiling := mul_le_mul_of_nonneg_right hequity hfraction.le
  refine ⟨⟨⟨⟨⟨h.mode.trans hmode, h.profile.trans hprofile⟩, h.accountId.trans hid,
    h.reconciled.trans hreconciled, lt_of_lt_of_le hsequence h.sequence, hcaptured, ?_⟩, hreserved,
    ?_, ?_, ?_⟩, hstated.openRisk, ?_, ?_⟩, ?_⟩
  · have hage :
        ((decidedAtMs - a.capturedAtMs : Int) : Rat) ≤ (decidedAtMs - a'.capturedAtMs : Int) :=
      Int.cast_le.mpr (sub_le_sub_left h.captured _)
    exact le_trans hage hfresh
  · exact fun q hq => hposition q (h.positions.subset hq)
  · exact fun o ho => horder o (h.orders ho)
  · intro hstrategy
    have hlimit := hcanary hstrategy
    omega
  · linarith
  · linarith
  · exact fun o ho => hentry o (h.orders ho)

/-- The allocation gate looks at the account's identity only. -/
theorem selectedAllocationGate_on (h : a.accountId = a'.accountId) :
    p.selectedAllocationGate (x.on a) = p.selectedAllocationGate (x.on a') := by
  have hadmits : ∀ binding, p.regimeBindingAdmits binding x.review.intent (some a) x.decidedAtMs
      = p.regimeBindingAdmits binding x.review.intent (some a') x.decidedAtMs := by
    intro binding
    unfold regimeBindingAdmits
    dsimp only
    rw [h]
  unfold selectedAllocationGate adaptiveAllocationGate PaperInputs.on
  dsimp only
  cases x.regimeAllocation with
  | none => rfl
  | some binding =>
    dsimp only
    rw [hadmits]

/-- The gates are silent on a healthier account, and leave it no less room. -/
theorem gates_healthier (h : Healthier a a') (hstated : Stated a)
    (hmarks : ∀ q ∈ a'.positions, 0 ≤ q.markPrice) (hcaptured : a.capturedAtMs ≤ x.decidedAtMs)
    (hsilent : (p.gates (x.on a')).reasons = []) :
    (p.gates (x.on a)).reasons = [] ∧
    ∃ m m' l, (p.gates (x.on a)).accountMetrics = some m ∧
      (p.gates (x.on a')).accountMetrics = some m' ∧
      (p.gates (x.on a)).allocationMetrics = some l ∧
      (p.gates (x.on a')).allocationMetrics = some l ∧ Roomier m m' ∧ Apportions l ∧
      (p.gates (x.on a)).leverage = (p.gates (x.on a')).leverage ∧
      (p.gates (x.on a')).lossBudget ≤ (p.gates (x.on a)).lossBudget := by
  obtain ⟨hadmission, hreview, haccount', hallocation', hgeometry, hbudget'⟩ :=
    gates_silent_iff.mp hsilent
  have haccount := accountGate_healthier h hstated hcaptured haccount'
  have hgate : p.selectedAllocationGate (x.on a) = p.selectedAllocationGate (x.on a') :=
    selectedAllocationGate_on h.accountId
  obtain ⟨l, hl', happortions⟩ := selectedAllocationGate_apportions hallocation'
  have hroomier := h.roomier hmarks x.review.intent.strategyId
  have hm : (p.gates (x.on a)).accountMetrics
      = some (accountMetrics a x.review.intent.strategyId) := accountGate_metrics haccount
  have hm' : (p.gates (x.on a')).accountMetrics
      = some (accountMetrics a' x.review.intent.strategyId) := accountGate_metrics haccount'
  have hl : (p.gates (x.on a)).allocationMetrics = some l := (congrArg Prod.snd hgate).trans hl'
  have hl' : (p.gates (x.on a')).allocationMetrics = some l := hl'
  obtain ⟨hle, hleverage, hreasons⟩ :=
    budget_roomier (p := p) (l := l) hroomier
  -- the budget stages of the two calls, on these metrics
  have hstage : p.budget x.reservations (p.gates (x.on a)).accountMetrics
      (p.gates (x.on a)).allocationMetrics
      = p.budget x.reservations (some (accountMetrics a x.review.intent.strategyId)) (some l) := by
    rw [hm, hl]
  have hstage' : p.budget x.reservations (p.gates (x.on a')).accountMetrics
      (p.gates (x.on a')).allocationMetrics
      = p.budget x.reservations (some (accountMetrics a' x.review.intent.strategyId)) (some l) := by
    rw [hm', hl']
  refine ⟨gates_silent_iff.mpr ⟨hadmission, hreview, haccount, ?_, hgeometry, ?_⟩, _, _, l, hm, hm',
    hl, hl', hroomier, happortions, ?_, ?_⟩
  · rw [hgate]
    exact hallocation'
  · exact (congrArg Budget.reasons hstage).trans
      (hreasons ((congrArg Budget.reasons hstage').symm.trans hbudget'))
  · exact (congrArg Budget.leverage hstage).trans
      (hleverage.trans (congrArg Budget.leverage hstage').symm)
  · exact le_of_eq_of_le (congrArg Budget.lossBudget hstage')
      (le_of_le_of_eq hle (congrArg Budget.lossBudget hstage).symm)

variable [PyDecimal D] [Spelling Rat D]

/-- What is sized on an account is sized on a healthier one: no smaller, worth no
less, and within the budget there is. -/
theorem size_healthier (h : Healthier a a') (hstated : Stated a)
    (hmarks : ∀ q ∈ a'.positions, 0 ≤ q.markPrice) (hcaptured : a.capturedAtMs ≤ x.decidedAtMs)
    {quantity' : Rat} (hsize' : p.size (x.on a') (p.gates (x.on a')) = .ok ([], quantity'))
    (hloss' : (economics quantity' x.review.intent.exitPlan.stopPrice
        (worstEntry x.review.intent x.venue) x.review.intent.side x.venue).worstLoss
      ≤ (p.gates (x.on a')).lossBudget + 1 / 1000000) :
    ∃ quantity, p.size (x.on a) (p.gates (x.on a)) = .ok ([], quantity) ∧ 0 < quantity ∧
      quantity' ≤ quantity ∧
      quantity' * worstEntry x.review.intent x.venue
        ≤ quantity * worstEntry x.review.intent x.venue ∧
      (economics quantity x.review.intent.exitPlan.stopPrice (worstEntry x.review.intent x.venue)
          x.review.intent.side x.venue).worstLoss
        ≤ (p.gates (x.on a)).lossBudget + 1 / 1000000 ∧
      (p.gates (x.on a')).lossBudget ≤ (p.gates (x.on a)).lossBudget ∧
      (x.review.intent.strategyId = paperCanaryStrategyId → quantity = quantity') := by
  obtain ⟨hsilent, m, m', l, hm, hm', hl, hl', hroomier, happortions, hleverage, hbudget⟩ :=
    gates_healthier h hstated hmarks hcaptured (size_no_reasons hsize')
  obtain ⟨_, hselect', hpositive', hminimum'⟩ := (size_nil_iff hm' hl').mp hsize'
  have hpositive' : 0 < quantity' := not_le.mp hpositive'
  have hworth' : p.settings.paperMinNotionalUsd
      ≤ quantity' * worstEntry x.review.intent x.venue + 1 / 1000000000 := not_lt.mp hminimum'
  have hcapacity : p.sizeQuantity x.review.intent.side x.review.intent.exitPlan.stopPrice
        (worstEntry x.review.intent x.venue) x.venue (p.gates (x.on a')).lossBudget
        (p.gates (x.on a)).leverage m' l x.reservations
      ≤ p.sizeQuantity x.review.intent.side x.review.intent.exitPlan.stopPrice
        (worstEntry x.review.intent x.venue) x.venue (p.gates (x.on a)).lossBudget
        (p.gates (x.on a)).leverage m l x.reservations :=
    sizeQuantity_roomier hbudget hroomier happortions (le_trans zero_le_one gates_leverage)
  rw [← hleverage] at hselect'
  -- the branch looks at the review and the venue, which are the same
  have hselect' : p.selectQuantity ((x.on a).against x.reservations)
      (p.gates (x.on a)).leverage _ = .ok ([], quantity') := hselect'
  obtain ⟨quantity, hselect, hbranch⟩ :=
    selectQuantity_within hcapacity hselect' (r := x.reservations)
  obtain ⟨hquantity, hworth, hloss⟩ : quantity' ≤ quantity ∧
      quantity' * worstEntry x.review.intent x.venue
        ≤ quantity * worstEntry x.review.intent x.venue ∧
      (economics quantity x.review.intent.exitPlan.stopPrice (worstEntry x.review.intent x.venue)
          x.review.intent.side x.venue).worstLoss
        ≤ (p.gates (x.on a)).lossBudget + 1 / 1000000 := by
    rcases hbranch with ⟨_, hsame⟩ | ⟨_, hlarger, hsmaller⟩
    · rw [hsame]
      exact ⟨le_refl _, le_refl _, le_trans hloss' (add_le_add_left hbudget _)⟩
    · -- both are capacities, and the larger one fits its budget
      rw [hsmaller] at hpositive'
      obtain ⟨_, _, hentry, _⟩ := sizeQuantity_pos_iff.mp hpositive'
      have hgreatest := sizeQuantity_isGreatest (lt_of_lt_of_le hpositive' hcapacity)
      rw [← hlarger, ← hsmaller] at hcapacity
      rw [← hlarger] at hgreatest
      refine ⟨hcapacity, mul_le_mul_of_nonneg_right hcapacity hentry.le, ?_⟩
      have haffordable := hgreatest.1.1
      rw [worstLoss_eq]
      linarith
  refine ⟨quantity, (size_nil_iff hm hl).mpr ⟨hsilent, hselect,
    not_le.mpr (lt_of_lt_of_le hpositive' hquantity), not_lt.mpr ?_⟩,
    lt_of_lt_of_le hpositive' hquantity, hquantity, hworth, hloss, hbudget, ?_⟩
  · exact le_trans hworth' (add_le_add_left hworth _)
  · intro hstrategy
    rcases hbranch with ⟨_, hsame⟩ | ⟨hother, _⟩
    · exact hsame
    · exact absurd hstrategy hother

end PaperRiskPipeline

end Accounts

/-! ## Times -/

/-- The same call, decided at another time. -/
def PaperInputs.decidedAt (x : PaperInputs Rat) (t : Int) : PaperInputs Rat :=
  { x with decidedAtMs := t }

namespace PaperRiskPipeline

variable {D : Type} {p : PaperRiskPipeline Rat D} {x : PaperInputs Rat} {t₁ t t₂ : Int}

/-- What is not from the future at the first time and fresh at the last is both between them. -/
theorem age_between {c : Int} {limit : Rat} (h₁ : t₁ ≤ t) (h₂ : t ≤ t₂) (hpast : 0 ≤ t₁ - c)
    (hfresh : ((t₂ - c : Int) : Rat) ≤ limit) : 0 ≤ t - c ∧ ((t - c : Int) : Rat) ≤ limit := by
  have hage : ((t - c : Int) : Rat) ≤ (t₂ - c : Int) := Int.cast_le.mpr (by omega)
  exact ⟨by omega, le_trans hage hfresh⟩

theorem reviewReasons_between (h₁ : t₁ ≤ t) (h₂ : t ≤ t₂)
    (hfirst : p.reviewReasons (x.decidedAt t₁) = [])
    (hlast : p.reviewReasons (x.decidedAt t₂) = []) :
    p.reviewReasons (x.decidedAt t) = [] := by
  have hlast := reviewReasons_eq_nil_iff.mp hlast
  obtain ⟨hintent, hsim, hallow, hlisted, hdenied, hmode, hreviewed, heligible, _, hmapped,
    hobserved, _, hentry⟩ := reviewReasons_eq_nil_iff.mp hfirst
  exact reviewReasons_eq_nil_iff.mpr ⟨hintent, hsim, hallow, hlisted, hdenied, hmode,
    Int.le_trans hreviewed h₁, Int.le_trans heligible h₁, Int.le_trans h₂ hlast.unexpired, hmapped,
    Int.le_trans hobserved h₁, Int.le_trans h₂ hlast.quality, hentry⟩

theorem accountGate_between {account : Option (AccountSnapshotV2 Rat)}
    {venueSymbol strategyId : String} {reservations : PaperReservations Rat} (h₁ : t₁ ≤ t)
    (h₂ : t ≤ t₂) (hfirst : (p.accountGate account venueSymbol strategyId t₁ reservations).1 = [])
    (hlast : (p.accountGate account venueSymbol strategyId t₂ reservations).1 = []) :
    p.accountGate account venueSymbol strategyId t reservations
      = p.accountGate account venueSymbol strategyId t₁ reservations := by
  cases account with
  | none => cases hfirst
  | some a =>
    refine Prod.ext ?_ rfl
    rw [hfirst]
    unfold accountGate at hfirst hlast ⊢
    dsimp only at hfirst hlast ⊢
    rw [List.append_eq_nil_iff, List.append_eq_nil_iff, List.append_eq_nil_iff,
      accountScopeReasons_eq_nil_iff] at hfirst hlast ⊢
    obtain ⟨⟨⟨⟨hmode, hid, hreconciled, hsequence, hpast, _⟩, hexclusive⟩, hlimits⟩, hpending⟩ :=
      hfirst
    obtain ⟨⟨⟨⟨_, _, _, _, _, hfresh⟩, _⟩, _⟩, _⟩ := hlast
    obtain ⟨hpast', hfresh'⟩ := age_between h₁ h₂ (Int.sub_nonneg.mpr hpast) hfresh
    exact ⟨⟨⟨⟨hmode, hid, hreconciled, hsequence, Int.sub_nonneg.mp hpast', hfresh'⟩, hexclusive⟩,
      hlimits⟩, hpending⟩

theorem allocationGate_between {allocation : Option (StrategicAllocation Rat)} {strategyId : String}
    {side : Side} {legacy : Bool} (h₁ : t₁ ≤ t) (h₂ : t ≤ t₂)
    (hfirst : (p.allocationGate allocation strategyId side t₁ legacy).1 = [])
    (hlast : (p.allocationGate allocation strategyId side t₂ legacy).1 = []) :
    p.allocationGate allocation strategyId side t legacy
      = p.allocationGate allocation strategyId side t₁ legacy := by
  cases allocation with
  | none => cases hfirst
  | some al =>
    refine Prod.ext ?_ rfl
    rw [hfirst]
    unfold allocationGate at hfirst hlast ⊢
    dsimp only at hfirst hlast ⊢
    simp only [List.append_eq_nil_iff, ageReasons_eq_nil_iff] at hfirst hlast ⊢
    obtain ⟨⟨⟨⟨hvalid, haware⟩, hpast, _⟩, hweight⟩, hregime⟩ := hfirst
    obtain ⟨⟨⟨_, _, hfresh⟩, _⟩, _⟩ := hlast
    have hzone : al.producedAt.aware = true := by simpa using reasonIf_eq_nil.mp haware
    rw [hzone] at hpast hfresh ⊢
    exact ⟨⟨⟨⟨hvalid, rfl⟩, age_between h₁ h₂ hpast hfresh⟩, hweight⟩, hregime⟩

/-- A regime binding admits at all times between two at which it does. -/
theorem regimeBindingAdmits_between {binding : RegimeBoundAllocationV1 Rat}
    {intent : StrategyIntentV1 Rat} {account : Option (AccountSnapshotV2 Rat)} (h₁ : t₁ ≤ t)
    (h₂ : t ≤ t₂) (hfirst : p.regimeBindingAdmits binding intent account t₁ = true)
    (hlast : p.regimeBindingAdmits binding intent account t₂ = true) :
    p.regimeBindingAdmits binding intent account t = true := by
  unfold regimeBindingAdmits at hfirst hlast ⊢
  simp only [Bool.and_eq_true, decide_eq_true_eq] at hfirst hlast ⊢
  obtain ⟨hstill, hbound, _⟩ := hfirst
  obtain ⟨_, _, hexpires⟩ := hlast
  exact ⟨hstill, Int.le_trans hbound h₁, Int.le_trans h₂ hexpires⟩

theorem selectedAllocationGate_between (h₁ : t₁ ≤ t) (h₂ : t ≤ t₂)
    (hfirst : (p.selectedAllocationGate (x.decidedAt t₁)).1 = [])
    (hlast : (p.selectedAllocationGate (x.decidedAt t₂)).1 = []) :
    p.selectedAllocationGate (x.decidedAt t) = p.selectedAllocationGate (x.decidedAt t₁) := by
  unfold selectedAllocationGate PaperInputs.decidedAt at hfirst hlast ⊢
  dsimp only at hfirst hlast ⊢
  by_cases ha : p.adaptive x.review.intent = true
  · rw [if_pos ha] at hfirst hlast
    rw [if_pos ha, if_pos ha]
    unfold adaptiveAllocationGate at hfirst hlast ⊢
    cases hbinding : x.regimeAllocation with
    | none => rfl
    | some binding =>
      rw [hbinding] at hfirst hlast
      dsimp only at hfirst hlast ⊢
      split at hfirst
      next hadmits₁ =>
        split at hlast
        next hadmits₂ =>
          rw [if_pos (regimeBindingAdmits_between h₁ h₂ hadmits₁ hadmits₂), if_pos hadmits₁]
          exact allocationGate_between h₁ h₂ hfirst hlast
        next => cases hlast
      next => cases hfirst
  · rw [if_neg ha] at hfirst hlast
    rw [if_neg ha, if_neg ha]
    exact allocationGate_between h₁ h₂ hfirst hlast

/-- **Between two times at which they are silent**, the gates leave the same. -/
theorem gates_between (h₁ : t₁ ≤ t) (h₂ : t ≤ t₂) (hfirst : (p.gates (x.decidedAt t₁)).reasons = [])
    (hlast : (p.gates (x.decidedAt t₂)).reasons = []) :
    p.gates (x.decidedAt t) = p.gates (x.decidedAt t₁) := by
  obtain ⟨_, hreview₁, haccount₁, hallocation₁, _⟩ := gates_silent_iff.mp hfirst
  obtain ⟨_, hreview₂, haccount₂, hallocation₂, _⟩ := gates_silent_iff.mp hlast
  have hreview := reviewReasons_between h₁ h₂ hreview₁ hreview₂
  have haccount : p.accountGate (x.decidedAt t).account (x.decidedAt t).venue.symbol
      (x.decidedAt t).review.intent.strategyId (x.decidedAt t).decidedAtMs
      (x.decidedAt t).reservations
      = p.accountGate (x.decidedAt t₁).account (x.decidedAt t₁).venue.symbol
        (x.decidedAt t₁).review.intent.strategyId (x.decidedAt t₁).decidedAtMs
        (x.decidedAt t₁).reservations := accountGate_between h₁ h₂ haccount₁ haccount₂
  unfold gates
  dsimp only
  rw [haccount, selectedAllocationGate_between h₁ h₂ hallocation₁ hallocation₂, hreview, hreview₁]
  rfl

variable [PyDecimal D] [Spelling Rat D]

end PaperRiskPipeline

namespace Scenario

/-- The account once the other approval was filled. -/
def investedElsewhere : AccountSnapshotV2 Rat := account.holding (account 1 60200) elsewhere

/-- The first idea, beside that position. -/
def investedBesidePosition : RiskTradeDecisionV1 Rat :=
  (market.evaluate ((investing (account 1 60200)).on investedElsewhere)).toOption.get
    (by decide +kernel)

theorem empty_healthier : Healthier (account 1 60200) investedElsewhere :=
  ⟨rfl, rfl, rfl, rfl, le_refl _, le_refl _, List.nil_subperm, List.nil_subset _, le_refl _,
    le_refl _, by decide +kernel, le_refl _, rfl, rfl⟩

/-- The idea as it is decided two and a half seconds later. -/
def investedLater : RiskTradeDecisionV1 Rat :=
  (market.evaluate ((investing (account 1 60200)).decidedAt 62900)).toOption.get (by decide +kernel)

end Scenario

end KairosRisk
