import KairosRisk.Lib.ExactOrder
import KairosRisk.PaperAdmission

/-!
# Admission against fewer reservations

Reservations enter the policy in six places: the symbol gate, the canary limit,
the ceiling on open risk, the loss budget, and the margin, gross and strategy
caps. In each, less reserved is more room, so views of approved decisions are
ordered (`PaperReservations.Within`) and admission is antitone in that order:
what is approved against a view is approved against a smaller one, at least as
large. The canary's lot is not sized, so it stays what it is.
-/

namespace KairosRisk

open PyLib PaperRiskPipeline

/-- What one view reserves, the other does too. -/
structure PaperReservations.Within (r r' : PaperReservations Rat) : Prop where
  symbols : r.symbols ⊆ r'.symbols
  openRisk : r.openRiskUsd ≤ r'.openRiskUsd
  notional : r.notionalUsd ≤ r'.notionalUsd
  strategies : ∀ strategyId, r.notionalForStrategy strategyId ≤ r'.notionalForStrategy strategyId
  canaries : r.activeCanaryIdeas ≤ r'.activeCanaryIdeas

/-- The same call against other reservations. -/
def PaperInputs.against (x : PaperInputs Rat) (r : PaperReservations Rat) : PaperInputs Rat :=
  { x with reservations := r }

namespace PaperRiskPipeline

variable {D : Type} {p : PaperRiskPipeline Rat D} {x : PaperInputs Rat}
  {r r' : PaperReservations Rat}

/-! ## Each stage -/

/-- The account gate is silent against less when it is silent against more. -/
theorem accountGate_within (h : r.Within r') {account : Option (AccountSnapshotV2 Rat)}
    {venueSymbol strategyId : String} {decidedAtMs : Int}
    (hsilent : (p.accountGate account venueSymbol strategyId decidedAtMs r').1 = []) :
    (p.accountGate account venueSymbol strategyId decidedAtMs r).1 = [] := by
  cases account with
  | none => cases hsilent
  | some a =>
    unfold accountGate at hsilent ⊢
    dsimp only at hsilent ⊢
    rw [List.append_eq_nil_iff, List.append_eq_nil_iff, List.append_eq_nil_iff,
      exclusivityReasons_eq_nil_iff, riskLimitReasons_eq_nil_iff] at hsilent ⊢
    obtain ⟨⟨⟨hscope, hreserved, hposition, horder, hcanary⟩, hstated, hcap, hdrawdown⟩,
      hpending⟩ :=
      hsilent
    refine ⟨⟨⟨hscope, ?_, hposition, horder, ?_⟩, hstated, ?_, hdrawdown⟩, hpending⟩
    · intro hmem
      exact hreserved (h.symbols hmem)
    · intro hstrategy
      have hlimit := hcanary hstrategy
      have hfewer := h.canaries
      omega
    · have hless := h.openRisk
      linarith

/-- What the gate passes on has nothing of the reservations in it. -/
theorem accountGate_metrics_against {account : Option (AccountSnapshotV2 Rat)}
    {venueSymbol strategyId : String} {decidedAtMs : Int} :
    (p.accountGate account venueSymbol strategyId decidedAtMs r).2
      = (p.accountGate account venueSymbol strategyId decidedAtMs r').2 := by
  cases account with
  | none => rfl
  | some a => rfl

theorem remainingOpenRisk_within (h : r.Within r') (account : AccountMetrics Rat) :
    p.remainingOpenRisk account r' ≤ p.remainingOpenRisk account r := by
  show PyFloat.max 0 [account.equityUsd * p.settings.paperMaxTotalOpenRiskFraction
      - account.totalOpenRiskUsd - r'.openRiskUsd]
    ≤ PyFloat.max 0 [account.equityUsd * p.settings.paperMaxTotalOpenRiskFraction
      - account.totalOpenRiskUsd - r.openRiskUsd]
  rw [PyFloat.rat_max_eq, PyFloat.rat_max_eq]
  exact max_le_max_left 0 (sub_le_sub_left h.openRisk _)

/-- The loss budget is no smaller against less. -/
theorem budget_within (h : r.Within r') (account : AccountMetrics Rat)
    (allocation : AllocationMetrics Rat) :
    (p.budget r' (some account) (some allocation)).lossBudget
        ≤ (p.budget r (some account) (some allocation)).lossBudget ∧
      (p.budget r (some account) (some allocation)).leverage
        = (p.budget r' (some account) (some allocation)).leverage ∧
      ((p.budget r' (some account) (some allocation)).reasons = [] →
        (p.budget r (some account) (some allocation)).reasons = []) := by
  have hbudget : (p.budget r' (some account) (some allocation)).lossBudget
      ≤ (p.budget r (some account) (some allocation)).lossBudget := by
    apply PyFloat.rat_min_mono
    simp only [List.mem_cons, List.not_mem_nil, or_false]
    rintro y' (rfl | rfl)
    · exact ⟨_, Or.inl rfl, le_refl _⟩
    · exact ⟨_, Or.inr rfl, remainingOpenRisk_within h account⟩
  refine ⟨hbudget, rfl, ?_⟩
  intro hsilent
  obtain ⟨hpositive, hleverage⟩ := List.append_eq_nil_iff.mp hsilent
  have hpositive' := not_le.mp (of_decide_eq_false (reasonIf_eq_nil.mp hpositive))
  refine List.append_eq_nil_iff.mpr ⟨reasonIf_eq_nil.mpr (decide_eq_false ?_), hleverage⟩
  exact not_le.mpr (lt_of_lt_of_le hpositive' hbudget)

/-- Each notional cap is no lower against less. -/
theorem notionalCaps_within (h : r.Within r') {venue : VenueQualityV1 Rat} {leverage : Rat}
    {account : AccountMetrics Rat} {allocation : AllocationMetrics Rat} {cap : Rat}
    (hcap : cap ∈ p.notionalCaps venue leverage account allocation r) :
    ∃ cap' ∈ p.notionalCaps venue leverage account allocation r', cap' ≤ cap := by
  have hnotional := h.notional
  have hstrategy := h.strategies allocation.strategyId
  simp only [notionalCaps, List.mem_cons, List.not_mem_nil, or_false, exists_eq_or_imp,
    exists_eq_left] at hcap ⊢
  rcases hcap with rfl | rfl | rfl | rfl | rfl | rfl
  · exact Or.inl (le_refl _)
  · exact Or.inr (Or.inl (le_refl _))
  · exact Or.inr (Or.inr (Or.inl (le_refl _)))
  · exact Or.inr (Or.inr (Or.inr (Or.inl (sub_le_sub_left hnotional _))))
  · exact Or.inr (Or.inr (Or.inr (Or.inr (Or.inl (sub_le_sub_left hnotional _)))))
  · exact Or.inr (Or.inr (Or.inr (Or.inr (Or.inr (sub_le_sub_left hstrategy _)))))

/-- The capacity is never negative. -/
theorem sizeQuantity_nonneg {side : Side} {stopPrice entry : Rat} {venue : VenueQualityV1 Rat}
    {lossBudget leverage : Rat} {account : AccountMetrics Rat}
    {allocation : AllocationMetrics Rat} :
    0 ≤ p.sizeQuantity side stopPrice entry venue lossBudget leverage account allocation r := by
  unfold sizeQuantity
  dsimp only
  split
  · exact le_refl (0 : Rat)
  · split
    · exact le_refl (0 : Rat)
    · exact le_of_le_of_eq (le_max_left 0 _) (PyFloat.rat_max_eq 0 _).symm

/-- **The capacity** is no smaller against less reserved and a larger budget. -/
theorem sizeQuantity_within (h : r.Within r') {side : Side} {stopPrice entry : Rat}
    {venue : VenueQualityV1 Rat} {lossBudget lossBudget' leverage : Rat}
    {account : AccountMetrics Rat} {allocation : AllocationMetrics Rat}
    (hbudget : lossBudget' ≤ lossBudget) :
    p.sizeQuantity side stopPrice entry venue lossBudget' leverage account allocation r'
      ≤ p.sizeQuantity side stopPrice entry venue lossBudget leverage account allocation r := by
  by_cases hpositive : 0 < p.sizeQuantity side stopPrice entry venue lossBudget' leverage account
    allocation r'
  · obtain ⟨hloss, hpositive', hentry, hcaps⟩ := sizeQuantity_pos_iff.mp hpositive
    have hroom : 0 < p.sizeQuantity side stopPrice entry venue lossBudget leverage account
        allocation r := by
      refine sizeQuantity_pos_iff.mpr ⟨hloss, lt_of_lt_of_le hpositive' hbudget, hentry, ?_⟩
      intro cap hcap
      obtain ⟨cap', hcap', hle⟩ := notionalCaps_within h hcap
      exact lt_of_lt_of_le (hcaps cap' hcap') hle
    -- what was affordable still is
    obtain ⟨⟨haffordable, hnotional⟩, _⟩ := sizeQuantity_isGreatest hpositive
    refine (sizeQuantity_isGreatest hroom).2 ⟨le_trans haffordable hbudget, ?_⟩
    intro cap hcap
    obtain ⟨cap', hcap', hle⟩ := notionalCaps_within h hcap
    exact le_trans (hnotional cap' hcap') hle
  · exact le_trans (not_lt.mp hpositive) sizeQuantity_nonneg

/-- The gates are silent against less when they are silent against more, and
leave a larger budget. -/
theorem gates_within (h : r.Within r') (hsilent : (p.gates (x.against r')).reasons = []) :
    (p.gates (x.against r)).reasons = [] ∧
    ∃ account allocation,
      (p.gates (x.against r)).accountMetrics = some account ∧
      (p.gates (x.against r')).accountMetrics = some account ∧
      (p.gates (x.against r)).allocationMetrics = some allocation ∧
      (p.gates (x.against r')).allocationMetrics = some allocation ∧
      (p.gates (x.against r)).leverage = (p.gates (x.against r')).leverage ∧
      (p.gates (x.against r')).lossBudget ≤ (p.gates (x.against r)).lossBudget := by
  obtain ⟨hadmission, hreview, haccount, hallocation, hgeometry, hbudget⟩ :=
    gates_silent_iff.mp hsilent
  obtain ⟨account, allocation, ham, hlm'⟩ := gates_metrics hsilent
  have ham' : (p.gates (x.against r)).accountMetrics = some account :=
    accountGate_metrics_against.trans ham
  have hlm : (p.gates (x.against r)).allocationMetrics = some allocation := hlm'
  obtain ⟨hle, hleverage, hreasons⟩ := budget_within (p := p) h account allocation
  -- the budget stages of the two calls, on the same metrics
  have hstage : p.budget r (p.gates (x.against r)).accountMetrics
      (p.gates (x.against r)).allocationMetrics = p.budget r (some account) (some allocation) := by
    rw [ham', hlm]
  have hstage' : p.budget r' (p.gates (x.against r')).accountMetrics
      (p.gates (x.against r')).allocationMetrics
      = p.budget r' (some account) (some allocation) := by
    rw [ham, hlm']
  refine ⟨gates_silent_iff.mpr ⟨hadmission, hreview, accountGate_within h haccount, hallocation,
    hgeometry, ?_⟩, account, allocation, ham', ham, hlm, hlm', ?_, ?_⟩
  · exact (congrArg Budget.reasons hstage).trans
      (hreasons ((congrArg Budget.reasons hstage').symm.trans hbudget))
  · exact (congrArg Budget.leverage hstage).trans
      (hleverage.trans (congrArg Budget.leverage hstage').symm)
  · exact le_of_eq_of_le (congrArg Budget.lossBudget hstage')
      (le_of_le_of_eq hle (congrArg Budget.lossBudget hstage).symm)

variable [PyDecimal D] [Spelling Rat D]

/-- From a larger capacity the sizing branch selects that capacity, or the
canary's lot again. -/
theorem selectQuantity_within {leverage capacity capacity' quantity' : Rat}
    (hcapacity : capacity' ≤ capacity)
    (h : p.selectQuantity (x.against r') leverage capacity' = .ok ([], quantity')) :
    ∃ quantity, p.selectQuantity (x.against r) leverage capacity = .ok ([], quantity) ∧
      (x.review.intent.strategyId = paperCanaryStrategyId ∧ quantity = quantity' ∨
        x.review.intent.strategyId ≠ paperCanaryStrategyId ∧ quantity = capacity ∧
          quantity' = capacity') := by
  unfold selectQuantity at h ⊢
  by_cases hstrategy : x.review.intent.strategyId = paperCanaryStrategyId
  · rw [if_pos (show (x.against r').review.intent.strategyId = _ from hstrategy)] at h
    rw [if_pos (show (x.against r).review.intent.strategyId = _ from hstrategy)]
    -- the lot is bound in the intent: only the room for it depends on the reservations
    obtain ⟨hrequired, hleverage, hfits⟩ := canaryQuantity_nil_iff.mp h
    refine ⟨quantity', canaryQuantity_nil_iff.mpr ⟨hrequired, hleverage, ?_⟩,
      Or.inl ⟨hstrategy, rfl⟩⟩
    intro hlt
    have hmore : capacity' + 1 / 1000000000000 ≤ capacity + 1 / 1000000000000 := by linarith
    exact hfits (lt_of_le_of_lt hmore hlt)
  · rw [if_neg (show (x.against r').review.intent.strategyId ≠ _ from hstrategy)] at h
    rw [if_neg (show (x.against r).review.intent.strategyId ≠ _ from hstrategy)]
    cases h
    exact ⟨capacity, rfl, Or.inr ⟨hstrategy, rfl, rfl⟩⟩

/-- What is sized against more is sized against less: no smaller, worth no less,
and within the budget there is. -/
theorem size_within (h : r.Within r') {quantity' : Rat}
    (hsize' : p.size (x.against r') (p.gates (x.against r')) = .ok ([], quantity'))
    (hloss' : (economics quantity' x.review.intent.exitPlan.stopPrice
        (worstEntry x.review.intent x.venue) x.review.intent.side x.venue).worstLoss
      ≤ (p.gates (x.against r')).lossBudget + 1 / 1000000) :
    ∃ quantity, p.size (x.against r) (p.gates (x.against r)) = .ok ([], quantity) ∧ 0 < quantity ∧
      quantity' ≤ quantity ∧
      quantity' * worstEntry x.review.intent x.venue
        ≤ quantity * worstEntry x.review.intent x.venue ∧
      (economics quantity x.review.intent.exitPlan.stopPrice (worstEntry x.review.intent x.venue)
          x.review.intent.side x.venue).worstLoss
        ≤ (p.gates (x.against r)).lossBudget + 1 / 1000000 ∧
      (p.gates (x.against r')).lossBudget ≤ (p.gates (x.against r)).lossBudget ∧
      (x.review.intent.strategyId = paperCanaryStrategyId → quantity = quantity') := by
  obtain ⟨hsilent, account, allocation, ham, ham', hlm, hlm', hleverage, hbudget⟩ :=
    gates_within h (size_no_reasons hsize')
  obtain ⟨_, hselect', hpositive', hminimum'⟩ := (size_nil_iff ham' hlm').mp hsize'
  have hcapacity : p.sizeQuantity x.review.intent.side x.review.intent.exitPlan.stopPrice
        (worstEntry x.review.intent x.venue) x.venue (p.gates (x.against r')).lossBudget
        (p.gates (x.against r)).leverage account allocation r'
      ≤ p.sizeQuantity x.review.intent.side x.review.intent.exitPlan.stopPrice
        (worstEntry x.review.intent x.venue) x.venue (p.gates (x.against r)).lossBudget
        (p.gates (x.against r)).leverage account allocation r := sizeQuantity_within h hbudget
  rw [← hleverage] at hselect'
  obtain ⟨quantity, hselect, hbranch⟩ := selectQuantity_within hcapacity hselect' (r := r)
  have hpositive' : 0 < quantity' := not_le.mp hpositive'
  have hworth' : p.settings.paperMinNotionalUsd
      ≤ quantity' * worstEntry x.review.intent x.venue + 1 / 1000000000 := not_lt.mp hminimum'
  obtain ⟨hquantity, hworth, hloss⟩ : quantity' ≤ quantity ∧
      quantity' * worstEntry x.review.intent x.venue
        ≤ quantity * worstEntry x.review.intent x.venue ∧
      (economics quantity x.review.intent.exitPlan.stopPrice (worstEntry x.review.intent x.venue)
          x.review.intent.side x.venue).worstLoss
        ≤ (p.gates (x.against r)).lossBudget + 1 / 1000000 := by
    rcases hbranch with ⟨_, hsame⟩ | ⟨_, hlarger, hsmaller⟩
    · rw [hsame]
      refine ⟨le_refl _, le_refl _, ?_⟩
      linarith
    · -- both are capacities, and the larger one fits its budget
      rw [hsmaller] at hpositive'
      obtain ⟨_, _, hentry, _⟩ := sizeQuantity_pos_iff.mp hpositive'
      have hgreatest := sizeQuantity_isGreatest (lt_of_lt_of_le hpositive' hcapacity)
      rw [← hlarger, ← hsmaller] at hcapacity
      rw [← hlarger] at hgreatest
      refine ⟨hcapacity, mul_le_mul_of_nonneg_right hcapacity hentry.le, ?_⟩
      have haffordable := hgreatest.1.1
      rw [worstLoss_eq]
      linarith
  have hpositive := lt_of_lt_of_le hpositive' hquantity
  have hminimum : ¬quantity * worstEntry x.review.intent x.venue + 1 / 1000000000
      < p.settings.paperMinNotionalUsd := by
    apply not_lt.mpr
    linarith
  refine ⟨quantity, (size_nil_iff ham hlm).mpr ⟨hsilent, hselect, not_le.mpr hpositive, hminimum⟩,
    hpositive, hquantity, hworth, hloss, hbudget, ?_⟩
  intro hstrategy
  rcases hbranch with ⟨_, hsame⟩ | ⟨hother, _⟩
  · exact hsame
  · exact absurd hstrategy hother

/-- **Admission is antitone in the order of views.** -/
theorem evaluate_within (h : r.Within r')
    (hcontract : ConstructsApprovals p.core x.review x.venue) {d' : RiskTradeDecisionV1 Rat}
    (hd' : p.evaluate (x.against r') = .ok d') (ha' : d'.approved = true) :
    ∃ d, p.evaluate (x.against r) = .ok d ∧ d.approved = true ∧ d'.quantity ≤ d.quantity ∧
      d'.lossBudgetUsd ≤ d.lossBudgetUsd ∧ d'.notionalUsd ≤ d.notionalUsd ∧
      (x.review.intent.strategyId = paperCanaryStrategyId → d.quantity = d'.quantity) := by
  obtain ⟨hclock, hdev, _⟩ := evaluate_approved_iff.mp ⟨hd', ha'⟩
  obtain ⟨quantity', hsize', hloss', hquantity', hnotional', hbudget'⟩ := approved_sized hd' ha'
  obtain ⟨quantity, hsize, hpositive, hlarger, hworth, hloss, hbudget, hcanary⟩ :=
    size_within h hsize' (not_lt.mp hloss')
  obtain ⟨d, hd, ha, hquantity, hnotional, hlossBudget⟩ :=
    sized_approved (x := x.against r) hclock hdev hcontract hsize hpositive (not_lt.mpr hloss)
  refine ⟨d, hd, ha, ?_, ?_, ?_, ?_⟩
  · rw [hquantity, hquantity']
    exact hlarger
  · rw [hlossBudget, hbudget']
    exact hbudget
  · rw [hnotional, hnotional']
    exact hworth
  · intro hstrategy
    rw [hquantity, hquantity', hcanary hstrategy]

end PaperRiskPipeline

/-! ## Views of decisions -/

/-- The notional a list of decisions holds for a strategy. -/
def strategyNotional (decisions : List (RiskTradeDecisionV1 Rat)) (strategyId : String) : Rat :=
  ((decisions.filter fun d => d.intent.strategyId == strategyId).map (·.notionalUsd)).sum

/-- One decision adds its notional to its strategy's total. -/
def addNotional (totals : OrderedDict String Rat) (d : RiskTradeDecisionV1 Rat) :
    OrderedDict String Rat :=
  totals.set d.intent.strategyId ((totals.get? d.intent.strategyId).getD 0 + d.notionalUsd)

theorem addNotional_fold_get (strategyId : String) : ∀ (decisions : List (RiskTradeDecisionV1 Rat))
    (totals : OrderedDict String Rat),
    ((decisions.foldl addNotional totals).get? strategyId).getD 0
      = (totals.get? strategyId).getD 0 + strategyNotional decisions strategyId
  | [], totals => by
    show _ = _ + 0
    rw [add_zero]
    rfl
  | d :: decisions, totals => by
    rw [List.foldl_cons, addNotional_fold_get strategyId decisions]
    unfold addNotional strategyNotional
    rw [OrderedDict.get?_set, List.filter_cons]
    by_cases hsame : d.intent.strategyId = strategyId
    · rw [if_pos hsame, hsame, beq_self_eq_true, if_pos rfl, List.map_cons, List.sum_cons]
      exact add_assoc _ _ _
    · rw [if_neg hsame, if_neg (by simpa using hsame)]

theorem addNotional_fold_keys {strategyId : String} : ∀ (decisions : List (RiskTradeDecisionV1 Rat))
    (totals : OrderedDict String Rat), strategyId ∈ (decisions.foldl addNotional totals).keys ↔
      strategyId ∈ totals.keys ∨ ∃ d ∈ decisions, d.intent.strategyId = strategyId
  | [], totals => by simp
  | d :: decisions, totals => by
    rw [List.foldl_cons, addNotional_fold_keys decisions, List.exists_mem_cons_iff, ← or_assoc]
    apply or_congr_left
    unfold addNotional
    rw [← OrderedDict.get?_isSome, ← OrderedDict.get?_isSome, OrderedDict.get?_set]
    by_cases hsame : d.intent.strategyId = strategyId
    · simp [hsame]
    · simp [hsame]

/-- Overwriting a value moves the sum of the values by the difference. -/
theorem sum_setItems (k : String) (v : Rat) : ∀ l : List (String × Rat),
    ((OrderedDict.setItems k v l).map Prod.snd).sum + (OrderedDict.find k l).getD 0
      = (l.map Prod.snd).sum + v
  | [] => by simp [OrderedDict.setItems, OrderedDict.find]
  | (k', w) :: rest => by
    rw [OrderedDict.setItems, OrderedDict.find]
    by_cases h : k' = k
    · rw [if_pos h, if_pos h, List.map_cons, List.map_cons, List.sum_cons, List.sum_cons,
        Option.getD_some]
      ring
    · have ih := sum_setItems k v rest
      rw [if_neg h, if_neg h, List.map_cons, List.map_cons, List.sum_cons, List.sum_cons]
      linarith

theorem addNotional_fold_sum : ∀ (decisions : List (RiskTradeDecisionV1 Rat))
    (totals : OrderedDict String Rat),
    (decisions.foldl addNotional totals).values.sum
      = totals.values.sum + (decisions.map (·.notionalUsd)).sum
  | [], totals => by simp
  | d :: decisions, totals => by
    have hone : (addNotional totals d).values.sum = totals.values.sum + d.notionalUsd := by
      have hset := sum_setItems d.intent.strategyId
        ((totals.get? d.intent.strategyId).getD 0 + d.notionalUsd) totals.items
      show ((OrderedDict.setItems _ _ totals.items).map Prod.snd).sum
        = (totals.items.map Prod.snd).sum + d.notionalUsd
      have hget : totals.get? d.intent.strategyId
        = OrderedDict.find d.intent.strategyId totals.items := rfl
      rw [hget] at hset ⊢
      linarith
    rw [List.foldl_cons, addNotional_fold_sum decisions, hone, List.map_cons, List.sum_cons,
      add_assoc]

/-! A view's own checks, and what it holds. -/

/-- What `__post_init__` asks of a view. -/
structure PaperReservations.WellFormed (r : PaperReservations Rat) : Prop where
  symbols : ∀ symbol ∈ r.symbols, isPaperDevVenueSymbol symbol = true
  openRisk : 0 ≤ r.openRiskUsd
  notional : 0 ≤ r.notionalUsd
  canaries : 0 ≤ r.activeCanaryIdeas
  distinct : (r.strategyNotionalUsd.map Prod.fst).Nodup
  normalized : ∀ name ∈ r.strategyNotionalUsd.map Prod.fst, isNormalized name = true
  nonnegative : ∀ value ∈ r.strategyNotionalUsd.map Prod.snd, 0 ≤ value
  total : (r.strategyNotionalUsd.map Prod.snd).sum ≤ r.notionalUsd + 1 / 1000000

theorem PaperReservations.postInit_of_wellFormed {r : PaperReservations Rat} (h : r.WellFormed) :
    r.postInit = .ok { r with strategyNotionalUsd := sortedPairs r.strategyNotionalUsd } := by
  unfold postInit
  rw [raiseIf_bind, raiseIf_bind, raiseIf_bind, raiseIf_bind]
  dsimp only
  rw [raiseIf_bind, raiseIf_bind, raiseIf_bind, raiseIf_bind]
  · rfl
  · exact decide_eq_false (not_lt.mpr h.total)
  · apply List.any_eq_false.mpr
    intro value hvalue
    have hnonnegative : decide (value < PyFloat.lit 0) = false :=
      decide_eq_false (not_lt.mpr (h.nonnegative value hvalue))
    rw [hnonnegative, PyFloat.rat_isFinite]
    decide
  · simpa using h.normalized
  · rw [eraseDups_of_nodup h.distinct]
    exact decide_eq_false (not_not_intro rfl)
  · exact decide_eq_false (not_lt.mpr h.canaries)
  · exact decide_eq_false (not_lt.mpr h.notional)
  · exact decide_eq_false (not_lt.mpr h.openRisk)
  · simpa using h.symbols

/-- A view that passed its checks names venue symbols and normalized strategies. -/
theorem PaperReservations.postInit_names {r r' : PaperReservations Rat} (h : r.postInit = .ok r') :
    (∀ symbol ∈ r.symbols, isPaperDevVenueSymbol symbol = true) ∧
      ∀ name ∈ r.strategyNotionalUsd.map Prod.fst, isNormalized name = true := by
  unfold postInit at h
  obtain ⟨hsymbols, h⟩ := ok_of_raiseIf h
  obtain ⟨_, h⟩ := ok_of_raiseIf h
  obtain ⟨_, h⟩ := ok_of_raiseIf h
  obtain ⟨_, h⟩ := ok_of_raiseIf h
  obtain ⟨_, h⟩ := ok_of_raiseIf h
  obtain ⟨hnames, _⟩ := ok_of_raiseIf h
  exact ⟨by simpa using hsymbols, by simpa using hnames⟩

/-- What `reservation_view` checks, of decisions that are all approved. -/
def viewOf (decisions : List (RiskTradeDecisionV1 Rat)) : PaperReservations Rat where
  symbols := decisions.map (·.venueSymbol)
  openRiskUsd := (decisions.map (·.worstCaseLossUsd)).sum
  notionalUsd := (decisions.map (·.notionalUsd)).sum
  strategyNotionalUsd := sortedPairs (decisions.foldl addNotional OrderedDict.empty).items
  activeCanaryIdeas :=
    (decisions.filter fun d => d.intent.strategyId == paperCanaryStrategyId).length

theorem reservationView_eq (decisions : List (RiskTradeDecisionV1 Rat)) :
    reservationView decisions = (viewOf (decisions.filter (·.approved))).postInit := rfl

/-- The strategies of a view are those of its decisions. -/
theorem mem_viewOf_strategies {decisions : List (RiskTradeDecisionV1 Rat)} {name : String} :
    name ∈ (viewOf decisions).strategyNotionalUsd.map Prod.fst
      ↔ ∃ d ∈ decisions, d.intent.strategyId = name := by
  have hsorted :=
    (sortedPairs_perm (decisions.foldl addNotional OrderedDict.empty).items).map Prod.fst
  show name ∈ (sortedPairs _).map Prod.fst ↔ _
  rw [hsorted.mem_iff]
  refine Iff.trans (addNotional_fold_keys decisions OrderedDict.empty) (or_iff_right ?_)
  exact List.not_mem_nil

/-- What a view reserves for a strategy is what its decisions hold for it. -/
theorem viewOf_notionalForStrategy (decisions : List (RiskTradeDecisionV1 Rat))
    (strategyId : String) :
    ({ viewOf decisions with
        strategyNotionalUsd := sortedPairs (viewOf decisions).strategyNotionalUsd } :
      PaperReservations Rat).notionalForStrategy strategyId
      = strategyNotional decisions strategyId := by
  have hperm :
      (sortedPairs (sortedPairs (decisions.foldl addNotional OrderedDict.empty).items)).Perm
      (decisions.foldl addNotional OrderedDict.empty).items :=
    (sortedPairs_perm _).trans (sortedPairs_perm _)
  have hfold := addNotional_fold_get strategyId decisions OrderedDict.empty
  unfold PaperReservations.notionalForStrategy
  rw [OrderedDict.lookup_eq_find]
  show (OrderedDict.find strategyId (sortedPairs (sortedPairs _))).getD 0 = _
  rw [← OrderedDict.find_perm (OrderedDict.nodup _) hperm.symm]
  refine hfold.trans ?_
  rw [OrderedDict.get?_empty, Option.getD_none, zero_add]

section Subperm

variable {decisions decisions' : List (RiskTradeDecisionV1 Rat)}

theorem strategyNotional_le (h : decisions.Subperm decisions')
    (hmoney : ∀ d ∈ decisions', 0 ≤ d.notionalUsd) (strategyId : String) :
    strategyNotional decisions strategyId ≤ strategyNotional decisions' strategyId :=
  sum_le_of_subperm (h.filter _) fun d hd => hmoney d (List.mem_of_mem_filter hd)

theorem strategyNotional_nonneg (hmoney : ∀ d ∈ decisions, 0 ≤ d.notionalUsd)
    (strategyId : String) :
    0 ≤ strategyNotional decisions strategyId :=
  strategyNotional_le (List.nil_subperm) hmoney strategyId

/-- The view of part of the decisions of a checked view passes the checks. -/
theorem viewOf_wellFormed (h : decisions.Subperm decisions')
    (hmoney : ∀ d ∈ decisions', 0 ≤ d.worstCaseLossUsd ∧ 0 ≤ d.notionalUsd)
    {view' : PaperReservations Rat} (hview' : (viewOf decisions').postInit = .ok view') :
    (viewOf decisions).WellFormed := by
  obtain ⟨hsymbols, hnames⟩ := PaperReservations.postInit_names hview'
  have hmine : ∀ d ∈ decisions, 0 ≤ d.worstCaseLossUsd ∧ 0 ≤ d.notionalUsd :=
    fun d hd => hmoney d (h.subset hd)
  have hperm := sortedPairs_perm (decisions.foldl addNotional OrderedDict.empty).items
  refine
    { symbols := ?_, openRisk := ?_, notional := ?_, canaries := Int.natCast_nonneg _,
      distinct := ?_, normalized := ?_, nonnegative := ?_, total := ?_ }
  · intro symbol hsymbol
    obtain ⟨d, hd, rfl⟩ := List.mem_map.mp hsymbol
    exact hsymbols _ (List.mem_map.mpr ⟨d, h.subset hd, rfl⟩)
  · exact sum_le_of_subperm List.nil_subperm fun d hd => (hmine d hd).1
  · exact sum_le_of_subperm List.nil_subperm fun d hd => (hmine d hd).2
  · exact ((hperm.map Prod.fst).nodup_iff).mpr (OrderedDict.nodup _)
  · intro name hname
    obtain ⟨d, hd, hstrategy⟩ := mem_viewOf_strategies.mp hname
    exact hnames name (mem_viewOf_strategies.mpr ⟨d, h.subset hd, hstrategy⟩)
  · intro value hvalue
    obtain ⟨⟨name, held⟩, hitem, rfl⟩ := List.mem_map.mp hvalue
    have hget := OrderedDict.get?_eq_some.mpr (hperm.mem_iff.mp hitem)
    have hfold := addNotional_fold_get name decisions OrderedDict.empty
    rw [hget, OrderedDict.get?_empty, Option.getD_none, Option.getD_some, zero_add] at hfold
    show 0 ≤ held
    rw [hfold]
    exact strategyNotional_nonneg (fun d hd => (hmine d hd).2) name
  · have hvalues := addNotional_fold_sum decisions OrderedDict.empty
    have hsorted := (hperm.map Prod.snd).sum_eq
    show ((sortedPairs _).map Prod.snd).sum ≤ (decisions.map (·.notionalUsd)).sum + 1 / 1000000
    rw [hsorted]
    refine le_trans (le_of_eq hvalues) ?_
    show 0 + _ ≤ _
    linarith

/-- **Fewer decisions make a smaller view.** -/
theorem reservationView_within (h : decisions.Subperm decisions')
    (hmoney : ∀ d ∈ decisions', 0 ≤ d.worstCaseLossUsd ∧ 0 ≤ d.notionalUsd)
    {view' : PaperReservations Rat} (hview' : reservationView decisions' = .ok view') :
    ∃ view, reservationView decisions = .ok view ∧ view.Within view' := by
  have happroved := h.filter (·.approved)
  have hmoney' : ∀ d ∈ decisions'.filter (·.approved),
      0 ≤ d.worstCaseLossUsd ∧ 0 ≤ d.notionalUsd := fun d hd => hmoney d (List.mem_of_mem_filter hd)
  rw [reservationView_eq] at hview' ⊢
  have hview :=
    PaperReservations.postInit_of_wellFormed (viewOf_wellFormed happroved hmoney' hview')
  refine ⟨_, hview, ?_⟩
  rw [PaperReservations.postInit_ok hview']
  refine
    { symbols := ?_, openRisk := ?_, notional := ?_, strategies := ?_, canaries := ?_ }
  · intro symbol hsymbol
    obtain ⟨d, hd, rfl⟩ := List.mem_map.mp hsymbol
    exact List.mem_map.mpr ⟨d, happroved.subset hd, rfl⟩
  · exact sum_le_of_subperm happroved fun d hd => (hmoney' d hd).1
  · exact sum_le_of_subperm happroved fun d hd => (hmoney' d hd).2
  · intro strategyId
    rw [viewOf_notionalForStrategy, viewOf_notionalForStrategy]
    exact strategyNotional_le happroved (fun d hd => (hmoney' d hd).2) strategyId
  · exact Int.ofNat_le.mpr (happroved.filter _).length_le

end Subperm

namespace PaperRiskPipeline

variable {D : Type} [PyDecimal D] [Spelling Rat D] {p : PaperRiskPipeline Rat D}
  {x : PaperInputs Rat}

end PaperRiskPipeline

namespace Scenario

/-- An approval of the same size on another symbol. -/
def elsewhere : RiskTradeDecisionV1 Rat := { firstInvestment with venueSymbol := "ETHUSD:DEV" }

/-- The view that reserves it. -/
def reservedElsewhere : PaperReservations Rat :=
  (reservationView [elsewhere]).toOption.get (by decide +kernel)

/-- The first idea, decided against that view. -/
def investedBeside : RiskTradeDecisionV1 Rat :=
  (market.evaluate ((investing (account 1 60200)).against reservedElsewhere)).toOption.get
    (by decide +kernel)

end Scenario

end KairosRisk
