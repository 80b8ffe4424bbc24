import KairosRisk.CapitalGrowth
import KairosRisk.FloatConversion

/-!
# Adopting a capital proposal

A proposal is adopted by putting its limits under a new scope and verifying the
account against it; the same policy can then be proposed again (`repropose`).
Every dollar ceiling comes back as it went in: it is spelled in whole cents,
within the policy's share, and converts to itself. A fraction comes back only if
it is the spelling of a float. Otherwise its float is spelled below it, and the
next call refuses the same policy as above the scope.

`adoption_keeps_iff` says so exactly, and that a cycle that kept the limits once
keeps them for good.
-/

namespace KairosRisk

open PyLib CapitalBudget

/-- What is asked of `str` beyond the directed conversions: since it gives the
shortest decimal that converts back, whole cents convert downward to a float
that is spelled in whole cents. -/
class CentSpelling (F : Type) [PyFloat F] [Spelling F Rat] : Prop where
  lower_cents : ∀ {v : Rat} {x : F}, 0 ≤ v → Multiple usdQuantum v → lowerFloat v = .ok x →
    Multiple usdQuantum (Spelling.spell x)

/-- A number is the spelling of a finite float. -/
def IsSpelling (F : Type) [PyFloat F] [Spelling F Rat] (v : Rat) : Prop :=
  ∃ z : F, PyFloat.isFinite z = true ∧ Spelling.spell z = v

namespace CapitalBudget

variable {F : Type} [PyFloat F] [Spelling F Rat]

/-! ## The cycle -/

/-- A scope that carries other limits. -/
def rescoped (scope : LiveRiskScopeFields) (riskLimitsSha256 : String) : LiveRiskScopeFields :=
  { scope with riskLimitsSha256 := riskLimitsSha256 }

/-- The same facts, bound to another scope. -/
def rebound (facts : LiveAccountFacts F) (scopeSha256 : String) : LiveAccountFacts F :=
  { facts with scopeSha256 := scopeSha256 }

/-- The call after a proposal is adopted: a scope that carries the proposed
limits, and the same facts bound to it. -/
def adopt (core : CapitalCore F) (x : CapitalBudgetCall F) (r : CapitalBudgetProposalV1 F) :
    Except PyError (CapitalBudgetCall F) := do
  let fields := rescoped x.expectedScope r.proposedRiskLimitsSha256
  let scope ← LiveRiskScopeV1.modelValidate core.toLiveCore fields
  return { x with
    expectedScope := fields
    currentLimits := r.proposedLimits.toLiveRiskLimitsFields
    verifiedAccount := rebound x.verifiedAccount scope.scopeSha256 }

/-- One cycle: adopt, and call again. -/
def repropose (core : CapitalCore F) (s : CapitalBudgetCall F × CapitalBudgetProposalV1 F) :
    Except PyError (CapitalBudgetCall F × CapitalBudgetProposalV1 F) := do
  let x ← adopt core s.1 s.2
  let r ← proposeCapitalBudget core x
  return (x, r)

/-- Any number of cycles. -/
def cycles (core : CapitalCore F) : Nat → CapitalBudgetCall F × CapitalBudgetProposalV1 F →
    Except PyError (CapitalBudgetCall F × CapitalBudgetProposalV1 F)
  | 0, s => .ok s
  | n + 1, s => repropose core s >>= cycles core n

/-! ## Rebinding -/

/-- Facts that passed their checks pass them under another scope. -/
theorem check_rebound {core : LiveCore F} {facts : LiveAccountFacts F} (sha : String)
    (h : facts.check Rat core = .ok ()) (hsha : isSha256Hex sha = true) :
    (rebound facts sha).check Rat core = .ok () := by
  unfold LiveAccountFacts.check at h ⊢
  obtain ⟨hfields, h⟩ := ok_of_raiseIf h
  rw [raiseIf_bind]
  · exact h
  · simp only [Bool.or_eq_false_iff, Bool.not_eq_false', List.all_cons, Bool.and_eq_true]
      at hfields ⊢
    obtain ⟨⟨⟨⟨hlength, hshas⟩, hasOf⟩, haccount⟩, hnumbers⟩ := hfields
    exact ⟨⟨⟨⟨hlength, hsha, hshas.2⟩, hasOf⟩, haccount⟩, hnumbers⟩

omit [PyFloat F] [Spelling F Rat] in
/-- So does a scope with other limits. -/
theorem check_rescoped {core : LiveCore F} {s : LiveRiskScopeFields} {sha : String}
    (h : s.check core = .ok ()) (hsha : isSha256Hex sha = true) :
    (rescoped s sha).check core = .ok () := by
  unfold LiveRiskScopeFields.check at h ⊢
  obtain ⟨hfields, h⟩ := ok_of_raiseIf h
  rw [raiseIf_bind]
  · exact h
  · simp only [Bool.or_eq_false_iff, Bool.not_eq_false', List.all_cons, List.all_nil, Bool.and_true,
      Bool.and_eq_true] at hfields ⊢
    obtain ⟨⟨⟨hcontext, hsource, hpolicy, -⟩, hids⟩, hsymbols⟩ := hfields
    exact ⟨⟨⟨hcontext, hsource, hpolicy, hsha⟩, hids⟩, hsymbols⟩

omit [PyFloat F] [Spelling F Rat] in
/-- The scope of the adopted limits validates, to the old one but for its limits. -/
theorem modelValidate_rescoped {core : LiveCore F} {s : LiveRiskScopeFields}
    {r : LiveRiskScopeV1 core} (sha : String) (h : LiveRiskScopeV1.modelValidate core s = .ok r)
    (hsha : isSha256Hex sha = true) :
    ∃ r' : LiveRiskScopeV1 core,
      LiveRiskScopeV1.modelValidate core (rescoped s sha) = .ok r' ∧
      r'.toLiveRiskScopeFields = rescoped r.toLiveRiskScopeFields sha := by
  unfold LiveRiskScopeV1.modelValidate at h
  obtain ⟨⟨hvalid⟩, -, h⟩ := ok_of_bind h
  cases h
  have hvalid' := check_rescoped hvalid hsha
  refine ⟨⟨_, hvalid'⟩, ?_, rfl⟩
  show (certify _ >>= _) = _
  exact congrArg (· >>= _) (certify_of_ok hvalid')

/-! ## What comes back -/

omit [PyFloat F] [Spelling F Rat] in
theorem usdFloor_of_multiple {v : Rat} (hv : 0 ≤ v) (h : Multiple usdQuantum v) :
    usdFloor v = v := by
  have hgreatest : IsGreatest {q | Multiple usdQuantum q ∧ q ≤ v} v :=
    ⟨⟨h, le_refl v⟩, fun _ hq => hq.2⟩
  exact (usdFloor_isGreatest hv).unique hgreatest

/-- The figures are what the limits are spelled as. -/
structure Figures.Spelled (b : Figures) (l : LiveRiskLimitsFields F) : Prop where
  baseline : b.baselineCeiling = Spelling.spell l.maxAccountEquityUsd
  minimum : b.proposalMinimum = Spelling.spell l.minNotionalUsd
  per_trade : b.perTradeCap = Spelling.spell l.perTradeDollarCapUsd
  daily : b.dailyCap = Spelling.spell l.dailyLossCapUsd
  aggregate : b.aggregateNotionalCap = Spelling.spell l.aggregateDollarCapUsd
  total : b.totalNotionalCap = Spelling.spell l.maxPositionNotionalUsd

section Adopted

variable [DirectedConversion F] {limits new : LiveRiskLimitsV1 F} {policy : CapitalBudgetPolicyV1}
  {minimums : List VenueMinimumNotionalV1} {e : F} {equity : Rat}

/-- A positive spelling converts downward to the float it spells. -/
theorem spell_of_isSpelling {v : Rat} {x : F} (hv : 0 < v) (hspelling : IsSpelling F v)
    (h : lowerFloat v = .ok x) : Spelling.spell x = v := by
  obtain ⟨z, hfinite, rfl⟩ := hspelling
  rw [DirectedConversion.lower_spell (isPositive_float_iff.mpr ⟨hfinite, hv⟩)] at h
  cases h
  rfl

/-- A ceiling converted from whole cents is cut to itself. -/
theorem usdFloor_spell [CentSpelling F] {v : Rat} {x : F} (hx : isPositive x = true) (hv : 0 ≤ v)
    (h : lowerFloat (usdFloor v) = .ok x) : usdFloor (Spelling.spell x) = Spelling.spell x := by
  have hcents := (usdFloor_isGreatest hv).1.1
  exact usdFloor_of_multiple (spell_pos hx).le
    (CentSpelling.lower_cents (usdFloor_nonneg hv) hcents h)

/-- A minimum of spellings cut to cents, where the first is the smaller. -/
theorem usdFloor_min_spell [CentSpelling F] {v c : Rat} {x : F} (hx : isPositive x = true)
    (hv : 0 ≤ v) (h : lowerFloat (usdFloor v) = .ok x) (hc : Spelling.spell x ≤ c) :
    usdFloor (PyDecimal.min (Spelling.spell x) [c]) = Spelling.spell x := by
  rw [PyDecimal.rat_min_pair, min_eq_left hc]
  exact usdFloor_spell hx hv h

/-- **The ceilings come back**: computed from the adopted limits, the figures
are what those are spelled as. -/
theorem computed_adopted [CentSpelling F] (hequity : equity = Spelling.spell e) (he : 0 < equity)
    (haffordable : Affordable limits policy (computed equity limits policy minimums))
    (h : Converted policy (computed equity limits policy minimums) new.toLiveRiskLimitsFields) :
    (computed equity new policy minimums).Spelled new.toLiveRiskLimitsFields := by
  have htightens := h.tightens hequity he haffordable
  have hpositive := new.coherent.positive
  have hcurrent := limits.coherent.positive
  have hbasis := capitalBasis_pos limits policy minimums he
  have hsame : (computed equity new policy minimums).capitalBasis
      = (computed equity limits policy minimums).capitalBasis := by
    show PyDecimal.min equity [Spelling.spell new.maxAccountEquityUsd] = _
    rw [htightens.max_equity]
    rfl
  have hmin : (computed equity limits policy minimums).capitalBasis
      = min (Spelling.spell e) (Spelling.spell limits.maxAccountEquityUsd) := by
    show PyDecimal.min equity [Spelling.spell limits.maxAccountEquityUsd] = _
    rw [PyDecimal.rat_min_pair, hequity]
  have haggregate : (computed equity new policy minimums).aggregateNotionalCap
      = Spelling.spell new.aggregateDollarCapUsd := by
    show usdFloor (PyDecimal.min (computed equity new policy minimums).capitalBasis
      [Spelling.spell new.aggregateDollarCapUsd]) = _
    rw [hsame, hmin, PyDecimal.rat_min_pair, min_eq_right htightens.basis]
    have hcurrentAggregate := spell_pos hcurrent.aggregate
    refine usdFloor_spell hpositive.aggregate ?_ h.aggregate
    rw [PyDecimal.rat_min_pair]
    exact le_min hbasis.le hcurrentAggregate.le
  constructor
  case baseline => rfl
  case minimum =>
    show PyDecimal.max (venueMinimum minimums) (Spelling.spell new.minNotionalUsd) = _
    obtain ⟨hvenue, hfloor⟩ := le_proposalMinimum limits policy minimums equity
    have hpos := spell_pos hcurrent.floor
    have hfinite := (isPositive_float_iff.mp hpositive.floor).1
    have hup := DirectedConversion.le_upper (hpos.le.trans hfloor) h.floor hfinite
    rw [PyDecimal.rat_max_eq, max_eq_right (hvenue.trans hup)]
  case per_trade =>
    refine usdFloor_min_spell hpositive.per_trade ?_ h.per_trade ?_
    · rw [PyDecimal.rat_min_pair]
      exact le_min (spell_pos hcurrent.per_trade).le
        (mul_pos hbasis policy.perTradeRiskFraction.property.1).le
    · show _ ≤ (computed equity new policy minimums).capitalBasis * _
      rw [hsame, hmin]
      exact htightens.per_trade_share
  case daily =>
    refine usdFloor_min_spell hpositive.daily ?_ h.daily ?_
    · rw [PyDecimal.rat_min_pair]
      exact le_min (spell_pos hcurrent.daily).le
        (mul_pos hbasis policy.dailyLossFraction.property.1).le
    · show _ ≤ (computed equity new policy minimums).capitalBasis * _
      rw [hsame, hmin]
      exact htightens.daily_share
  case aggregate => exact haggregate
  case total =>
    show usdFloor (PyDecimal.min (computed equity new policy minimums).aggregateNotionalCap
      [Spelling.spell new.maxPositionNotionalUsd]) = _
    have hwithin := spell_mono hpositive.position hpositive.aggregate htightens.position_within
    rw [haggregate, PyDecimal.rat_min_pair, min_eq_right hwithin]
    refine usdFloor_spell hpositive.position ?_ h.position
    rw [PyDecimal.rat_min_pair]
    exact le_min (aggregateCap_nonneg limits policy minimums he) (spell_pos hcurrent.position).le

/-- Where the fractions are spellings, the adopted limits are proposed again. -/
theorem Converted.adopted [CentSpelling F] (hequity : equity = Spelling.spell e) (he : 0 < equity)
    (haffordable : Affordable limits policy (computed equity limits policy minimums))
    (h : Converted policy (computed equity limits policy minimums) new.toLiveRiskLimitsFields)
    (hper : IsSpelling F policy.perTradeRiskFraction.val)
    (hagg : IsSpelling F policy.aggregateOpenRiskFraction.val) :
    Affordable new policy (computed equity new policy minimums) ∧
      Converted policy (computed equity new policy minimums) new.toLiveRiskLimitsFields := by
  have hspelled := computed_adopted hequity he haffordable h
  have hpositive := new.coherent.positive
  constructor
  · have hfloor := (not_min_lt_iff hpositive.aggregate hpositive.position hpositive.floor).mp
      new.coherent.floor
    constructor
    case per_trade_fraction =>
      exact (spell_of_isSpelling policy.perTradeRiskFraction.property.1 hper
        h.per_trade_fraction).ge
    case aggregate_fraction =>
      exact (spell_of_isSpelling policy.aggregateOpenRiskFraction.property.1 hagg
        h.aggregate_fraction).ge
    case per_trade => exact hspelled.per_trade ▸ spell_pos hpositive.per_trade
    case daily => exact hspelled.daily ▸ spell_pos hpositive.daily
    case total => exact hspelled.total ▸ spell_pos hpositive.position
    case minimum =>
      rw [hspelled.minimum, hspelled.total]
      exact hfloor.2
  · constructor
    case per_trade_fraction => exact h.per_trade_fraction
    case aggregate_fraction => exact h.aggregate_fraction
    case leverage => exact h.leverage
    case per_trade =>
      rw [hspelled.per_trade]
      exact DirectedConversion.lower_spell hpositive.per_trade
    case aggregate =>
      rw [hspelled.aggregate]
      exact DirectedConversion.lower_spell hpositive.aggregate
    case daily =>
      rw [hspelled.daily]
      exact DirectedConversion.lower_spell hpositive.daily
    case equity =>
      rw [hspelled.baseline]
      exact DirectedConversion.lower_spell hpositive.max_equity
    case position =>
      rw [hspelled.total]
      exact DirectedConversion.lower_spell hpositive.position
    case floor =>
      rw [hspelled.minimum]
      exact DirectedConversion.upper_spell hpositive.floor

/-- A fraction that is not above the float it converted downward to is its spelling. -/
theorem isSpelling_of_le {v : Rat} {x : F} (hv : 0 < v) (h : lowerFloat v = .ok x)
    (hle : v ≤ Spelling.spell x) : IsSpelling F v :=
  ⟨x, DirectedConversion.lower_finite hv.le h,
    le_antisymm (DirectedConversion.lower_le hv.le h) hle⟩

/-- Adopted limits that are affordable have the fractions of the policy spelled out. -/
theorem Converted.isSpelling (h : Converted policy (computed equity limits policy minimums)
      new.toLiveRiskLimitsFields)
    (haffordable : Affordable new policy (computed equity new policy minimums)) :
    IsSpelling F policy.perTradeRiskFraction.val ∧
      IsSpelling F policy.aggregateOpenRiskFraction.val :=
  ⟨isSpelling_of_le policy.perTradeRiskFraction.property.1 h.per_trade_fraction
      haffordable.per_trade_fraction,
    isSpelling_of_le policy.aggregateOpenRiskFraction.property.1 h.aggregate_fraction
      haffordable.aggregate_fraction⟩

end Adopted

/-! ## The second call -/

/-- The inputs of the second call: those of the first, with other limits. -/
structure Rebound {core : CapitalCore F} (v v' : Revalidated core) (limits : LiveRiskLimitsV1 F) :
    Prop where
  equity : v'.equity = v.equity
  limits : v'.limits = limits
  policy : v'.policy = v.policy
  minimums : v'.minimums = v.minimums
  symbols : v'.scope.approvedProdSymbols = v.scope.approvedProdSymbols

/-- **Adoption** succeeds, and what it leads to passes revalidation and belongs together. -/
theorem adopt_report [DirectedConversion F] {core : CapitalCore F}
    (hsha : ∀ payload, isSha256Hex (core.canonicalSha256 payload) = true) {x : CapitalBudgetCall F}
    {v : Revalidated core} (hv : Revalidates core x v)
    (hevidence : checkEvidence core v x.nowMs = .ok ()) (b : Figures)
    (limits : LiveRiskLimitsV1 F) :
    ∃ (x' : CapitalBudgetCall F) (v' : Revalidated core),
      adopt core x (report core v b limits) = .ok x' ∧ x'.nowMs = x.nowMs ∧ x'.policy = x.policy ∧
      Revalidates core x' v' ∧ Rebound v v' limits ∧
      checkEvidence core v' x'.nowMs = .ok () := by
  have hevidenced := checkEvidence_ok_iff.mp hevidence
  obtain ⟨scope, hscope, hfields⟩ := modelValidate_rescoped (limits.limitsSha256 core.toLiveCore)
    hv.scope (hsha _)
  have hfacts := check_rebound scope.scopeSha256 v.account.validated (hsha _)
  let x' : CapitalBudgetCall F :=
    { x with
      expectedScope := rescoped x.expectedScope (limits.limitsSha256 core.toLiveCore)
      currentLimits := limits.toLiveRiskLimitsFields
      verifiedAccount := rebound x.verifiedAccount scope.scopeSha256 }
  let v' : Revalidated core :=
    { v with scope := scope, limits := limits, account := ⟨_, hfacts⟩ }
  have haccount : rebound v.account.toLiveAccountFacts scope.scopeSha256 = x'.verifiedAccount := by
    rw [hv.account]
  refine ⟨x', v', ?_, rfl, rfl, ?_, ?_, ?_⟩
  · unfold adopt
    exact congrArg (· >>= _) hscope
  · exact ⟨hv.equity, haccount, hscope, rfl, hv.policy, hv.some_minimum, hv.minimums⟩
  · refine ⟨rfl, rfl, rfl, rfl, ?_⟩
    show scope.approvedProdSymbols = _
    rw [hfields]
    rfl
  · apply checkEvidence_ok_iff.mpr
    constructor
    case limits =>
      show scope.riskLimitsSha256 = _
      rw [hfields]
      rfl
    case scope => rfl
    case account =>
      show _ = scope.accountId
      rw [hfields]
      exact hevidenced.account
    case not_future => exact hevidenced.not_future
    case fresh => exact hevidenced.fresh

/-- Inputs revalidate to one thing. -/
theorem Revalidates.unique {core : CapitalCore F} {x : CapitalBudgetCall F}
    {v v' : Revalidated core} (h : Revalidates core x v) (h' : Revalidates core x v') : v = v' := by
  have heq := (revalidate_ok_iff.mpr h).symm.trans (revalidate_ok_iff.mpr h')
  exact Except.ok.inj heq

/-- The second call computes its figures from the adopted limits, and otherwise
goes through. -/
theorem repropose_report [DirectedConversion F] {core : CapitalCore F}
    (hsha : ∀ payload, isSha256Hex (core.canonicalSha256 payload) = true) {x : CapitalBudgetCall F}
    {v : Revalidated core} (hnow : 0 ≤ x.nowMs) (hv : Revalidates core x v)
    (hevidence : checkEvidence core v x.nowMs = .ok ())
    (hcoverage :
      checkCoverage (v.scope.approvedProdSymbols.map Prod.snd) v.minimums x.nowMs = .ok ())
    (b : Figures) (limits : LiveRiskLimitsV1 F) :
    ∃ (x' : CapitalBudgetCall F) (v' : Revalidated core), x'.policy = x.policy ∧
      ∀ y, repropose core (x, report core v b limits) = .ok y ↔
        ∃ b' limits', figures v.equity.val limits v.policy v.minimums = .ok b' ∧
          proposedLimits v.policy b' = .ok limits' ∧ y = (x', report core v' b' limits') := by
  obtain ⟨x', v', hadopt, hsame, hpolicy, hv', hrebound, hevidence'⟩ :=
    adopt_report hsha hv hevidence b limits
  rw [← hsame] at hnow hcoverage
  rw [← hrebound.symbols, ← hrebound.minimums] at hcoverage
  refine ⟨x', v', hpolicy, fun y => ?_⟩
  rw [← hrebound.equity, ← hrebound.policy, ← hrebound.minimums]
  unfold repropose
  rw [hadopt, ok_bind]
  constructor
  · intro hy
    obtain ⟨r', hr', hy⟩ := ok_of_bind hy
    cases hy
    obtain ⟨w, b', limits', -, hw, -, -, hb', hl', rfl⟩ := proposeCapitalBudget_ok_iff.mp hr'
    cases hw.unique hv'
    rw [hrebound.limits] at hb'
    exact ⟨b', limits', hb', hl', rfl⟩
  · rintro ⟨b', limits', hb', hl', rfl⟩
    rw [← hrebound.limits] at hb'
    rw [proposeCapitalBudget_ok_iff.mpr
      ⟨v', b', limits', hnow, hv', hevidence', hcoverage, hb', hl', rfl⟩]
    rfl

section Cycles

variable [DirectedConversion F] [CentSpelling F] {core : CapitalCore F} {x : CapitalBudgetCall F}
  {r : CapitalBudgetProposalV1 F} {policy : CapitalBudgetPolicyV1}

omit [DirectedConversion F] [CentSpelling F] in
/-- A cycle that succeeds leads to a call with the same policy. -/
theorem repropose_ok {y : CapitalBudgetCall F × CapitalBudgetProposalV1 F}
    (h : repropose core (x, r) = .ok y) :
    proposeCapitalBudget core y.1 = .ok y.2 ∧ y.1.policy = x.policy := by
  unfold repropose at h
  obtain ⟨x', hadopt, h⟩ := ok_of_bind h
  obtain ⟨r', hr', h⟩ := ok_of_bind h
  cases h
  unfold adopt at hadopt
  obtain ⟨_, _, hadopt⟩ := ok_of_bind hadopt
  cases hadopt
  exact ⟨hr', rfl⟩

/-- **One cycle** succeeds exactly where both fractions are spellings, and
returns the limits it was given. -/
theorem repropose_iff (hsha : ∀ payload, isSha256Hex (core.canonicalSha256 payload) = true)
    (h : proposeCapitalBudget core x = .ok r)
    (hpolicy : CapitalBudgetPolicyV1.make x.policy = .ok policy) :
    ((∃ y, repropose core (x, r) = .ok y) ↔
      IsSpelling F policy.perTradeRiskFraction.val ∧
        IsSpelling F policy.aggregateOpenRiskFraction.val) ∧
    ∀ y, repropose core (x, r) = .ok y → y.2.proposedLimits = r.proposedLimits := by
  obtain ⟨v, b, limits, hnow, hv, hevidence, hcoverage, hb, hlimits, rfl⟩ :=
    proposeCapitalBudget_ok_iff.mp h
  obtain ⟨rfl, haffordable⟩ := figures_ok_iff.mp hb
  have hconverted := proposedLimits_ok_iff.mp hlimits
  cases hv.policy.symm.trans hpolicy
  have hequity := (decimal_float_ok hv.equity).2
  have hpos := v.equity.property.2 rfl
  obtain ⟨x', v', -, hiff⟩ := repropose_report hsha hnow hv hevidence hcoverage
    (computed v.equity.val v.limits v.policy v.minimums) limits
  have hspelling : ∀ y, repropose core (x, report core v (computed v.equity.val v.limits v.policy
      v.minimums) limits) = .ok y →
      IsSpelling F v.policy.perTradeRiskFraction.val ∧
        IsSpelling F v.policy.aggregateOpenRiskFraction.val := by
    intro y hy
    obtain ⟨b', limits', hb', -, -⟩ := (hiff y).mp hy
    obtain ⟨rfl, haffordable'⟩ := figures_ok_iff.mp hb'
    exact hconverted.isSpelling haffordable'
  have hadopted : IsSpelling F v.policy.perTradeRiskFraction.val →
      IsSpelling F v.policy.aggregateOpenRiskFraction.val →
      figures v.equity.val limits v.policy v.minimums
          = .ok (computed v.equity.val limits v.policy v.minimums) ∧
        proposedLimits v.policy (computed v.equity.val limits v.policy v.minimums)
          = .ok limits := by
    intro hper hagg
    obtain ⟨haffordable', hconverted'⟩ := hconverted.adopted hequity hpos haffordable hper hagg
    exact ⟨figures_ok_iff.mpr ⟨rfl, haffordable'⟩, proposedLimits_ok_iff.mpr hconverted'⟩
  refine ⟨⟨fun ⟨y, hy⟩ => hspelling y hy, fun ⟨hper, hagg⟩ => ?_⟩, fun y hy => ?_⟩
  · obtain ⟨hb', hlimits'⟩ := hadopted hper hagg
    exact ⟨_, (hiff _).mpr ⟨_, _, hb', hlimits', rfl⟩⟩
  · obtain ⟨hb', hlimits'⟩ := hadopted (hspelling y hy).1 (hspelling y hy).2
    obtain ⟨b'', limits'', hb'', hlimits'', rfl⟩ := (hiff y).mp hy
    rw [hb'] at hb''
    cases hb''
    rw [hlimits'] at hlimits''
    exact (Except.ok.inj hlimits'').symm

/-- A cycle that can be gone through can be gone through any number of times. -/
theorem cycles_keep (hsha : ∀ payload, isSha256Hex (core.canonicalSha256 payload) = true)
    (hper : IsSpelling F policy.perTradeRiskFraction.val)
    (hagg : IsSpelling F policy.aggregateOpenRiskFraction.val) (n : Nat) :
    ∀ {x : CapitalBudgetCall F} {r : CapitalBudgetProposalV1 F},
      proposeCapitalBudget core x = .ok r → CapitalBudgetPolicyV1.make x.policy = .ok policy →
      ∃ y, cycles core n (x, r) = .ok y ∧ y.2.proposedLimits = r.proposedLimits := by
  induction n with
  | zero =>
    intro x r _ _
    exact ⟨(x, r), rfl, rfl⟩
  | succ n ih =>
    intro x r h hpolicy
    obtain ⟨hiff, hkeeps⟩ := repropose_iff hsha h hpolicy
    obtain ⟨⟨x', r'⟩, hcycle⟩ := hiff.mpr ⟨hper, hagg⟩
    obtain ⟨h', hsame⟩ := repropose_ok hcycle
    rw [← hsame] at hpolicy
    obtain ⟨y, hy, hlimits⟩ := ih h' hpolicy
    refine ⟨y, ?_, hlimits.trans (hkeeps _ hcycle)⟩
    rw [cycles, hcycle]
    exact hy

/-- **Adoption keeps a proposal's limits** exactly where its policy's per-trade
and aggregate fractions are spellings of floats: there every number of cycles
returns the limits of the first, and elsewhere the first cycle is refused. -/
theorem adoption_keeps_iff (hsha : ∀ payload, isSha256Hex (core.canonicalSha256 payload) = true)
    (h : proposeCapitalBudget core x = .ok r) :
    ∃ policy : CapitalBudgetPolicyV1, CapitalBudgetPolicyV1.make x.policy = .ok policy ∧
      ((∃ y, repropose core (x, r) = .ok y) ↔
        IsSpelling F policy.perTradeRiskFraction.val ∧
          IsSpelling F policy.aggregateOpenRiskFraction.val) ∧
      ((∀ n, ∃ y, cycles core n (x, r) = .ok y ∧ y.2.proposedLimits = r.proposedLimits) ↔
        IsSpelling F policy.perTradeRiskFraction.val ∧
          IsSpelling F policy.aggregateOpenRiskFraction.val) := by
  obtain ⟨v, _, _, _, hv, _, _, _, _, _⟩ := proposeCapitalBudget_ok_iff.mp h
  obtain ⟨hiff, -⟩ := repropose_iff hsha h hv.policy
  refine ⟨v.policy, hv.policy, hiff, ?_, ?_⟩
  · intro hcycles
    obtain ⟨y, hy, -⟩ := hcycles 1
    obtain ⟨y', hcycle, -⟩ := ok_of_bind hy
    exact hiff.mp ⟨y', hcycle⟩
  · intro hspelling n
    exact cycles_keep hsha hspelling.1 hspelling.2 n h hv.policy

end Cycles

end CapitalBudget

/-! ## Two policies over binary64 floats -/

namespace Scenario

open GridFloat

theorem someSpelling_cents : ∀ i : Fin 16, 4 ≤ i → (someSpelling i * 100).den = 1 := by
  decide +kernel

/-- From a cent on these floats are spelled in whole cents. -/
instance : CentSpelling (GridFloat someFormat) where
  lower_cents {v x} hv hcents h := by
    obtain ⟨-, rfl⟩ := lowerFloat_grid_ok hv h
    rw [spell_finite]
    obtain ⟨n, rfl⟩ := hcents
    by_cases hzero : n = 0
    · have hbelow := FloatGrid.below_spell (le_refl someFormat.zero)
      rw [someFormat.spell_zero] at hbelow
      rw [hzero, Int.cast_zero, zero_mul, hbelow, someFormat.spell_zero]
      exact ⟨0, by simp⟩
    · -- a cent is a float, so the float below is from it on
      have hcent : someFormat.spell (4 : Fin 16) ≤ n * usdQuantum := by
        have hone : (1 : Rat) ≤ n := by
          have hpos : 0 ≤ n := by
            by_contra hneg
            have hlt : (n : Rat) * usdQuantum < 0 :=
              mul_neg_of_neg_of_pos (Int.cast_lt_zero.mpr (not_le.mp hneg)) (by decide +kernel)
            exact absurd hv (not_le.mpr hlt)
          exact_mod_cast (by omega : 1 ≤ n)
        have hspell : someFormat.spell (4 : Fin 16) = 1 * usdQuantum := by decide +kernel
        rw [hspell]
        exact mul_le_mul_of_nonneg_right hone (by decide +kernel)
      have hle := (FloatGrid.isGreatest_below hv).2 hcent
      have hden := someSpelling_cents _ hle
      refine ⟨(someSpelling (someFormat.below (n * usdQuantum)) * 100).num, ?_⟩
      rw [Rat.den_eq_one_iff] at hden
      rw [hden, usdQuantum, mul_assoc, show (100 : Rat) * (1 / 100) = 1 from by decide +kernel,
        mul_one]
      rfl

/-- The digests of the scope and of the limits: those of the other limits are others. -/
def gridDigests (payload : List (String × PayloadValue (GridFloat someFormat))) : String :=
  match payload.lookup "context_sha256", payload.lookup "risk_limits_sha256",
      payload.lookup "per_trade_risk_fraction" with
  | some _, some (.text limits), _ => if limits = digest 'e' then digest 'd' else digest 'f'
  | _, _, some (.number x) => if x = PyFloat.lit (25 / 10000) then digest 'e' else digest '9'
  | _, _, _ => digest '8'

/-- The contracts package over these floats. -/
def gridCore : CapitalCore (GridFloat someFormat) where
  upper := id
  decisionIds _ := none
  regimeBindingValid _ := true
  canonicalSha256 := gridDigests
  reviewValid _ := true
  venueValid _ := true
  accountValid _ := true
  reviewSha256 _ := digest '1'
  venueSha256 _ := digest '2'
  allocationSha256 _ := digest '3'
  itemsSha256 _ := digest '6'

/-- A call about eight thousand dollars under a per-trade fraction. -/
def gridCall (perTradeRiskFraction : Rat) : CapitalBudgetCall (GridFloat someFormat) where
  verifiedAccount :=
    { sourceId := "live-account", scopeSha256 := digest 'd', evidenceSha256 := digest '4'
      asOfMs := 60200
      account :=
        { snapshotId := "snapshot-1", tradingMode := .live, evedexProfile := .prod
          accountId := "kairos-live-01", equityUsd := PyFloat.lit 8000
          availableBalanceUsd := PyFloat.lit 8000, durableDayStartEquityUsd := PyFloat.lit 8000
          durablePeakEquityUsd := PyFloat.lit 8000, dailyRealizedPnlUsd := PyFloat.lit 0
          unrealizedPnlUsd := PyFloat.lit 0, totalOpenRiskUsd := PyFloat.lit 0
          capturedAtMs := 60200, reconciliationSeq := 1, reconciled := true, positions := []
          openOrders := [] }
      aggregateOpenRiskUsd := PyFloat.lit 0, aggregateOpenNotionalUsd := PyFloat.lit 0
      reservedOpenRiskUsd := PyFloat.lit 0, reservedOpenNotionalUsd := PyFloat.lit 0
      strategyOpenNotionalUsd := PyFloat.lit 0, strategyReservedNotionalUsd := PyFloat.lit 0
      dailyAdverseLossUsd := PyFloat.lit 0 }
  expectedScope := liveScope
  currentLimits :=
    { perTradeRiskFraction := PyFloat.lit (25 / 10000)
      aggregateOpenRiskFraction := PyFloat.lit (1 / 100), maxLeverage := PyFloat.lit 1
      perTradeDollarCapUsd := PyFloat.lit 500, aggregateDollarCapUsd := PyFloat.lit 3000
      dailyLossCapUsd := PyFloat.lit 1000, maxAccountEquityUsd := PyFloat.lit 20000
      maxPositionNotionalUsd := PyFloat.lit 2000, minNotionalUsd := PyFloat.lit 5 }
  policy :=
    { perTradeRiskFraction := .decimal perTradeRiskFraction
      aggregateOpenRiskFraction := .decimal (1 / 100)
      dailyLossFraction := .decimal (1 / 100) }
  venueMinimums :=
    [{ venueSymbol := "BTCUSD", sourceId := "venue-metadata", observedAtMs := 60100
       evidenceSha256 := digest '7', minNotionalUsd := .int 5 }]
  nowMs := 60400

/-- A sixth of a percent, as `Decimal(1) / Decimal(600)` gives it. -/
def sixthPercent : Rat := 1666666666666666666666666667 / 1000000000000000000000000000000

/-- The proposals under it and under a quarter of a percent. -/
def sixthProposal : CapitalBudgetProposalV1 (GridFloat someFormat) :=
  (proposeCapitalBudget gridCore (gridCall sixthPercent)).toOption.get (by decide +kernel)

def quarterProposal : CapitalBudgetProposalV1 (GridFloat someFormat) :=
  (proposeCapitalBudget gridCore (gridCall (25 / 10000))).toOption.get (by decide +kernel)

/-- A fraction that passes is the decimal it was given. -/
theorem fraction_decimal {v ceiling : Rat} {name : String} {p : RiskFraction ceiling}
    (h : CapitalBudgetPolicyV1.fraction (.decimal v : NumericValue (GridFloat someFormat))
      name ceiling = .ok p) : p.val = v := by
  unfold CapitalBudgetPolicyV1.fraction at h
  obtain ⟨parsed, hparsed, h⟩ := ok_of_bind h
  unfold decimal at hparsed
  dsimp only at hparsed
  split at hparsed
  next =>
    cases hparsed
    dsimp only at h
    split at h
    next =>
      cases h
      rfl
    next => cases h
  next => cases hparsed

theorem gridCore_sha256 (payload : List (String × PayloadValue (GridFloat someFormat))) :
    isSha256Hex (gridCore.canonicalSha256 payload) = true := by
  show isSha256Hex (gridDigests payload) = true
  unfold gridDigests
  split
  · split <;> decide +kernel
  · split <;> decide +kernel
  · decide +kernel

/-- The fractions of the policy of a call. -/
theorem gridCall_fractions {perTrade : Rat} {policy : CapitalBudgetPolicyV1}
    (h : CapitalBudgetPolicyV1.make (gridCall perTrade).policy = .ok policy) :
    policy.perTradeRiskFraction.val = perTrade ∧
    policy.aggregateOpenRiskFraction.val = 1 / 100 := by
  unfold CapitalBudgetPolicyV1.make at h
  obtain ⟨p, hp, h⟩ := ok_of_bind h
  obtain ⟨a, ha, h⟩ := ok_of_bind h
  obtain ⟨d, -, h⟩ := ok_of_bind h
  cases h
  exact ⟨fraction_decimal hp, fraction_decimal ha⟩

/-- A quarter of a percent is the spelling of a float: three cycles keep the limits. -/
theorem quarter_percent_kept :
    ∃ y, cycles gridCore 3 (gridCall (25 / 10000), quarterProposal) = .ok y ∧
      y.2.proposedLimits = quarterProposal.proposedLimits := by
  obtain ⟨policy, hpolicy, -, hcycles⟩ :=
    adoption_keeps_iff gridCore_sha256 (x := gridCall (25 / 10000)) (r := quarterProposal)
      (eq_ok_of_isSome _)
  obtain ⟨hper, hagg⟩ := gridCall_fractions hpolicy
  refine hcycles.mpr ⟨⟨finite (3 : Fin 16), rfl, ?_⟩, ⟨finite (4 : Fin 16), rfl, ?_⟩⟩ 3
  · rw [hper]
    rfl
  · rw [hagg]
    rfl

/-- A sixth of a percent is not the spelling of one: its proposal is adopted,
and the next call refuses the policy that proposed it. -/
theorem sixth_percent_refused :
    proposeCapitalBudget gridCore (gridCall sixthPercent) = .ok sixthProposal ∧
    ¬∃ y, repropose gridCore (gridCall sixthPercent, sixthProposal) = .ok y := by
  have hreturned : proposeCapitalBudget gridCore (gridCall sixthPercent) = .ok sixthProposal :=
    eq_ok_of_isSome _
  refine ⟨hreturned, fun hcycle => ?_⟩
  obtain ⟨v, _, _, _, hv, _⟩ := proposeCapitalBudget_ok_iff.mp hreturned
  obtain ⟨⟨z, hfinite, hz⟩, -⟩ := (repropose_iff gridCore_sha256 hreturned hv.policy).1.mp hcycle
  rw [(gridCall_fractions hv.policy).1] at hz
  obtain ⟨i, rfl⟩ := isFinite_iff.mp hfinite
  have hnone : ∀ i : Fin 16, someSpelling i ≠ sixthPercent := by decide +kernel
  exact hnone i hz

end Scenario

end KairosRisk
