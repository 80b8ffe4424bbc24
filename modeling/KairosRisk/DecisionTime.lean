import KairosRisk.Authority
import KairosRisk.DecisionCache

/-!
# The time of a canary decision

A canary is decided at the time its arm was consumed, which the database sets.
The loop takes that time from the arm in the round that consumes it, and reads
its own clock in every other round: a round that finds an input missing after it
consumed the arm is followed by one at the wall clock.

`canary_decided_at_arm_time` says exactly which rounds matter. A round after the
arm's own is harmless if its clock shows the arm's time, if it replays the
approval an earlier round cached, or if it cannot evaluate at all. Of a round that
goes on this is asked as far as it decides (`LeavesOnTime`: with an approval
cached, whatever becomes of the operator and of the binding); given that of the
rounds before it, the publishing round decides at the arm's time if and only if
it is one of these (`OnTime`). The allocation, unlike the time, stays in a local
of the loop, so every decision is sized with it.
-/

namespace KairosRisk

open PyLib

namespace RiskService

open PaperRiskCoordinator

variable {F D : Type} [PyFloat F] [DecidableEq F] [PyDecimal D] [Spelling F D]

/-! ## Rounds on time -/

/-- The decision was made for the review under this allocation. -/
def SizedWith (s : RiskService F D) (review : CandidateReviewV1 F)
    (allocation : StrategicAllocation F) (d : RiskTradeDecisionV1 F) : Prop :=
  ∃ c x, Makes s.pipeline c x d ∧ x.review = review ∧ x.allocation = some allocation

/-- A round that caches no decision of another time than the arm's. -/
inductive LeavesOnTime (s : RiskService F D) (review : CandidateReviewV1 F) (reviewId : String)
    (decidedAtMs : Int) (t : Turn s.pipeline.core) : Prop
  /-- The arm was not asked for before it. -/
  | arming (h : t.entered.canaryArmChecked = false)
  /-- Its clock shows the arm's time. -/
  | clock (h : max t.pass.observedNowMs review.reviewedAtMs = decidedAtMs)
  /-- It finds a decision cached. -/
  | cached (h : (t.found.decisions.get? reviewId).isSome = true)
  /-- It finds nothing to replay and an input missing. -/
  | blocked (h : t.found.CannotDecide review reviewId)

/-- A round that does not decide at another time than the arm's. -/
inductive OnTime (s : RiskService F D) (review : CandidateReviewV1 F) (reviewId : String)
    (decidedAtMs : Int) (t : Turn s.pipeline.core) : Prop
  /-- The arm was not asked for before it. -/
  | arming (h : t.entered.canaryArmChecked = false)
  /-- Its clock shows the arm's time. -/
  | clock (h : max t.pass.observedNowMs review.reviewedAtMs = decidedAtMs)
  /-- It replays a cached decision, and the operator's repository binds it. -/
  | replays (hcached : (t.found.decisions.get? reviewId).isSome = true)
      (hadmission : t.entered.admissionRejections = [])
      (hscope : s.paperOperatorScope.isSome = true) {operator : OperatorSnapshotV1}
      (hsnapshot : t.pass.snapshot = .ok (some operator)) (hbind : t.pass.bind = .ok ())
  /-- It finds nothing to replay and an input missing. -/
  | blocked (h : t.found.CannotDecide review reviewId)

/-! ## One evaluation -/

section Evaluation

variable {s : RiskService F D} {review : CandidateReviewV1 F} {reviewId : String}
  {allocation : StrategicAllocation F} {armed : ReviewLocals F}
  {operator : Option OperatorSnapshotV1} {nowMs : Int} {pass : Pass s.pipeline.core}
  {found : PaperRiskCoordinator F}

/-- The first evaluation of a canary made its decision, under the loop's
allocation and at the round's time, or it replayed one. -/
theorem first_source (hcanary : review.isCanary = true) (hid : review.reviewId = some reviewId)
    (hallocation : armed.canaryAllocation = some allocation) {d : RiskTradeDecisionV1 F}
    (h : (found.evaluate s.pipeline (firstRequest review armed nowMs pass)).1 = .ok d) :
    (s.SizedWith review allocation d ∧ d.decidedAtMs = max nowMs review.reviewedAtMs ∧
      ¬((found.decisions.get? reviewId).isSome = true ∧ armed.admissionRejections = [])) ∨
    (found.decisions.get? reviewId = some d ∧ armed.admissionRejections = []) := by
  have hadmission : found.admissionReasons s.pipeline (firstRequest review armed nowMs pass)
      = armed.admissionRejections := admissionReasons_of_canary hcanary
  rcases returned_source hid h with ⟨hmakes, hnot⟩ | ⟨hcached, hnil⟩
  · refine Or.inl ⟨⟨_, _, hmakes, rfl, ?_⟩, hmakes.decidedAtMs, ?_⟩
    · rw [firstRequest, if_pos hcanary]
      exact hallocation
    · rintro ⟨hcached, hnil⟩
      exact hnot ⟨hcached, hadmission.trans hnil⟩
  · exact Or.inr ⟨hcached, hadmission.symm.trans hnil⟩

/-- The second evaluation has a rejection reason of its own, so it replays nothing. -/
theorem second_source (hcanary : review.isCanary = true) (hid : review.reviewId = some reviewId)
    (hallocation : armed.canaryAllocation = some allocation) {c : PaperRiskCoordinator F}
    {d : RiskTradeDecisionV1 F}
    (h : (c.evaluate s.pipeline (secondRequest review armed nowMs pass)).1 = .ok d) :
    s.SizedWith review allocation d ∧ d.decidedAtMs = max nowMs review.reviewedAtMs := by
  rcases returned_source (x := secondRequest review armed nowMs pass) hid h
    with ⟨hmakes, _⟩ | ⟨_, hnil⟩
  · refine ⟨⟨_, _, hmakes, rfl, ?_⟩, hmakes.decidedAtMs⟩
    rw [secondRequest, if_pos hcanary]
    exact hallocation
  · cases (admissionReasons_eq_nil hnil).2

/-- A published decision went through a first evaluation. -/
theorem Publishes.evaluated {d : RiskTradeDecisionV1 F}
    {bound : Option (RiskTradeDecisionV1 F × CanaryScope × Int)}
    (h : Publishes s review armed operator nowMs pass found d bound) :
    ∃ first, (found.evaluate s.pipeline (firstRequest review armed nowMs pass)).1 = .ok first := by
  cases h with
  | refused h => exact ⟨_, h⟩
  | bound h => exact ⟨_, h⟩
  | revoked h => exact ⟨_, h⟩

/-- The round replays a cached decision and binds it. -/
def ReplaysAndBinds (s : RiskService F D) (reviewId : String) (armed : ReviewLocals F)
    (operator : Option OperatorSnapshotV1) (pass : Pass s.pipeline.core)
    (found : PaperRiskCoordinator F) : Prop :=
  ((found.decisions.get? reviewId).isSome = true ∧ armed.admissionRejections = []) ∧
  operator.isSome = true ∧ s.paperOperatorScope.isSome = true ∧ pass.bind = .ok ()

/-- **Where a published decision comes from**: it was made in this round, which
then did not replay and bind, or an earlier round cached it. -/
theorem published_source (hcanary : review.isCanary = true) (hid : review.reviewId = some reviewId)
    (hallocation : armed.canaryAllocation = some allocation) {d : RiskTradeDecisionV1 F}
    {bound : Option (RiskTradeDecisionV1 F × CanaryScope × Int)}
    (h : Publishes s review armed operator nowMs pass found d bound) :
    (s.SizedWith review allocation d ∧ d.decidedAtMs = max nowMs review.reviewedAtMs ∧
      ¬s.ReplaysAndBinds reviewId armed operator pass found) ∨
    (found.decisions.get? reviewId = some d ∧
      (d.approved = true → s.ReplaysAndBinds reviewId armed operator pass found)) := by
  cases h with
  | refused h hd =>
    -- a refusal is not bound, and an approval is the only thing that is
    rcases first_source hcanary hid hallocation h with ⟨hsized, htime, hnot⟩ | ⟨hcached, _⟩
    · exact Or.inl ⟨hsized, htime, fun hreplays => hnot hreplays.1⟩
    · refine Or.inr ⟨hcached, ?_⟩
      intro happ
      rw [hd] at happ
      cases happ
  | bound h hd hoperator hscope hbind =>
    rcases first_source hcanary hid hallocation h with ⟨hsized, htime, hnot⟩ | ⟨hcached, hnil⟩
    · exact Or.inl ⟨hsized, htime, fun hreplays => hnot hreplays.1⟩
    · refine Or.inr ⟨hcached, fun _ => ⟨⟨?_, hnil⟩, ?_, ?_, hbind⟩⟩
      · rw [hcached]
        rfl
      · rw [hoperator]
        rfl
      · rw [hscope]
        rfl
  | revoked _ _ hunbound c' hsecond =>
    obtain ⟨hsized, htime⟩ := second_source hcanary hid hallocation hsecond
    refine Or.inl ⟨hsized, htime, ?_⟩
    rintro ⟨_, hoperator, hscope, hbind⟩
    exact hunbound hoperator hscope hbind

/-- **What a retried round leaves cached**: what it found, or an approval it
made at its own time, when it found none. -/
theorem retried_source (hid : review.reviewId = some reviewId)
    (hquiet : ∀ op ∈ pass.updates, op.isUpdate = true) {c' : PaperRiskCoordinator F}
    (h : Retries s review armed nowMs pass found c') {e : RiskTradeDecisionV1 F}
    (he : c'.decisions.get? reviewId = some e) :
    found.decisions.get? reviewId = some e ∨
      (Makes s.pipeline found (firstRequest review armed nowMs pass) e ∧ e.approved = true ∧
        found.decisions.get? reviewId = none) := by
  cases h with
  | unavailable hfirst =>
    -- a call that raised has cached nothing new but an approval
    rcases cached_source (x := firstRequest review armed nowMs pass) hid he
      with hcached | ⟨hmakes, _, hnew, happ | hok⟩
    · exact Or.inl hcached
    · exact Or.inr ⟨hmakes, happ, hnew⟩
    · rw [hfirst] at hok
      cases hok
  | revoked hfirst happroved hleft =>
    rcases cached_source (x := secondRequest review armed nowMs pass) hid he
      with hcached | ⟨_, hadm, _⟩
    · -- what others did in between left the cache alone
      obtain ⟨taken, rfl, htaken⟩ := hleft
      rw [decisions_run taken (fun op hop => hquiet op (htaken op hop))] at hcached
      rcases cached_source (x := firstRequest review armed nowMs pass) hid hcached
        with hcached | ⟨hmakes, _, hnew, happ | hok⟩
      · exact Or.inl hcached
      · exact Or.inr ⟨hmakes, happ, hnew⟩
      · rw [hfirst] at hok
        cases hok
        exact Or.inr ⟨hmakes, happroved, hnew⟩
    · cases (admissionReasons_eq_nil hadm).2

end Evaluation

/-! ## After the arm -/

section Kept

variable {s : RiskService F D} {review : CandidateReviewV1 F} {reviewId : String}
  {allocation : StrategicAllocation F} {decidedAtMs : Int} {timely : Prop} {v : ReviewLocals F}
  {c : PaperRiskCoordinator F}

/-- What holds between rounds once the arm was accepted: its allocation is in
the locals, and a cached decision of the review is an approval sized with it,
and at its time if the rounds so far were `timely`. -/
structure Keeps (s : RiskService F D) (review : CandidateReviewV1 F) (reviewId : String)
    (allocation : StrategicAllocation F) (decidedAtMs : Int) (timely : Prop) (v : ReviewLocals F)
    (c : PaperRiskCoordinator F) : Prop where
  checked : v.canaryArmChecked = true
  allocated : v.canaryAllocation = some allocation
  cached : ∀ d, c.decisions.get? reviewId = some d →
    d.approved = true ∧ s.SizedWith review allocation d ∧ (timely → d.decidedAtMs = decidedAtMs)

/-- The facts that arrive leave the cache alone. -/
theorem LeftBy.decisions {found : PaperRiskCoordinator F} {ops : List (Operation s.pipeline.core)}
    (h : s.LeftBy c found ops) (hquiet : ∀ op ∈ ops, op.isUpdate = true) :
    found.decisions = c.decisions := by
  obtain ⟨taken, rfl, htaken⟩ := h
  exact decisions_run taken fun op hop => hquiet op (htaken op hop)

omit [Spelling F D] in
/-- The arm is asked for once. -/
theorem ConsumesArm.of_checked {armed : ReviewLocals F} {operator : Option OperatorSnapshotV1}
    {pass : Pass s.pipeline.core} {arm : Option (PaperCanaryArmRecord F)} {atMs : Int}
    (h : ConsumesArm s review v operator pass armed arm atMs)
    (hchecked : v.canaryArmChecked = true) :
    armed = v ∧ arm = none ∧ atMs = pass.observedNowMs := by
  have hskips : consumesArm review v operator = false := by
    simp [consumesArm, hchecked]
  cases h with
  | skipped => exact ⟨rfl, rfl, rfl⟩
  | missing h =>
    rw [hskips] at h
    cases h
  | accepted h =>
    rw [hskips] at h
    cases h
  | invalid h =>
    rw [hskips] at h
    cases h

variable {pass : Pass s.pipeline.core} {found : PaperRiskCoordinator F}

/-- The round after the arm's, which reads its own clock. -/
abbrev later (s : RiskService F D) (review : CandidateReviewV1 F) (v : ReviewLocals F)
    (pass : Pass s.pipeline.core) (found : PaperRiskCoordinator F) : Turn s.pipeline.core :=
  s.deciding review v pass found (s.readOperator v pass).1 none pass.observedNowMs

/-- **A later round publishes on time** exactly when it is on time itself. -/
theorem kept_published (hcanary : review.isCanary = true) (hid : review.reviewId = some reviewId)
    (h : s.Keeps review reviewId allocation decidedAtMs timely v found) {d : RiskTradeDecisionV1 F}
    (hpublished : (s.later review v pass found).outcome = .published d) :
    s.SizedWith review allocation d ∧
    (timely → (d.decidedAtMs = decidedAtMs ↔
      s.OnTime review reviewId decidedAtMs (s.later review v pass found))) := by
  obtain ⟨_, hlocals, hrejections⟩ := readOperator_locals s v pass
  have hallocation : (s.readOperator v pass).1.canaryAllocation = some allocation :=
    hlocals.trans h.allocated
  have hpublishes := decideAndBind_published hpublished
  obtain ⟨first, hfirst⟩ := hpublishes.evaluated
  rcases published_source hcanary hid hallocation hpublishes
    with ⟨hsized, htime, hnot⟩ | ⟨hcached, hbinds⟩
  · refine ⟨hsized, fun _ => ⟨fun he => .clock (htime.symm.trans he), ?_⟩⟩
    intro hontime
    cases hontime with
    | arming hunchecked =>
      have hchecked : (s.later review v pass found).entered.canaryArmChecked = true := h.checked
      rw [hchecked] at hunchecked
      cases hunchecked
    | clock he => exact htime.trans he
    | @replays hcached hadmission hscope operator hsnapshot hbind =>
      -- with a cached decision, the operator and the binding, nothing is made
      obtain ⟨scope, hscoped⟩ := Option.isSome_iff_exists.mp hscope
      have hsnapshot : pass.snapshot = .ok (some operator) := hsnapshot
      have hread : s.readOperator v pass = (v, some operator) := by
        rw [readOperator, hscoped, hsnapshot]
      refine absurd ⟨⟨hcached, ?_⟩, ?_, hscope, hbind⟩ hnot
      · rw [hread]
        exact hadmission
      · rw [hread]
        rfl
    | blocked hcannot =>
      have hreview : (s.later review v pass found).found.CannotDecide
        (firstRequest review (s.readOperator v pass).1 pass.observedNowMs pass).review reviewId :=
          hcannot
      exact absurd hfirst (hreview.not_returned hid)
  · obtain ⟨happ, hsized, htime⟩ := h.cached d hcached
    refine ⟨hsized, fun ht => ⟨fun _ => ?_, fun _ => htime ht⟩⟩
    obtain ⟨⟨hsome, hnil⟩, hoperator, hscope, hbind⟩ := hbinds happ
    obtain ⟨operator, hoperator⟩ := Option.isSome_iff_exists.mp hoperator
    exact .replays hsome (hrejections hnil) hscope (readOperator_some hoperator).1 hbind

/-- **A later round that goes on keeps the invariant**, with itself among the
rounds that had to be on time. -/
theorem kept_retry (hcanary : review.isCanary = true) (hid : review.reviewId = some reviewId)
    (hquiet : ∀ op ∈ pass.updates, op.isUpdate = true)
    (h : s.Keeps review reviewId allocation decidedAtMs timely v found)
    (hretry : (s.later review v pass found).outcome = .retry) :
    s.Keeps review reviewId allocation decidedAtMs
      (timely ∧ s.LeavesOnTime review reviewId decidedAtMs (s.later review v pass found))
      (s.later review v pass found).locals (s.later review v pass found).coordinator := by
  obtain ⟨hchecked, hlocals, _⟩ := readOperator_locals s v pass
  have hallocation : (s.readOperator v pass).1.canaryAllocation = some allocation :=
    hlocals.trans h.allocated
  refine ⟨hchecked.trans h.checked, hallocation, ?_⟩
  intro d hd
  rcases retried_source hid hquiet (decideAndBind_retry hretry) hd
    with hcached | ⟨hmakes, happ, hnew⟩
  · -- cached before this round: the rounds before it answer for its time
    obtain ⟨happ, hsized, htime⟩ := h.cached d hcached
    exact ⟨happ, hsized, fun ht => htime ht.1⟩
  · refine ⟨happ, ⟨_, _, hmakes, rfl, ?_⟩, ?_⟩
    · rw [firstRequest, if_pos hcanary]
      exact hallocation
    · rintro ⟨_, hleaves⟩
      cases hleaves with
      | arming hunchecked =>
        have hyes : (s.later review v pass found).entered.canaryArmChecked = true := h.checked
        rw [hyes] at hunchecked
        cases hunchecked
      | clock he => exact hmakes.decidedAtMs.trans he
      | cached hcached =>
        have hnone : (s.later review v pass found).found.decisions.get? reviewId = none := hnew
        rw [hnone] at hcached
        cases hcached
      | blocked hcannot =>
        have hreview : found.CannotDecide
          (firstRequest review (s.readOperator v pass).1 pass.observedNowMs pass).review reviewId :=
            hcannot
        exact absurd hmakes hreview.not_makes

end Kept

/-! ## The loop -/

section Loop

variable {s : RiskService F D} {review : CandidateReviewV1 F} {reviewId : String}

/-- Once the arm was asked for, the repository hands over no other. -/
theorem no_arm_after_checked :
    ∀ (passes : List (Pass s.pipeline.core)) {v : ReviewLocals F} {c : PaperRiskCoordinator F},
      v.canaryArmChecked = true → ∀ t ∈ s.rounds review passes v c, t.arm = none
  | [], _, _, _, _, ht => by cases ht
  | pass :: passes, v, c, hchecked, t, ht => by
    obtain ⟨first, rest, hrounds, hgoes⟩ := rounds_goes s review v c pass passes
    rw [hrounds] at ht
    cases hgoes with
    | stopped harm =>
      rw [List.mem_singleton.mp ht]
      exact harm
    | decided _ harm hrest =>
      have hasked : (s.readOperator v pass).1.canaryArmChecked = true :=
        (readOperator_locals s v pass).1.trans hchecked
      obtain ⟨rfl, rfl, rfl⟩ := harm.of_checked hasked
      rcases List.mem_cons.mp ht with rfl | ht
      · rfl
      · rcases hrest with rfl | ⟨_, rfl⟩
        · cases ht
        · exact no_arm_after_checked passes hasked t ht

/-- What a loop that publishes after the arm's round publishes. -/
theorem kept_rounds {allocation : StrategicAllocation F} {decidedAtMs : Int}
    (hcanary : review.isCanary = true) (hid : review.reviewId = some reviewId) :
    ∀ (passes : List (Pass s.pipeline.core)) {timely : Prop} {v : ReviewLocals F}
      {c : PaperRiskCoordinator F},
      (∀ pass ∈ passes, ∀ op ∈ pass.updates, op.isUpdate = true) →
      s.Keeps review reviewId allocation decidedAtMs timely v c →
      ∀ earlier t d, s.rounds review passes v c = earlier ++ [t] → t.outcome = .published d →
        s.SizedWith review allocation d ∧
        (timely → (∀ t' ∈ earlier, s.LeavesOnTime review reviewId decidedAtMs t') →
          (d.decidedAtMs = decidedAtMs ↔ s.OnTime review reviewId decidedAtMs t))
  | [], _, _, _, _, _, earlier, _, _, he, _ => by
    have hlength := congrArg List.length he
    simp [rounds] at hlength
  | pass :: passes, timely, v, c, hquiet, h, earlier, t, d, he, hpublished => by
    obtain ⟨first, rest, hrounds, hgoes⟩ := rounds_goes s review v c pass passes
    rw [hrounds] at he
    have hpass := hquiet pass (List.mem_cons_self ..)
    cases hgoes with
    | stopped _ hnot =>
      rcases List.cons_eq_append_iff.mp he with ⟨_, hone⟩ | ⟨earlier', _, hnone⟩
      · cases hone
        exact absurd hpublished (hnot d)
      · simp at hnone
    | @decided found _ _ _ hfound harm _ hrest =>
      have hasked : (s.readOperator v pass).1.canaryArmChecked = true :=
        (readOperator_locals s v pass).1.trans h.checked
      obtain ⟨rfl, rfl, rfl⟩ := harm.of_checked hasked
      have hkeeps : s.Keeps review reviewId allocation decidedAtMs timely v found :=
        ⟨h.checked, h.allocated, fun e hcached =>
          h.cached e (by rw [← hfound.decisions hpass]; exact hcached)⟩
      rcases List.cons_eq_append_iff.mp he with ⟨rfl, hone⟩ | ⟨earlier', rfl, hmore⟩
      · cases hone
        obtain ⟨hsized, htime⟩ := kept_published hcanary hid hkeeps hpublished
        exact ⟨hsized, fun ht _ => htime ht⟩
      · rcases hrest with rfl | ⟨hretry, rfl⟩
        · simp at hmore
        · have hnext := kept_retry hcanary hid hpass hkeeps hretry
          obtain ⟨hsized, htime⟩ := kept_rounds hcanary hid passes
            (fun q hq => hquiet q (List.mem_cons_of_mem _ hq)) hnext earlier' t d hmore hpublished
          refine ⟨hsized, fun ht hearlier => ?_⟩
          exact htime ⟨ht, hearlier _ (List.mem_cons_self ..)⟩
            fun t' ht' => hearlier t' (List.mem_cons_of_mem _ ht')

/-- The round that accepted the arm publishes at its time. -/
theorem accepting_published (hcanary : review.isCanary = true)
    (hid : review.reviewId = some reviewId) {v armed : ReviewLocals F} {pass : Pass s.pipeline.core}
    {found : PaperRiskCoordinator F} {arm : Option (PaperCanaryArmRecord F)}
    {allocation : StrategicAllocation F} {decidedAtMs : Int}
    (hallocation : armed.canaryAllocation = some allocation)
    (htime : review.reviewedAtMs ≤ decidedAtMs) (hnew : found.decisions.get? reviewId = none)
    {d : RiskTradeDecisionV1 F}
    (hpublished : (s.deciding review v pass found armed arm decidedAtMs).outcome = .published d) :
    s.SizedWith review allocation d ∧ d.decidedAtMs = decidedAtMs := by
  rcases published_source hcanary hid hallocation (decideAndBind_published hpublished)
    with ⟨hsized, hmade, _⟩ | ⟨hcached, _⟩
  · exact ⟨hsized, by omega⟩
  · rw [hnew] at hcached
    cases hcached

/-- What it leaves when it goes on. -/
theorem accepting_retry (hcanary : review.isCanary = true) (hid : review.reviewId = some reviewId)
    {v armed : ReviewLocals F} {pass : Pass s.pipeline.core} {found : PaperRiskCoordinator F}
    {arm : Option (PaperCanaryArmRecord F)} {allocation : StrategicAllocation F} {decidedAtMs : Int}
    (hquiet : ∀ op ∈ pass.updates, op.isUpdate = true)
    (hallocation : armed.canaryAllocation = some allocation)
    (hchecked : armed.canaryArmChecked = true) (htime : review.reviewedAtMs ≤ decidedAtMs)
    (hnew : found.decisions.get? reviewId = none)
    (hretry : (s.deciding review v pass found armed arm decidedAtMs).outcome = .retry) :
    s.Keeps review reviewId allocation decidedAtMs True armed
      (s.deciding review v pass found armed arm decidedAtMs).coordinator := by
  refine ⟨hchecked, hallocation, ?_⟩
  intro e he
  rcases retried_source hid hquiet (decideAndBind_retry hretry) he with hcached | ⟨hmakes, happ, _⟩
  · rw [hnew] at hcached
    cases hcached
  · have hmade := hmakes.decidedAtMs
    refine ⟨happ, ⟨_, _, hmakes, rfl, ?_⟩, fun _ => ?_⟩
    · rw [firstRequest, if_pos hcanary]
      exact hallocation
    · have hargs : (firstRequest review armed decidedAtMs pass).decidedAtMs = decidedAtMs := rfl
      have hreview : (firstRequest review armed decidedAtMs pass).review = review := rfl
      rw [hargs, hreview] at hmade
      omega

/-- A round before the arm's caches nothing when it goes on. -/
theorem unarmed_retry (hcanary : review.isCanary = true) (hid : review.reviewId = some reviewId)
    {v armed : ReviewLocals F} {pass : Pass s.pipeline.core} {found : PaperRiskCoordinator F}
    {arm : Option (PaperCanaryArmRecord F)} {atMs : Int}
    (hquiet : ∀ op ∈ pass.updates, op.isUpdate = true) (hnone : armed.canaryAllocation = none)
    (hnew : found.decisions.get? reviewId = none)
    (hretry : (s.deciding review v pass found armed arm atMs).outcome = .retry) :
    (s.deciding review v pass found armed arm atMs).coordinator.decisions.get? reviewId = none := by
  cases hget :
      (s.deciding review v pass found armed arm atMs).coordinator.decisions.get? reviewId with
  | none => rfl
  | some e =>
    rcases retried_source hid hquiet (decideAndBind_retry hretry) hget
      with hcached | ⟨hmakes, happ, _⟩
    · rw [hnew] at hcached
      cases hcached
    · refine absurd ?_ (hmakes.allocation happ hcanary)
      rw [firstRequest, if_pos hcanary]
      exact hnone

/-- What a loop publishes in which the arm is accepted. -/
theorem armed_rounds (hcanary : review.isCanary = true) (hid : review.reviewId = some reviewId)
    {accepting : Turn s.pipeline.core} {arm : PaperCanaryArmRecord F}
    {allocation : StrategicAllocation F} {decidedAtMs : Int} (harm : accepting.arm = some arm)
    (haccepted : allocationFromConsumedArm D s.pipeline.core arm review
      s.pipeline.settings.paperAccountId accepting.pass.observedNowMs
        = .ok (allocation, decidedAtMs)) :
    ∀ (passes : List (Pass s.pipeline.core)) {v : ReviewLocals F} {c : PaperRiskCoordinator F},
      (∀ pass ∈ passes, ∀ op ∈ pass.updates, op.isUpdate = true) →
      v.canaryArmChecked = false → v.canaryAllocation = none →
      c.decisions.get? reviewId = none → accepting ∈ s.rounds review passes v c →
      ∀ earlier t d, s.rounds review passes v c = earlier ++ [t] → t.outcome = .published d →
        s.SizedWith review allocation d ∧
        ((∀ t' ∈ earlier, s.LeavesOnTime review reviewId decidedAtMs t') →
          (d.decidedAtMs = decidedAtMs ↔ s.OnTime review reviewId decidedAtMs t))
  | [], _, _, _, _, _, _, hmem, _, _, _, _, _ => by cases hmem
  | pass :: passes, v, c, hquiet, hunchecked, hnone, hnew, hmem, earlier, t, d, he, hpublished => by
    obtain ⟨_, _, htime⟩ := allocationFromConsumedArm_ok D haccepted
    obtain ⟨first, rest, hrounds, hgoes⟩ := rounds_goes s review v c pass passes
    rw [hrounds] at he hmem
    have hpass := hquiet pass (List.mem_cons_self ..)
    have hpasses := fun q hq => hquiet q (List.mem_cons_of_mem _ hq)
    cases hgoes with
    | stopped hnoarm =>
      rw [← List.mem_singleton.mp hmem, harm] at hnoarm
      cases hnoarm
    | @decided found armed _ _ hfound hconsumes rest hrest =>
      obtain ⟨hchecked, hlocals, _⟩ := readOperator_locals s v pass
      have hfoundnew : found.decisions.get? reviewId = none := by
        rw [hfound.decisions hpass]
        exact hnew
      have hlater : armed.canaryArmChecked = true → accepting ∉ rest := by
        intro hasked hmem
        rcases hrest with rfl | ⟨_, rfl⟩
        · cases hmem
        · rw [no_arm_after_checked passes hasked accepting hmem] at harm
          cases harm
      -- the arm is accepted in this round, or before the loop ends and not yet asked for
      cases hconsumes with
      | skipped =>
        rcases List.mem_cons.mp hmem with rfl | hmem
        · cases harm
        · rcases hrest with rfl | ⟨hretry, rfl⟩
          · cases hmem
          · rcases List.cons_eq_append_iff.mp he with ⟨_, hone⟩ | ⟨earlier', rfl, hmore⟩
            · rw [(List.cons.inj hone).1, hretry] at hpublished
              cases hpublished
            · have hcoordinator := unarmed_retry hcanary hid hpass (hlocals.trans hnone) hfoundnew
                hretry
              obtain ⟨hsized, hiff⟩ := armed_rounds hcanary hid harm haccepted passes hpasses
                (hchecked.trans hunchecked) (hlocals.trans hnone) hcoordinator hmem
                earlier' t d hmore hpublished
              exact ⟨hsized, fun h => hiff fun t' ht' => h t' (List.mem_cons_of_mem _ ht')⟩
      | missing =>
        rcases List.mem_cons.mp hmem with rfl | hmem
        · cases harm
        · exact absurd hmem (hlater rfl)
      | invalid _ hinvalid =>
        rcases List.mem_cons.mp hmem with rfl | hmem
        · cases harm
          rw [show allocationFromConsumedArm D s.pipeline.core arm review
            s.pipeline.settings.paperAccountId pass.observedNowMs = _ from haccepted] at hinvalid
          cases hinvalid
        · exact absurd hmem (hlater rfl)
      | accepted _ hok =>
        rcases List.mem_cons.mp hmem with rfl | hmem
        · cases harm
          rw [show allocationFromConsumedArm D s.pipeline.core arm review
            s.pipeline.settings.paperAccountId pass.observedNowMs = _ from haccepted] at hok
          cases hok
          rcases List.cons_eq_append_iff.mp he with ⟨rfl, hone⟩ | ⟨earlier', rfl, hmore⟩
          · cases hone
            obtain ⟨hsized, hat⟩ := accepting_published hcanary hid rfl htime hfoundnew hpublished
            exact ⟨hsized, fun _ => ⟨fun _ => .arming hunchecked, fun _ => hat⟩⟩
          · rcases hrest with rfl | ⟨hretry, rfl⟩
            · simp at hmore
            · have hkeeps := accepting_retry hcanary hid hpass rfl rfl htime hfoundnew hretry
              obtain ⟨hsized, hiff⟩ :=
                kept_rounds hcanary hid passes hpasses hkeeps earlier' t d hmore hpublished
              exact ⟨hsized, fun h => hiff trivial fun t' ht' => h t' (List.mem_cons_of_mem _ ht')⟩
        · exact absurd hmem (hlater rfl)

end Loop

/-- **A canary is decided at the arm's time** exactly when the round that
publishes is on time, given that the rounds before it cached nothing of another
time; and it is sized with the arm's allocation in any case. -/
theorem canary_decided_at_arm_time (s : RiskService F D) (review : CandidateReviewV1 F)
    (reviewId : String) (hcanary : review.isCanary = true) (hid : review.reviewId = some reviewId)
    (passes : List (Pass s.pipeline.core)) (c : PaperRiskCoordinator F)
    (hquiet : ∀ pass ∈ passes, ∀ op ∈ pass.updates, op.isUpdate = true)
    (hnew : c.decisions.get? reviewId = none)
    (accepting : Turn s.pipeline.core) (hmem : accepting ∈ s.handlePaperReview review passes c)
    (arm : PaperCanaryArmRecord F) (harm : accepting.arm = some arm)
    (allocation : StrategicAllocation F) (decidedAtMs : Int)
    (haccepted : allocationFromConsumedArm D s.pipeline.core arm review
      s.pipeline.settings.paperAccountId accepting.pass.observedNowMs
        = .ok (allocation, decidedAtMs))
    (earlier : List (Turn s.pipeline.core)) (t : Turn s.pipeline.core)
    (d : RiskTradeDecisionV1 F) (hlast : s.handlePaperReview review passes c = earlier ++ [t])
    (hpublished : t.outcome = .published d) :
    s.SizedWith review arm.allocation d ∧
    ((∀ t' ∈ earlier, s.LeavesOnTime review reviewId decidedAtMs t') →
      (some d.decidedAtMs = arm.decidedAtMs ↔ s.OnTime review reviewId decidedAtMs t)) := by
  obtain ⟨hallocation, hdecided, _⟩ := allocationFromConsumedArm_ok D haccepted
  obtain ⟨hsized, hiff⟩ := armed_rounds hcanary hid harm haccepted passes hquiet rfl rfl hnew hmem
    earlier t d hlast hpublished
  rw [← hallocation, hdecided, Option.some_inj]
  exact ⟨hsized, hiff⟩

end RiskService

/-! ## A canary whose handling is resumed -/

namespace Scenario

open RiskService

/-- Nothing was decided of the canary before. -/
theorem canaryFacts_undecided : (canaryFacts.decisions.get? "review-canary").isNone = true := by
  decide +kernel

/-- The arm is accepted at the time of the first round. -/
theorem canaryArm_accepted : allocationFromConsumedArm Rat service.pipeline.core canaryArm
    canaryReview service.pipeline.settings.paperAccountId 60450
      = .ok (canaryAllocation, 60400) := by
  decide +kernel

/-- A round whose approval is not bound, and a snapshot contradicts the one in force
before it is revoked. -/
def unboundPass : Pass service.pipeline.core :=
  { canaryPass 60450 with
    bind := .error (.external "operator repository")
    beforeReevaluate := [.applyAccount { account 1 60200 with snapshotId := "another" }] }

/-- A round after a newer snapshot. -/
def resumedPass : Pass service.pipeline.core :=
  { canaryPass 60700 with entering := [.applyAccount (account 2 60600)] }

/-- The decision it publishes. -/
def resumedDecision : RiskTradeDecisionV1 Rat :=
  (publishedBy (secondTurn unboundPass resumedPass)).get (by decide +kernel)

/-- The first round takes the arm, finds no decision cached, and goes on. -/
theorem unboundPass_goes_on : goesOn (firstTurn unboundPass) = true ∧
    (firstTurn unboundPass).arm = some canaryArm ∧
    (firstTurn unboundPass).locals.admissionRejections = [] := by
  decide +kernel

/-- The second round replays the approval of the first, and binds it. -/
theorem resumedPass_on_time : service.OnTime canaryReview "review-canary" 60400
    (secondTurn unboundPass resumedPass) := by
  obtain ⟨hpass, hentered⟩ := turn_entered service canaryReview (firstTurn unboundPass).locals
    (firstTurn unboundPass).coordinator resumedPass
  have hsnapshot : (secondTurn unboundPass resumedPass).pass.snapshot
      = .ok (some { version := 7 }) := congrArg Pass.snapshot hpass
  have hadmission : (secondTurn unboundPass resumedPass).entered.admissionRejections = [] :=
    (congrArg ReviewLocals.admissionRejections hentered).trans unboundPass_goes_on.2.2
  exact .replays (by decide +kernel) hadmission rfl hsnapshot (congrArg Pass.bind hpass)

/-- Published at 60700, the canary has the time of its arm. -/
theorem resumed_canary_on_time : resumedDecision.approved = true ∧
    some resumedDecision.decidedAtMs = canaryArm.decidedAtMs := by
  obtain ⟨hretry, harm, _⟩ := unboundPass_goes_on
  obtain ⟨hpass, hentered⟩ := turn_entered service canaryReview .start canaryFacts unboundPass
  have hpublished : publishedBy (secondTurn unboundPass resumedPass) = some resumedDecision :=
    (Option.some_get _).symm
  have haccepted : allocationFromConsumedArm Rat service.pipeline.core canaryArm canaryReview
      service.pipeline.settings.paperAccountId (firstTurn unboundPass).pass.observedNowMs
        = .ok (canaryAllocation, 60400) := by
    rw [show (firstTurn unboundPass).pass = unboundPass from hpass]
    exact canaryArm_accepted
  have hturns := two_rounds hretry hpublished
  refine ⟨by decide +kernel, ((canary_decided_at_arm_time service canaryReview "review-canary"
    (by decide) rfl [unboundPass, resumedPass] canaryFacts ?_
    (Option.isNone_iff_eq_none.mp canaryFacts_undecided) (firstTurn unboundPass)
    (hturns ▸ List.mem_cons_self) canaryArm harm canaryAllocation 60400 haccepted
    [firstTurn unboundPass] (secondTurn unboundPass resumedPass) resumedDecision hturns
    (outcome_of_publishedBy hpublished)).2 ?_).mpr resumedPass_on_time⟩
  · simp [unboundPass, resumedPass, canaryPass, Pass.updates, Operation.isUpdate]
  · intro t ht
    rw [List.mem_singleton.mp ht]
    exact .arming (congrArg ReviewLocals.canaryArmChecked hentered)

/-- A snapshot contradicts the one in force while the first evaluation waits for
the lock, and a newer one arrives before the second round. -/
def disturbedPasses : List (Pass service.pipeline.core) :=
  [{ canaryPass 60450 with
      beforeEvaluate := [.applyAccount { account 1 60200 with snapshotId := "another" }] },
    { canaryPass 60700 with entering := [.applyAccount (account 2 60600)] }]

/-- The handling of the canary that is disturbed so. -/
def disturbedTurns : List (Turn service.pipeline.core) :=
  service.handlePaperReview canaryReview disturbedPasses canaryFacts

/-- **A retried canary is decided at the wall clock**: its arm, of 60400, was
accepted in the first round, and the second publishes an approval of 60700. -/
theorem disturbed_canary_decided_late :
    (canaryFacts.decisions.get? "review-canary").isNone = true ∧
    (∀ pass ∈ disturbedPasses, ∀ op ∈ pass.updates, op.isUpdate = true) ∧
    (disturbedTurns.map (·.arm) = [some canaryArm, none]) ∧
    allocationFromConsumedArm Rat service.pipeline.core canaryArm canaryReview
      service.pipeline.settings.paperAccountId 60450 = .ok (canaryAllocation, 60400) ∧
    canaryArm.decidedAtMs = some 60400 ∧
    disturbedTurns.map (fun t => (publishedBy t).map fun d => (d.approved, d.decidedAtMs))
      = [none, some (true, 60700)] := by
  have hturns : disturbedTurns.map (fun t =>
        (t.arm, (publishedBy t).map fun d => (d.approved, d.decidedAtMs)))
      = [(some canaryArm, none), (none, some (true, 60700))] := by decide +kernel
  have harms := congrArg (List.map Prod.fst) hturns
  have hpublished := congrArg (List.map Prod.snd) hturns
  rw [List.map_map] at harms hpublished
  refine ⟨canaryFacts_undecided, ?_, harms, canaryArm_accepted, rfl, hpublished⟩
  simp [disturbedPasses, canaryPass, Pass.updates, Operation.isUpdate]

end Scenario

end KairosRisk
