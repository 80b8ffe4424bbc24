import KairosRisk.Lib.Monitor
import KairosRisk.Service

/-!
# No lost wakeup

A review waits on the coordinator's condition until its inputs are there. Five
operations change what it waits for, and each has paths that return early or
raise; a path that makes a review ready without `notify_all` would leave it
asleep until its deadline. `notifies` says of each path whether it notifies.
What does not notify changes nothing a review waits for
(`inputsReady_of_silent`), so nobody sleeps on inputs that are there
(`no_lost_wakeup`).

The other half is what a review finds when it is woken: `evaluate` derives the
same condition again, and no other part of it raises `PaperInputUnavailable`.
-/

namespace KairosRisk

open PyLib

/-! ## Where `PaperInputUnavailable` does not come from -/

/-- The computation does not raise `PaperInputUnavailable`. -/
def Available {α : Type} (r : Except PyError α) : Prop :=
  ∀ message, r ≠ .error (.paperInputUnavailable message)

section Available

variable {α β : Type}

theorem available_ok (a : α) : Available (.ok a) := fun _ => nofun

theorem available_pure (a : α) : Available (pure a : Except PyError α) := fun _ => nofun

theorem available_valueError (message : String) :
    Available (.error (.valueError message) : Except PyError α) := fun _ => nofun

theorem available_raiseIf (test : Bool) (message : String) : Available (raiseIf test message) := by
  cases test with
  | false => exact available_ok ()
  | true => exact available_valueError message

theorem available_liftSignal (r : Except ArithmeticSignal α) : Available (liftSignal r) := by
  cases r with
  | ok a => exact available_ok a
  | error signal => exact fun _ => nofun

theorem Available.bind {x : Except PyError α} {f : α → Except PyError β} (hx : Available x)
    (hf : ∀ a, Available (f a)) : Available (x >>= f) := by
  cases x with
  | ok a => exact hf a
  | error e =>
    intro message h
    cases h
    exact hx message rfl

end Available

variable {F D : Type}

section Instrument

variable [PyDecimal D]

theorem available_positiveDecimal (v : D) (name : String) : Available (positiveDecimal v name) := by
  unfold positiveDecimal
  split
  next => exact available_valueError _
  next => exact available_ok _

theorem available_decimalOfText (value name : String) :
    Available (decimalOfText value name : Except PyError D) := by
  unfold decimalOfText
  split
  next => exact available_valueError _
  next => exact available_positiveDecimal _ _

theorem available_ruleDecimal (metadata : OrderedDict String String) (field : String) :
    Available (ruleDecimal metadata field : Except PyError D) := by
  unfold ruleDecimal
  refine (available_decimalOfText _ _).bind fun _ => ?_
  exact (available_raiseIf _ _).bind fun _ => available_ok _

theorem available_postInit (core : KairosCore F) (rule : EvedexDevInstrumentRule D) :
    Available (rule.postInit core) := by
  unfold EvedexDevInstrumentRule.postInit
  repeat' first
    | exact available_raiseIf _ _
    | exact available_positiveDecimal _ _
    | exact available_liftSignal _
    | refine Available.bind ?_ fun _ => ?_

theorem available_effectiveMinQuantity (rule : EvedexDevInstrumentRule D) (entryPrice : D) :
    Available (rule.effectiveMinQuantity entryPrice) := by
  unfold EvedexDevInstrumentRule.effectiveMinQuantity
  repeat' first
    | exact available_pure _
    | exact available_raiseIf _ _
    | exact available_positiveDecimal _ _
    | exact available_liftSignal _
    | refine Available.bind ?_ fun _ => ?_

theorem available_boundCanaryInstrument (core : KairosCore F) (intent : StrategyIntentV1 F)
    (accountId : String) :
    Available (boundCanaryInstrument (D := D) core intent accountId) := by
  unfold boundCanaryInstrument
  dsimp only
  refine (available_raiseIf _ _).bind fun _ => ?_
  refine (available_raiseIf _ _).bind fun _ => ?_
  refine (available_raiseIf _ _).bind fun _ => ?_
  split
  next => exact available_valueError _
  next updatedAtMs _ =>
    refine (available_ok updatedAtMs).bind fun _ => ?_
    refine (available_raiseIf _ _).bind fun _ => ?_
    refine (available_ruleDecimal _ _).bind fun _ => ?_
    refine (available_ruleDecimal _ _).bind fun _ => ?_
    refine (available_ruleDecimal _ _).bind fun _ => ?_
    refine (available_ruleDecimal _ _).bind fun _ => ?_
    refine (available_ruleDecimal _ _).bind fun _ => ?_
    refine (available_ruleDecimal _ _).bind fun _ => ?_
    refine (available_ruleDecimal _ _).bind fun _ => ?_
    refine (available_ruleDecimal _ _).bind fun _ => ?_
    refine (available_ruleDecimal _ _).bind fun _ => ?_
    refine (available_postInit _ _).bind fun _ => ?_
    refine (available_raiseIf _ _).bind fun _ => ?_
    refine (available_raiseIf _ _).bind fun _ => ?_
    refine (available_decimalOfText _ _).bind fun _ => ?_
    refine (available_raiseIf _ _).bind fun _ => ?_
    refine (available_raiseIf _ _).bind fun _ => ?_
    refine (available_liftSignal _).bind fun _ => ?_
    exact (available_raiseIf _ _).bind fun _ => available_ok _

theorem available_boundCanaryQuantity [PyFloat F] [Spelling F D] (core : KairosCore F)
    (intent : StrategyIntentV1 F) (accountId : String) (worstEntryPrice : F) :
    Available (boundCanaryQuantity D core intent accountId worstEntryPrice) := by
  unfold boundCanaryQuantity
  refine (available_boundCanaryInstrument (D := D) _ _ _).bind fun _ => ?_
  refine (available_effectiveMinQuantity _ _).bind fun _ => ?_
  refine (available_raiseIf _ _).bind fun _ => ?_
  exact (available_raiseIf _ _).bind fun _ => available_ok _

end Instrument

section Pipeline

variable [PyFloat F]

theorem available_reservationView (decisions : List (RiskTradeDecisionV1 F)) :
    Available (reservationView decisions) := by
  unfold reservationView PaperReservations.postInit
  repeat' first
    | exact available_raiseIf _ _
    | refine Available.bind ?_ fun _ => ?_
  exact available_ok _

omit [PyFloat F] in
theorem available_riskTradeDecisionV1 (core : KairosCore F) (fields : RiskTradeDecisionFields F) :
    Available (core.riskTradeDecisionV1 fields) := by
  unfold KairosCore.riskTradeDecisionV1
  split
  next => exact available_valueError _
  next => exact available_ok _

variable [DecidableEq F] [PyDecimal D] [Spelling F D]

/-- The pipeline never finds an input missing. -/
theorem available_evaluate (p : PaperRiskPipeline F D) (x : PaperInputs F) :
    Available (p.evaluate x) := by
  -- a canary's quantity raises only what its binding raises
  have hcanary : ∀ leverage capacity, Available (p.canaryQuantity x leverage capacity) := by
    intro leverage capacity
    have hbound := available_boundCanaryQuantity (D := D) p.core x.review.intent
      p.settings.paperAccountId (PaperRiskPipeline.worstEntry x.review.intent x.venue)
    unfold PaperRiskPipeline.canaryQuantity
    dsimp only
    split
    next => exact available_ok _
    next e he =>
      intro message h
      cases h
      exact hbound message he
    next =>
      split
      next => exact available_ok _
      next =>
        split
        next => exact available_ok _
        next => exact available_ok _
  have hsize : ∀ g, Available (p.size x g) := by
    intro g
    unfold PaperRiskPipeline.size
    split
    next =>
      refine Available.bind ?_ fun _ => ?_
      · unfold PaperRiskPipeline.selectQuantity
        split
        next => exact hcanary _ _
        next => exact available_ok _
      · dsimp only
        split
        next => exact available_ok _
        next =>
          split
          next => exact available_ok _
          next => exact available_ok _
    next => exact available_ok _
  unfold PaperRiskPipeline.evaluate
  refine (available_raiseIf _ _).bind fun _ => ?_
  refine (available_raiseIf _ _).bind fun _ => ?_
  refine (available_raiseIf _ _).bind fun _ => ?_
  exact (hsize _).bind fun ⟨_, _⟩ => available_riskTradeDecisionV1 _ _

end Pipeline

/-! ## Which paths notify -/

namespace PaperRiskCoordinator

variable [PyFloat F]

/-- `apply_account` calls `notify_all`. -/
def applyAccountNotifies (c : PaperRiskCoordinator F) (snapshot : AccountSnapshotV2 F) : Bool :=
  let older := c.latestAccountSeq.any fun seq => decide (snapshot.reconciliationSeq < seq)
  let same := c.latestAccountSeq == some snapshot.reconciliationSeq
  if older then false
  else if same then !(c.account.any fun a => a.snapshotId == snapshot.snapshotId)
  else true

/-- `apply_venue` calls `notify_all`. -/
def applyVenueNotifies (c : PaperRiskCoordinator F) (venue : VenueQualityV1 F) : Bool :=
  if venue.profile ≠ .dev then false
  else if !isPaperDevVenueSymbol venue.symbol then false
  else
    let current := c.venueVersions.get? venue.symbol
    if current.any fun v => decide (venue.observedAtMs < v.1) then false
    else if current.any fun v => venue.observedAtMs == v.1 then
      !(current.any fun v => v.2 == venue.measurementId)
    else true

/-- `apply_regime_allocation` calls `notify_all`. -/
def applyRegimeAllocationNotifies [DecidableEq F] (p : PaperRiskPipeline F D)
    (c : PaperRiskCoordinator F) (allocation : RegimeBoundAllocationV1 F) (receivedAtMs : Int) :
    Bool :=
  if p.regimePolicy.isNone then false
  else if !p.core.regimeBindingValid allocation then false
  else if receivedAtMs < allocation.boundAtMs then false
  else match allocation.observation.intent.intentId with
    | none => false
    | some intentId =>
      match c.regimeAllocations.get? intentId with
      | some existing => !(existing.any fun e => e.modelDump == allocation.modelDump)
      | none => true

/-- `restore_reservations` calls `notify_all`: after the loop, whether or not
the reconciliation that follows raises. -/
def restoreReservationsNotifies (p : PaperRiskPipeline F D) (c : PaperRiskCoordinator F)
    (decisions : List (RiskTradeDecisionV1 F)) : Bool :=
  if c.durableRecoveryLoaded then false
  else match (restoreLoop p decisions c).1 with
    | .error _ => false
    | .ok () => true

/-- The operation calls `notify_all`; `evaluate` never does. -/
def notifies [DecidableEq F] (p : PaperRiskPipeline F D) (c : PaperRiskCoordinator F) :
    Operation p.core → Bool
  | .applyRegimeAllocation allocation receivedAtMs =>
    c.applyRegimeAllocationNotifies p allocation receivedAtMs
  | .restoreReservations decisions => c.restoreReservationsNotifies p (decisions.map (·.val))
  | .applyAccount snapshot => c.applyAccountNotifies snapshot
  | .applyVenue venue => c.applyVenueNotifies venue
  | .evaluate _ => false

/-! ## A silent path makes nobody ready -/

variable [DecidableEq F]

/-- `apply_account` is silent only where it changes nothing. -/
theorem applyAccount_silent {p : PaperRiskPipeline F D} {c : PaperRiskCoordinator F}
    {snapshot : AccountSnapshotV2 F} (h : c.applyAccountNotifies snapshot = false) :
    (c.applyAccount p snapshot).2 = c := by
  unfold applyAccountNotifies at h
  unfold applyAccount
  dsimp only at h ⊢
  split at h
  next holder => rw [if_pos holder]
  next holder =>
    rw [if_neg holder]
    split at h
    next hsame =>
      rw [if_pos hsame, if_pos (by simpa using h)]
    next => cases h

omit [PyFloat F] [DecidableEq F] in
/-- `apply_venue` is silent only where it changes nothing. -/
theorem applyVenue_silent {c : PaperRiskCoordinator F} {venue : VenueQualityV1 F}
    (h : c.applyVenueNotifies venue = false) : (c.applyVenue venue).2 = c := by
  unfold applyVenueNotifies at h
  unfold applyVenue
  split at h
  next hprofile => rw [if_pos hprofile]
  next hprofile =>
    rw [if_neg hprofile]
    split at h
    next hsymbol => rw [if_pos hsymbol]
    next hsymbol =>
      rw [if_neg hsymbol]
      dsimp only at h ⊢
      split at h
      next holder => rw [if_pos holder]
      next holder =>
        rw [if_neg holder]
        split at h
        next hsame => rw [if_pos hsame, if_pos (by simpa using h)]
        next => cases h

/-- `apply_regime_allocation` is silent only where it changes nothing. -/
theorem applyRegimeAllocation_silent {p : PaperRiskPipeline F D} {c : PaperRiskCoordinator F}
    {allocation : RegimeBoundAllocationV1 F} {receivedAtMs : Int}
    (h : c.applyRegimeAllocationNotifies p allocation receivedAtMs = false) :
    (c.applyRegimeAllocation p allocation receivedAtMs).2 = c := by
  unfold applyRegimeAllocationNotifies at h
  unfold applyRegimeAllocation
  split at h
  next hpolicy => rw [if_pos hpolicy]
  next hpolicy =>
    rw [if_neg hpolicy]
    split at h
    next hvalid => rw [if_pos hvalid]
    next hvalid =>
      rw [if_neg hvalid]
      split at h
      next hclock => rw [if_pos hclock]
      next hclock =>
        rw [if_neg hclock]
        cases hid : allocation.observation.intent.intentId with
        | none => rfl
        | some intentId =>
          rw [hid] at h
          dsimp only at h ⊢
          cases hheld : c.regimeAllocations.get? intentId with
          | none =>
            rw [hheld] at h
            cases h
          | some existing =>
            rw [hheld] at h
            dsimp only at h ⊢
            rw [if_pos (by simpa using h)]

/-- `restore_reservations` is silent only where it does not load. -/
theorem restoreReservations_silent {p : PaperRiskPipeline F D} {c : PaperRiskCoordinator F}
    {ds : List (RiskTradeDecisionV1 F)} (h : c.restoreReservationsNotifies p ds = false) :
    (c.restoreReservations p ds).2 = c ∨
      (c.restoreReservations p ds).2.durableRecoveryLoaded = false := by
  unfold restoreReservationsNotifies at h
  split at h
  next hloaded =>
    left
    unfold restoreReservations
    rw [if_pos hloaded]
  next hnot =>
    right
    have hnot : c.durableRecoveryLoaded = false := Bool.eq_false_iff.mpr hnot
    have hframe : (restoreLoop p ds c).2.durableRecoveryLoaded = false := by
      rw [restoreLoop_frame]
      exact hnot
    split at h
    next e he =>
      -- the loop raised: what it wrote stays, and the flag is still down
      rcases hl : restoreLoop p ds c with ⟨r, c'⟩
      rw [hl] at he hframe
      have he : r = .error e := he
      unfold restoreReservations
      rw [hnot, hl, he]
      exact hframe
    next => cases h

variable [PyDecimal D] [Spelling F D]

/-- What `evaluate` leaves a review waiting for is what it found. -/
theorem evaluate_inputsReady (p : PaperRiskPipeline F D) (c : PaperRiskCoordinator F)
    (x : EvaluateRequest F) (review : CandidateReviewV1 F) :
    (c.evaluate p x).2.inputsReady p review = c.inputsReady p review := by
  rcases hr : c.evaluate p x with ⟨r, c'⟩
  cases evaluate_cases hr <;> rfl

/-- **What does not notify makes nobody ready.** -/
theorem inputsReady_of_silent {p : PaperRiskPipeline F D} {c : PaperRiskCoordinator F}
    {op : Operation p.core} {review : CandidateReviewV1 F} (h : c.notifies p op = false)
    (hready : (step p c op).inputsReady p review = true) : c.inputsReady p review = true := by
  cases op with
  | applyRegimeAllocation allocation receivedAtMs =>
    have hsame : step p c (.applyRegimeAllocation allocation receivedAtMs) = c :=
      applyRegimeAllocation_silent h
    rw [hsame] at hready
    exact hready
  | applyAccount snapshot =>
    have hsame : step p c (.applyAccount snapshot) = c := applyAccount_silent h
    rw [hsame] at hready
    exact hready
  | applyVenue venue =>
    have hsame : step p c (.applyVenue venue) = c := applyVenue_silent h
    rw [hsame] at hready
    exact hready
  | evaluate request => exact (evaluate_inputsReady p c request review).symm.trans hready
  | restoreReservations decisions =>
    rcases restoreReservations_silent h with hsame | hnot
    · have hsame : step p c (.restoreReservations decisions) = c := hsame
      rw [hsame] at hready
      exact hready
    · -- without the durable decisions nobody is ready
      have hnot : (step p c (.restoreReservations decisions)).durableRecoveryLoaded = false := hnot
      unfold inputsReady recoveryComplete at hready
      rw [hnot] at hready
      cases hready

/-! ## What a ready review finds -/

/-- A review whose inputs are there does not find one missing. -/
theorem available_of_inputsReady {p : PaperRiskPipeline F D} {c : PaperRiskCoordinator F}
    {x : EvaluateRequest F} (h : c.inputsReady p x.review = true) :
    Available (c.evaluate p x).1 := by
  unfold inputsReady at h
  simp only [Bool.and_eq_true] at h
  obtain ⟨⟨hrecovered, hvenue⟩, _⟩ := h
  obtain ⟨symbol, hsymbol, hcontains⟩ := (Option.any_eq_true _ _).mp hvenue
  obtain ⟨venue, hget⟩ := Option.isSome_iff_exists.mp hcontains
  have hfresh : Available (c.evaluateFresh p x) := by
    -- the venue it looks up is the one the review waited for
    unfold evaluateFresh
    rw [hsymbol, Option.getD_some, hget]
    exact (available_reservationView _).bind fun _ => available_evaluate _ _
  unfold evaluate
  split
  next => exact available_valueError _
  next reviewId hid =>
    rw [hrecovered]
    simp only [Bool.not_true, Bool.false_eq_true, if_false]
    split
    next => exact available_ok _
    next =>
      split
      next e he =>
        intro message heq
        exact hfresh message (he.trans heq)
      next d hd =>
        split
        next => exact available_ok _
        next =>
          unfold store
          dsimp only
          split
          next =>
            split
            next => exact available_valueError _
            next => exact available_ok _
          next => exact available_ok _

end PaperRiskCoordinator

/-! ## The waiters -/

variable [PyFloat F] [DecidableEq F] [PyDecimal D] [Spelling F D]

/-- The coordinator and the reviews parked in `wait_for_inputs`. -/
abbrev WaitingReviews (F : Type) := Monitor (PaperRiskCoordinator F) (CandidateReviewV1 F)

/-- A new process, nobody waiting. -/
def WaitingReviews.init : WaitingReviews F := { shared := .init, parked := [] }

/-- One action on the coordinator's condition. -/
def WaitingReviews.act (p : PaperRiskPipeline F D) :
    WaitingReviews F → MonitorAction (Operation p.core) (CandidateReviewV1 F) → WaitingReviews F :=
  Monitor.act (PaperRiskCoordinator.step p) (PaperRiskCoordinator.notifies p)
    (PaperRiskCoordinator.inputsReady p)

/-- `wait_for_inputs` returns when the inputs are there. -/
theorem RiskService.waitForInputs_inputsReady {s : RiskService F D} {review : CandidateReviewV1 F}
    {c' : PaperRiskCoordinator F} :
    ∀ {wakes : List (Wake s.pipeline.core)} {c : PaperRiskCoordinator F},
      s.waitForInputs review wakes c = .ready c' → c'.inputsReady s.pipeline review = true
  | [], c, h => by
    unfold waitForInputs at h
    split at h
    next hready =>
      cases h
      exact hready
    next => cases h
  | wake :: wakes, c, h => by
    unfold waitForInputs at h
    split at h
    next hready =>
      cases h
      exact hready
    next =>
      split at h
      next => cases h
      next =>
        dsimp only at h
        split at h
        next => cases h
        next => exact waitForInputs_inputsReady h

/-- **No lost wakeup**: in every run of the coordinator and its waiters, a
parked review is one whose inputs are not there, because every path that makes
a review ready notifies; and once the wait returns, an evaluation with nothing
in between does not find an input missing. -/
theorem no_lost_wakeup (s : RiskService F D) :
    (∀ (actions : List (MonitorAction (Operation s.pipeline.core) (CandidateReviewV1 F))),
      ∀ review ∈ (run (WaitingReviews.act s.pipeline) .init actions).parked,
        (run (WaitingReviews.act s.pipeline) .init actions).shared.inputsReady s.pipeline review
          = false) ∧
    (∀ (c : PaperRiskCoordinator F) (op : Operation s.pipeline.core)
        (review : CandidateReviewV1 F), c.inputsReady s.pipeline review = false →
      (PaperRiskCoordinator.step s.pipeline c op).inputsReady s.pipeline review = true →
      c.notifies s.pipeline op = true) ∧
    ∀ (review : CandidateReviewV1 F) (wakes : List (Wake s.pipeline.core))
      (c c' : PaperRiskCoordinator F), s.waitForInputs review wakes c = .ready c' →
      ∀ x : EvaluateRequest F, x.review = review →
        ∀ message, (c'.evaluate s.pipeline x).1 ≠ .error (.paperInputUnavailable message) := by
  have hnotifies : ∀ (c : PaperRiskCoordinator F) (op : Operation s.pipeline.core)
      (review : CandidateReviewV1 F), c.inputsReady s.pipeline review = false →
      (PaperRiskCoordinator.step s.pipeline c op).inputsReady s.pipeline review = true →
      c.notifies s.pipeline op = true := by
    intro c op review hnot hready
    cases hn : c.notifies s.pipeline op with
    | true => rfl
    | false =>
      rw [PaperRiskCoordinator.inputsReady_of_silent hn hready] at hnot
      cases hnot
  refine ⟨?_, hnotifies, ?_⟩
  · intro actions
    exact Monitor.parked_not_ready hnotifies actions (fun _ hw => absurd hw List.not_mem_nil)
  · intro review wakes c c' hreturned x hx
    subst hx
    exact PaperRiskCoordinator.available_of_inputsReady
      (RiskService.waitForInputs_inputsReady hreturned)

end KairosRisk
