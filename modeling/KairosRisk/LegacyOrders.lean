import KairosRisk.LegacyRuntime
import KairosRisk.PipelineLimits

/-!
# What a DRY_RUN service publishes

Decisions and modes, over any interleaving of the four consumers.

A published approval goes back to one command, and everything it rests on is
read off what had arrived by then (`published_approval_grounded`): the account
that stood, the policy that stood where one was needed, and the mode the health
history called for. The answer to a command that takes no new risk rests on the
account alone, so that nothing the language models or the macro layer do has an
influence on it (`exit_answer_independent`). A mode is announced when it
changes and never twice in a row, and once the last announcement is out it is
the mode of the history (`modes_announced`).
-/

namespace KairosRisk

open PyLib CircuitBreakerRegistry

variable {F : Type} [PyFloat F] [DecidableEq F]

/-! ## One command -/

omit [DecidableEq F] in
/-- A refusal approves nothing. -/
theorem RiskPipeline.refuse_not_approved {p : RiskPipeline F} {command : TacticalCommand F}
    {adjustment : String} {order : ValidatedOrder F} (h : p.refuse command adjustment = .ok order) :
    ¬order.approved = true := by
  unfold RiskPipeline.refuse RiskPipeline.refuseAs at h
  obtain ⟨_, _, h⟩ := ok_of_bind h
  obtain ⟨rfl, _⟩ := PipelineCore.validatedOrder_ok h
  exact Bool.false_ne_true

/-- The mode says nothing to a command that takes no new risk. -/
theorem RiskPipeline.validate_mode_irrelevant (p : RiskPipeline F) {command : TacticalCommand F}
    (account : AccountState F) (price : F) (allocation : Option (StrategicAllocation F))
    (systemMode systemMode' : SystemMode) (h : command.reasonCode.isNewRisk = false) :
    p.validate command account price allocation systemMode
      = p.validate command account price allocation systemMode' := by
  have hgates : p.passGates command account price systemMode
      = p.passGates command account price systemMode' := by
    unfold passGates
    dsimp only
    rw [h, Bool.and_false, Bool.and_false]
  unfold validate size
  rw [hgates]

namespace LegacyService

/-- The allocation is asked for. -/
def NeedsAllocation (p : RiskPipeline F) (reason : ReasonCode) (systemMode : SystemMode) : Prop :=
  p.settings.requireStrategicAllocation = true ∧ reason ∉ nonEntryReasons ∧
    systemMode ≠ .localQuantMode

variable {s : LegacyService F} {command : TacticalCommand F} {turn : CommandTurn}
  {order : ValidatedOrder F}

theorem decidePriced_approved {account : AccountState F}
    {allocation : Option (StrategicAllocation F)} {systemMode : SystemMode}
    (h : s.decidePriced command account allocation systemMode = .ok order)
    (happroved : order.approved = true) :
    s.pipeline.validate command account command.referencePrice allocation systemMode
      = .ok order := by
  unfold decidePriced at h
  dsimp only at h
  split at h
  next => exact absurd happroved (RiskPipeline.refuse_not_approved h)
  next => exact h

/-- An approval is the pipeline's, with the allocation in force where one is
needed and with none elsewhere. -/
theorem decideFor_approved {account : AccountState F}
    (h : s.decideFor command account turn = .ok order) (happroved : order.approved = true) :
    ∃ allocation, s.pipeline.validate command account command.referencePrice allocation
        turn.systemMode = .ok order ∧
      (NeedsAllocation s.pipeline command.reasonCode turn.systemMode → ∃ a, allocation = some a ∧
        s.allocation.strategicAllocation = some a ∧
        isFresh a s.pipeline.settings.strategicAllocationMaxAgeS turn.freshAt = true) ∧
      (¬NeedsAllocation s.pipeline command.reasonCode turn.systemMode → allocation = none) := by
  have hneeds : (s.pipeline.settings.requireStrategicAllocation
      && !nonEntryReasons.contains command.reasonCode
      && decide (turn.systemMode ≠ .localQuantMode)) = true ↔
      NeedsAllocation s.pipeline command.reasonCode turn.systemMode := by
    simp [NeedsAllocation, and_assoc]
  unfold decideFor at h
  dsimp only at h
  split at h
  next hneeded =>
    split at h
    next => exact absurd happroved (RiskPipeline.refuse_not_approved h)
    next a ha =>
      split at h
      next => exact absurd happroved (RiskPipeline.refuse_not_approved h)
      next hfresh =>
        refine ⟨some a, decidePriced_approved h happroved, ?_, ?_⟩
        · exact fun _ => ⟨a, rfl, ha, by simpa using hfresh⟩
        · exact fun hnot => absurd (hneeds.mp hneeded) hnot
  next hnone =>
    refine ⟨none, decidePriced_approved h happroved, ?_, fun _ => rfl⟩
    exact fun hneeded => absurd (hneeds.mpr hneeded) hnone

/-- An approved command passed the gates of the service. -/
theorem handleCommand_approved (h : s.handleCommand command turn = .ok order)
    (happroved : order.approved = true) :
    s.symbolAllowed command.symbol = true ∧ s.accountReady turn.readyAt = true ∧
      ∃ account, s.accountFor command.symbol = .ok account ∧
        s.decideFor command account turn = .ok order := by
  unfold handleCommand at h
  split at h
  next => exact absurd happroved (RiskPipeline.refuse_not_approved h)
  next hsymbol =>
    split at h
    next => exact absurd happroved (RiskPipeline.refuse_not_approved h)
    next hready =>
      obtain ⟨account, haccount, h⟩ := ok_of_bind h
      exact ⟨by simpa using hsymbol, by simpa using hready, account, haccount, h⟩

/-- The age of a snapshot, in seconds. -/
def snapshotAgeS (F : Type) [PyFloat F] (captured now : DateTime) : F :=
  PyFloat.lit ((now.us - captured.us : Int) / 1000000 : Rat)

omit [DecidableEq F] in
/-- The snapshot is reconciled, not from the future, and no older than it may be. -/
def Current (p : RiskPipeline F) (snapshot : AccountSnapshot F) (now : DateTime) : Prop :=
  snapshot.reconciled = true ∧ ¬snapshotAgeS F snapshot.capturedAt now < PyFloat.lit 0 ∧
    ¬p.settings.accountSnapshotMaxAgeS < snapshotAgeS F snapshot.capturedAt now

omit [DecidableEq F] in
/-- A ready account is a current snapshot, or nothing at all where none is required. -/
theorem accountReady_cases {now : DateTime} (h : s.accountReady now = true) :
    (∃ snapshot, s.account.accountSnapshot = some snapshot ∧
      (s.pipeline.settings.requireReconciledAccount = true → Current s.pipeline snapshot now)) ∨
    s.account.accountSnapshot = none ∧ s.account.latestAccountCapturedAt = none ∧
      s.pipeline.settings.requireReconciledAccount = false := by
  unfold accountReady at h
  dsimp only at h
  split at h
  next hnone =>
    rw [Bool.and_eq_true, Option.isNone_iff_eq_none, Bool.not_eq_true'] at h
    exact Or.inr ⟨hnone, h⟩
  next snapshot hsnapshot =>
    refine Or.inl ⟨snapshot, hsnapshot, ?_⟩
    intro hrequired
    rw [hrequired, Bool.not_true, if_neg Bool.false_ne_true] at h
    split at h
    next => cases h
    next hreconciled =>
      rw [Bool.not_eq_true', Bool.or_eq_false_iff, decide_eq_false_iff_not,
        decide_eq_false_iff_not] at h
      exact ⟨by simpa using hreconciled, h⟩

/-- The answer to a command that takes no new risk is the same for services
with the same account, whatever their allocations and modes. -/
theorem handleCommand_exit {s s' : LegacyService F} {command : TacticalCommand F}
    (hexit : command.reasonCode ∈ nonEntryReasons) (hpipeline : s.pipeline = s'.pipeline)
    (hsymbols : s.symbolAllowed = s'.symbolAllowed) (haccount : s.account = s'.account)
    {turn turn' : CommandTurn} (hready : turn.readyAt = turn'.readyAt) :
    s.handleCommand command turn = s'.handleCommand command turn' := by
  have hold : command.reasonCode.isNewRisk = false := by
    have hall : ∀ reason ∈ nonEntryReasons, ReasonCode.isNewRisk reason = false := by decide
    exact hall _ hexit
  have hreadied : s.accountReady turn.readyAt = s'.accountReady turn'.readyAt := by
    unfold accountReady
    rw [hpipeline, haccount, hready]
  have hused : s.accountFor command.symbol = s'.accountFor command.symbol := by
    unfold accountFor
    rw [haccount]
  -- no allocation is asked for, and the mode says nothing
  have hpriced : ∀ (s : LegacyService F) (turn : CommandTurn) (account : AccountState F),
      s.decideFor command account turn = s.decidePriced command account none turn.systemMode := by
    intro s turn account
    have hcontains : nonEntryReasons.contains command.reasonCode = true := by simpa using hexit
    unfold decideFor
    dsimp only
    rw [hcontains, Bool.not_true, Bool.and_false, Bool.false_and, if_neg Bool.false_ne_true]
  have hdecided : ∀ account,
      s.decideFor command account turn = s'.decideFor command account turn' := by
    intro account
    rw [hpriced, hpriced]
    unfold decidePriced
    dsimp only
    rw [hpipeline, s'.pipeline.validate_mode_irrelevant account _ none turn.systemMode
      turn'.systemMode hold]
  unfold handleCommand
  rw [hsymbols, hreadied, hused, hpipeline]
  simp only [hdecided]

end LegacyService

/-! ## Published approvals -/

namespace LegacyRuntime

open LegacyService

/-- The account of a decision, by what had arrived: the snapshot that stood, as
the symbol sees it, or where none is required and none had arrived the one the
service started with. -/
def AccountGrounds (p : RiskPipeline F) (start : AccountState F) (before : List (RuntimeEvent F))
    (readyAt : DateTime) (symbol : String) (account : AccountState F) : Prop :=
  (∃ snapshot, LegacyAccount.InForceAfter (before.filterMap RuntimeEvent.account?) snapshot ∧
    AccountState.fromSnapshot snapshot (some symbol) = .ok account ∧
    (p.settings.requireReconciledAccount = true → Current p snapshot readyAt)) ∨
  p.settings.requireReconciledAccount = false ∧
    Feed.messages ((before.filterMap RuntimeEvent.account?).map readableSnapshot) = [] ∧
    account = start

/-- The allocation of a decision, by what had arrived: the fresh one that stood
where one is needed, and none elsewhere. -/
def AllocationGrounds (p : RiskPipeline F) (before : List (RuntimeEvent F)) (freshAt : DateTime)
    (reason : ReasonCode) (systemMode : SystemMode) (allocation : Option (StrategicAllocation F)) :
    Prop :=
  (NeedsAllocation p reason systemMode → ∃ a, allocation = some a ∧
    LegacyAllocation.InForceAfter (before.filterMap RuntimeEvent.allocation?) a ∧
    isFresh a p.settings.strategicAllocationMaxAgeS freshAt = true) ∧
  (¬NeedsAllocation p reason systemMode → allocation = none)

/-- What an approval of a command rests on, after the events `before`. -/
structure Grounds (lower : String → String) (p : RiskPipeline F) (symbolAllowed : String → Bool)
    (start : AccountState F) (max : Nat) (before : List (RuntimeEvent F))
    (command : TacticalCommand F) (readyAt freshAt : DateTime)
    (order : ValidatedOrder F) : Prop where
  symbol : symbolAllowed command.symbol = true
  decided : ∃ account allocation sized,
    AccountGrounds p start before readyAt command.symbol account ∧
    AllocationGrounds p before freshAt command.reasonCode
      (modeOf lower max (before.filterMap RuntimeEvent.health?)) allocation ∧
    p.Admitted command account command.referencePrice
      (modeOf lower max (before.filterMap RuntimeEvent.health?)) ∧
    p.size command account command.referencePrice allocation
      (modeOf lower max (before.filterMap RuntimeEvent.health?)) = .ok sized ∧
    order = p.approvalOf command account command.referencePrice sized

section Published

variable {lower : String → String} {p : RiskPipeline F} {symbolAllowed : String → Bool}
  {account : AccountState F} {max : Nat} {cooldown : F} {events : List (RuntimeEvent F)}
  {r : LegacyRuntime F}

/-- **An approval rests on what had arrived.** -/
theorem decide_grounds (hlower : normalizeProvider lower OPENAI = OPENAI)
    (h : follow (step lower) (start p symbolAllowed account max cooldown) events = some r)
    {command : TacticalCommand F} {readyAt freshAt : DateTime} {clock : MonotonicClock F}
    {order : ValidatedOrder F}
    (hdecided : (r.decideOn lower command readyAt freshAt clock).1 = .ok order)
    (happroved : order.approved = true) :
    Grounds lower p symbolAllowed account max events command readyAt freshAt order := by
  obtain ⟨hpipeline, hsymbols⟩ := settings_history h
  have hmode := systemMode_of_agrees (agrees_history h hlower) clock
  unfold decideOn at hdecided
  dsimp only at hdecided
  rw [hmode] at hdecided
  obtain ⟨hsymbol, hready, used, hused, hdecided⟩ := handleCommand_approved hdecided happroved
  obtain ⟨allocation, hvalidate, hneeds, hother⟩ := decideFor_approved hdecided happroved
  rw [hpipeline] at hvalidate hneeds hother
  rw [hsymbols] at hsymbol
  obtain ⟨sized, hsized, horder⟩ := RiskPipeline.validate_approved hvalidate happroved
  have hadmitted := (RiskPipeline.size_ok hsized).1
  refine ⟨hsymbol, used, allocation, sized, ?_, ⟨?_, hother⟩, hadmitted, hsized, horder⟩
  · unfold accountFor at hused
    rcases accountReady_cases hready with
      ⟨snapshot, hsnapshot, hcurrent⟩ | ⟨hnone, hlatest, hrequired⟩
    · rw [hpipeline] at hcurrent
      rw [hsnapshot] at hused
      exact Or.inl ⟨snapshot, (accountSnapshot_iff h snapshot).mp hsnapshot, hused, hcurrent⟩
    · rw [hpipeline] at hrequired
      rw [hnone] at hused
      cases hused
      have hsums := LegacyAccount.receive_sumsUp account (events.filterMap RuntimeEvent.account?)
      rw [account_history h] at hlatest ⊢
      have hunread := hsums.start (by
        show Option.map DateTime.us _ = none
        rw [hlatest]
        rfl)
      exact Or.inr ⟨hrequired, hunread, LegacyAccount.receive_unread account hunread⟩
  · intro hneeded
    obtain ⟨a, ha, hheld, hfresh⟩ := hneeds hneeded
    exact ⟨a, ha, (allocation_iff h a).mp hheld, hfresh⟩

/-- The order is what the service decided on a command among the events. -/
def Decided (lower : String → String) (first : LegacyRuntime F) (events : List (RuntimeEvent F))
    (order : ValidatedOrder F) : Prop :=
  ∃ before command readyAt freshAt clock after r,
    events = before ++ .command command readyAt freshAt clock :: after ∧
    follow (step lower) first before = some r ∧
      (r.decideOn lower command readyAt freshAt clock).1 = .ok order

theorem Decided.snoc {first : LegacyRuntime F} {order : ValidatedOrder F}
    (h : Decided lower first events order) (e : RuntimeEvent F) :
    Decided lower first (events ++ [e]) order := by
  obtain ⟨before, command, readyAt, freshAt, clock, after, r, rfl, hr, hdecided⟩ := h
  exact ⟨before, command, readyAt, freshAt, clock, after ++ [e], r, by simp, hr, hdecided⟩

/-- What is being published, and what was, was decided. -/
theorem decided_history {first : LegacyRuntime F}
    (hfirst : first.deciding = none ∧ first.orders = [])
    (h : follow (step lower) first events = some r) :
    ∀ order, r.deciding = some order ∨ order ∈ r.orders → Decided lower first events order := by
  have hstep : ∀ (done : List (RuntimeEvent F)) (s : LegacyRuntime F) (e : RuntimeEvent F)
      (t : LegacyRuntime F),
      (follow (step lower) first done = some s ∧
        ∀ order, s.deciding = some order ∨ order ∈ s.orders → Decided lower first done order) →
      s.step lower e = some t →
      follow (step lower) first (done ++ [e]) = some t ∧
        ∀ order, t.deciding = some order ∨ order ∈ t.orders →
          Decided lower first (done ++ [e]) order := by
    intro done s e t hs ht
    obtain ⟨hreached, hs⟩ := hs
    refine ⟨follow_snoc.mpr ⟨s, hreached, ht⟩, ?_⟩
    intro order horder
    cases step_cases ht with
    | @command command readyAt freshAt clock hidle =>
      rcases horder with hdeciding | horders
      · have hdecided : (s.decideOn lower command readyAt freshAt clock).1 = .ok order := by
          have hoption : (s.decideOn lower command readyAt freshAt clock).1.toOption = some order :=
            hdeciding
          cases hresult : (s.decideOn lower command readyAt freshAt clock).1 with
          | error e =>
            rw [hresult] at hoption
            cases hoption
          | ok decided =>
            rw [hresult] at hoption
            cases hoption
            rfl
        exact ⟨done, command, readyAt, freshAt, clock, [], s, rfl, hreached, hdecided⟩
      · exact (hs order (Or.inr horders)).snoc _
    | @orderSent sent delivered hdeciding =>
      rcases horder with hnone | horders
      · cases hnone
      · -- sent just now, or earlier
        cases delivered with
        | false => exact (hs order (Or.inr horders)).snoc _
        | true =>
          rcases List.mem_append.mp horders with hearlier | hsent
          · exact (hs order (Or.inr hearlier)).snoc _
          · rw [List.mem_singleton.mp hsent]
            exact (hs sent (Or.inl hdeciding)).snoc _
    | account | allocation | health | modeSent => exact (hs order horder).snoc _
  have hstart : follow (step lower) first [] = some first ∧
      ∀ order, first.deciding = some order ∨ order ∈ first.orders →
        Decided lower first [] order := by
    refine ⟨rfl, ?_⟩
    rw [hfirst.1, hfirst.2]
    rintro order (hnone | hmem)
    · cases hnone
    · exact absurd hmem List.not_mem_nil
  exact (follow_history hstep events [] hstart h).2

/-- **Every published approval rests on what had arrived when its command was
taken**: whatever else the four consumers did in whatever order, and whichever
publications failed. -/
theorem published_approval_grounded (lower : String → String) (hlower : lower "openai" = "openai")
    (p : RiskPipeline F) (symbolAllowed : String → Bool) (account : AccountState F) (max : Nat)
    (cooldown : F) (events : List (RuntimeEvent F)) (r : LegacyRuntime F)
    (h : follow (step lower) (start p symbolAllowed account max cooldown) events = some r)
    (order : ValidatedOrder F) (horder : order ∈ r.orders) (happroved : order.approved = true) :
    ∃ before command readyAt freshAt clock after,
      events = before ++ .command command readyAt freshAt clock :: after ∧
      Grounds lower p symbolAllowed account max before command readyAt freshAt order := by
  have hopenai := normalizeProvider_openai hlower
  obtain ⟨before, command, readyAt, freshAt, clock, after, s, rfl, hs, hdecided⟩ :=
    decided_history ⟨rfl, rfl⟩ h order (Or.inr horder)
  exact ⟨before, command, readyAt, freshAt, clock, after, rfl,
    decide_grounds hopenai hs hdecided happroved⟩

end Published

/-! ## Exits -/

/-- **The answer to a command that takes no new risk is a matter of the account
messages alone.** Two services that were sent the same ones, under any health
events, allocations, other commands, failed publications and breaker settings,
answer it in the same way. -/
theorem exit_answer_independent (lower : String → String) (p : RiskPipeline F)
    (symbolAllowed : String → Bool) (account : AccountState F) (max max' : Nat)
    (cooldown cooldown' : F) (events events' : List (RuntimeEvent F)) (r r' : LegacyRuntime F)
    (h : follow (step lower) (start p symbolAllowed account max cooldown) events = some r)
    (h' : follow (step lower) (start p symbolAllowed account max' cooldown') events' = some r')
    (haccounts : events.filterMap RuntimeEvent.account? = events'.filterMap RuntimeEvent.account?)
    (command : TacticalCommand F) (hexit : command.reasonCode ∈ nonEntryReasons)
    (readyAt freshAt freshAt' : DateTime) (clock clock' : MonotonicClock F) :
    (r.decideOn lower command readyAt freshAt clock).1
      = (r'.decideOn lower command readyAt freshAt' clock').1 := by
  obtain ⟨hpipeline, hsymbols⟩ := settings_history h
  obtain ⟨hpipeline', hsymbols'⟩ := settings_history h'
  have haccount : r.service.account = r'.service.account := by
    rw [account_history h, account_history h', haccounts]
  exact handleCommand_exit hexit (hpipeline.trans hpipeline'.symm) (hsymbols.trans hsymbols'.symm)
    haccount rfl

/-! ## Announced modes -/

section Modes

variable {lower : String → String} {p : RiskPipeline F} {symbolAllowed : String → Bool}
  {account : AccountState F} {max : Nat} {cooldown : F} {events : List (RuntimeEvent F)}
  {r : LegacyRuntime F}

/-- The mode the health events among these call for. -/
noncomputable def modeAfter (lower : String → String) (max : Nat) (events : List (RuntimeEvent F)) :
    SystemMode :=
  modeOf lower max (events.filterMap RuntimeEvent.health?)

omit [PyFloat F] [DecidableEq F] in
/-- Only a health event moves the mode. -/
theorem modeAfter_snoc {e : RuntimeEvent F} (he : e.health? = none) :
    modeAfter lower max (events ++ [e]) = modeAfter lower max events := by
  unfold modeAfter
  rw [List.filterMap_append, List.filterMap_cons_none he, List.filterMap_nil, List.append_nil]

/-- What is announced after the events. -/
structure Announced (lower : String → String) (max : Nat) (events : List (RuntimeEvent F))
    (modes : Announcer SystemMode) : Prop where
  /-- Nothing is announced twice in a row, and `_last_mode` is what was announced last. -/
  faithful : modes.Faithful SystemMode.normal
  /-- What was announced was once the mode. -/
  told : ∀ mode ∈ modes.told, ∃ before after, events = before ++ after ∧
    mode = modeAfter lower max before
  /-- What is on its way is the mode. -/
  sending : ∀ mode, modes.sending = some mode → mode = modeAfter lower max events
  /-- So is what was announced last, with nothing on its way and nothing lost
  since the last health event. -/
  quiet : modes.sending = none → since RuntimeEvent.isHealth RuntimeEvent.losesMode events = 0 →
    modes.last = modeAfter lower max events

omit [PyFloat F] [DecidableEq F] in
theorem announced_start (lower : String → String) (max : Nat) :
    Announced lower max ([] : List (RuntimeEvent F)) (Announcer.start SystemMode.normal) where
  faithful := Announcer.faithful_start SystemMode.normal
  told := nofun
  sending := nofun
  quiet := by
    intro _ _
    show SystemMode.normal = modeOf lower max []
    have hclosed : ∀ model, ¬ModelDown lower max [] model := fun _ => Nat.not_lt_zero max
    have hopenai : ¬OpenaiDown lower max [] := Nat.not_lt_zero max
    rw [modeOf, if_neg, if_neg (hclosed FLASH)]
    rintro (h | ⟨model, -, h⟩)
    · exact hopenai h
    · exact hclosed model h

omit [PyFloat F] [DecidableEq F] in
/-- What was once the mode was once the mode. -/
theorem Announced.told_snoc {modes : Announcer SystemMode} (h : Announced lower max events modes)
    (e : RuntimeEvent F) {mode : SystemMode} (hmode : mode ∈ modes.told) :
    ∃ before after, events ++ [e] = before ++ after ∧ mode = modeAfter lower max before := by
  obtain ⟨before, after, rfl, hmode⟩ := h.told mode hmode
  exact ⟨before, after ++ [e], List.append_assoc .., hmode⟩

omit [PyFloat F] [DecidableEq F] in
/-- An event of another consumer leaves what is announced alone. -/
theorem Announced.other {modes : Announcer SystemMode} (h : Announced lower max events modes)
    {e : RuntimeEvent F} (he : e.health? = none) (hlost : e.losesMode = false) :
    Announced lower max (events ++ [e]) modes := by
  refine ⟨h.faithful, fun mode hmode => h.told_snoc e hmode, ?_, ?_⟩
  · rw [modeAfter_snoc he]
    exact h.sending
  · have hhealth : e.isHealth = false := by rw [RuntimeEvent.isHealth, he]; rfl
    rw [modeAfter_snoc he, since_snoc_of_not hhealth, hlost]
    exact h.quiet

omit [PyFloat F] [DecidableEq F] in
/-- A health event shows the announcer the mode. -/
theorem Announced.observe {modes modes' : Announcer SystemMode}
    (h : Announced lower max events modes) {e : RuntimeEvent F}
    (hmodes : modes.observe (modeAfter lower max (events ++ [e])) = some modes') :
    Announced lower max (events ++ [e]) modes' := by
  obtain ⟨-, htold, hshown⟩ := Announcer.observe_spec hmodes
  refine ⟨h.faithful.observe hmodes, ?_, ?_, ?_⟩
  · rw [htold]
    exact fun mode hmode => h.told_snoc e hmode
  · intro mode hmode
    rcases hshown with ⟨hnone, -⟩ | hsending
    · rw [hnone] at hmode
      cases hmode
    · rw [hsending] at hmode
      exact (Option.some.inj hmode).symm
  · intro hidle _
    rcases hshown with ⟨-, hlast⟩ | hsending
    · exact hlast
    · rw [hidle] at hsending
      cases hsending

omit [PyFloat F] [DecidableEq F] in
/-- The message on its way arrives or is lost. -/
theorem Announced.finish {modes modes' : Announcer SystemMode}
    (h : Announced lower max events modes)
    {delivered : Bool} (hmodes : modes.finish delivered = some modes') :
    Announced lower max (events ++ [RuntimeEvent.modeSent delivered]) modes' := by
  obtain ⟨mode, hsending, hidle, hdelivered, hlost⟩ := Announcer.finish_spec hmodes
  have hsame : modeAfter lower max (events ++ [RuntimeEvent.modeSent delivered])
      = modeAfter lower max events := modeAfter_snoc rfl
  have hmode := h.sending mode hsending
  refine ⟨h.faithful.finish hmodes, ?_, ?_, ?_⟩
  · intro old hold
    cases delivered with
    | false =>
      rw [hlost rfl] at hold
      exact h.told_snoc _ hold
    | true =>
      rw [(hdelivered rfl).2] at hold
      rcases List.mem_append.mp hold with hold | hnew
      · exact h.told_snoc _ hold
      · rw [List.mem_singleton.mp hnew, hmode]
        exact ⟨events, [RuntimeEvent.modeSent true], rfl, rfl⟩
  · rw [hidle]
    exact nofun
  · intro _ hsince
    rw [since_snoc_of_not rfl] at hsince
    cases delivered with
    | false => exact absurd hsince (Nat.succ_ne_zero _)
    | true => rw [(hdelivered rfl).1, hsame, hmode]

/-- **Modes are announced when they change.** In every run the modes announced
are modes there were, one after the other different, with `_last_mode` the last
of them; and once nothing is on its way and nothing was lost since the last
health event, that is the mode the health history calls for. -/
theorem modes_announced (lower : String → String) (hlower : lower "openai" = "openai")
    (p : RiskPipeline F) (symbolAllowed : String → Bool) (account : AccountState F) (max : Nat)
    (cooldown : F) (events : List (RuntimeEvent F)) (r : LegacyRuntime F)
    (h : follow (step lower) (start p symbolAllowed account max cooldown) events = some r) :
    Announced lower max events r.modes := by
  have hopenai := normalizeProvider_openai hlower
  have hstep : ∀ (done : List (RuntimeEvent F)) (s : LegacyRuntime F) (e : RuntimeEvent F)
      (t : LegacyRuntime F),
      (Agrees lower max (done.filterMap RuntimeEvent.health?) s.breakers ∧
        Announced lower max done s.modes) → s.step lower e = some t →
      Agrees lower max ((done ++ [e]).filterMap RuntimeEvent.health?) t.breakers ∧
        Announced lower max (done ++ [e]) t.modes := by
    intro done s e t hs ht
    obtain ⟨hagrees, hannounced⟩ := hs
    refine ⟨agrees_step hopenai hagrees ht, ?_⟩
    cases step_cases ht with
    | command | orderSent | account | allocation => exact hannounced.other rfl rfl
    | @health event clock broadcast modes hobserved =>
      have happlied := agrees_applyHealthEvent hopenai hagrees event clock
      rw [systemMode_of_agrees happlied] at hobserved
      refine hannounced.observe ?_
      have hafter : modeAfter lower max (done ++ [RuntimeEvent.health event clock broadcast])
          = modeOf lower max (done.filterMap RuntimeEvent.health? ++ [event]) := by
        unfold modeAfter
        rw [List.filterMap_append]
        rfl
      rw [hafter]
      exact hobserved
    | modeSent delivered hfinished => exact hannounced.finish hfinished
  have hstart : Agrees lower max (([] : List (RuntimeEvent F)).filterMap RuntimeEvent.health?)
        (start p symbolAllowed account max cooldown).breakers ∧
      Announced lower max ([] : List (RuntimeEvent F))
        (start p symbolAllowed account max cooldown).modes :=
    ⟨agrees_new lower max cooldown, announced_start lower max⟩
  exact (follow_history hstep events [] hstart h).2

end Modes

end LegacyRuntime

namespace Scenario

open LegacyRuntime

/-- An account at its peak, a bull policy, an outage of Flash, a trend entry, and
a message of the account topic that does not validate while its approval is
being published. -/
def entryEvents : List (RuntimeEvent Rat) :=
  [.account (some (snapshotAt 2 10500 true)), .allocation (some (allocationAt 1 .bull (1 / 2))),
    .health flashTimeout (clockAt 0) (clockAt 0),
    .command (commandFor .enterLongTrend) ⟨true, 3⟩ ⟨true, 3⟩ (clockAt 1), .account none,
    .orderSent true]

/-- Where they lead. -/
def afterEntry : Option (LegacyRuntime Rat) :=
  follow (step String.toLower) (start legacyPipeline (fun _ => true) startAccount 2 300) entryEvents

theorem entry_possible : afterEntry.isSome = true := by decide +kernel

/-- The trend order at the peak. -/
def peakOrder : ValidatedOrder Rat :=
  { trendOrder with
    intent := { trendOrder.intent with quantity := 21 / 10 }
    riskNotes := "equity=$10,500 dd=0.00%" }

theorem peakOrder_published :
    peakOrder ∈ (afterEntry.get entry_possible).orders := by decide +kernel

/-- The published entry goes back to its command. -/
theorem entry_grounded : ∃ before command readyAt freshAt clock after,
    entryEvents = before ++ RuntimeEvent.command command readyAt freshAt clock :: after ∧
    Grounds String.toLower legacyPipeline (fun _ => true) startAccount 2 before command
      readyAt freshAt peakOrder :=
  published_approval_grounded String.toLower (by decide +kernel) legacyPipeline (fun _ => true)
    startAccount 2 300 entryEvents (afterEntry.get entry_possible)
    (Option.some_get entry_possible).symm peakOrder peakOrder_published rfl

/-- A service that was only sent an account, and one that has lost OpenAI and its
policy since. -/
def calmEvents : List (RuntimeEvent Rat) := [.account (some (publishedAs "a" "p"))]

def stormEvents : List (RuntimeEvent Rat) :=
  [.account (some (publishedAs "a" "p")), .allocation none,
    .health { flashTimeout with provider := some OPENAI, kind := "connection" } (clockAt 0)
      (clockAt 0)]

def afterCalm : Option (LegacyRuntime Rat) :=
  follow (step String.toLower) (start legacyPipeline (fun _ => true) startAccount 2 300) calmEvents

def afterStorm : Option (LegacyRuntime Rat) :=
  follow (step String.toLower) (start legacyPipeline (fun _ => true) startAccount 0 300)
    stormEvents

theorem calm_possible : afterCalm.isSome = true := by decide +kernel

theorem storm_possible : afterStorm.isSome = true := by decide +kernel

/-- To close the position of that account. -/
def closeCommand : TacticalCommand Rat := { commandFor .closePosition with symbol := "BTCUSDT" }

/-- They close the position with the same order. -/
theorem storm_closes_as_calm :
    ((afterCalm.get calm_possible).decideOn String.toLower closeCommand ⟨true, 3⟩ ⟨true, 3⟩
        (clockAt 0)).1
      = ((afterStorm.get storm_possible).decideOn String.toLower closeCommand ⟨true, 3⟩ ⟨true, 9⟩
        (clockAt 4)).1 :=
  exit_answer_independent String.toLower legacyPipeline (fun _ => true) startAccount 2 0 300 300
    calmEvents stormEvents (afterCalm.get calm_possible) (afterStorm.get storm_possible)
    (Option.some_get calm_possible).symm (Option.some_get storm_possible).symm rfl closeCommand
    (by decide) ⟨true, 3⟩ ⟨true, 3⟩ ⟨true, 9⟩ (clockAt 0) (clockAt 4)

/-- The mode that took the text away was announced, and is the mode still. -/
def outageEvents : List (RuntimeEvent Rat) :=
  [.health flashTimeout (clockAt 0) (clockAt 0), .modeSent true]

def afterOutage : Option (LegacyRuntime Rat) :=
  follow (step String.toLower) (start legacyPipeline (fun _ => true) startAccount 0 300)
    outageEvents

theorem outage_possible : afterOutage.isSome = true := by decide +kernel

theorem outage_announced : Announced String.toLower 0 outageEvents
    (afterOutage.get outage_possible).modes :=
  modes_announced String.toLower (by decide +kernel) legacyPipeline (fun _ => true)
    startAccount 0 300
    outageEvents (afterOutage.get outage_possible) (Option.some_get outage_possible).symm

end Scenario

end KairosRisk
