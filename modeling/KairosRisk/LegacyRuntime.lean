import KairosRisk.AccountRepublication
import KairosRisk.Commands
import KairosRisk.Lib.Announcer
import KairosRisk.Lib.Guarded
import KairosRisk.Lib.Standing
import KairosRisk.ModeHistory

/-!
# The DRY_RUN service as a whole

In DRY_RUN four consumers share one service: commands, account snapshots,
strategic allocations and health events. Each takes its messages one after the
other, and between two of its own awaits nothing else runs; the only awaits
inside a handling are the two publications, of a decision and of a changed
mode. `step` is one such stretch of one consumer, and a list of events is any
interleaving of the four.

What the service holds is said by what arrived: the account in force is the
snapshot that stands among the account messages (`accountSnapshot_iff`), the
policy the allocation that stands among the allocations (`allocation_iff`), and
the breakers agree with the health events (`agrees_history`). A payload that
does not validate is an arrival too, and takes the authority away.
-/

namespace KairosRisk

open PyLib CircuitBreakerRegistry

variable {F : Type} [PyFloat F] [DecidableEq F]

/-! ## The consumers of the feeds -/

/-- One message of `_consume_account`; `none` is a payload that does not validate. -/
def LegacyAccount.receive (s : LegacyAccount F) : Option (AccountSnapshot F) → LegacyAccount F
  | some snapshot => s.consumeAccount snapshot
  | none => { s with accountSnapshot := none }

/-- One message of `_consume_allocation`; `none` is a payload that does not validate. -/
def LegacyAllocation.receive (s : LegacyAllocation F) :
    Option (StrategicAllocation F) → LegacyAllocation F
  | some allocation => s.consumeAllocation allocation
  | none => { s with strategicAllocation := none }

/-! What the feeds read in what arrives: nothing, where a time is naive. -/

omit [PyFloat F] [DecidableEq F] in
/-- The snapshot of a payload, if its times are aware. -/
def readableSnapshot (payload : Option (AccountSnapshot F)) : Option (AccountSnapshot F) :=
  payload.filter AccountSnapshot.aware

omit [PyFloat F] [DecidableEq F] in
/-- The allocation of a payload, if its time is aware. -/
def readableAllocation (payload : Option (StrategicAllocation F)) :
    Option (StrategicAllocation F) :=
  payload.filter fun allocation => allocation.producedAt.aware

namespace LegacyAccount

theorem receive_naive (s : LegacyAccount F) {payload : Option (AccountSnapshot F)}
    (h : readableSnapshot payload = none) :
    s.receive payload = { s with accountSnapshot := none } := by
  cases payload with
  | none => rfl
  | some snapshot =>
    have hnaive : snapshot.aware = false := by simpa [readableSnapshot] using h
    obtain ⟨e, he⟩ := s.handleAccount_of_not_aware hnaive
    exact consumeAccount_of_error he

/-- **The account consumer is a feed with withdrawals.** -/
theorem receive_simulates :
    Simulates (receive (F := F))
      (fun s payload => Feed.arrive capturedUs admissible (fun m => m.toAccountPayload) s
        (readableSnapshot payload)) feed Sound (fun _ => True) where
  keeps s payload _ hs := by
    cases hread : readableSnapshot payload with
    | none =>
      rw [s.receive_naive hread]
      exact nofun
    | some snapshot =>
      obtain ⟨rfl, haware⟩ := Option.filter_eq_some_iff.mp hread
      exact hs.consumeAccount haware
  commutes s payload _ hs := by
    cases hread : readableSnapshot payload with
    | none =>
      rw [s.receive_naive hread]
      rfl
    | some snapshot =>
      obtain ⟨rfl, haware⟩ := Option.filter_eq_some_iff.mp hread
      exact consumeAccount_converge hs haware

/-- The snapshot is the one the payloads leave in force. -/
def InForceAfter (payloads : List (Option (AccountSnapshot F)))
    (snapshot : AccountSnapshot F) : Prop :=
  Feed.Stands capturedUs admissible (fun m => m.toAccountPayload) (payloads.map readableSnapshot)
    snapshot

/-- What the payloads leave is a feed's sum of them. -/
theorem receive_sumsUp (account : AccountState F) (payloads : List (Option (AccountSnapshot F))) :
    Feed.SumsUp capturedUs admissible (fun m => m.toAccountPayload) (payloads.map readableSnapshot)
      (feed (run receive (init account) payloads)) := by
  have hstart : (init account).Sound := nofun
  rw [receive_simulates.run payloads hstart fun _ _ => trivial]
  have hmap :
      run (fun s payload => Feed.arrive capturedUs admissible (fun m => m.toAccountPayload) s
        (readableSnapshot payload)) (feed (init account)) payloads
      = run (Feed.arrive capturedUs admissible fun m => m.toAccountPayload) ⟨none, none⟩
        (payloads.map readableSnapshot) := (List.foldl_map ..).symm
  rw [hmap]
  exact Feed.sumsUp_run _

/-- While nothing that can be read has arrived the account is the one at the start. -/
theorem receive_unread (account : AccountState F) {payloads : List (Option (AccountSnapshot F))}
    (h : Feed.messages (payloads.map readableSnapshot) = []) :
    (run receive (init account) payloads).account = account := by
  have hunread : ∀ payload ∈ payloads, readableSnapshot payload = none := by
    intro payload hpayload
    exact List.filterMap_eq_nil_iff.mp h _ (List.mem_map_of_mem hpayload)
  have hstep : ∀ (s : LegacyAccount F) (payload : Option (AccountSnapshot F)),
      readableSnapshot payload = none → s.account = account →
      (s.receive payload).account = account := by
    intro s payload hread hs
    rw [s.receive_naive hread]
    exact hs
  exact run_invariant_of hstep payloads hunread rfl

end LegacyAccount

namespace LegacyAllocation

theorem receive_naive (s : LegacyAllocation F) {payload : Option (StrategicAllocation F)}
    (h : readableAllocation payload = none) :
    s.receive payload = { s with strategicAllocation := none } := by
  cases payload with
  | none => rfl
  | some allocation =>
    have hnaive : allocation.producedAt.aware = false := by simpa [readableAllocation] using h
    have hrefused : s.handleAllocation allocation =
        (.error (.valueError "strategic allocation produced_at must be timezone-aware"),
          { s with strategicAllocation := none }) := if_pos (by rw [hnaive]; rfl)
    show s.consumeAllocation allocation = _
    rw [consumeAllocation, hrefused]

/-- **The allocation consumer is a feed with withdrawals.** -/
theorem receive_simulates :
    Simulates (receive (F := F))
      (fun s payload => Feed.arrive producedUs valid StrategicAllocation.policy s
        (readableAllocation payload)) feed (fun _ => True) (fun _ => True) where
  keeps _ _ _ _ := trivial
  commutes s payload _ _ := by
    cases hread : readableAllocation payload with
    | none =>
      rw [s.receive_naive hread]
      rfl
    | some allocation =>
      obtain ⟨rfl, haware⟩ := Option.filter_eq_some_iff.mp hread
      exact consumeAllocation_converge s haware

/-- The allocation is the one the payloads leave in force. -/
def InForceAfter (payloads : List (Option (StrategicAllocation F)))
    (allocation : StrategicAllocation F) : Prop :=
  Feed.Stands producedUs valid StrategicAllocation.policy (payloads.map readableAllocation)
    allocation

/-- What the payloads leave is a feed's sum of them. -/
theorem receive_sumsUp (payloads : List (Option (StrategicAllocation F))) :
    Feed.SumsUp producedUs valid StrategicAllocation.policy (payloads.map readableAllocation)
      (feed (run receive init payloads)) := by
  rw [receive_simulates.run payloads trivial fun _ _ => trivial]
  have hmap : run (fun s payload => Feed.arrive producedUs valid StrategicAllocation.policy s
        (readableAllocation payload)) (feed init) payloads
      = run (Feed.arrive producedUs valid StrategicAllocation.policy) ⟨none, none⟩
        (payloads.map readableAllocation) := (List.foldl_map ..).symm
  rw [hmap]
  exact Feed.sumsUp_run _

end LegacyAllocation

/-! ## The service -/

/-- `_handle_command` comes to read the mode. -/
def LegacyService.readsMode (s : LegacyService F) (command : TacticalCommand F)
    (readyAt : DateTime) :
    Bool :=
  s.symbolAllowed command.symbol && s.accountReady readyAt && (s.accountFor command.symbol).toBool

/-- `RiskService` in DRY_RUN, with what its consumers are at. -/
structure LegacyRuntime (F : Type) [PyFloat F] where
  service : LegacyService F
  breakers : CircuitBreakerRegistry F
  /-- `_last_mode`, and the control messages. -/
  modes : Announcer SystemMode
  /-- The decision whose publication `_handle_command` awaits. -/
  deciding : Option (ValidatedOrder F)
  /-- The decisions whose publication returned. -/
  orders : List (ValidatedOrder F)

/-- What happens between two awaits of a consumer, with the clock readings of it. -/
inductive RuntimeEvent (F : Type) where
  /-- `_handle_command`, up to the publication. -/
  | command (command : TacticalCommand F) (readyAt freshAt : DateTime) (clock : MonotonicClock F)
  /-- The publication of a decision returns, or raises. -/
  | orderSent (delivered : Bool)
  | account (payload : Option (AccountSnapshot F))
  | allocation (payload : Option (StrategicAllocation F))
  /-- `_handle_health`, up to the publication in `_broadcast_mode`. -/
  | health (event : HealthEvent) (clock broadcast : MonotonicClock F)
  /-- The publication of a mode returns, or raises. -/
  | modeSent (delivered : Bool)

namespace RuntimeEvent

omit [PyFloat F] [DecidableEq F]

/-- What arrived for the account consumer. -/
def account? : RuntimeEvent F → Option (Option (AccountSnapshot F))
  | .account payload => some payload
  | _ => none

/-- What arrived for the allocation consumer. -/
def allocation? : RuntimeEvent F → Option (Option (StrategicAllocation F))
  | .allocation payload => some payload
  | _ => none

/-- The health event handled. -/
def health? : RuntimeEvent F → Option HealthEvent
  | .health event _ _ => some event
  | _ => none

/-- A health event was handled. -/
def isHealth (e : RuntimeEvent F) : Bool := e.health?.isSome

/-- The publication of a mode failed. -/
def losesMode : RuntimeEvent F → Bool
  | .modeSent delivered => !delivered
  | _ => false

end RuntimeEvent

namespace LegacyRuntime

/-- A service that has just started. -/
def start (pipeline : RiskPipeline F) (symbolAllowed : String → Bool) (account : AccountState F)
    (max : Nat) (cooldown : F) : LegacyRuntime F where
  service :=
    { pipeline := pipeline, symbolAllowed := symbolAllowed, account := LegacyAccount.init account
      allocation := LegacyAllocation.init }
  breakers := CircuitBreakerRegistry.new max cooldown
  modes := Announcer.start .normal
  deciding := none
  orders := []

variable (lower : String → String)

/-- What `_handle_command` decides, and the breakers it leaves. -/
def decideOn (r : LegacyRuntime F) (command : TacticalCommand F) (readyAt freshAt : DateTime)
    (clock : MonotonicClock F) : Except PyError (ValidatedOrder F) × CircuitBreakerRegistry F :=
  let read := r.breakers.systemMode lower clock
  (r.service.handleCommand command ⟨readyAt, freshAt, read.2⟩,
    if r.service.readsMode command readyAt then read.1 else r.breakers)

/-- `_handle_health`, up to the publication. -/
def handleHealth (r : LegacyRuntime F) (event : HealthEvent) (clock broadcast : MonotonicClock F) :
    Option (LegacyRuntime F) :=
  let applied := (applyHealthEvent lower r.breakers event clock).1
  let read := applied.systemMode lower broadcast
  (r.modes.observe read.2).map fun modes => { r with breakers := read.1, modes := modes }

/-- One event; `none` where the consumer it belongs to is not at that point. -/
def step (r : LegacyRuntime F) : RuntimeEvent F → Option (LegacyRuntime F)
  | .command command readyAt freshAt clock =>
    if r.deciding.isSome then none
    else
      let decided := r.decideOn lower command readyAt freshAt clock
      -- a handling that raises leaves the command pending
      some { r with breakers := decided.2, deciding := decided.1.toOption }
  | .orderSent delivered =>
    r.deciding.map fun order =>
      { r with deciding := none, orders := if delivered then r.orders ++ [order] else r.orders }
  | .account payload =>
    some { r with service := { r.service with account := r.service.account.receive payload } }
  | .allocation payload =>
    some { r with service := { r.service with allocation := r.service.allocation.receive payload } }
  | .health event clock broadcast => r.handleHealth lower event clock broadcast
  | .modeSent delivered => (r.modes.finish delivered).map fun modes => { r with modes := modes }

variable {lower}

/-! ### What a step can do -/

/-- What one event does to a service, by its kind. -/
inductive Steps (lower : String → String) (r : LegacyRuntime F) :
    RuntimeEvent F → LegacyRuntime F → Prop
  | command {command readyAt freshAt clock} (idle : r.deciding = none) :
    Steps lower r (.command command readyAt freshAt clock)
      { r with
        breakers := (r.decideOn lower command readyAt freshAt clock).2
        deciding := (r.decideOn lower command readyAt freshAt clock).1.toOption }
  | orderSent {order} (delivered : Bool) (deciding : r.deciding = some order) :
    Steps lower r (.orderSent delivered)
      { r with deciding := none, orders := if delivered then r.orders ++ [order] else r.orders }
  | account (payload : Option (AccountSnapshot F)) :
    Steps lower r (.account payload)
      { r with service := { r.service with account := r.service.account.receive payload } }
  | allocation (payload : Option (StrategicAllocation F)) :
    Steps lower r (.allocation payload)
      { r with service := { r.service with allocation := r.service.allocation.receive payload } }
  | health {event clock broadcast modes}
    (observed : r.modes.observe
      ((applyHealthEvent lower r.breakers event clock).1.systemMode lower broadcast).2
        = some modes) :
    Steps lower r (.health event clock broadcast)
      { r with
        breakers := ((applyHealthEvent lower r.breakers event clock).1.systemMode lower broadcast).1
        modes := modes }
  | modeSent {modes} (delivered : Bool) (finished : r.modes.finish delivered = some modes) :
    Steps lower r (.modeSent delivered) { r with modes := modes }

theorem step_cases {r t : LegacyRuntime F} {e : RuntimeEvent F} (h : r.step lower e = some t) :
    Steps lower r e t := by
  cases e with
  | command command readyAt freshAt clock =>
    unfold step at h
    dsimp only at h
    split at h
    next => cases h
    next hidle =>
      cases h
      exact .command (Option.not_isSome_iff_eq_none.mp hidle)
  | orderSent delivered =>
    obtain ⟨order, horder, rfl⟩ := Option.map_eq_some_iff.mp h
    exact .orderSent delivered horder
  | account payload =>
    cases h
    exact .account payload
  | allocation payload =>
    cases h
    exact .allocation payload
  | health event clock broadcast =>
    obtain ⟨modes, hmodes, rfl⟩ := Option.map_eq_some_iff.mp h
    exact .health hmodes
  | modeSent delivered =>
    obtain ⟨modes, hmodes, rfl⟩ := Option.map_eq_some_iff.mp h
    exact .modeSent delivered hmodes

/-- **One event**: the breakers go on agreeing with the health events. -/
theorem agrees_step (hlower : normalizeProvider lower OPENAI = OPENAI) {max : Nat}
    {done : List (RuntimeEvent F)} {r t : LegacyRuntime F} {e : RuntimeEvent F}
    (hr : Agrees lower max (done.filterMap RuntimeEvent.health?) r.breakers)
    (ht : r.step lower e = some t) :
    Agrees lower max ((done ++ [e]).filterMap RuntimeEvent.health?) t.breakers := by
  rw [List.filterMap_append]
  cases step_cases ht with
  | command hidle =>
    rw [show [RuntimeEvent.command _ _ _ _].filterMap RuntimeEvent.health? = [] from rfl,
      List.append_nil]
    -- a reading of the mode leaves the history alone
    unfold decideOn
    dsimp only
    split
    · exact hr.systemMode _
    · exact hr
  | orderSent | account | allocation | modeSent =>
    rw [show List.filterMap RuntimeEvent.health? [_] = [] from rfl, List.append_nil]
    exact hr
  | health hobserved => exact (agrees_applyHealthEvent hlower hr _ _).systemMode _

omit [PyFloat F] [DecidableEq F] in
/-- The provider's own name is written as it is normalized. -/
theorem normalizeProvider_openai (hlower : lower "openai" = "openai") :
    normalizeProvider lower OPENAI = OPENAI := by
  show lower (strip "openai") = "openai"
  rw [show strip "openai" = "openai" from by decide, hlower]

/-! ### What the parts of a service come to -/

section History

variable {p : RiskPipeline F} {symbolAllowed : String → Bool} {account : AccountState F}
  {max : Nat} {cooldown : F} {events : List (RuntimeEvent F)} {r : LegacyRuntime F}
  (h : follow (step lower) (start p symbolAllowed account max cooldown) events = some r)

include h

/-- The settings stay as they are. -/
theorem settings_history :
    r.service.pipeline = p ∧ r.service.symbolAllowed = symbolAllowed := by
  have hstep : ∀ (done : List (RuntimeEvent F)) (s : LegacyRuntime F) (e : RuntimeEvent F)
      (t : LegacyRuntime F), s.service.pipeline = p ∧ s.service.symbolAllowed = symbolAllowed →
      s.step lower e = some t → t.service.pipeline = p ∧
        t.service.symbolAllowed = symbolAllowed := by
    intro done s e t hs ht
    cases step_cases ht <;> exact hs
  exact follow_history hstep events [] ⟨rfl, rfl⟩ h

theorem account_history :
    r.service.account = run LegacyAccount.receive (LegacyAccount.init account)
      (events.filterMap RuntimeEvent.account?) := by
  have hpart : ∀ (s : LegacyRuntime F) (e : RuntimeEvent F) (t : LegacyRuntime F),
      s.step lower e = some t → t.service.account
        = stepOn RuntimeEvent.account? LegacyAccount.receive s.service.account e := by
    intro s e t ht
    cases step_cases ht <;> rfl
  exact follow_part hpart h

theorem allocation_history :
    r.service.allocation = run LegacyAllocation.receive LegacyAllocation.init
      (events.filterMap RuntimeEvent.allocation?) := by
  have hpart : ∀ (s : LegacyRuntime F) (e : RuntimeEvent F) (t : LegacyRuntime F),
      s.step lower e = some t → t.service.allocation
        = stepOn RuntimeEvent.allocation? LegacyAllocation.receive s.service.allocation e := by
    intro s e t ht
    cases step_cases ht <;> rfl
  exact follow_part hpart h

/-- **The account in force is the snapshot that stands.** -/
theorem accountSnapshot_iff (snapshot : AccountSnapshot F) :
    r.service.account.accountSnapshot = some snapshot ↔
      LegacyAccount.InForceAfter (events.filterMap RuntimeEvent.account?) snapshot := by
  rw [account_history h]
  exact (LegacyAccount.receive_sumsUp account _).held snapshot

/-- **The policy in force is the allocation that stands.** -/
theorem allocation_iff (allocation : StrategicAllocation F) :
    r.service.allocation.strategicAllocation = some allocation ↔
      LegacyAllocation.InForceAfter (events.filterMap RuntimeEvent.allocation?) allocation := by
  rw [allocation_history h]
  exact (LegacyAllocation.receive_sumsUp _).held allocation

/-- The breakers agree with the health events. -/
theorem agrees_history (hlower : normalizeProvider lower OPENAI = OPENAI) :
    Agrees lower max (events.filterMap RuntimeEvent.health?) r.breakers := by
  have hstep : ∀ (done : List (RuntimeEvent F)) (s : LegacyRuntime F) (e : RuntimeEvent F)
      (t : LegacyRuntime F), Agrees lower max (done.filterMap RuntimeEvent.health?) s.breakers →
      s.step lower e = some t →
      Agrees lower max ((done ++ [e]).filterMap RuntimeEvent.health?) t.breakers :=
    fun _ _ _ _ hs ht => agrees_step hlower hs ht
  have hstart : Agrees lower max ([] : List HealthEvent)
      (start p symbolAllowed account max cooldown).breakers := agrees_new lower max cooldown
  exact follow_history hstep events [] hstart h

end History

end LegacyRuntime

end KairosRisk
