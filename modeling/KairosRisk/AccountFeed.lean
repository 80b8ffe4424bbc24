import KairosRisk.Contracts
import KairosRisk.Lib.Feed

/-!
# The legacy account feed

Outside PAPER the service trusts one full account snapshot at a time.
`_handle_account` takes them in whatever order they arrive: an older one is
dropped, one at the recorded version can only withdraw the authority, and a
newer one either becomes the authority or poisons its version. Some branches
raise, and `_consume_account` then withdraws the authority and goes on.

With the handler and its consumer together each delivery is a step of a
converging feed (`consumeAccount_converge`): the version is the capture time,
a snapshot is valid when it is reconciled, about one account and yields an
`AccountState`, and two snapshots agree on what `model_dump` keeps of them.
`account_feed_converges` follows.
-/

namespace KairosRisk

open PyLib

/-! ## The messages -/

/-- `PositionSnapshot`. -/
structure PositionSnapshot (F : Type) where
  messageId : String
  source : String
  schemaVersion : String
  producedAt : DateTime
  correlationId : Option String
  causationId : Option String
  exchange : String
  accountId : String
  symbol : String
  signedQuantity : F
  entryPrice : Option F
  markPrice : Option F
  leverage : F
  liquidationPrice : Option F
  unrealizedPnlUsd : F
  protectiveStopOrderId : Option String
  capturedAt : DateTime
  deriving DecidableEq

/-- What the comparison of two snapshots keeps of them. -/
structure AccountPayload (F : Type) where
  source : String
  schemaVersion : String
  exchange : String
  accountId : String
  equityUsd : F
  availableBalanceUsd : F
  marginUsedUsd : F
  peakEquityUsd : F
  dailyPnlPct : F
  realizedPnlUsd : F
  unrealizedPnlUsd : F
  positions : List (PositionSnapshot F)
  openOrderIds : List String
  capturedAt : DateTime
  reconciled : Bool
  deriving DecidableEq

/-- `AccountSnapshot`: the compared payload and the excluded fields. A float
of a snapshot compares equal to itself: the contract has no NaN. -/
structure AccountSnapshot (F : Type) extends AccountPayload F where
  messageId : String
  producedAt : DateTime
  correlationId : Option String
  causationId : Option String
  reconciliationDetail : String
  deriving DecidableEq

/-- Its own time and its positions' are timezone-aware. -/
def AccountSnapshot.aware {F : Type} (s : AccountSnapshot F) : Bool :=
  s.capturedAt.aware && s.positions.all fun p => p.capturedAt.aware

variable {F : Type} [PyFloat F] [DecidableEq F]

/-! ## `AccountState` -/

/-- The fields of `AccountState`. -/
structure AccountStateFields (F : Type) where
  equityUsd : F
  peakEquityUsd : F
  dailyPnlPct : F
  grossExposureUsd : F
  grossExposureKnown : Bool
  openPositionQty : F
  openPositionNotionalUsd : F
  openPositionNotionalKnown : Bool
  reconciled : Bool
  deriving DecidableEq

namespace AccountStateFields

/-- The bounds of the fields. -/
def inBounds (x : AccountStateFields F) : Bool :=
  let zero : F := PyFloat.lit 0
  PyFloat.isFinite x.equityUsd && decide (zero < x.equityUsd)
    && PyFloat.isFinite x.peakEquityUsd && decide (zero < x.peakEquityUsd)
    && PyFloat.isFinite x.dailyPnlPct
    && PyFloat.isFinite x.grossExposureUsd && decide (zero ≤ x.grossExposureUsd)
    && PyFloat.isFinite x.openPositionQty
    && PyFloat.isFinite x.openPositionNotionalUsd && decide (zero ≤ x.openPositionNotionalUsd)

/-- `validate_account_invariants`. -/
def validateAccountInvariants (x : AccountStateFields F) : Except PyError Unit := do
  raiseIf (x.peakEquityUsd < x.equityUsd) "peak_equity_usd cannot be below current equity_usd"
  raiseIf (x.grossExposureKnown && x.openPositionNotionalKnown
      && decide (x.grossExposureUsd < x.openPositionNotionalUsd))
    "gross exposure cannot be below the command-symbol exposure"

end AccountStateFields

/-- `AccountState`: a validated model. -/
structure AccountState (F : Type) [PyFloat F] extends AccountStateFields F where
  in_bounds : toAccountStateFields.inBounds = true
  invariants : toAccountStateFields.validateAccountInvariants = .ok ()

/-- `AccountState(...)`. -/
def AccountState.make (x : AccountStateFields F) : Except PyError (AccountState F) :=
  if hx : x.inBounds = true then
    match hi : x.validateAccountInvariants with
    | .ok () => .ok { x with in_bounds := hx, invariants := hi }
    | .error e => .error e
  else .error (.valueError "validation error for AccountState")

omit [DecidableEq F] in
/-- `daily_drawdown_pct`. -/
def AccountState.dailyDrawdownPct (x : AccountState F) : F :=
  let peakDrawdown := PyFloat.max (PyFloat.lit 0)
    [(x.peakEquityUsd - x.equityUsd) / x.peakEquityUsd * PyFloat.lit 100]
  PyFloat.max (PyFloat.lit 0) [-x.dailyPnlPct, peakDrawdown]

/-- `a or b` on prices that may be missing: zero is false as well. -/
def orPrice (a b : Option F) : Option F :=
  match a with
  | some x => if x = PyFloat.lit 0 then b else some x
  | none => b

/-- One pass of the loop over the positions: the exposure, and whether it is known. -/
def addExposure (total : F × Bool) (p : PositionSnapshot F) : F × Bool :=
  if !PyFloat.isFinite p.signedQuantity then (total.1, false)
  else if p.signedQuantity = PyFloat.lit 0 then total
  else match orPrice p.markPrice p.entryPrice with
    | none => (total.1, false)
    | some price =>
      let notional := PyFloat.abs p.signedQuantity * price
      if !PyFloat.isFinite price then (total.1, false)
      else if !PyFloat.isFinite notional then (total.1, false)
      else (total.1 + notional, total.2)

/-- `AccountState.from_snapshot`. -/
def AccountState.fromSnapshot (snapshot : AccountSnapshot F) (symbol : Option String) :
    Except PyError (AccountState F) := do
  let positions := snapshot.positions
  raiseIf (!decide (positions.map fun p => p.symbol).Nodup)
    "account snapshot contains duplicate position symbols"
  let zero : F := PyFloat.lit 0
  let selected := positions.find? fun p => some p.symbol = symbol
  let exposure := positions.foldl addExposure (zero, true)
  let selectedQty := (selected.map fun p => p.signedQuantity).getD zero
  let selectedPrice := selected.bind fun p => orPrice p.markPrice p.entryPrice
  let selectedNotionalKnown := selected.isNone || decide (selectedQty = zero)
    || (PyFloat.isFinite selectedQty && selectedPrice.any PyFloat.isFinite)
  let selectedNotional := match selectedPrice with
    | some price => if selectedNotionalKnown then PyFloat.abs selectedQty * price else zero
    | none => zero
  AccountState.make
    { equityUsd := snapshot.equityUsd
      peakEquityUsd := snapshot.peakEquityUsd
      dailyPnlPct := snapshot.dailyPnlPct
      grossExposureUsd := exposure.1
      grossExposureKnown := exposure.2
      openPositionQty := selectedQty
      openPositionNotionalUsd := selectedNotional
      openPositionNotionalKnown := selectedNotionalKnown
      reconciled := snapshot.reconciled }

omit [DecidableEq F] in
theorem AccountState.make_error {x : AccountStateFields F} {e : PyError}
    (h : AccountState.make x = .error e) : ∃ message, e = .valueError message := by
  unfold make at h
  split at h
  · split at h
    · cases h
    next e' hinvariants =>
      cases h
      unfold AccountStateFields.validateAccountInvariants at hinvariants
      rcases error_of_raiseIf hinvariants with rfl | hlast
      · exact ⟨_, rfl⟩
      · unfold raiseIf at hlast
        split at hlast
        · exact ⟨_, (Except.error.inj hlast).symm⟩
        · cases hlast
  · exact ⟨_, (Except.error.inj h).symm⟩

/-- `from_snapshot` raises nothing but `ValueError`s. -/
theorem AccountState.fromSnapshot_error {snapshot : AccountSnapshot F} {symbol : Option String}
    {e : PyError} (h : AccountState.fromSnapshot snapshot symbol = .error e) :
    ∃ message, e = .valueError message := by
  unfold fromSnapshot at h
  rcases error_of_raiseIf h with rfl | hmake
  · exact ⟨_, rfl⟩
  · exact AccountState.make_error hmake

/-! ## The service -/

/-- The account fields of `RiskService`. -/
structure LegacyAccount (F : Type) [PyFloat F] where
  account : AccountState F
  accountSnapshot : Option (AccountSnapshot F)
  latestAccountCapturedAt : Option DateTime

namespace LegacyAccount

/-- A service that has received nothing. -/
def init (account : AccountState F) : LegacyAccount F where
  account := account
  accountSnapshot := none
  latestAccountCapturedAt := none

/-- The version is recorded without an authority. -/
def poison (s : LegacyAccount F) (snapshot : AccountSnapshot F) : LegacyAccount F :=
  { s with latestAccountCapturedAt := some snapshot.capturedAt, accountSnapshot := none }

/-- A snapshot at the recorded version. -/
def sameVersion (s : LegacyAccount F) (snapshot : AccountSnapshot F) : LegacyAccount F :=
  match s.accountSnapshot with
  | none => s
  | some current =>
    if !snapshot.reconciled then { s with accountSnapshot := none }
    else if snapshot.toAccountPayload ≠ current.toAccountPayload then
      { s with accountSnapshot := none }
    else s

/-- The symbols of the positions on another exchange or account. -/
def mismatchedPositions (snapshot : AccountSnapshot F) : List String :=
  (snapshot.positions.filter fun p =>
    decide (p.exchange ≠ snapshot.exchange) || decide (p.accountId ≠ snapshot.accountId)).map
    fun p => p.symbol

/-- A snapshot at a newer version. -/
def newVersion (s : LegacyAccount F) (snapshot : AccountSnapshot F) :
    Except PyError Unit × LegacyAccount F :=
  if !snapshot.reconciled then (.ok (), s.poison snapshot)
  else if mismatchedPositions snapshot ≠ [] then
    (.error (.valueError ("account snapshot contains positions for a different exchange/account: "
      ++ String.intercalate ", " (mismatchedPositions snapshot))), s.poison snapshot)
  else match AccountState.fromSnapshot snapshot none with
    -- the version is recorded in every branch but the last, which `except` lets pass
    | .ok account =>
      (.ok (), { account := account, accountSnapshot := some snapshot,
                 latestAccountCapturedAt := some snapshot.capturedAt })
    | .error (.arithmetic signal) => (.error (.arithmetic signal), s.poison snapshot)
    | .error (.valueError message) => (.error (.valueError message), s.poison snapshot)
    | .error e => (.error e, s)

/-- `_handle_account`. Aware times compare by their instants. -/
def handleAccount (s : LegacyAccount F) (snapshot : AccountSnapshot F) :
    Except PyError Unit × LegacyAccount F :=
  if !snapshot.capturedAt.aware then
    (.error (.valueError "account snapshot captured_at must be timezone-aware"), s)
  else if snapshot.positions.any fun p => !p.capturedAt.aware then
    (.error (.valueError "account snapshot position captured_at values must be timezone-aware"), s)
  else match s.latestAccountCapturedAt with
    | none => s.newVersion snapshot
    | some latest =>
      if snapshot.capturedAt.us < latest.us then (.ok (), s)
      else if snapshot.capturedAt.us = latest.us then (.ok (), s.sameVersion snapshot)
      else s.newVersion snapshot

/-- One delivery in `_consume_account`: whatever the handler raises withdraws
the authority. -/
def consumeAccount (s : LegacyAccount F) (snapshot : AccountSnapshot F) : LegacyAccount F :=
  match s.handleAccount snapshot with
  | (.ok (), s') => s'
  | (.error _, s') => { s' with accountSnapshot := none }

/-! ## The feed -/

/-- A snapshot that can be the authority. -/
def admissible (snapshot : AccountSnapshot F) : Bool :=
  snapshot.reconciled
    && snapshot.positions.all (fun p =>
      decide (p.exchange = snapshot.exchange) && decide (p.accountId = snapshot.accountId))
    && (AccountState.fromSnapshot snapshot none).toBool

/-- The version of a snapshot. -/
def capturedUs (snapshot : AccountSnapshot F) : Int := snapshot.capturedAt.us

/-- The fields as a feed. -/
def feed (s : LegacyAccount F) : Feed Int (AccountSnapshot F) where
  version := s.latestAccountCapturedAt.map DateTime.us
  held := s.accountSnapshot

/-- Whether a snapshot is admissible depends on what is compared of it only. -/
theorem admissible_congr {a b : AccountSnapshot F} (h : a.toAccountPayload = b.toAccountPayload) :
    admissible a = admissible b := by
  unfold admissible AccountState.fromSnapshot
  rw [h]

omit [PyFloat F] [DecidableEq F] in
theorem mismatchedPositions_eq_nil {snapshot : AccountSnapshot F} :
    mismatchedPositions snapshot = [] ↔
      (snapshot.positions.all fun p =>
        decide (p.exchange = snapshot.exchange) && decide (p.accountId = snapshot.accountId))
        = true := by
  simp [mismatchedPositions, List.filter_eq_nil_iff]

/-- A newer version, with the consumer: adopted when it is admissible, poisoned otherwise. -/
theorem feed_newVersion (s : LegacyAccount F) (snapshot : AccountSnapshot F) :
    feed (match s.newVersion snapshot with
      | (.ok (), s') => s'
      | (.error _, s') => { s' with accountSnapshot := none })
      = ⟨some (capturedUs snapshot),
        if admissible snapshot = true then some snapshot else none⟩ := by
  unfold newVersion admissible
  cases hreconciled : snapshot.reconciled with
  | false => rfl
  | true =>
    by_cases hmatch : mismatchedPositions snapshot = []
    · -- what `from_snapshot` raises is always caught
      rw [mismatchedPositions_eq_nil.mp hmatch]
      simp only [hmatch, Bool.not_true, Bool.false_eq_true, if_false, ne_eq, not_true_eq_false]
      cases hstate : AccountState.fromSnapshot snapshot none with
      | ok account => rfl
      | error e =>
        obtain ⟨message, rfl⟩ := AccountState.fromSnapshot_error hstate
        rfl
    · have hall := mt mismatchedPositions_eq_nil.mpr hmatch
      rw [Bool.not_eq_true] at hall
      simp only [hmatch, hall, Bool.not_true, Bool.false_eq_true, if_false, ne_eq,
        not_false_eq_true, if_true, Bool.and_false, Bool.false_and]
      rfl

/-- An authority, once held, passed the test it has to pass. -/
def Sound (s : LegacyAccount F) : Prop :=
  ∀ held, s.accountSnapshot = some held → admissible held = true

/-- The same version, for a sound service: kept when the snapshot is admissible
and agrees with the authority. -/
theorem feed_sameVersion {s : LegacyAccount F} (hs : s.Sound) (snapshot : AccountSnapshot F) :
    feed (s.sameVersion snapshot)
      = ⟨s.feed.version, s.feed.held.filter fun h =>
          admissible snapshot && decide (snapshot.toAccountPayload = h.toAccountPayload)⟩ := by
  unfold sameVersion feed
  cases hheld : s.accountSnapshot with
  | none =>
    dsimp only
    rw [hheld]
    rfl
  | some current =>
    dsimp only
    by_cases hsame : snapshot.toAccountPayload = current.toAccountPayload
    · -- then it is reconciled and admissible, as the authority is
      have hadmissible : admissible snapshot = true := by
        rw [admissible_congr hsame]
        exact hs current hheld
      have hreconciled : snapshot.reconciled = true := by
        unfold admissible at hadmissible
        rw [Bool.and_eq_true, Bool.and_eq_true] at hadmissible
        exact hadmissible.1.1
      rw [hreconciled, hadmissible, Option.filter_some]
      simp only [hsame, decide_true, Bool.and_self, Bool.not_true, Bool.false_eq_true, if_false,
        ne_eq, not_true_eq_false, if_true]
      rw [hheld]
    · rw [Option.filter_some]
      simp only [hsame, decide_false, Bool.and_false, Bool.false_eq_true, if_false, ne_eq,
        not_false_eq_true, if_true, ite_self]

/-- **A delivery is a step of a converging feed.** -/
theorem consumeAccount_converge {s : LegacyAccount F} (hs : s.Sound) {snapshot : AccountSnapshot F}
    (haware : snapshot.aware = true) :
    feed (s.consumeAccount snapshot)
      = s.feed.converge capturedUs admissible (fun m => m.toAccountPayload) snapshot := by
  unfold AccountSnapshot.aware at haware
  rw [Bool.and_eq_true] at haware
  have hpositions : (snapshot.positions.any fun p => !p.capturedAt.aware) = false := by
    rw [List.any_eq_false]
    intro p hp
    rw [List.all_eq_true.mp haware.2 p hp]
    exact Bool.false_ne_true
  unfold consumeAccount handleAccount Feed.converge
  rw [haware.1, hpositions]
  simp only [Bool.not_true, Bool.false_eq_true, if_false]
  cases hlatest : s.latestAccountCapturedAt with
  | none =>
    simp only [feed, hlatest, Option.map_none]
    exact feed_newVersion s snapshot
  | some latest =>
    have hversion : s.feed.version = some latest.us := by
      unfold feed
      rw [hlatest]
      rfl
    rw [hversion]
    dsimp only
    -- the handler's three cases are the feed's
    by_cases hlt : snapshot.capturedAt.us < latest.us
    · rw [if_pos hlt, if_pos (show capturedUs snapshot < latest.us from hlt)]
    · rw [if_neg hlt, if_neg (show ¬capturedUs snapshot < latest.us from hlt)]
      by_cases heq : snapshot.capturedAt.us = latest.us
      · rw [if_pos heq, if_pos (show capturedUs snapshot = latest.us from heq)]
        rw [← hversion]
        exact feed_sameVersion hs snapshot
      · rw [if_neg heq, if_neg (show ¬capturedUs snapshot = latest.us from heq)]
        exact feed_newVersion s snapshot

theorem Sound.consumeAccount {s : LegacyAccount F} (hs : s.Sound) {snapshot : AccountSnapshot F}
    (haware : snapshot.aware = true) : (s.consumeAccount snapshot).Sound := by
  intro held hheld
  have hfeed : (feed (s.consumeAccount snapshot)).held = some held := hheld
  rw [consumeAccount_converge hs haware] at hfeed
  rcases Feed.converge_held hfeed with hold | ⟨rfl, hvalid⟩
  · exact hs held hold
  · exact hvalid

/-- **The consumer is a converging feed.** -/
theorem consumeAccount_simulates :
    Simulates (consumeAccount (F := F))
      (Feed.converge capturedUs admissible fun m => m.toAccountPayload)
      feed Sound (fun m => m.aware = true) where
  keeps _ _ haware hs := hs.consumeAccount haware
  commutes _ _ haware hs := consumeAccount_converge hs haware

/-- **The legacy account feed converges.** After any aware deliveries the
recorded capture time is the largest one delivered; there is an authority
exactly when every snapshot at it is admissible and all of them agree on the
compared payload; the same set of deliveries leaves the same version and the
same payload; and without an authority nothing that is not newer brings one. -/
theorem account_feed_converges (account : AccountState F) (ms : List (AccountSnapshot F))
    (haware : ∀ m ∈ ms, m.aware = true) :
    let final := run consumeAccount (init account) ms
    (∀ t, final.latestAccountCapturedAt.map DateTime.us = some t ↔ Feed.Latest capturedUs ms t) ∧
    (final.accountSnapshot.isSome = true
      ↔ Feed.Settled capturedUs admissible (fun m => m.toAccountPayload) ms) ∧
    (∀ ms' : List (AccountSnapshot F), (∀ m, m ∈ ms ↔ m ∈ ms') →
      let final' := run consumeAccount (init account) ms'
      final.latestAccountCapturedAt.map DateTime.us
        = final'.latestAccountCapturedAt.map DateTime.us ∧
      final.accountSnapshot.map (fun m => m.toAccountPayload)
        = final'.accountSnapshot.map fun m => m.toAccountPayload) ∧
    (final.accountSnapshot = none → ∀ (t : Int) (more : List (AccountSnapshot F)),
      Feed.Latest capturedUs ms t → (∀ m ∈ more, m.aware = true ∧ capturedUs m ≤ t) →
      (run consumeAccount final more).accountSnapshot = none) := by
  have hstart : (init account).Sound := by
    intro held hheld
    cases hheld
  have hconverged : ∀ ks : List (AccountSnapshot F), (∀ m ∈ ks, m.aware = true) →
      Feed.Converged capturedUs admissible (fun m => m.toAccountPayload) ks
        (feed (run consumeAccount (init account) ks)) :=
    fun _ hks => Feed.converged_of_simulates consumeAccount_simulates hstart rfl hks
  have hfinal := hconverged ms haware
  refine ⟨hfinal.version_iff, hfinal.held_isSome_iff, ?_, ?_⟩
  · intro ms' hset
    exact hfinal.congr (hconverged ms' fun m hm => haware m ((hset m).mpr hm)) hset
  · intro hnone t more ht hmore
    have hsound : (run consumeAccount (init account) ms).Sound := by
      intro held hheld
      rw [hnone] at hheld
      cases hheld
    exact Feed.poisoned_of_simulates consumeAccount_simulates hsound
      ((hfinal.version_iff t).mpr ht) hnone hmore

end LegacyAccount

namespace Scenario

open LegacyAccount

/-- A snapshot of an empty account, captured at `us`. -/
def snapshotAt (us : Int) (equity : Rat) (reconciled : Bool) : AccountSnapshot Rat where
  source := "kairos-execution-engine"
  schemaVersion := "1.0"
  exchange := "evedex"
  accountId := "primary"
  equityUsd := equity
  availableBalanceUsd := equity
  marginUsedUsd := 0
  peakEquityUsd := 10500
  dailyPnlPct := 0
  realizedPnlUsd := 0
  unrealizedPnlUsd := 0
  positions := []
  openOrderIds := []
  capturedAt := ⟨true, us⟩
  reconciled := reconciled
  messageId := ""
  producedAt := ⟨true, us⟩
  correlationId := none
  causationId := none
  reconciliationDetail := ""

/-- The account a service starts with. -/
def startAccount : AccountState Rat where
  equityUsd := 10000
  peakEquityUsd := 10000
  dailyPnlPct := 0
  grossExposureUsd := 0
  grossExposureKnown := true
  openPositionQty := 0
  openPositionNotionalUsd := 0
  openPositionNotionalKnown := false
  reconciled := false
  in_bounds := by decide +kernel
  invariants := by decide +kernel

/-- The authority stands: what comes after it is older, or a redelivery. -/
theorem redelivered_capture_kept :
    (run consumeAccount (init startAccount) [snapshotAt 2 10000 true, snapshotAt 1 9900 false,
      snapshotAt 2 10000 true]).accountSnapshot.isSome = true :=
  (account_feed_converges startAccount [snapshotAt 2 10000 true, snapshotAt 1 9900 false,
      snapshotAt 2 10000 true] (by decide +kernel)).2.1.mpr
    ⟨2, ⟨⟨snapshotAt 2 10000 true, List.mem_cons_self, rfl⟩, by decide⟩,
      by decide +kernel, by decide +kernel⟩

end Scenario

end KairosRisk
