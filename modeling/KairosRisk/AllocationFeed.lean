import KairosRisk.Lib.Feed
import KairosRisk.Strategy

/-!
# The strategic allocation feed

`_handle_allocation` takes the Macro allocations in the order they arrive. The
staleness test comes first, then validity, and only then the comparison with
the policy held: an invalid allocation at the recorded time withdraws the
policy whatever it says, and one at a newer time takes its version with it.

With `_consume_allocation` around it every delivery is a step of a converging
feed (`consumeAllocation_converge`), whose version is `produced_at` and whose
content is the policy. `allocation_feed_converges` follows.
-/

namespace KairosRisk

open PyLib

variable {F : Type} [PyFloat F] [DecidableEq F]

/-- The allocation fields of `RiskService`. -/
structure LegacyAllocation (F : Type) where
  strategicAllocation : Option (StrategicAllocation F)
  latestAllocationProducedAt : Option DateTime

/-- The policy of an allocation: what makes two of one time agree. -/
def StrategicAllocation.policy (a : StrategicAllocation F) :
    MarketRegime × F × List (String × F) × F :=
  (a.regime, a.stableReservePct, sortedPairs a.strategyWeights, a.maxGrossLeverage)

namespace LegacyAllocation

/-- A service that has received nothing. -/
def init : LegacyAllocation F where
  strategicAllocation := none
  latestAllocationProducedAt := none

/-- A valid allocation at the recorded time. -/
def sameVersion (s : LegacyAllocation F) (allocation : StrategicAllocation F) :
    LegacyAllocation F :=
  match s.strategicAllocation with
  | none => s
  | some current =>
    if allocation.policy ≠ current.policy then { s with strategicAllocation := none } else s

/-- `_handle_allocation`. Aware times compare by their instants. -/
def handleAllocation (s : LegacyAllocation F) (allocation : StrategicAllocation F) :
    Except PyError Unit × LegacyAllocation F :=
  let producedAt := allocation.producedAt
  if !producedAt.aware then
    (.error (.valueError "strategic allocation produced_at must be timezone-aware"),
      { s with strategicAllocation := none })
  else
    let older := s.latestAllocationProducedAt.any fun latest => producedAt.us < latest.us
    let newer := s.latestAllocationProducedAt.all fun latest => latest.us < producedAt.us
    -- an older one is dropped before anything is asked of it
    if older then (.ok (), s)
    else match allocationError allocation with
      | some invalid =>
        (.error (.valueError invalid),
          { strategicAllocation := none
            latestAllocationProducedAt :=
              if newer then some producedAt else s.latestAllocationProducedAt })
      | none =>
        if s.latestAllocationProducedAt.any fun latest => producedAt.us = latest.us then
          (.ok (), s.sameVersion allocation)
        else
          (.ok (), { strategicAllocation := some allocation
                     latestAllocationProducedAt := some producedAt })

/-- One delivery in `_consume_allocation`. -/
def consumeAllocation (s : LegacyAllocation F) (allocation : StrategicAllocation F) :
    LegacyAllocation F :=
  match s.handleAllocation allocation with
  | (.ok (), s') => s'
  | (.error _, s') => { s' with strategicAllocation := none }

/-! ## The feed -/

/-- The version of an allocation. -/
def producedUs (allocation : StrategicAllocation F) : Int := allocation.producedAt.us

/-- An allocation that can be the policy. -/
def valid (allocation : StrategicAllocation F) : Bool := (allocationError allocation).isNone

/-- The fields as a feed. -/
def feed (s : LegacyAllocation F) : Feed Int (StrategicAllocation F) where
  version := s.latestAllocationProducedAt.map DateTime.us
  held := s.strategicAllocation

omit [PyFloat F] in
/-- A valid allocation at the recorded time: kept when the policy is the same. -/
theorem feed_sameVersion (s : LegacyAllocation F) (allocation : StrategicAllocation F) :
    feed (s.sameVersion allocation)
      = ⟨s.feed.version, s.feed.held.filter fun h => decide (allocation.policy = h.policy)⟩ := by
  unfold sameVersion feed
  cases hheld : s.strategicAllocation with
  | none =>
    dsimp only
    rw [hheld]
    rfl
  | some current =>
    dsimp only
    rw [Option.filter_some]
    by_cases hsame : allocation.policy = current.policy
    · rw [if_neg (not_not_intro hsame), if_pos (decide_eq_true hsame), hheld]
    · rw [if_pos hsame, if_neg (by simpa using hsame)]

/-- **A delivery is a step of a converging feed.** -/
theorem consumeAllocation_converge (s : LegacyAllocation F) {allocation : StrategicAllocation F}
    (haware : allocation.producedAt.aware = true) :
    feed (s.consumeAllocation allocation)
      = s.feed.converge producedUs valid StrategicAllocation.policy allocation := by
  have hvalid : valid allocation = (allocationError allocation).isNone := rfl
  unfold consumeAllocation handleAllocation Feed.converge
  simp only [haware, Bool.not_true, Bool.false_eq_true, if_false]
  generalize allocationError allocation = error at hvalid ⊢
  cases hlatest : s.latestAllocationProducedAt with
  | none =>
    have hversion : s.feed.version = none := by
      unfold feed
      rw [hlatest]
      rfl
    rw [hversion]
    -- nothing recorded: neither older nor the same
    cases error with
    | none =>
      rw [hvalid]
      rfl
    | some invalid =>
      rw [hvalid]
      rfl
  | some latest =>
    have hversion : s.feed.version = some latest.us := by
      unfold feed
      rw [hlatest]
      rfl
    rw [hversion]
    simp only [Option.any_some, Option.all_some, decide_eq_true_eq]
    rcases Int.lt_trichotomy allocation.producedAt.us latest.us with hlt | heq | hgt
    · rw [if_pos hlt, if_pos (show producedUs allocation < latest.us from hlt)]
    · have hnlt : ¬allocation.producedAt.us < latest.us := by omega
      have hngt : ¬latest.us < allocation.producedAt.us := by omega
      rw [if_neg hnlt, if_neg hngt, if_pos heq,
        if_neg (show ¬producedUs allocation < latest.us from hnlt),
        if_pos (show producedUs allocation = latest.us from heq), ← hversion, hvalid]
      cases error with
      | some invalid =>
        -- withdrawn whatever it says, with the version as it was
        have hnone : s.feed.held.filter (fun h => (some invalid : Option String).isNone
            && decide (allocation.policy = h.policy)) = none := by
          cases s.feed.held <;> rfl
        rw [hnone, hversion]
        rfl
      | none =>
        simp only [Option.isNone_none, Bool.true_and]
        exact feed_sameVersion s allocation
    · have hnlt : ¬allocation.producedAt.us < latest.us := by omega
      have hne : ¬allocation.producedAt.us = latest.us := by omega
      rw [if_neg hnlt, if_pos hgt, if_neg hne,
        if_neg (show ¬producedUs allocation < latest.us from hnlt),
        if_neg (show ¬producedUs allocation = latest.us from hne), hvalid]
      cases error with
      | some invalid => rfl
      | none => rfl

/-- **The consumer is a converging feed.** -/
theorem consumeAllocation_simulates :
    Simulates (consumeAllocation (F := F))
      (Feed.converge producedUs valid StrategicAllocation.policy) feed (fun _ => True)
      (fun m => m.producedAt.aware = true) where
  keeps _ _ _ _ := trivial
  commutes s _ haware _ := consumeAllocation_converge s haware

/-- **The strategic allocation feed converges.** After any aware deliveries the
recorded time is the largest one delivered; there is a policy exactly when
every allocation at it is valid and all of them agree; the same set of
deliveries leaves the same time and the same policy; without a policy nothing
that is not newer brings one; and no invalid message and none that is not newer
puts another policy in the place of the one held. -/
theorem allocation_feed_converges (ms : List (StrategicAllocation F))
    (haware : ∀ m ∈ ms, m.producedAt.aware = true) :
    let final := run consumeAllocation init ms
    (∀ t, final.latestAllocationProducedAt.map DateTime.us = some t
      ↔ Feed.Latest producedUs ms t) ∧
    (final.strategicAllocation.isSome = true
      ↔ Feed.Settled producedUs valid StrategicAllocation.policy ms) ∧
    (∀ ms' : List (StrategicAllocation F), (∀ m, m ∈ ms ↔ m ∈ ms') →
      let final' := run consumeAllocation init ms'
      final.latestAllocationProducedAt.map DateTime.us
        = final'.latestAllocationProducedAt.map DateTime.us ∧
      final.strategicAllocation.map StrategicAllocation.policy
        = final'.strategicAllocation.map StrategicAllocation.policy) ∧
    (final.strategicAllocation = none → ∀ (t : Int) (more : List (StrategicAllocation F)),
      Feed.Latest producedUs ms t → (∀ m ∈ more, m.producedAt.aware = true ∧ producedUs m ≤ t) →
      (run consumeAllocation final more).strategicAllocation = none) ∧
    (∀ m : StrategicAllocation F, m.producedAt.aware = true →
      (valid m = false ∨ ∃ t, Feed.Latest producedUs ms t ∧ producedUs m ≤ t) →
      (consumeAllocation final m).strategicAllocation = final.strategicAllocation ∨
      (consumeAllocation final m).strategicAllocation = none) := by
  have hconverged : ∀ ks : List (StrategicAllocation F), (∀ m ∈ ks, m.producedAt.aware = true) →
      Feed.Converged producedUs valid StrategicAllocation.policy ks
        (feed (run consumeAllocation init ks)) :=
    fun _ hks => Feed.converged_of_simulates consumeAllocation_simulates trivial rfl hks
  have hfinal := hconverged ms haware
  refine ⟨hfinal.version_iff, hfinal.held_isSome_iff, ?_, ?_, ?_⟩
  · intro ms' hset
    exact hfinal.congr (hconverged ms' fun m hm => haware m ((hset m).mpr hm)) hset
  · intro hnone t more ht hmore
    exact Feed.poisoned_of_simulates consumeAllocation_simulates trivial
      ((hfinal.version_iff t).mpr ht) hnone hmore
  · intro m hm hrefused
    have hheld := congrArg Feed.held (consumeAllocation_converge (run consumeAllocation init ms) hm)
    have hkept : valid m = false
        ∨ ∃ t, (feed (run consumeAllocation init ms)).version = some t ∧ producedUs m ≤ t := by
      refine hrefused.imp_right ?_
      rintro ⟨t, ht, hle⟩
      exact ⟨t, (hfinal.version_iff t).mpr ht, hle⟩
    exact (Feed.converge_not_adopted hkept).imp hheld.trans hheld.trans

end LegacyAllocation

namespace Scenario

open LegacyAllocation

/-- An allocation of `us`, for a regime, that reserves `reserve`. -/
def allocationAt (us : Int) (regime : MarketRegime) (reserve : Rat) : StrategicAllocation Rat where
  messageId := ""
  source := "macro"
  correlationId := none
  causationId := none
  schemaVersion := "1.0"
  producedAt := ⟨true, us⟩
  regime := regime
  stableReservePct := reserve
  strategyWeights := [("trend", 1 / 2)]
  maxGrossLeverage := 1
  triggeredBy := .schedule
  rationale := ""

/-- The bear policy stands: what comes after it is older, or a redelivery. -/
theorem late_policy_ignored :
    (run consumeAllocation init [allocationAt 2 .bear (1 / 5), allocationAt 1 .bull (1 / 5),
      allocationAt 2 .bear (1 / 5)]).strategicAllocation.isSome = true :=
  (allocation_feed_converges [allocationAt 2 .bear (1 / 5), allocationAt 1 .bull (1 / 5),
      allocationAt 2 .bear (1 / 5)] (by decide)).2.1.mpr
    ⟨2, ⟨⟨allocationAt 2 .bear (1 / 5), List.mem_cons_self, rfl⟩, by decide⟩,
      by decide +kernel, by decide +kernel⟩

end Scenario

end KairosRisk
