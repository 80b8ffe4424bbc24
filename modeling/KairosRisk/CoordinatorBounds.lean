import KairosRisk.Exclusivity
import KairosRisk.ReplayIdentity

/-!
# How much the coordinator remembers

Nothing the coordinator keeps grows with the length of a run. Venues and their
versions are kept for the fixed symbols only. Reservations are on distinct
symbols among these, whatever was approved and when it was seen (`ExclusiveInv`).
The decision cache and the regime bindings are bounded by eviction loops that
spare what a reservation or a cached decision still needs, so their bounds rest
on those of what they spare: `decisions` on the reservations, and `regimes` on
both.
-/

namespace KairosRisk

open PyLib

/-- How many instruments there are. -/
def universeSize : Nat := paperDevSymbolMap.length

theorem mem_universe {symbol : String} (h : isPaperDevVenueSymbol symbol = true) :
    symbol ∈ paperDevSymbolMap.map Prod.snd := List.contains_iff_mem.mp h

namespace PaperRiskCoordinator

variable {F D : Type} [PyFloat F] [DecidableEq F]

/-- The dictionaries of a coordinator are within their bounds. -/
structure Bounded (p : PaperRiskPipeline F D) (c : PaperRiskCoordinator F) : Prop where
  venues : ∀ symbol venue, c.venue.get? symbol = some venue →
    venue.symbol = symbol ∧ isPaperDevVenueSymbol symbol = true
  versions : ∀ symbol, (c.venueVersions.get? symbol).isSome = true →
    isPaperDevVenueSymbol symbol = true
  reserved : ∀ tradeId r, c.reservations.get? tradeId = some r →
    isPaperDevVenueSymbol r.decision.venueSymbol = true
  decisions : c.decisions.size ≤ max p.settings.paperDecisionCacheSize universeSize
  regimes : c.regimeAllocations.size
    ≤ max p.settings.paperDecisionCacheSize universeSize + universeSize

/-! ## What each bound rests on -/

omit [DecidableEq F] in
/-- Reservations on distinct symbols are no more than there are symbols. -/
theorem ExclusiveInv.reservations_le {p : PaperRiskPipeline F D} {c : PaperRiskCoordinator F}
    (hi : ExclusiveInv p c) (hreserved : ∀ tradeId r, c.reservations.get? tradeId = some r →
      isPaperDevVenueSymbol r.decision.venueSymbol = true) :
    c.reservations.size ≤ universeSize := by
  have hle : c.reservations.size ≤ (paperDevSymbolMap.map Prod.snd).length :=
    OrderedDict.size_le_of_values (fun tradeId r hr => mem_universe (hreserved tradeId r hr))
      hi.symbols
  rw [List.length_map] at hle
  exact hle

omit [PyFloat F] [DecidableEq F] in
theorem length_reserved (c : PaperRiskCoordinator F) : c.reserved.length = c.reservations.size := by
  rw [reserved, OrderedDict.values, List.length_map, List.length_map]
  rfl

omit [DecidableEq F] in
/-- The decision cache spares no more than the reservations. -/
theorem size_trimDecisionCache (p : PaperRiskPipeline F D) (c : PaperRiskCoordinator F) :
    (c.trimDecisionCache p).decisions.size
      ≤ max p.settings.paperDecisionCacheSize c.reservations.size := by
  have hspared : ∀ reviewId, c.retainsReview reviewId = true →
      reviewId ∈ c.reserved.filterMap fun d => d.review.reviewId := by
    intro reviewId h
    obtain ⟨d, hd, hreview⟩ := List.any_eq_true.mp h
    exact List.mem_filterMap.mpr ⟨d, hd, beq_iff_eq.mp hreview⟩
  refine Nat.le_trans (OrderedDict.size_trim_le hspared) ?_
  have hlength :=
    List.length_filterMap_le (fun d : RiskTradeDecisionV1 F => d.review.reviewId) c.reserved
  rw [length_reserved] at hlength
  omega

omit [DecidableEq F] in
/-- The regime bindings spare no more than the cache and the reservations. -/
theorem size_trimRegimeAllocations (p : PaperRiskPipeline F D) (c : PaperRiskCoordinator F) :
    (c.trimRegimeAllocations p).regimeAllocations.size
      ≤ max p.settings.paperDecisionCacheSize (c.decisions.size + c.reservations.size) := by
  have hspared : ∀ intentId, c.retainsIntent intentId = true →
      intentId ∈ (c.decisions.values ++ c.reserved).filterMap fun d => d.intent.intentId := by
    intro intentId h
    rw [retainsIntent, Bool.or_eq_true, List.any_eq_true, List.any_eq_true] at h
    rw [List.mem_filterMap]
    rcases h with ⟨d, hd, hintent⟩ | ⟨d, hd, hintent⟩
    · exact ⟨d, List.mem_append_left _ hd, beq_iff_eq.mp hintent⟩
    · exact ⟨d, List.mem_append_right _ hd, beq_iff_eq.mp hintent⟩
  refine Nat.le_trans (OrderedDict.size_trim_le hspared) ?_
  have hlength := List.length_filterMap_le (fun d : RiskTradeDecisionV1 F => d.intent.intentId)
    (c.decisions.values ++ c.reserved)
  have hdecisions : c.decisions.values.length = c.decisions.size := List.length_map ..
  rw [List.length_append, length_reserved, hdecisions] at hlength
  omega

/-! ## One operation -/

omit [DecidableEq F] in
/-- An operation that touches none of the bounded dictionaries but drops
reservations keeps the bounds. -/
theorem Bounded.of_frame {p : PaperRiskPipeline F D} {c c' : PaperRiskCoordinator F}
    (h : Bounded p c) (hvenue : c'.venue = c.venue) (hversions : c'.venueVersions = c.venueVersions)
    (hreserved : ∀ tradeId r, c'.reservations.get? tradeId = some r →
      c.reservations.get? tradeId = some r)
    (hdecisions : c'.decisions.size ≤ c.decisions.size)
    (hregimes : c'.regimeAllocations.size ≤ c.regimeAllocations.size) : Bounded p c' := by
  refine ⟨?_, ?_, ?_, Nat.le_trans hdecisions h.decisions, Nat.le_trans hregimes h.regimes⟩
  · rw [hvenue]
    exact h.venues
  · rw [hversions]
    exact h.versions
  · exact fun tradeId r hr => h.reserved tradeId r (hreserved tradeId r hr)

section Machine

variable [PyDecimal D] [Spelling F D] {p : PaperRiskPipeline F D} {c : PaperRiskCoordinator F}

/-- A decision is made for an instrument there is. -/
theorem Bounded.fresh_symbol (h : Bounded p c) {x : EvaluateRequest F} {venue : VenueQualityV1 F}
    {reservations : PaperReservations F} {d : RiskTradeDecisionV1 F}
    (hfresh : Fresh p c x venue reservations d) : isPaperDevVenueSymbol d.venueSymbol = true := by
  obtain ⟨hsymbol, hdev⟩ := h.venues _ _ hfresh.held
  have hvenue : d.venueSymbol = venue.symbol :=
    (PaperRiskPipeline.evaluate_decidesOn hfresh.decided).venueSymbol
  rw [hvenue, hsymbol]
  exact hdev

omit [DecidableEq F] [PyDecimal D] [Spelling F D] in
/-- An evaluation that stores what it made evicts afterwards. -/
theorem Bounded.store (h : Bounded p c) {c' : PaperRiskCoordinator F}
    (hvenue : c'.venue = c.venue) (hversions : c'.venueVersions = c.venueVersions)
    (hregimes : c'.regimeAllocations = c.regimeAllocations)
    (hreserved : ∀ tradeId r, c'.reservations.get? tradeId = some r →
      isPaperDevVenueSymbol r.decision.venueSymbol = true)
    (hi : ExclusiveInv p (c'.trimDecisionCache p)) : Bounded p (c'.trimDecisionCache p) := by
  refine ⟨?_, ?_, hreserved, ?_, ?_⟩
  · show ∀ symbol venue, c'.venue.get? symbol = some venue → _
    rw [hvenue]
    exact h.venues
  · show ∀ symbol, (c'.venueVersions.get? symbol).isSome = true → _
    rw [hversions]
    exact h.versions
  · have hsize := size_trimDecisionCache p c'
    have hreservations : c'.reservations.size ≤ universeSize := hi.reservations_le hreserved
    omega
  · show c'.regimeAllocations.size ≤ _
    rw [hregimes]
    exact h.regimes

/-- **Every operation keeps the bounds.** -/
theorem bounded_step (hids : IdentifiesApprovals p.core) (hi : ExclusiveInv p c) (h : Bounded p c)
    (op : Operation p.core) : Bounded p (step p c op) := by
  have hi' := exclusiveInv_step c op hi
  cases op with
  | applyRegimeAllocation allocation receivedAtMs =>
    show Bounded p (c.applyRegimeAllocation p allocation receivedAtMs).2
    rcases hr : c.applyRegimeAllocation p allocation receivedAtMs with ⟨r, c'⟩
    cases applyRegimeAllocation_cases hr with
    | raised => exact h
    | duplicate => exact h
    | @conflict existing intentId hid hheld =>
      -- poison takes the place of the binding
      refine h.of_frame rfl rfl (fun _ _ hr => hr) (Nat.le_refl _) ?_
      refine OrderedDict.size_le_of_lookup ?_
      intro k hk
      rw [OrderedDict.get?_set] at hk
      split at hk
      next he =>
        rw [← he, hheld]
        rfl
      next => exact hk
    | @accepted intentId hid hnew =>
      have hsize := size_trimRegimeAllocations p
        { c with regimeAllocations := c.regimeAllocations.set intentId (some allocation) }
      have hreservations := hi.reservations_le h.reserved
      have hdecisions := h.decisions
      refine ⟨h.venues, h.versions, h.reserved, h.decisions, Nat.le_trans hsize ?_⟩
      show max _ (c.decisions.size + c.reservations.size) ≤ _
      omega
  | restoreReservations decisions =>
    show Bounded p (c.restoreReservations p (decisions.map (·.val))).2
    unfold restoreReservations
    rw [if_pos hi.loaded]
    exact h
  | applyAccount snapshot =>
    show Bounded p (c.applyAccount p snapshot).2
    rcases hr : c.applyAccount p snapshot with ⟨r, c'⟩
    have hframe : ∀ c' : PaperRiskCoordinator F, c'.venue = c.venue →
        c'.venueVersions = c.venueVersions → c'.reservations = c.reservations →
        c'.decisions = c.decisions → c'.regimeAllocations = c.regimeAllocations → Bounded p c' := by
      intro c' hvenue hversions hreservations hdecisions hregimes
      refine h.of_frame hvenue hversions ?_ (Nat.le_of_eq (by rw [hdecisions]))
        (Nat.le_of_eq (by rw [hregimes]))
      rw [hreservations]
      exact fun _ _ hr => hr
    cases applyAccount_cases hr with
    | older => exact h
    | duplicate => exact h
    | conflict => exact hframe _ rfl rfl rfl rfl rfl
    | backwards => exact hframe _ rfl rfl rfl rfl rfl
    | foreign => exact hframe _ rfl rfl rfl rfl rfl
    | revoked => exact hframe _ rfl rfl rfl rfl rfl
    | reconciled _ _ _ hreconciled =>
      have hadopted : Bounded p (c.adopt p snapshot) := hframe _ rfl rfl rfl rfl rfl
      obtain ⟨hsame, hkept, _⟩ := reconcileReservations_ok hreconciled
      have hreserved : ∀ tradeId r, c'.reservations.get? tradeId = some r →
          (c.adopt p snapshot).reservations.get? tradeId = some r :=
        fun tradeId r hr => ((hkept tradeId r).mp hr).1
      rw [hsame] at hreserved ⊢
      exact hadopted.of_frame rfl rfl hreserved (Nat.le_refl _) (Nat.le_refl _)
  | applyVenue venue =>
    show Bounded p (c.applyVenue venue).2
    rcases hr : c.applyVenue venue with ⟨r, c'⟩
    -- a version is recorded for a symbol there is
    have hversions : venueSupported venue = true → ∀ v symbol,
        ((c.venueVersions.set venue.symbol v).get? symbol).isSome = true →
        isPaperDevVenueSymbol symbol = true := by
      intro hin v symbol hsymbol
      rw [venueSupported, Bool.and_eq_true] at hin
      rw [OrderedDict.get?_set] at hsymbol
      split at hsymbol
      next he => exact he ▸ hin.2
      next => exact h.versions symbol hsymbol
    cases applyVenue_cases hr with
    | raised => exact h
    | older => exact h
    | duplicate => exact h
    | conflict hin =>
      refine ⟨?_, hversions hin _, h.reserved, h.decisions, h.regimes⟩
      intro symbol held hheld
      exact h.venues symbol held (OrderedDict.get?_removeAll.mp hheld).1
    | accepted hin =>
      refine ⟨?_, hversions hin _, h.reserved, h.decisions, h.regimes⟩
      intro symbol held hheld
      rw [OrderedDict.get?_set] at hheld
      split at hheld
      next he =>
        cases hheld
        rw [venueSupported, Bool.and_eq_true] at hin
        exact ⟨he, he ▸ hin.2⟩
      next => exact h.venues symbol held hheld
  | evaluate request =>
    show Bounded p (c.evaluate p request).2
    have hi' : ExclusiveInv p (c.evaluate p request).2 := hi'
    rcases hr : c.evaluate p request with ⟨r, c'⟩
    rw [hr] at hi'
    cases evaluate_cases hr with
    | raised => exact h
    | refused => exact h
    | @replayed reviewId =>
      refine h.of_frame rfl rfl (fun _ _ hr => hr) ?_ (Nat.le_refl _)
      refine OrderedDict.size_le_of_lookup ?_
      intro k hk
      rw [OrderedDict.get?_moveToEnd] at hk
      exact hk
    | rejected => exact h.store rfl rfl rfl h.reserved hi'
    | @approved reviewId tradeId _ _ d _ _ _ hfresh =>
      refine h.store rfl rfl rfl ?_ hi'
      intro k r hr
      have hr : (c.reservations.set tradeId ⟨d, c.latestAccountSeq.getD 0⟩).get? k = some r := hr
      rw [OrderedDict.get?_set] at hr
      split at hr
      next =>
        cases hr
        exact h.fresh_symbol hfresh
      next => exact h.reserved k r hr
    | unidentified _ _ _ hfresh happroved htrade =>
      -- the contract has assigned every approval its trade
      have hvalid := (PaperRiskPipeline.evaluate_decidesOn hfresh.decided).validated
      have hidentified := hids _ hvalid happroved
      rw [htrade] at hidentified
      cases hidentified

/-- **The coordinator's memory is bounded.** In every run after an empty
restore, of any length and in any order, it holds at most one reservation, one
venue and one version an instrument, and no more decisions and regime bindings
than the configured size and the instruments account for. -/
theorem memory_bounded (p : PaperRiskPipeline F D) (hids : IdentifiesApprovals p.core)
    (c : PaperRiskCoordinator F) (hreached : Reachable (step p) (restoredEmpty p) c) :
    c.reservations.size ≤ universeSize ∧ c.venue.size ≤ universeSize ∧
      c.venueVersions.size ≤ universeSize ∧
      c.decisions.size ≤ max p.settings.paperDecisionCacheSize universeSize ∧
      c.regimeAllocations.size
        ≤ max p.settings.paperDecisionCacheSize universeSize + universeSize := by
  have hstart : Bounded p (restoredEmpty p) := by
    refine ⟨?_, ?_, ?_, Nat.zero_le _, Nat.zero_le _⟩
    · exact fun _ _ hr => nomatch hr
    · exact fun _ hr => nomatch hr
    · exact fun _ _ hr => nomatch hr
  have hexclusive : ExclusiveInv p (restoredEmpty p) := exclusiveInv_reached (Reachable.refl _)
  have hkept : ∀ c op, ExclusiveInv p c ∧ Bounded p c →
      ExclusiveInv p (step p c op) ∧ Bounded p (step p c op) :=
    fun c op h => ⟨exclusiveInv_step c op h.1, bounded_step hids h.1 h.2 op⟩
  have hboth : (fun c => ExclusiveInv p c ∧ Bounded p c) c :=
    hreached.invariant ⟨hexclusive, hstart⟩ hkept
  obtain ⟨hi, hb⟩ := hboth
  have huniverse : (paperDevSymbolMap.map Prod.snd).length = universeSize := List.length_map ..
  refine ⟨hi.reservations_le hb.reserved, ?_, ?_, hb.decisions, hb.regimes⟩
  · rw [← huniverse]
    refine OrderedDict.size_le_of_keys ?_
    intro symbol hsymbol
    obtain ⟨venue, hvenue⟩ := Option.isSome_iff_exists.mp (OrderedDict.get?_isSome.mpr hsymbol)
    exact mem_universe (hb.venues symbol venue hvenue).2
  · rw [← huniverse]
    refine OrderedDict.size_le_of_keys ?_
    intro symbol hsymbol
    exact mem_universe (hb.versions symbol (OrderedDict.get?_isSome.mpr hsymbol))

end Machine

end PaperRiskCoordinator

namespace Scenario

open PaperRiskCoordinator

/-- A cache of one decision, and two reviews of the same symbol. -/
def crowdedRun : PaperRiskCoordinator Rat :=
  run (step crowded) (restoredEmpty crowded)
    [.applyAccount (account 1 60200), .applyVenue (venue "BTCUSD:DEV" 60300),
      .evaluate (request ideaA.review 60400), .evaluate (request ideaB.review 60400)]

/-- One reservation is held, and both decisions at most. -/
theorem crowded_bounded : crowdedRun.reservations.size ≤ universeSize ∧
    crowdedRun.venue.size ≤ universeSize ∧ crowdedRun.venueVersions.size ≤ universeSize ∧
    crowdedRun.decisions.size ≤ max crowded.settings.paperDecisionCacheSize universeSize ∧
    crowdedRun.regimeAllocations.size
      ≤ max crowded.settings.paperDecisionCacheSize universeSize + universeSize :=
  memory_bounded crowded crowded_identifiesApprovals crowdedRun ⟨_, rfl⟩

end Scenario

end KairosRisk
