import KairosRisk.CoordinatorSteps
import KairosRisk.Lib.Feed
import KairosRisk.Scenario

/-!
# The PAPER venue feed

`apply_venue` takes the DEV measurements in whatever order they arrive, and
keeps two maps by symbol: the measurement in force, and the time and identity
of the newest one seen. A second identity at the newest time drops the
measurement and leaves a sentinel for its identity.

Seen at one symbol the maps are a converging feed (`step_simulates`): the
version is `observed_at_ms`, every measurement is valid, and two of them agree
by `measurement_id`. The sentinel needs no state of its own, since the identity
recorded is always the one of the measurement in force, if there is one
(`Identified`). `venue_feed_converges` follows, for runs in which any other
operations come between the deliveries.
-/

namespace KairosRisk

open PyLib

variable {F D : Type}

open PaperRiskCoordinator in
/-- The measurement of a symbol that an operation delivers, if `apply_venue` takes it. -/
def Operation.measurement {core : KairosCore F} (symbol : String) :
    Operation core → Option (VenueQualityV1 F)
  | .applyVenue venue =>
    if venueSupported venue = true ∧ venue.symbol = symbol then some venue else none
  | _ => none

/-- The measurements of a symbol that the operations deliver. -/
def measurements {core : KairosCore F} (symbol : String) (ops : List (Operation core)) :
    List (VenueQualityV1 F) :=
  ops.filterMap (Operation.measurement symbol)

namespace PaperRiskCoordinator

/-! ## The maps at one symbol -/

/-- The maps at a symbol, as a feed. -/
def venueFeed (symbol : String) (c : PaperRiskCoordinator F) : Feed Int (VenueQualityV1 F) where
  version := (c.venueVersions.get? symbol).map Prod.fst
  held := c.venue.get? symbol

/-- The step of the feed: every measurement is valid, and identities tell them apart. -/
def takeVenue (s : Feed Int (VenueQualityV1 F)) (venue : VenueQualityV1 F) :
    Feed Int (VenueQualityV1 F) :=
  s.converge VenueQualityV1.observedAtMs (fun _ => true) VenueQualityV1.measurementId venue

/-- The identity recorded is the one of the measurement in force. -/
def Identified (symbol : String) (c : PaperRiskCoordinator F) : Prop :=
  ∀ v, c.venueVersions.get? symbol = some v →
    v.2 = (c.venue.get? symbol).bind VenueQualityV1.measurementId

/-- Two states have the same venue at a symbol. -/
structure SameVenue (symbol : String) (c c' : PaperRiskCoordinator F) : Prop where
  venue : c'.venue.get? symbol = c.venue.get? symbol
  version : c'.venueVersions.get? symbol = c.venueVersions.get? symbol

variable {symbol : String} {c c' : PaperRiskCoordinator F}

theorem SameVenue.of_eq (hvenue : c'.venue = c.venue)
    (hversion : c'.venueVersions = c.venueVersions) :
    SameVenue symbol c c' :=
  ⟨by rw [hvenue], by rw [hversion]⟩

theorem SameVenue.feed (h : SameVenue symbol c c') : venueFeed symbol c' = venueFeed symbol c := by
  unfold venueFeed
  rw [h.venue, h.version]

theorem SameVenue.identified (h : SameVenue symbol c c') (hi : Identified symbol c) :
    Identified symbol c' := by
  unfold Identified
  rw [h.venue, h.version]
  exact hi

/-- Where both maps were written, the feed is what was written. -/
theorem venueFeed_of_get {v : Int × Option String} {held : Option (VenueQualityV1 F)}
    (hversion : c.venueVersions.get? symbol = some v) (hheld : c.venue.get? symbol = held) :
    venueFeed symbol c = ⟨some v.1, held⟩ := by
  unfold venueFeed
  rw [hversion, hheld]
  rfl

theorem identified_init : Identified symbol (init (F := F)) := by
  intro v hv
  cases hv

/-- The record kept of the newest measurement, from the feed alone. -/
theorem Identified.version (hi : Identified symbol c) :
    c.venueVersions.get? symbol = (venueFeed symbol c).version.map fun t =>
      (t, (venueFeed symbol c).held.bind VenueQualityV1.measurementId) := by
  unfold venueFeed
  cases hv : c.venueVersions.get? symbol with
  | none => rfl
  | some v =>
    show some v = some (v.1, _)
    rw [← hi v hv]

/-! ## What the operations do to them -/

variable {r : Except PyError Bool} {venue : VenueQualityV1 F}

/-- A measurement that is not taken, or is of another symbol, leaves a symbol as it is. -/
theorem AppliesVenue.elsewhere (h : AppliesVenue c venue r c')
    (hother : ¬(venueSupported venue = true ∧ venue.symbol = symbol)) : SameVenue symbol c c' := by
  have hne : venueSupported venue = true → venue.symbol ≠ symbol := fun hin hs => hother ⟨hin, hs⟩
  cases h with
  | raised | older | duplicate => exact ⟨rfl, rfl⟩
  | conflict hin =>
    exact ⟨OrderedDict.get?_pop_ne _ (hne hin), OrderedDict.get?_set_ne _ _ (hne hin)⟩
  | accepted hin =>
    exact ⟨OrderedDict.get?_set_ne _ _ (hne hin), OrderedDict.get?_set_ne _ _ (hne hin)⟩

/-- **A measurement that is taken is a step of the feed of its symbol.** -/
theorem AppliesVenue.here (h : AppliesVenue c venue r c') (hin : venueSupported venue = true)
    (hi : Identified venue.symbol c) :
    venueFeed venue.symbol c' = takeVenue (venueFeed venue.symbol c) venue ∧
      Identified venue.symbol c' := by
  unfold takeVenue Feed.converge
  cases h with
  | raised hout =>
    rw [hin] at hout
    cases hout
  | @older _ v hv hlt =>
    refine ⟨?_, hi⟩
    rw [venueFeed_of_get hv rfl]
    dsimp only
    rw [if_pos hlt]
  | duplicate _ hv =>
    refine ⟨?_, hi⟩
    have hidentity := hi _ hv
    rw [venueFeed_of_get hv rfl]
    dsimp only at hidentity ⊢
    rw [if_neg (Int.lt_irrefl _), if_pos rfl]
    cases hheld : c.venue.get? venue.symbol with
    | none => rfl
    | some held =>
      rw [hheld] at hidentity
      rw [Option.filter_some, if_pos (by simpa using hidentity)]
  | @conflict _ measurementId hv hid =>
    have hidentity := hi _ hv
    have hversion :=
      OrderedDict.get?_set_self c.venueVersions venue.symbol (venue.observedAtMs, none)
    have hpopped := OrderedDict.get?_pop_self c.venue venue.symbol
    constructor
    · rw [venueFeed_of_get hv rfl, venueFeed_of_get hversion hpopped]
      dsimp only at hidentity ⊢
      rw [if_neg (Int.lt_irrefl _), if_pos rfl]
      cases hheld : c.venue.get? venue.symbol with
      | none => rfl
      | some held =>
        -- the held measurement has the recorded identity, so not this one
        rw [hheld] at hidentity
        have hne : venue.measurementId ≠ held.measurementId :=
          fun he => hid (hidentity.trans he.symm)
        rw [Option.filter_some, if_neg (by simpa using hne)]
    · intro v hw
      dsimp only at hw ⊢
      rw [hversion] at hw
      cases hw
      rw [hpopped]
      rfl
  | accepted _ hnew =>
    have hversion := OrderedDict.get?_set_self c.venueVersions venue.symbol
      (venue.observedAtMs, venue.measurementId)
    have hheld := OrderedDict.get?_set_self c.venue venue.symbol venue
    constructor
    · rw [venueFeed_of_get hversion hheld]
      cases hv : c.venueVersions.get? venue.symbol with
      | none =>
        unfold venueFeed
        rw [hv]
        rfl
      | some v =>
        have hlt := hnew v hv
        rw [venueFeed_of_get hv rfl]
        dsimp only
        rw [if_neg (show ¬venue.observedAtMs < v.1 by omega),
          if_neg (show venue.observedAtMs ≠ v.1 by omega), if_pos rfl]
    · intro v hw
      dsimp only at hw ⊢
      rw [hversion] at hw
      cases hw
      rw [hheld]
      rfl

/-! ## Runs -/

variable [PyFloat F] [DecidableEq F]

theorem Restores.sameVenue {p : PaperRiskPipeline F D} {ds : List (RiskTradeDecisionV1 F)}
    {r : Except PyError Unit} (h : Restores p c ds r c') : SameVenue symbol c c' := by
  have hload : SameVenue symbol c (c.loaded p ds) := by
    unfold loaded
    rw [restoreLoop_frame]
    exact .of_eq rfl rfl
  cases h with
  | already => exact .of_eq rfl rfl
  | raised =>
    rw [restoreLoop_frame]
    exact .of_eq rfl rfl
  | waiting | foreign | revoked => exact ⟨hload.venue, hload.version⟩
  | reconciled _ _ _ _ hrec =>
    rw [(reconcileReservations_ok hrec).1]
    exact ⟨hload.venue, hload.version⟩

variable [PyDecimal D] [Spelling F D]

/-- The operations that are no measurement leave the venue as it is. -/
theorem step_sameVenue {p : PaperRiskPipeline F D} {op : Operation p.core}
    (h : ∀ venue, op ≠ .applyVenue venue) : SameVenue symbol c (step p c op) := by
  cases op with
  | applyVenue venue => exact absurd rfl (h venue)
  | applyRegimeAllocation allocation receivedAtMs =>
    show SameVenue symbol c (c.applyRegimeAllocation p allocation receivedAtMs).2
    rcases hr : c.applyRegimeAllocation p allocation receivedAtMs with ⟨r, c'⟩
    cases applyRegimeAllocation_cases hr <;> exact .of_eq rfl rfl
  | applyAccount snapshot =>
    show SameVenue symbol c (c.applyAccount p snapshot).2
    rcases hr : c.applyAccount p snapshot with ⟨r, c'⟩
    cases applyAccount_cases hr with
    | reconciled _ _ _ hrec =>
      rw [(reconcileReservations_ok hrec).1]
      exact .of_eq rfl rfl
    | _ => exact .of_eq rfl rfl
  | restoreReservations decisions => exact (restoreReservations_spec p c _).sameVenue
  | evaluate request =>
    show SameVenue symbol c (c.evaluate p request).2
    rcases hr : c.evaluate p request with ⟨r, c'⟩
    cases evaluate_cases hr <;> exact .of_eq rfl rfl

/-- **An operation is a step of the feed of a symbol if it delivers a
measurement of it, and none otherwise.** -/
theorem step_simulates (p : PaperRiskPipeline F D) (symbol : String) :
    Simulates (step p) (stepOn (Operation.measurement symbol) takeVenue) (venueFeed symbol)
      (Identified symbol) (fun _ => True) := by
  have hstep : ∀ (c : PaperRiskCoordinator F) (op : Operation p.core), Identified symbol c →
      venueFeed symbol (step p c op)
        = stepOn (Operation.measurement symbol) takeVenue (venueFeed symbol c) op ∧
      Identified symbol (step p c op) := by
    intro c op hi
    by_cases hvenue : ∃ venue, op = .applyVenue venue
    · obtain ⟨venue, rfl⟩ := hvenue
      have h := applyVenue_spec c venue
      have hread : Operation.measurement symbol (.applyVenue venue : Operation p.core)
          = if venueSupported venue = true ∧ venue.symbol = symbol then some venue else none := rfl
      unfold stepOn
      by_cases hin : venueSupported venue = true ∧ venue.symbol = symbol
      · rw [hread, if_pos hin]
        obtain ⟨hin, rfl⟩ := hin
        exact h.here hin hi
      · rw [hread, if_neg hin]
        have hsame := h.elsewhere hin
        exact ⟨hsame.feed, hsame.identified hi⟩
    · have hother : ∀ venue, op ≠ .applyVenue venue := fun venue he => hvenue ⟨venue, he⟩
      have hsame : SameVenue symbol c (step p c op) := step_sameVenue hother
      have hnone : Operation.measurement symbol op = none := by
        cases op with
        | applyVenue venue => exact absurd rfl (hother venue)
        | _ => rfl
      unfold stepOn
      rw [hnone]
      exact ⟨hsame.feed, hsame.identified hi⟩
  exact { keeps := fun c op _ hi => (hstep c op hi).2
          commutes := fun c op _ hi => (hstep c op hi).1 }

/-- The venue after a run is what the deliveries of its symbol leave. -/
theorem run_venueFeed (p : PaperRiskPipeline F D) (ops : List (Operation p.core))
    (hi : Identified symbol c) :
    venueFeed symbol (run (step p) c ops)
      = run takeVenue (venueFeed symbol c) (measurements symbol ops) := by
  rw [(step_simulates p symbol).run ops hi (fun _ _ => trivial), run_stepOn]
  rfl

/-- **The PAPER venue feed converges.** After any run, and for every symbol,
the recorded time is the largest one delivered; the measurement in force is the
one at it that every other one there shares the identity of; the same set of
deliveries of the symbol, among whatever other operations, leaves the same
record; and a symbol without a measurement gets one from a newer observation
alone, which puts its measurement in force. -/
theorem venue_feed_converges (p : PaperRiskPipeline F D) (ops : List (Operation p.core))
    (symbol : String)
    (hidentity : ∀ v ∈ measurements symbol ops, ∀ v' ∈ measurements symbol ops,
      v.measurementId = v'.measurementId → v = v') :
    let delivered := measurements symbol ops
    let final := run (step p) init ops
    (∀ t, (final.venueVersions.get? symbol).map Prod.fst = some t
      ↔ Feed.Latest VenueQualityV1.observedAtMs delivered t) ∧
    (∀ venue, final.venue.get? symbol = some venue
      ↔ venue ∈ delivered ∧ (∀ v ∈ delivered, v.observedAtMs ≤ venue.observedAtMs) ∧
        ∀ v ∈ delivered, v.observedAtMs = venue.observedAtMs →
          v.measurementId = venue.measurementId) ∧
    (∀ ops' : List (Operation p.core), (∀ v, v ∈ delivered ↔ v ∈ measurements symbol ops') →
      let final' := run (step p) init ops'
      final.venue.get? symbol = final'.venue.get? symbol ∧
      final.venueVersions.get? symbol = final'.venueVersions.get? symbol) ∧
    (∀ t, Feed.Latest VenueQualityV1.observedAtMs delivered t → final.venue.get? symbol = none →
      ∀ more : List (Operation p.core), (∀ v ∈ measurements symbol more, v.observedAtMs ≤ t) →
        (run (step p) final more).venue.get? symbol = none) ∧
    (∀ venue, venueSupported venue = true → venue.symbol = symbol →
      (∀ v ∈ delivered, v.observedAtMs < venue.observedAtMs) →
      (step p final (.applyVenue venue)).venue.get? symbol = some venue) := by
  have hconverged : ∀ ops' : List (Operation p.core),
      Feed.Converged VenueQualityV1.observedAtMs (fun _ => true) VenueQualityV1.measurementId
        (measurements symbol ops') (venueFeed symbol (run (step p) init ops')) := by
    intro ops'
    rw [run_venueFeed p ops' identified_init]
    exact Feed.converged _
  have hrecorded : ∀ ops' : List (Operation p.core), Identified symbol (run (step p) init ops') :=
    fun ops' => run_invariant (fun c op => (step_simulates p symbol).keeps c op trivial) ops'
      identified_init
  have hfinal := hconverged ops
  have hheld := hfinal.held_iff hidentity
  refine ⟨hfinal.version_iff, ?_, ?_, ?_, ?_⟩
  · intro venue
    rw [show (run (step p) init ops).venue.get? symbol = some venue ↔ _ from hheld venue]
    simp only [true_and]
  · intro ops' hset
    have hidentity' : ∀ v ∈ measurements symbol ops', ∀ v' ∈ measurements symbol ops',
        v.measurementId = v'.measurementId → v = v' := by
      intro v hv v' hv'
      exact hidentity v ((hset v).mpr hv) v' ((hset v').mpr hv')
    have hsame : (venueFeed symbol (run (step p) init ops)).held
        = (venueFeed symbol (run (step p) init ops')).held := by
      apply Option.ext
      intro venue
      rw [hheld, (hconverged ops').held_iff hidentity']
      simp only [hset]
    have hversion := (hfinal.congr (hconverged ops') hset).1
    refine ⟨hsame, ?_⟩
    rw [(hrecorded ops).version, (hrecorded ops').version, hversion, hsame]
  · intro t ht hnone more hmore
    show (venueFeed symbol (run (step p) (run (step p) init ops) more)).held = none
    rw [run_venueFeed p more (hrecorded ops)]
    exact Feed.converge_poisoned ((hfinal.version_iff t).mpr ht) hnone hmore
  · intro venue hin hs hnewer
    subst hs
    have hstep := ((applyVenue_spec (run (step p) init ops) venue).here hin (hrecorded ops)).1
    refine (congrArg Feed.held hstep).trans (Feed.converge_held_of_newer rfl ?_)
    intro t ht
    obtain ⟨⟨v, hv, rfl⟩, -⟩ := (hfinal.version_iff t).mp ht
    exact hnewer v hv

end PaperRiskCoordinator

namespace Scenario

open PaperRiskCoordinator

/-- A measurement of the DEV venue, by identity and time. -/
def measured (measurementId symbol : String) (observedAtMs : Int) : VenueQualityV1 Rat :=
  { venue symbol observedAtMs with measurementId := some measurementId }

/-- Two identities at 2 conflict, a newer measurement settles it, and what comes
again from 2 is late. -/
def conflictSettled : List (Operation market.core) :=
  [.applyVenue (measured "first" "BTCUSD:DEV" 2), .applyVenue (measured "other" "ETHUSD:DEV" 9),
    .applyVenue (measured "second" "BTCUSD:DEV" 2), .applyVenue (measured "third" "BTCUSD:DEV" 3),
    .applyVenue (measured "first" "BTCUSD:DEV" 2)]

/-- The newest measurement is in force, and the same one in any other order. -/
theorem newest_measurement_in_force :
    let final := run (step market) init conflictSettled
    final.venue.get? "BTCUSD:DEV" = some (measured "third" "BTCUSD:DEV" 3) ∧
    final.venue.get? "BTCUSD:DEV"
      = (run (step market) init conflictSettled.reverse).venue.get? "BTCUSD:DEV" := by
  have h := venue_feed_converges market conflictSettled "BTCUSD:DEV" (by decide +kernel)
  refine ⟨(h.2.1 _).mpr (by decide +kernel), (h.2.2.1 conflictSettled.reverse ?_).1⟩
  intro v
  unfold measurements
  rw [List.filterMap_reverse, List.mem_reverse]

end Scenario

end KairosRisk
