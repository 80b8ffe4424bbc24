import KairosRisk.Lib.Traces
import KairosRisk.VenueFeed

/-!
# Which interleavings the PAPER coordinator can tell apart

The venue consumer delivers measurements while the other consumers call the
coordinator, and the lock puts all of it in one order that nobody chose. What of
this order matters is said by channels (`Operation.uses`): one for everything
but the deliveries, and one for each symbol, which its deliveries and the
evaluations of its reviews use.

Two orders that every channel sees alike give every call the same answer
(`venue_feed_interleaves`): a delivery races with the deliveries and the
evaluations of its own symbol, and with nothing else.
-/

namespace KairosRisk

open PyLib

variable {F D : Type}

/-- What the caller of an operation sees. -/
inductive Answer (F : Type) where
  | applied (result : Except PyError Bool)
  | restored (result : Except PyError Unit)
  | evaluated (result : Except PyError (RiskTradeDecisionV1 F))

/-- The venue symbol whose measurement an evaluation reads. -/
def EvaluateRequest.venueSymbol (x : EvaluateRequest F) : String :=
  (paperDevSymbol x.review.intent.symbol).getD ""

/-- The channels of an operation: a symbol's for its deliveries and evaluations,
and one for every operation that is no delivery. -/
def Operation.uses {core : KairosCore F} : Option String → Operation core → Bool
  | none, .applyVenue _ => false
  | none, _ => true
  | some symbol, .applyVenue venue => venue.symbol == symbol
  | some symbol, .evaluate request => request.venueSymbol == symbol
  | some _, _ => false

/-- Every operation uses a channel. -/
theorem Operation.uses_some {core : KairosCore F} (op : Operation core) :
    ∃ channel, Operation.uses channel op = true := by
  cases op with
  | applyVenue venue => exact ⟨some venue.symbol, beq_self_eq_true _⟩
  | _ => exact ⟨none, rfl⟩

/-- An operation is a delivery or uses the channel of those that are none. -/
theorem Operation.delivery_or {core : KairosCore F} (op : Operation core) :
    (∃ venue, op = .applyVenue venue) ∨ Operation.uses none op = true := by
  cases op with
  | applyVenue venue => exact Or.inl ⟨venue, rfl⟩
  | _ => exact Or.inr rfl

/-- Deliveries that share no channel are for two symbols. -/
theorem Operation.symbol_ne_of_independent {core : KairosCore F} {venue : VenueQualityV1 F}
    {op : Operation core} (h : Independent Operation.uses (.applyVenue venue) op) :
    ∀ other, op = .applyVenue other → other.symbol ≠ venue.symbol := by
  intro other hop hsame
  have hnot := h (some venue.symbol) (beq_self_eq_true _)
  rw [hop] at hnot
  exact absurd hsame (beq_eq_false_iff_ne.mp hnot)

namespace PaperRiskCoordinator

/-! ## Reading past the venue maps -/

/-- The same state, with other venue maps. -/
def withVenues (c : PaperRiskCoordinator F) (venue : OrderedDict String (VenueQualityV1 F))
    (versions : OrderedDict String (Int × Option String)) : PaperRiskCoordinator F :=
  { c with venue := venue, venueVersions := versions }

/-- The same result, in a state with other venue maps. -/
def leaving {ρ : Type} (venue : OrderedDict String (VenueQualityV1 F))
    (versions : OrderedDict String (Int × Option String)) (r : ρ × PaperRiskCoordinator F) :
    ρ × PaperRiskCoordinator F :=
  (r.1, r.2.withVenues venue versions)

/-- The same state, but for the order of the venue maps. -/
structure SameVenues (c c' : PaperRiskCoordinator F) : Prop where
  rest : c' = c.withVenues c'.venue c'.venueVersions
  at_symbol : ∀ symbol, SameVenue symbol c c'

variable {c c' : PaperRiskCoordinator F} {venue : OrderedDict String (VenueQualityV1 F)}
  {versions : OrderedDict String (Int × Option String)}

theorem SameVenue.symm {symbol : String} (h : SameVenue symbol c c') : SameVenue symbol c' c :=
  ⟨h.venue.symm, h.version.symm⟩

theorem SameVenue.trans {symbol : String} {c'' : PaperRiskCoordinator F}
    (h : SameVenue symbol c c') (h' : SameVenue symbol c' c'') : SameVenue symbol c c'' :=
  ⟨h'.venue.trans h.venue, h'.version.trans h.version⟩

theorem sameVenues_equivalence : Equivalence (SameVenues (F := F)) where
  refl c := ⟨rfl, fun _ => ⟨rfl, rfl⟩⟩
  symm := by
    intro c c' h
    refine ⟨?_, fun symbol => (h.at_symbol symbol).symm⟩
    rw [h.rest]
    rfl
  trans := by
    intro c c' c'' h h'
    refine ⟨?_, fun symbol => (h.at_symbol symbol).trans (h'.at_symbol symbol)⟩
    rw [h'.rest, h.rest]
    rfl

theorem leaving_ite {ρ : Type} {P : Prop} [Decidable P] {x y x' y' : ρ × PaperRiskCoordinator F}
    (hx : x = leaving venue versions x') (hy : y = leaving venue versions y') :
    (if P then x else y) = leaving venue versions (if P then x' else y') := by
  split
  next => exact hx
  next => exact hy

section Operations

variable [DecidableEq F]

theorem reconcileReservations_withVenues (snapshot : AccountSnapshotV2 F) :
    (c.withVenues venue versions).reconcileReservations snapshot
      = (c.reconcileReservations snapshot).map fun c' => c'.withVenues venue versions := by
  unfold reconcileReservations
  show (transferredTrades snapshot c.reservations.items >>= _) = _
  cases transferredTrades snapshot c.reservations.items with
  | error e => rfl
  | ok transferred => rfl

theorem reconcileOrRevoke_withVenues {ρ : Type} (snapshot : AccountSnapshotV2 F) (result : ρ) :
    (c.withVenues venue versions).reconcileOrRevoke snapshot result
      = leaving venue versions (c.reconcileOrRevoke snapshot result) := by
  unfold reconcileOrRevoke
  rw [reconcileReservations_withVenues]
  cases c.reconcileReservations snapshot with
  | error e => rfl
  | ok c' => rfl

variable [PyFloat F] {p : PaperRiskPipeline F D}

theorem applyAccount_withVenues (snapshot : AccountSnapshotV2 F) :
    (c.withVenues venue versions).applyAccount p snapshot
      = leaving venue versions (c.applyAccount p snapshot) := by
  refine leaving_ite rfl (leaving_ite (leaving_ite rfl rfl) (leaving_ite rfl (leaving_ite ?_ rfl)))
  exact reconcileOrRevoke_withVenues (c := c.adopt p snapshot) snapshot true

theorem applyRegimeAllocation_withVenues (allocation : RegimeBoundAllocationV1 F)
    (receivedAtMs : Int) :
    (c.withVenues venue versions).applyRegimeAllocation p allocation receivedAtMs
      = leaving venue versions (c.applyRegimeAllocation p allocation receivedAtMs) := by
  refine leaving_ite rfl (leaving_ite rfl (leaving_ite rfl ?_))
  cases allocation.observation.intent.intentId with
  | none => rfl
  | some intentId =>
    have hheld : (c.withVenues venue versions).regimeAllocations = c.regimeAllocations := rfl
    dsimp only
    rw [hheld]
    cases c.regimeAllocations.get? intentId with
    | none => rfl
    | some existing => exact leaving_ite rfl rfl

omit [DecidableEq F] in
theorem restoreLoop_withVenues : ∀ (ds : List (RiskTradeDecisionV1 F)) (c : PaperRiskCoordinator F),
    restoreLoop p ds (c.withVenues venue versions)
      = leaving venue versions (restoreLoop p ds c)
  | [], _ => rfl
  | d :: ds, c => by
    unfold restoreLoop
    have hkeys : (c.withVenues venue versions).recoveredKeys p d = c.recoveredKeys p d := rfl
    rw [hkeys]
    cases c.recoveredKeys p d with
    | error e => rfl
    | ok keys =>
      exact restoreLoop_withVenues ds { c with
        reservations := c.reservations.set keys.1 ⟨d, 0⟩
        decisions := c.decisions.set keys.2 d }

theorem restoreReservations_withVenues (ds : List (RiskTradeDecisionV1 F)) :
    (c.withVenues venue versions).restoreReservations p ds
      = leaving venue versions (c.restoreReservations p ds) := by
  refine leaving_ite rfl ?_
  rw [restoreLoop_withVenues]
  rcases restoreLoop p ds c with ⟨r, c'⟩
  cases r with
  | error e => rfl
  | ok _ =>
    -- both loaded states hold the account that was found
    have hleft : ((c'.withVenues venue versions).trimDecisionCache p).account = c'.account := rfl
    have hright : (c'.trimDecisionCache p).account = c'.account := rfl
    dsimp only [leaving]
    rw [hleft, hright]
    cases c'.account with
    | none => rfl
    | some snapshot =>
      refine leaving_ite ?_ rfl
      exact reconcileOrRevoke_withVenues
        (c := { c'.trimDecisionCache p with
          account := some snapshot
          durableRecoveryLoaded := true
          accountRecoveryReady := accountIsAuthoritative p snapshot })
        snapshot ()

omit [DecidableEq F] in
theorem store_withVenues (reviewId : String) (d : RiskTradeDecisionV1 F) :
    (c.withVenues venue versions).store p reviewId d
      = leaving venue versions (c.store p reviewId d) := by
  refine leaving_ite ?_ rfl
  cases d.tradeId with
  | none => rfl
  | some tradeId => rfl

variable [PyDecimal D] [Spelling F D]

/-- An evaluation reads the measurement of its symbol, and no other. -/
theorem evaluate_withVenues {x : EvaluateRequest F}
    (hread : venue.get? x.venueSymbol = c.venue.get? x.venueSymbol) :
    (c.withVenues venue versions).evaluate p x
      = leaving venue versions (c.evaluate p x) := by
  have hfresh : (c.withVenues venue versions).evaluateFresh p x = c.evaluateFresh p x := by
    unfold evaluateFresh
    have hvenue : (c.withVenues venue versions).venue.get? x.venueSymbol
        = c.venue.get? x.venueSymbol := hread
    unfold EvaluateRequest.venueSymbol at hvenue
    rw [hvenue]
    rfl
  unfold evaluate
  cases x.review.reviewId with
  | none => rfl
  | some reviewId =>
    refine leaving_ite rfl ?_
    have hdecisions : (c.withVenues venue versions).decisions = c.decisions := rfl
    have hadmission : (c.withVenues venue versions).admissionReasons p x
        = c.admissionReasons p x := rfl
    dsimp only
    rw [hfresh, hdecisions, hadmission]
    split
    next => rfl
    next =>
      cases c.evaluateFresh p x with
      | error e => rfl
      | ok d => exact leaving_ite rfl (store_withVenues reviewId d)

end Operations

/-! ## One operation -/

section Operation

variable [PyFloat F] [DecidableEq F] [PyDecimal D] [Spelling F D]

/-- The answer of an operation, and the state it leaves. -/
def act (p : PaperRiskPipeline F D) (c : PaperRiskCoordinator F) :
    Operation p.core → Answer F × PaperRiskCoordinator F
  | .applyRegimeAllocation allocation receivedAtMs =>
    (c.applyRegimeAllocation p allocation receivedAtMs).map .applied id
  | .restoreReservations decisions =>
    (c.restoreReservations p (decisions.map (·.val))).map .restored id
  | .applyAccount snapshot => (c.applyAccount p snapshot).map .applied id
  | .applyVenue venue => (c.applyVenue venue).map .applied id
  | .evaluate request => (c.evaluate p request).map .evaluated id

variable {p : PaperRiskPipeline F D} {op : Operation p.core} {symbol : String}

theorem act_state (p : PaperRiskPipeline F D) : (fun c op => (act p c op).2) = step p := by
  funext c op
  cases op <;> rfl

/-- An operation that is no delivery reads the measurements of its channels. -/
theorem act_withVenues (hcall : Operation.uses none op = true)
    (hread : ∀ symbol, Operation.uses (some symbol) op = true →
      venue.get? symbol = c.venue.get? symbol) :
    act p (c.withVenues venue versions) op = leaving venue versions (act p c op) := by
  cases op with
  | applyVenue venue => cases hcall
  | applyRegimeAllocation allocation receivedAtMs =>
    exact congrArg (Prod.map Answer.applied id)
      (applyRegimeAllocation_withVenues allocation receivedAtMs)
  | restoreReservations decisions =>
    exact congrArg (Prod.map Answer.restored id)
      (restoreReservations_withVenues (decisions.map (·.val)))
  | applyAccount snapshot =>
    exact congrArg (Prod.map Answer.applied id) (applyAccount_withVenues snapshot)
  | evaluate request =>
    exact congrArg (Prod.map Answer.evaluated id)
      (evaluate_withVenues (hread request.venueSymbol (beq_self_eq_true _)))

/-- It leaves the venue maps as they are. -/
theorem act_leaves (hcall : Operation.uses none op = true) :
    act p c op = leaving c.venue c.venueVersions (act p c op) :=
  act_withVenues hcall fun _ _ => rfl

/-! ## One delivery -/

/-- The same answer, with the same venue left at a symbol. -/
def Alike {ρ : Type} (symbol : String) (r r' : ρ × PaperRiskCoordinator F) : Prop :=
  r'.1 = r.1 ∧ SameVenue symbol r.2 r'.2

omit [PyFloat F] [DecidableEq F] in
theorem alike_ite {ρ : Type} {P : Prop} [Decidable P] {x y x' y' : ρ × PaperRiskCoordinator F}
    (hx : Alike symbol x x') (hy : Alike symbol y y') :
    Alike symbol (if P then x else y) (if P then x' else y') := by
  split
  next => exact hx
  next => exact hy

omit [PyFloat F] [DecidableEq F] in
/-- A delivery reads the record of its symbol, and no other. -/
theorem applyVenue_alike {venue : VenueQualityV1 F} (h : SameVenue venue.symbol c c') :
    Alike venue.symbol (c.applyVenue venue) (c'.applyVenue venue) := by
  unfold applyVenue
  refine alike_ite ⟨rfl, h⟩ (alike_ite ⟨rfl, h⟩ ?_)
  rw [h.version]
  refine alike_ite ⟨rfl, h⟩ (alike_ite (alike_ite ⟨rfl, h⟩ ⟨rfl, ?_, ?_⟩) ⟨rfl, ?_, ?_⟩)
  · rw [OrderedDict.get?_pop_self, OrderedDict.get?_pop_self]
  · rw [OrderedDict.get?_set_self, OrderedDict.get?_set_self]
  · rw [OrderedDict.get?_set_self, OrderedDict.get?_set_self]
  · rw [OrderedDict.get?_set_self, OrderedDict.get?_set_self]

/-- An operation leaves the symbols it does not deliver for as they are. -/
theorem act_sameVenue (h : ∀ venue, op = .applyVenue venue → venue.symbol ≠ symbol) :
    SameVenue symbol c (act p c op).2 := by
  by_cases hdelivers : ∃ venue, op = .applyVenue venue
  · obtain ⟨venue, rfl⟩ := hdelivers
    exact (applyVenue_spec c venue).elsewhere fun hin => h venue rfl hin.2
  · have hstep : SameVenue symbol c (step p c op) :=
      step_sameVenue fun venue he => hdelivers ⟨venue, he⟩
    rw [← act_state] at hstep
    exact hstep

omit [PyFloat F] [DecidableEq F] in
/-- A delivery leaves the other symbols as they are. -/
theorem applyVenue_elsewhere {venue : VenueQualityV1 F} (h : venue.symbol ≠ symbol) :
    SameVenue symbol c (c.applyVenue venue).2 :=
  (applyVenue_spec c venue).elsewhere fun hin => h hin.2

omit [PyFloat F] [DecidableEq F] in
/-- Deliveries to states with the same venue leave the same venue. -/
theorem applyVenue_sameVenue {venue : VenueQualityV1 F} (h : SameVenue symbol c c') :
    SameVenue symbol (c.applyVenue venue).2 (c'.applyVenue venue).2 := by
  by_cases hhere : venue.symbol = symbol
  · subst hhere
    exact (applyVenue_alike h).2
  · exact (applyVenue_elsewhere hhere).symm.trans (h.trans (applyVenue_elsewhere hhere))

omit [PyFloat F] [DecidableEq F] in
/-- Deliveries for two symbols leave the same venues in either order. -/
theorem deliveries_commute {venue venue' : VenueQualityV1 F} (h : venue'.symbol ≠ venue.symbol) :
    SameVenues ((c.applyVenue venue).2.applyVenue venue').2
      ((c.applyVenue venue').2.applyVenue venue).2 := by
  refine ⟨?_, fun symbol => ?_⟩
  · rw [applyVenue_frame (c.applyVenue venue).2, applyVenue_frame (c.applyVenue venue').2,
      applyVenue_frame c venue, applyVenue_frame c venue']
    rfl
  · by_cases hhere : venue.symbol = symbol
    · have hthere : venue'.symbol ≠ symbol := hhere ▸ h
      exact (applyVenue_elsewhere hthere).symm.trans
        (applyVenue_sameVenue (applyVenue_elsewhere hthere))
    · exact (applyVenue_sameVenue (applyVenue_elsewhere hhere)).symm.trans
        (applyVenue_elsewhere hhere)

/-- A delivery and an operation that shares no channel with it answer as they
would alone, and leave the same venues in either order. -/
theorem delivery_commutes {venue : VenueQualityV1 F}
    (h : Independent Operation.uses (.applyVenue venue) op)
    (hcall : Operation.uses none op = true) :
    (act p (c.applyVenue venue).2 op).1 = (act p c op).1 ∧
    ((act p c op).2.applyVenue venue).1 = (c.applyVenue venue).1 ∧
    SameVenues ((act p c op).2.applyVenue venue).2 (act p (c.applyVenue venue).2 op).2 := by
  have hframe := applyVenue_frame c venue
  have hother := Operation.symbol_ne_of_independent h
  -- the delivery is for no symbol the operation reads
  have hread : ∀ symbol, Operation.uses (some symbol) op = true →
      (c.applyVenue venue).2.venue.get? symbol = c.venue.get? symbol := by
    intro symbol huses
    refine ((applyVenue_spec c venue).elsewhere fun hin => ?_).venue
    have hnot := h.symm (some symbol) huses
    exact beq_eq_false_iff_ne.mp hnot hin.2
  have hpast : act p (c.applyVenue venue).2 op = leaving (c.applyVenue venue).2.venue
      (c.applyVenue venue).2.venueVersions (act p c op) := by
    rw [hframe]
    exact act_withVenues hcall hread
  have hkept : ∀ symbol, SameVenue symbol c (act p c op).2 := by
    intro symbol
    rw [act_leaves hcall]
    exact ⟨rfl, rfl⟩
  rw [hpast]
  refine ⟨rfl, (applyVenue_alike (hkept venue.symbol)).1, ?_, fun symbol => ?_⟩
  · rw [applyVenue_frame (act p c op).2]
    rfl
  · have hsame : SameVenue symbol (c.applyVenue venue).2 ((act p c op).2.applyVenue venue).2 :=
      applyVenue_sameVenue (hkept symbol)
    exact ⟨hsame.venue.symm, hsame.version.symm⟩

/-- **Operations that share no channel commute.** -/
theorem operations_commute (p : PaperRiskPipeline F D) :
    Commutes Operation.uses (act p) SameVenues where
  equivalence := sameVenues_equivalence
  answer := by
    intro c c' op h
    rcases op.delivery_or with ⟨venue, rfl⟩ | hcall
    · exact congrArg Answer.applied (applyVenue_alike (h.at_symbol venue.symbol)).1.symm
    · rw [h.rest, act_withVenues hcall fun symbol _ => (h.at_symbol symbol).venue]
      rfl
  keeps := by
    intro c c' op h
    rcases op.delivery_or with ⟨venue, rfl⟩ | hcall
    · refine ⟨?_, fun symbol => applyVenue_sameVenue (h.at_symbol symbol)⟩
      show (c'.applyVenue venue).2 = (c.applyVenue venue).2.withVenues _ _
      rw [applyVenue_frame c, applyVenue_frame c', h.rest]
      rfl
    · have hpast : act p (c.withVenues c'.venue c'.venueVersions) op
          = leaving c'.venue c'.venueVersions (act p c op) :=
        act_withVenues hcall fun symbol _ => (h.at_symbol symbol).venue
      rw [← h.rest] at hpast
      rw [hpast, act_leaves hcall]
      exact ⟨rfl, fun symbol => ⟨(h.at_symbol symbol).venue, (h.at_symbol symbol).version⟩⟩
  unmoved := by
    intro c op op' h
    rcases op.delivery_or with ⟨venue, rfl⟩ | hcall
    · have hsame : SameVenue venue.symbol c (act p c op').2 :=
        act_sameVenue (Operation.symbol_ne_of_independent h)
      exact congrArg Answer.applied (applyVenue_alike hsame).1
    rcases op'.delivery_or with ⟨venue, rfl⟩ | hcall'
    · exact (delivery_commutes h.symm hcall).1
    · rw [h none hcall] at hcall'
      cases hcall'
  swap := by
    intro c op op' h
    rcases op.delivery_or with ⟨venue, rfl⟩ | hcall
    · rcases op'.delivery_or with ⟨venue', rfl⟩ | hcall'
      · exact deliveries_commute (Operation.symbol_ne_of_independent h venue' rfl)
      · exact sameVenues_equivalence.symm (delivery_commutes h hcall').2.2
    rcases op'.delivery_or with ⟨venue, rfl⟩ | hcall'
    · exact (delivery_commutes h.symm hcall).2.2
    · rw [h none hcall] at hcall'
      cases hcall'

end Operation

/-! ## Runs -/

section Runs

variable [PyFloat F] [DecidableEq F] [PyDecimal D] [Spelling F D]

omit [PyDecimal D] [Spelling F D] in
/-- A review waits for the same inputs. -/
theorem SameVenues.inputsReady (h : SameVenues c c') (p : PaperRiskPipeline F D)
    (review : CandidateReviewV1 F) : c'.inputsReady p review = c.inputsReady p review := by
  have hcontains : c'.venue.contains = c.venue.contains := by
    funext symbol
    exact congrArg Option.isSome (h.at_symbol symbol).venue
  unfold PaperRiskCoordinator.inputsReady
  rw [hcontains, h.rest]
  rfl

/-- **A delivery races with the deliveries and the evaluations of its own symbol,
and with nothing else**: in two runs that have the same operations other than
deliveries in the same order, and for each symbol its deliveries and evaluations
in the same order, every call is answered alike; and the states they leave
answer whatever comes next alike and release the same waiting reviews. -/
theorem venue_feed_interleaves (p : PaperRiskPipeline F D) (c : PaperRiskCoordinator F)
    (ops ops' : List (Operation p.core)) (h : SameViews Operation.uses ops ops') :
    SameViews (fun channel call => Operation.uses channel call.1)
      (history (act p) c ops) (history (act p) c ops') ∧
    SameVenues (run (step p) c ops) (run (step p) c ops') ∧
    (∀ more, history (act p) (run (step p) c ops') more
      = history (act p) (run (step p) c ops) more) ∧
    ∀ review, (run (step p) c ops').inputsReady p review
      = (run (step p) c ops).inputsReady p review := by
  obtain ⟨hstate, hviews⟩ := (operations_commute p).answers Operation.uses_some h c
  rw [act_state] at hstate
  refine ⟨hviews, hstate, fun more => ?_, hstate.inputsReady p⟩
  exact ((operations_commute p).congr more hstate).1.symm

end Runs

end PaperRiskCoordinator

/-! ## Ether before everything

The facts of the first idea with a measurement of the other symbol, which comes
last in one run and first in the other. -/

namespace Scenario

open PaperRiskCoordinator

/-- The idea is evaluated, and ether measured afterwards. -/
def etherLast : List (Operation market.core) :=
  [.restoreReservations [], .applyAccount (account 1 60200), .applyVenue (venue "BTCUSD:DEV" 60300),
    .evaluate (request ideaA.review 60400), .applyVenue (venue "ETHUSD:DEV" 60300)]

/-- Ether is measured before anything is restored, and bitcoin before the account. -/
def etherFirst : List (Operation market.core) :=
  [.applyVenue (venue "ETHUSD:DEV" 60300), .restoreReservations [],
    .applyVenue (venue "BTCUSD:DEV" 60300), .applyAccount (account 1 60200),
    .evaluate (request ideaA.review 60400)]

/-- The answers to all calls but the deliveries. -/
def callsAnswered (ops : List (Operation market.core)) :
    List (Operation market.core × Answer Rat) :=
  (history (act market) init ops).filter fun call => Operation.uses none call.1

/-- The calls are answered alike, the last one with an approval, although the maps
are filled in another order. -/
theorem ether_unnoticed : callsAnswered etherLast = callsAnswered etherFirst ∧
    (run (step market) init etherLast).decisions.values.map (·.approved) = [true] ∧
    (run (step market) init etherLast).venue.keys = ["BTCUSD:DEV", "ETHUSD:DEV"] ∧
    (run (step market) init etherFirst).venue.keys = ["ETHUSD:DEV", "BTCUSD:DEV"] := by
  have hviews : SameViews Operation.uses etherLast etherFirst := by
    intro channel
    cases channel with
    | none => rfl
    | some symbol =>
      -- the channel of a symbol sees the delivery and the evaluation, in one order
      have hread : (request ideaA.review 60400).venueSymbol = "BTCUSD:DEV" := by decide +kernel
      by_cases hbtc : "BTCUSD:DEV" = symbol
      · subst hbtc
        rfl
      · simp [etherLast, etherFirst, List.filter_cons, Operation.uses, hread, hbtc, venue]
  refine ⟨?_, ?_, ?_, ?_⟩
  · exact (venue_feed_interleaves market init etherLast etherFirst hviews).1 none
  all_goals decide +kernel

end Scenario

end KairosRisk
