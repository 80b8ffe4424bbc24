import KairosRisk.Lib.ExactOrder
import KairosRisk.Lib.Grid
import KairosRisk.Scenario
import KairosRisk.Simulation

/-!
# When the simulator admits

An approval of the simulator says that nothing is wrong with the session, the
review and the book frame, and that a lot and a price cap could be sized. Both
are the tightest of their grids: the lot is the greatest whole number of steps
within the request and the share of the visible depth, and the cap is the tick
next to the slipped top of the book on the adverse side, from above for a buyer
and from below for a seller. It is this cap that lies between the exits.

Each function has a lemma about what it returns, if it returns;
`simulator_admission` puts them together.
-/

namespace KairosRisk

open PyLib
open CapitalBudget (NumericValue)

variable {F : Type} [PyFloat F] [Spelling F Rat]

/-! ## Numbers -/

/-- The value is a finite number, with this decimal. -/
def Denotes : NumericValue F → Rat → Prop
  | .int i, v => v = i
  | .float x, v => PyFloat.isFinite x = true ∧ v = Spelling.spell x
  | _, _ => False

theorem Denotes.unique {value : NumericValue F} {v w : Rat} (hv : Denotes value v)
    (hw : Denotes value w) : v = w := by
  cases value with
  | int i => exact hv.trans hw.symm
  | float x => exact hv.2.trans hw.2.symm
  | _ => cases hv

theorem asDecimal_ok {value : NumericValue F} {name : String} {v : Rat}
    (h : asDecimal value name = .ok v) : Denotes value v := by
  unfold asDecimal at h
  cases value with
  | int i =>
    dsimp only at h
    split at h
    next => exact (Except.ok.inj h).symm
    next => cases h
  | float x =>
    dsimp only at h
    split at h
    next hfinite => exact ⟨hfinite, (Except.ok.inj h).symm⟩
    next => cases h
  | _ => cases h

/-- What is refused as a value is not a finite number. -/
theorem asDecimal_valueError {value : NumericValue F} {name message : String}
    (h : asDecimal value name = .error (.valueError message)) (v : Rat) : ¬Denotes value v := by
  unfold asDecimal at h
  intro hv
  cases value with
  | int i =>
    dsimp only at h
    split at h
    next => cases h
    next => cases h
  | float x =>
    dsimp only at h
    rw [if_pos hv.1] at h
    cases h
  | _ => cases hv

/-- A field of a contract that could be read is a float with its spelling. -/
theorem asDecimal_float_ok {x : F} {name : String} {v : Rat}
    (h : asDecimal (.float x) name = .ok v) : v = Spelling.spell x :=
  (asDecimal_ok h).2

theorem mapM_asDecimal_ok {name : String} :
    ∀ {levels : List (RecordedBookLevelV1 F)} {vs : List Rat},
    (levels.mapM fun level => asDecimal (.float level.quantity) name) = .ok vs →
      vs = levels.map fun level => (Spelling.spell level.quantity : Rat)
  | [], _, h => by
    rw [List.mapM_nil] at h
    cases h
    rfl
  | level :: levels, _, h => by
    rw [List.mapM_cons] at h
    obtain ⟨v, hv, h⟩ := ok_of_bind h
    obtain ⟨vs, hvs, h⟩ := ok_of_bind h
    cases h
    rw [asDecimal_float_ok hv, mapM_asDecimal_ok hvs]
    rfl

/-- A positive step divides. -/
theorem roundToStep_ok {value step : Rat} {rounding : Rounding} (hstep : 0 < step) :
    roundToStep value step rounding = .ok (rounding.toIntegral (value / step) * step) := by
  have hdiv : PyDecimal.div value step = .ok (value / step) := if_neg hstep.ne'
  unfold roundToStep
  rw [hdiv]
  rfl

/-- A sized number that is not positive becomes a reason. -/
theorem positive_ok {v : Rat} {reason : String} {result : Rat × Option String}
    (h : (if v ≤ 0 then Except.ok (0, some reason) else .ok (v, none) :
      Except PyError (Rat × Option String)) = .ok result) :
    0 < v ∧ result = (v, none) ∨ ¬0 < v ∧ result.2 ≠ none := by
  split at h
  next hle =>
    cases h
    exact Or.inr ⟨not_lt.mpr hle, nofun⟩
  next hpos =>
    cases h
    exact Or.inl ⟨not_le.mp hpos, rfl⟩

/-! ## The conditions -/

namespace SimulationRiskPolicy

variable {x : SimulationInputs F} {frame : RecordedTopNBookFrameV1 F}

/-- What can be taken from the frame, on all its levels. -/
def visibleDepth (x : SimulationInputs F) (frame : RecordedTopNBookFrameV1 F) : Rat :=
  ((takenLevels frame x.review.intent.side).map fun level =>
    (Spelling.spell level.quantity : Rat)).sum

/-- The greatest whole number of steps within the request and the share of the
visible depth. -/
def Lot (x : SimulationInputs F) (frame : RecordedTopNBookFrameV1 F) (requested lot : Rat) : Prop :=
  let assumptions := x.session.assumptions
  IsGreatest {q : Rat | Multiple (Spelling.spell assumptions.quantityStep) q ∧
    q ≤ min requested
      (visibleDepth x frame * Spelling.spell assumptions.depthParticipationFraction)} lot

/-- The tick nearest to the slipped top of the book on the adverse side. -/
def Cap (x : SimulationInputs F) (frame : RecordedTopNBookFrameV1 F) (cap : Rat) : Prop :=
  let side := x.review.intent.side
  let assumptions := x.session.assumptions
  let slippage : Rat := Spelling.spell assumptions.adverseSlippageBps / 10000
  ∃ top ∈ (takenLevels frame side).head?,
    if side = .long then
      IsLeast {price : Rat | Multiple (Spelling.spell assumptions.priceTick) price ∧
        Spelling.spell top.price * (1 + slippage) ≤ price} cap
    else
      IsGreatest {price : Rat | Multiple (Spelling.spell assumptions.priceTick) price ∧
        price ≤ Spelling.spell top.price * (1 - slippage)} cap

/-- The cap lies strictly between the exits, on their sides. -/
def BetweenExits (x : SimulationInputs F) (cap : Rat) : Prop :=
  let exitPlan := x.review.intent.exitPlan
  if x.review.intent.side = .long then
    Spelling.spell exitPlan.stopPrice < cap ∧ cap < Spelling.spell exitPlan.targetPrice
  else Spelling.spell exitPlan.targetPrice < cap ∧ cap < Spelling.spell exitPlan.stopPrice

/-- The session, the review and a frame that fit each other at the decision. -/
structure InputsFit (x : SimulationInputs F) (frame : RecordedTopNBookFrameV1 F) : Prop where
  selected : x.selectedBookFrame = some frame
  sessionSimulated : x.session.executionEnvironment = "SIMULATED"
  intentVenue : x.review.intentVenue = "BINANCE_UM"
  frameSimulated : frame.executionEnvironment = "SIMULATED"
  frameVenue : frame.marketDataVenue = "BINANCE_UM"
  allowed : x.review.decision = .allow
  allowlisted : ⟨x.review.intent.strategyId, x.review.intent.strategyRevision⟩
    ∈ x.session.strategyAllowlist
  supported : x.review.intent.symbol ∈ supportedSymbols
  unexpired : x.decidedAtMs ≤ x.review.intent.entryExpiresTsMs
  tape : frame.tapeId = x.session.tapeId
  symbol : frame.symbol = x.review.intent.symbol
  continuity : frame.continuity = "ADMITTED"
  causal : frame.persistedAtMs ≤ x.decidedAtMs
  age : x.decidedAtMs - frame.persistedAtMs ≤ x.session.assumptions.maximumBookAgeMs
  latency : frame.persistedAtMs - frame.exchangeAtMs ≤ x.session.assumptions.maximumFrameLatencyMs

/-- A lot and a price cap that the request and the frame come to. -/
structure Sizes (x : SimulationInputs F) (frame : RecordedTopNBookFrameV1 F)
    (lot cap : Rat) : Prop where
  within : ∃ requested, Denotes x.requestedQuantity requested ∧ 0 < requested ∧
    Lot x frame requested lot
  lot_pos : 0 < lot
  capped : Cap x frame cap
  cap_pos : 0 < cap
  exits : BetweenExits x cap

omit [Spelling F Rat] in
/-- Nothing is wrong with the inputs. -/
theorem inputReasons_eq_nil_iff : inputReasons x = [] ↔ ∃ frame, InputsFit x frame := by
  unfold inputReasons environmentRejectionReasons bookRejectionReasons
  cases hframe : x.selectedBookFrame with
  | none =>
    simp only [List.append_eq_nil_iff, List.cons_ne_nil, and_false, false_iff, not_exists]
    intro frame h
    rw [h.selected] at hframe
    cases hframe
  | some frame =>
    have hfresh : (if x.decidedAtMs < frame.persistedAtMs then ["BOOK_FRAME_FROM_FUTURE"]
        else reasonIf (x.session.assumptions.maximumBookAgeMs < x.decidedAtMs - frame.persistedAtMs)
          "BOOK_FRAME_STALE") = [] ↔ frame.persistedAtMs ≤ x.decidedAtMs ∧
          x.decidedAtMs - frame.persistedAtMs ≤ x.session.assumptions.maximumBookAgeMs := by
      by_cases hfuture : x.decidedAtMs < frame.persistedAtMs
      · simp [hfuture]
      · simp [hfuture, Int.not_lt.mp hfuture]
    simp only [List.append_eq_nil_iff, reasonIf_eq_nil, hfresh, decide_eq_false_iff_not, not_not,
      Bool.not_eq_false', List.contains_iff_mem, Int.not_lt, ne_eq]
    constructor
    · intro h
      obtain ⟨⟨⟨⟨⟨⟨⟨hsession, hvenue⟩, henvironment, hmarket⟩, hallow⟩, hlisted⟩, hsymbol⟩,
        hexpiry⟩, ⟨⟨⟨htape, hsame⟩, hcontinuity⟩, hcausal, hage⟩, hlatency⟩ := h
      exact ⟨frame, hframe, hsession, hvenue, henvironment, hmarket, hallow, hlisted,
        hsymbol, hexpiry, htape, hsame, hcontinuity, hcausal, hage, hlatency⟩
    · intro h
      obtain ⟨frame', h⟩ := h
      have hsame : frame' = frame := Option.some.inj (h.selected.symm.trans hframe)
      rw [hsame] at h
      exact ⟨⟨⟨⟨⟨⟨⟨h.sessionSimulated, h.intentVenue⟩, h.frameSimulated, h.frameVenue⟩, h.allowed⟩,
        h.allowlisted⟩, h.supported⟩, h.unexpired⟩,
        ⟨⟨⟨h.tape, h.symbol⟩, h.continuity⟩, h.causal, h.age⟩, h.latency⟩

/-! ## The sizing -/

variable [LawfulSpelling F]

theorem quantityStep_pos (x : SimulationInputs F) :
    (0 : Rat) < Spelling.spell x.session.assumptions.quantityStep :=
  LawfulSpelling.spell_pos _ x.session.assumptions.quantityStep_pos

theorem priceTick_pos (x : SimulationInputs F) :
    (0 : Rat) < Spelling.spell x.session.assumptions.priceTick :=
  LawfulSpelling.spell_pos _ x.session.assumptions.priceTick_pos

/-- The lot that a request comes to, and whether it is one. -/
theorem lotWithin_ok {requested : Rat} {result : Rat × Option String}
    (h : lotWithin x frame requested = .ok result) : ∃ lot, Lot x frame requested lot ∧
      (0 < lot ∧ result = (lot, none) ∨ ¬0 < lot ∧ result.2 ≠ none) := by
  unfold lotWithin at h
  obtain ⟨quantities, hquantities, h⟩ := ok_of_bind h
  obtain ⟨participation, hparticipation, h⟩ := ok_of_bind h
  obtain ⟨step, hstep, h⟩ := ok_of_bind h
  obtain ⟨admitted, hadmitted, h⟩ := ok_of_bind h
  rw [asDecimal_float_ok hstep, roundToStep_ok (quantityStep_pos x)] at hadmitted
  refine ⟨admitted, ?_, ?_⟩
  · have hgreatest := isGreatest_floor (quantityStep_pos x)
      (min requested
        (visibleDepth x frame * Spelling.spell x.session.assumptions.depthParticipationFraction))
    rw [mapM_asDecimal_ok hquantities, asDecimal_float_ok hparticipation, PyDecimal.rat_min_pair]
      at hadmitted
    rw [← Except.ok.inj hadmitted]
    exact hgreatest
  · exact positive_ok h

/-- An admitted quantity is the lot of a finite positive request; without one
there is a reason. -/
theorem admittedQuantity_ok {result : Rat × Option String}
    (h : admittedQuantity x frame = .ok result) :
    (result.2 = none → ∃ requested, Denotes x.requestedQuantity requested ∧ 0 < requested ∧
      Lot x frame requested result.1 ∧ 0 < result.1) ∧
    ∀ requested lot, Denotes x.requestedQuantity requested → 0 < requested →
      Lot x frame requested lot → 0 < lot → result = (lot, none) := by
  unfold admittedQuantity at h
  split at h
  next message hinvalid =>
    cases h
    refine ⟨nofun, ?_⟩
    intro requested _ hrequested
    exact absurd hrequested (asDecimal_valueError hinvalid requested)
  next => cases h
  next requested hvalid =>
    have hrequested := asDecimal_ok hvalid
    split at h
    next hle =>
      cases h
      refine ⟨nofun, ?_⟩
      intro requested' _ hdenotes hpos
      rw [hdenotes.unique hrequested] at hpos
      exact absurd hpos (not_lt.mpr hle)
    next hpos =>
      obtain ⟨lot, hlot, hresult⟩ := lotWithin_ok h
      rcases hresult with ⟨hlotPos, rfl⟩ | ⟨hlotNeg, hreason⟩
      · refine ⟨fun _ => ⟨requested, hrequested, not_le.mp hpos, hlot, hlotPos⟩, ?_⟩
        intro requested' lot' hdenotes _ hlot' _
        rw [hdenotes.unique hrequested] at hlot'
        rw [hlot'.unique hlot]
      · refine ⟨fun hnone => absurd hnone hreason, ?_⟩
        intro requested' lot' hdenotes _ hlot' hlotPos
        rw [hdenotes.unique hrequested] at hlot'
        rw [hlot'.unique hlot] at hlotPos
        exact absurd hlotPos hlotNeg

omit [LawfulSpelling F] in
theorem topPrice_ok {price : Rat} (h : topPrice x frame = .ok price) :
    ∃ top ∈ (takenLevels frame x.review.intent.side).head?, price = Spelling.spell top.price := by
  unfold topPrice at h
  dsimp only at h
  split at h
  next => cases h
  next top _ hlevels =>
    rw [hlevels]
    exact ⟨top, rfl, asDecimal_float_ok h⟩

omit [LawfulSpelling F] in
theorem Cap.unique {cap cap' : Rat} (h : Cap x frame cap) (h' : Cap x frame cap') : cap = cap' := by
  obtain ⟨top, htop, hcap⟩ := h
  obtain ⟨top', htop', hcap'⟩ := h'
  have hsame : top' = top := Option.mem_unique htop' htop
  rw [hsame] at hcap'
  by_cases hlong : x.review.intent.side = .long
  · rw [if_pos hlong] at hcap hcap'
    exact hcap.unique hcap'
  · rw [if_neg hlong] at hcap hcap'
    exact hcap.unique hcap'

/-- The cap that the book comes to, and whether it is a price. -/
theorem priceCapOf_ok {result : Rat × Option String} (h : priceCapOf x frame = .ok result) :
    ∃ cap, Cap x frame cap ∧ (0 < cap ∧ result = (cap, none) ∨ ¬0 < cap ∧ result.2 ≠ none) := by
  unfold priceCapOf at h
  obtain ⟨price, hprice, h⟩ := ok_of_bind h
  obtain ⟨bps, hbps, h⟩ := ok_of_bind h
  obtain ⟨slippage, hslippage, h⟩ := ok_of_bind h
  obtain ⟨tick, htick, h⟩ := ok_of_bind h
  obtain ⟨cap, hcap, h⟩ := ok_of_bind h
  obtain ⟨top, htop, htopPrice⟩ := topPrice_ok hprice
  have hdivided : slippage = Spelling.spell x.session.assumptions.adverseSlippageBps / 10000 := by
    have hdiv : PyDecimal.div bps 10000 = .ok (bps / 10000) := if_neg (by decide)
    rw [hdiv] at hslippage
    rw [← asDecimal_float_ok hbps]
    exact (Except.ok.inj hslippage).symm
  rw [htopPrice, hdivided, asDecimal_float_ok htick, roundToStep_ok (priceTick_pos x)] at hcap
  refine ⟨cap, ⟨top, htop, ?_⟩, ?_⟩
  · by_cases hlong : x.review.intent.side = .long
    · rw [if_pos hlong, if_pos hlong] at hcap
      rw [if_pos hlong, ← Except.ok.inj hcap]
      exact isLeast_ceil (priceTick_pos x) _
    · rw [if_neg hlong, if_neg hlong] at hcap
      rw [if_neg hlong, ← Except.ok.inj hcap]
      exact isGreatest_floor (priceTick_pos x) _
  · exact positive_ok h

omit [LawfulSpelling F] in
theorem exitGeometryIsValid_ok {cap : Rat} {valid : Bool}
    (h : exitGeometryIsValid x cap = .ok valid) : valid = true ↔ BetweenExits x cap := by
  unfold exitGeometryIsValid at h
  dsimp only at h
  obtain ⟨stop, hstop, h⟩ := ok_of_bind h
  obtain ⟨target, htarget, h⟩ := ok_of_bind h
  rw [asDecimal_float_ok hstop, asDecimal_float_ok htarget] at h
  unfold BetweenExits
  by_cases hlong : x.review.intent.side = .long
  · rw [if_pos hlong] at h ⊢
    rw [← Except.ok.inj h]
    simp
  · rw [if_neg hlong] at h ⊢
    rw [← Except.ok.inj h]
    simp

/-- A pricing without a reason gives a cap between the exits, and it gives any
such cap that there is. -/
theorem priced_ok {quantity : Rat} {a : Admission} (h : priced x frame quantity = .ok a) :
    (a.reason = none → ∃ cap, a = ⟨quantity, some cap, none⟩ ∧ Cap x frame cap ∧ 0 < cap ∧
      BetweenExits x cap) ∧
    ∀ cap, Cap x frame cap → 0 < cap → BetweenExits x cap → a = ⟨quantity, some cap, none⟩ := by
  unfold priced at h
  obtain ⟨capped, hcapped, h⟩ := ok_of_bind h
  obtain ⟨cap, hcap, hprice⟩ := priceCapOf_ok hcapped
  rcases hprice with ⟨hpos, rfl⟩ | ⟨hneg, hreasoned⟩
  · dsimp only at h
    obtain ⟨valid, hvalid, h⟩ := ok_of_bind h
    have hexits := exitGeometryIsValid_ok hvalid
    cases h
    constructor
    · intro hnone
      have htrue : valid = true := by
        by_contra hfalse
        rw [if_neg hfalse] at hnone
        cases hnone
      rw [htrue]
      exact ⟨cap, rfl, hcap, hpos, hexits.mp htrue⟩
    · intro cap' hcap' _ hbetween
      rw [hcap'.unique hcap] at hbetween ⊢
      rw [hexits.mpr hbetween]
      rfl
  · cases hreason : capped.2 with
    | none => exact absurd hreason hreasoned
    | some reason =>
      rw [hreason] at h
      cases h
      refine ⟨nofun, ?_⟩
      intro cap' hcap' hpos _
      rw [hcap'.unique hcap] at hpos
      exact absurd hpos hneg

/-- A sizing without a reason gives a lot and a cap, and it gives any lot and
cap that there are. -/
theorem sized_ok {a : Admission} (h : sized x frame = .ok a) :
    (a.reason = none → ∃ cap, a.priceCap = some cap ∧ Sizes x frame a.quantity cap) ∧
    ∀ lot cap, Sizes x frame lot cap → a = ⟨lot, some cap, none⟩ := by
  unfold sized at h
  obtain ⟨result, hresult, h⟩ := ok_of_bind h
  obtain ⟨hlot, hgiven⟩ := admittedQuantity_ok hresult
  have hmatch : ∀ lot cap, Sizes x frame lot cap → result = (lot, none) := by
    intro lot cap hsizes
    obtain ⟨requested, hrequested, hpos, hwithin⟩ := hsizes.within
    exact hgiven requested lot hrequested hpos hwithin hsizes.lot_pos
  cases hreason : result.2 with
  | some reason =>
    rw [hreason] at h
    cases h
    refine ⟨nofun, ?_⟩
    intro lot cap hsizes
    rw [hmatch lot cap hsizes] at hreason
    cases hreason
  | none =>
    rw [hreason] at h
    obtain ⟨hpriced, hgivenCap⟩ := priced_ok h
    constructor
    · intro hnone
      obtain ⟨cap, rfl, hcap, hcapPos, hexits⟩ := hpriced hnone
      obtain ⟨requested, hrequested, hrequestedPos, hwithin, hlotPos⟩ := hlot hreason
      exact ⟨cap, rfl, ⟨requested, hrequested, hrequestedPos, hwithin⟩, hlotPos, hcap, hcapPos,
        hexits⟩
    · intro lot cap hsizes
      rw [hgivenCap cap hsizes.capped hsizes.cap_pos hsizes.exits, hmatch lot cap hsizes]

/-! ## The decision -/

/-- The decision is no earlier than what it is about. -/
structure InTime (x : SimulationInputs F) : Prop where
  started : x.session.startedAtMs ≤ x.decidedAtMs
  notEnded : x.decidedAtMs ≤ x.session.endsAtMs
  reviewed : x.review.reviewedAtMs ≤ x.decidedAtMs
  eligible : x.review.intent.entryEligibleTsMs ≤ x.decidedAtMs

omit [Spelling F Rat] [LawfulSpelling F] in
theorem validateDecisionClock_ok (h : validateDecisionClock x = .ok ()) : InTime x := by
  unfold validateDecisionClock at h
  obtain ⟨_, h⟩ := ok_of_raiseIf h
  obtain ⟨hinside, h⟩ := ok_of_raiseIf h
  obtain ⟨hreview, h⟩ := ok_of_raiseIf h
  have heligible := raiseIf_ok h
  simp only [Bool.not_eq_false', Bool.and_eq_true, decide_eq_true_eq] at hinside
  exact ⟨hinside.1, hinside.2, Int.not_lt.mp (of_decide_eq_false hreview),
    Int.not_lt.mp (of_decide_eq_false heligible)⟩

omit [LawfulSpelling F] in
/-- A returned decision is about what was assessed in time. -/
theorem evaluate_ok {p : SimulationRiskPolicy F} {d : SimulationRiskDecisionV1 F}
    (h : p.evaluate x = .ok d) : InTime x ∧ ∃ assessed, assess x = .ok assessed ∧
      d = p.decisionOf x assessed.1 assessed.2.1 assessed.2.2 := by
  unfold evaluate at h
  obtain ⟨_, hclock, h⟩ := ok_of_bind h
  obtain ⟨assessed, hassessed, h⟩ := ok_of_bind h
  dsimp only at h
  split at h
  next => exact ⟨validateDecisionClock_ok hclock, assessed, hassessed, (Except.ok.inj h).symm⟩
  next => cases h

/-- What is assessed without a reason is what the inputs come to. -/
theorem assess_ok {assessed : List String × Rat × Option Rat} (h : assess x = .ok assessed) :
    (assessed.1 = [] → ∃ frame cap, InputsFit x frame ∧ Sizes x frame assessed.2.1 cap) ∧
    ∀ frame lot cap, InputsFit x frame → Sizes x frame lot cap →
      assessed = ([], lot, some cap) := by
  unfold assess at h
  dsimp only at h
  split at h
  next frame hreasons hframe =>
    obtain ⟨a, ha, h⟩ := ok_of_bind h
    obtain ⟨hsized, hgiven⟩ := sized_ok ha
    obtain ⟨frame', hfit⟩ := inputReasons_eq_nil_iff.mp hreasons
    have hsame : frame' = frame := Option.some.inj (hfit.selected.symm.trans hframe)
    rw [hsame] at hfit
    cases h
    constructor
    · intro hnone
      rw [Option.toList_eq_nil_iff] at hnone
      obtain ⟨cap, _, hsizes⟩ := hsized hnone
      exact ⟨frame, cap, hfit, hsizes⟩
    · intro other lot cap hother hsizes
      have hsame : other = frame := Option.some.inj (hother.selected.symm.trans hframe)
      rw [hsame] at hsizes
      rw [hgiven lot cap hsizes]
      rfl
  next hnot =>
    -- something is wrong with the inputs
    have hunfit : ∀ frame, ¬InputsFit x frame := by
      intro frame hfit
      exact hnot frame (inputReasons_eq_nil_iff.mpr ⟨frame, hfit⟩) hfit.selected
    cases h
    constructor
    · intro hnone
      obtain ⟨frame, hfit⟩ := inputReasons_eq_nil_iff.mp hnone
      exact absurd hfit (hunfit frame)
    · intro frame _ _ hfit
      exact absurd hfit (hunfit frame)

end SimulationRiskPolicy

open SimulationRiskPolicy

/-- **Simulator admission is causal, grid-exact and tight.** A returned decision
is in time; it approves exactly when the inputs fit and come to a lot and a
price cap; and then it has that lot and that cap, as floats. -/
theorem simulator_admission [LawfulSpelling F] (p : SimulationRiskPolicy F) (x : SimulationInputs F)
    (d : SimulationRiskDecisionV1 F) (h : p.evaluate x = .ok d) :
    InTime x ∧
    (d.approved = true ↔ ∃ frame lot cap, InputsFit x frame ∧ Sizes x frame lot cap) ∧
    (∀ frame lot cap, InputsFit x frame → Sizes x frame lot cap →
      d.quantity = Spelling.toFloat lot ∧ d.priceCap = some (Spelling.toFloat cap)) ∧
    (d.approved = false → d.quantity = PyFloat.lit 0 ∧ d.priceCap = none) := by
  obtain ⟨htime, assessed, hassessed, rfl⟩ := evaluate_ok h
  obtain ⟨hsound, hgiven⟩ := assess_ok hassessed
  have happroved : (p.decisionOf x assessed.1 assessed.2.1 assessed.2.2).approved
      = assessed.1.isEmpty := rfl
  refine ⟨htime, ?_, ?_, ?_⟩
  · rw [happroved, List.isEmpty_iff]
    constructor
    · intro hnone
      obtain ⟨frame, cap, hfit, hsizes⟩ := hsound hnone
      exact ⟨frame, assessed.2.1, cap, hfit, hsizes⟩
    · intro hadmits
      obtain ⟨frame, lot, cap, hfit, hsizes⟩ := hadmits
      rw [hgiven frame lot cap hfit hsizes]
  · intro frame lot cap hfit hsizes
    rw [hgiven frame lot cap hfit hsizes]
    exact ⟨rfl, rfl⟩
  · intro hrejected
    rw [happroved] at hrejected
    unfold decisionOf
    simp [hrejected]

namespace Scenario

/-- A session over one strategy, which takes a tenth of the depth in steps of a
thousandth, two basis points away in ticks of a tenth. -/
def simulatedSession : SimulationSessionV1 Rat where
  executionEnvironment := "SIMULATED"
  tapeId := "sim-tape"
  assumptions :=
    { maximumBookAgeMs := 5000, maximumFrameLatencyMs := 1000, depthParticipationFraction := 1 / 10
      adverseSlippageBps := 2, priceTick := 1 / 10, quantityStep := 1 / 1000
      priceTick_pos := by decide +kernel, quantityStep_pos := by decide +kernel }
  strategyAllowlist := [⟨"paper-test-strategy", "1"⟩]
  startedAtMs := 0
  endsAtMs := 360000

/-- A recorded book of one level a side. -/
def recordedFrame : RecordedTopNBookFrameV1 Rat where
  executionEnvironment := "SIMULATED"
  marketDataVenue := "BINANCE_UM"
  tapeId := "sim-tape"
  symbol := "BTCUSDT"
  continuity := "ADMITTED"
  exchangeAtMs := 60000
  persistedAtMs := 60020
  bids := [⟨999 / 10, 2⟩]
  asks := [⟨1001 / 10, 2⟩]

/-- A quarter asked for, a tenth of a second after the bar. -/
def simulatedCall : SimulationInputs Rat where
  session := simulatedSession
  review := { review "review-sim" (intent "intent-sim" "BTCUSDT" 59999) with
    intentVenue := "BINANCE_UM" }
  selectedBookFrame := some recordedFrame
  decidedAtMs := 60100
  requestedQuantity := .float (1 / 4)

/-- The policy, with a contract that wants a price cap of every approval. -/
def simulationPolicy : SimulationRiskPolicy Rat where
  source := "simulator-risk"
  decisionValid d := d.approved == d.priceCap.isSome
  source_normalized := by decide

/-- It comes to a lot and a cap. -/
theorem recorded_book_admitted :
    ∃ frame lot cap, InputsFit simulatedCall frame ∧ Sizes simulatedCall frame lot cap :=
  (simulator_admission simulationPolicy simulatedCall _
    (eq_ok_of_isSome (by decide +kernel))).2.1.mp (by decide +kernel)

/-- A tenth of the depth, and the next tick above 100.12002. -/
example : (simulationPolicy.evaluate simulatedCall).toOption.map (fun d => (d.quantity, d.priceCap))
    = some (1 / 5, some (1002 / 10)) := by decide +kernel

end Scenario

end KairosRisk
