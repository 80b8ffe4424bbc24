import KairosRisk.CanaryBinding
import KairosRisk.Scenario

/-!
# What the canary builder writes, its validators accept

The builder and the acceptors of a canary share no code past the instrument
rule itself, and compare some thirty fields, two hashed payloads and the
timings one derives from the other. They agree on every canary that can be
prepared (`canary_builder_agrees`), up to the one thing the builder does not
look at: whether the quantity is a float at all.
-/

namespace KairosRisk

open PyLib

/-! ## The messages -/

section Prepared

open EvedexDevInstrumentRule

variable {F : Type} [PyFloat F] [Spelling F Rat] {core : CanaryCore F}

/-- What the builder writes into an intent. -/
structure Prepared (core : CanaryCore F) (plan : CanaryPlan core.toKairosCore)
    (bar : ClosedBarEventV1 F) (instrument : InstrumentRule core.toKairosCore)
    (accountId : String) (price : F) (intent : StrategyIntentV1 F) (barHash : String)
    (quantity : Rat) : Prop where
  source : intent.source = canarySource
  strategyId : intent.strategyId = paperCanaryStrategyId
  strategyRevision : intent.strategyRevision = canaryStrategyRevision
  symbol : intent.symbol = bar.symbol
  side : intent.side = plan.side
  decisionTsMs : intent.decisionTsMs = bar.closeTimeMs
  signalStrength : intent.signalStrength = PyFloat.lit 0
  intentId : intent.intentId = some intent.messageId
  bars : intent.provenance.inputBarSha256s = [barHash]
  evidence : ∃ openTime, intent.evidence =
    [{ kind := "closed_bar", reference := "BINANCE_UM:" ++ bar.symbol ++ ":" ++ openTime
       contentSha256 := some barHash, observedAtMs := bar.closeTimeMs },
      instrument.toEvedexDevInstrumentRule.evidence core.toKairosCore]
  metadata : intent.metadata = purposeItems accountId
    ++ sortedPairs (instrument.toEvedexDevInstrumentRule.texts core.toKairosCore quantity)
  printable : instrument.toEvedexDevInstrumentRule.Printable
  quantity : instrument.toEvedexDevInstrumentRule.effectiveMinQuantity (Spelling.spell price)
    = .ok quantity

omit [PyFloat F] [Spelling F Rat] in
theorem barReference_ok {bar : ClosedBarEventV1 F} {reference : String}
    (h : barReference bar = .ok reference) :
    ∃ openTime, reference = "BINANCE_UM:" ++ bar.symbol ++ ":" ++ openTime := by
  unfold barReference at h
  obtain ⟨openTime, _, h⟩ := ok_of_bind h
  cases h
  exact ⟨openTime, rfl⟩

variable {plan : CanaryPlan core.toKairosCore} {accountId : String}

theorem buildIntent_ok {bar : ClosedBarEventV1 F} {venue : VenueQualityV1 F}
    {instrument : InstrumentRule core.toKairosCore} {intent : StrategyIntentV1 F}
    (hcore : core.Contract)
    (h : buildIntent core plan bar venue instrument accountId = .ok intent) :
    ∃ barHash quantity, Prepared core plan bar instrument accountId
      (canaryWorstEntry plan.side venue) intent barHash quantity := by
  unfold buildIntent at h
  dsimp only at h
  obtain ⟨barHash, _, h⟩ := ok_of_bind h
  obtain ⟨quantity, hquantity, h⟩ := ok_of_bind h
  obtain ⟨reference, hreference, h⟩ := ok_of_bind h
  obtain ⟨metadata, hmetadata, h⟩ := ok_of_bind h
  obtain ⟨openTime, rfl⟩ := barReference_ok hreference
  obtain ⟨hprintable, hsorted⟩ := metadata_ok_iff.mp hmetadata
  rw [hsorted] at h
  have hmade := orInvalid_ok h
  obtain ⟨contractVersion, id, hintent⟩ := hcore.intent _ _ hmade
  subst hintent
  exact ⟨barHash, quantity, rfl, rfl, rfl, rfl, rfl, rfl, rfl, rfl, rfl, ⟨openTime, rfl⟩, rfl,
    hprintable, hquantity⟩

omit [Spelling F Rat] in
/-- Facts that passed are about the plan's own symbol and instrument. -/
theorem validateInputs_ok {inputs : CanaryInputs core.toKairosCore} {nowMs maxAgeMs : Int}
    (h : validateInputs plan inputs accountId nowMs maxAgeMs = .ok ()) :
    inputs.bar.symbol = plan.symbol ∧ inputs.instrument.venueSymbol = plan.venueSymbol := by
  unfold validateInputs at h
  obtain ⟨hsymbol, h⟩ := ok_of_preflightIf h
  iterate 14 obtain ⟨_, h⟩ := ok_of_preflightIf h
  obtain ⟨hvenue, _⟩ := ok_of_preflightIf h
  exact ⟨Decidable.not_not.mp (of_decide_eq_false hsymbol),
    Decidable.not_not.mp (of_decide_eq_false hvenue)⟩

/-- The route of an intent, as it is stored. -/
def storedRoute (bar : ClosedBarEventV1 F) (intent : StrategyIntentV1 F) : CandidateRouteV1 F :=
  { preparedRoute bar intent with
    evidenceIds := sortedNames (preparedRoute bar intent).evidenceIds }

/-- The review of an intent, as it is stored. -/
def storedReview (bar : ClosedBarEventV1 F) (intent : StrategyIntentV1 F) (id : String) :
    CandidateReviewV1 F :=
  (preparedReview intent (storedRoute bar intent)).review id

/-- A canary that was prepared is made of an intent, and of a review and an
allocation built on it. -/
theorem prepareCanary_ok {inputs : CanaryInputs core.toKairosCore} {nowMs maxAgeMs : Int}
    {allocationMaxAgeS : F} {prepared : PreparedCanary F} (hcore : core.Contract)
    (h : prepareCanary core plan inputs accountId nowMs maxAgeMs allocationMaxAgeS = .ok prepared) :
    ∃ intent barHash quantity,
      Prepared core plan inputs.bar inputs.instrument accountId
        (canaryWorstEntry plan.side inputs.venue) intent barHash quantity ∧
      inputs.bar.symbol = plan.symbol ∧ inputs.instrument.venueSymbol = plan.venueSymbol ∧
      (∃ id, prepared.review = storedReview inputs.bar intent id) ∧
      ∃ producedAt : DateTime, producedAt.aware = true ∧
        producedAt.epochMs F = intent.entryEligibleTsMs ∧
        prepared.allocation = (preparedAllocation core intent plan producedAt).allocation := by
  unfold prepareCanary at h
  obtain ⟨_, h⟩ := ok_of_raiseIf h
  obtain ⟨_, hinputs, h⟩ := ok_of_bind h
  obtain ⟨intent, hintent, h⟩ := ok_of_bind h
  obtain ⟨_, _, h⟩ := ok_of_bind h
  obtain ⟨route, hroute, h⟩ := ok_of_bind h
  obtain ⟨review, hreview, h⟩ := ok_of_bind h
  obtain ⟨allocation, hallocation, h⟩ := ok_of_bind h
  obtain ⟨status, _, h⟩ := ok_of_bind h
  cases h
  obtain ⟨barHash, quantity, hprepared⟩ := buildIntent_ok hcore hintent
  obtain ⟨hsymbol, hvenue⟩ := validateInputs_ok hinputs
  unfold buildCanaryAllocation at hallocation
  obtain ⟨producedAt, hproducedAt, hallocation⟩ := ok_of_bind hallocation
  obtain ⟨haware, hepoch⟩ := hcore.datetime _ _ (orInvalid_ok hproducedAt)
  -- the review was given the route as the contract stores it, evidence sorted
  have hstored := hcore.route _ _ (orInvalid_ok hroute)
  rw [hstored] at hreview
  exact ⟨intent, barHash, quantity, hprepared, hsymbol, hvenue,
    hcore.review _ _ (orInvalid_ok hreview), producedAt, haware, hepoch,
    hcore.allocation _ _ (orInvalid_ok hallocation)⟩

variable {bar : ClosedBarEventV1 F} {instrument : InstrumentRule core.toKairosCore} {price : F}
  {intent : StrategyIntentV1 F} {barHash : String} {quantity : Rat}

/-- The rule and the quantity of a prepared intent. -/
theorem Prepared.bound
    (h : Prepared core plan bar instrument accountId price intent barHash quantity) :
    boundCanaryInstrument core.toKairosCore intent accountId
      = .ok (instrument.toEvedexDevInstrumentRule.refetched, quantity) := by
  obtain ⟨openTime, hevidence⟩ := h.evidence
  have hvenue : (intent.evidence.filter fun item => item.kind == "venue_instrument")
      = [instrument.toEvedexDevInstrumentRule.evidence core.toKairosCore] := by
    rw [hevidence]
    rfl
  exact boundCanaryInstrument_prepared h.metadata hvenue h.printable h.quantity

/-- A prepared canary carries the least legal lot, and at its own entry price the
acceptor takes that lot again. -/
theorem prepared_quantity {inputs : CanaryInputs core.toKairosCore} {nowMs maxAgeMs : Int}
    {allocationMaxAgeS : F} {prepared : PreparedCanary F} (hcore : core.Contract)
    (h : prepareCanary core plan inputs accountId nowMs maxAgeMs allocationMaxAgeS = .ok prepared) :
    ∃ quantity : Rat,
      inputs.instrument.toEvedexDevInstrumentRule.effectiveMinQuantity
        (Spelling.spell (canaryWorstEntry plan.side inputs.venue)) = .ok quantity ∧
      (dictOfPairs prepared.review.intent.metadata).get? "canary_quantity"
        = some (canonicalDecimal quantity) ∧
      boundCanaryQuantity Rat core.toKairosCore prepared.review.intent accountId
          (canaryWorstEntry plan.side inputs.venue)
        = if PyFloat.isFinite (Spelling.toFloat quantity : F) = true
            ∧ ¬(Spelling.toFloat quantity : F) ≤ PyFloat.lit 0
          then .ok (Spelling.toFloat quantity)
          else .error (.valueError "technical canary quantity is not representable") := by
  obtain ⟨intent, barHash, quantity, hintent, _, _, ⟨id, hreview⟩, _⟩ := prepareCanary_ok hcore h
  rw [hreview]
  refine ⟨quantity, hintent.quantity, ?_,
    boundCanaryQuantity_prepared hintent.bound hintent.quantity⟩
  exact get?_of_encoded (encoded_of_prepared hintent.metadata) (by simp [encoding, texts])

variable [DecidableEq F]

theorem Prepared.evidenceExact
    (h : Prepared core plan bar instrument accountId price intent barHash quantity) (id : String) :
    canaryEvidenceExact (storedReview bar intent id)
      (instrument.toEvedexDevInstrumentRule.rulesSha256 core.toKairosCore) = true := by
  obtain ⟨openTime, hevidence⟩ := h.evidence
  have hbars : (intent.evidence.filter fun item => item.kind == "closed_bar")
      = [{ kind := "closed_bar", reference := "BINANCE_UM:" ++ bar.symbol ++ ":" ++ openTime
           contentSha256 := some barHash, observedAtMs := bar.closeTimeMs }] := by
    rw [hevidence]
    rfl
  have hids : (preparedRoute bar intent).evidenceIds
      = [barHash, instrument.toEvedexDevInstrumentRule.rulesSha256 core.toKairosCore] := by
    rw [preparedRoute, hevidence]
    rfl
  -- the bar's reference begins with the intent's symbol, whatever its time is
  have hstarts : ("BINANCE_UM:" ++ intent.symbol ++ ":").toList.isPrefixOf
      ("BINANCE_UM:" ++ bar.symbol ++ ":" ++ openTime).toList = true := by
    have hsplit : ("BINANCE_UM:" ++ bar.symbol ++ ":" ++ openTime).toList
        = ("BINANCE_UM:" ++ bar.symbol ++ ":").toList ++ openTime.toList := String.toList_append
    rw [h.symbol, hsplit, List.isPrefixOf_iff_prefix]
    exact List.prefix_append _ _
  unfold canaryEvidenceExact
  dsimp only [storedReview, storedRoute, preparedReview, CandidateReviewFields.review]
  rw [h.bars, hbars, hids]
  dsimp only [preparedRoute]
  rw [hstarts, h.signalStrength, h.decisionTsMs]
  simp [hevidence]

/-- The allocation of a prepared intent is the fixed policy, under its own identity. -/
theorem Prepared.allocationValid
    (h : Prepared core plan bar instrument accountId price intent barHash quantity) (id : String)
    {producedAt : DateTime} (haware : producedAt.aware = true)
    (hepoch : producedAt.epochMs F = intent.entryEligibleTsMs) :
    validateCanaryAllocation core.toKairosCore
      (preparedAllocation core intent plan producedAt).allocation
      (storedReview bar intent id) = .ok () := by
  -- the validator assembles the payload the builder hashed
  have hidentity : allocationIdentity core.toKairosCore
      (preparedAllocation core intent plan producedAt).allocation
        = .ok (preparedAllocation core intent plan producedAt).messageId := by
    unfold allocationIdentity preparedAllocation StrategicAllocationFields.allocation
    dsimp only
    rw [haware, hepoch]
    rfl
  unfold validateCanaryAllocation
  dsimp only [storedReview, preparedReview, CandidateReviewFields.review]
  rw [raiseIf_bind (by simp [preparedAllocation, StrategicAllocationFields.allocation]), hidentity,
    ok_bind, raiseIf_ne_bind (by rfl), raiseIf_ne_bind (by rfl), raiseIf_ne_bind (by rfl),
    raiseIf_ne_bind (by rfl), raiseIf_ne_bind (by rfl), raiseIf_ne_bind (by rw [h.side]; rfl),
    raiseIf_ne_bind (by exact hepoch), raiseIf_ne_bind (by rfl)]
  simp [raiseIf, preparedAllocation, StrategicAllocationFields.allocation]

/-- A prepared canary is the exact policy its validator asks for. -/
theorem Prepared.bindingValid
    (h : Prepared core plan bar instrument accountId price intent barHash quantity) (id : String)
    (hsymbol : bar.symbol = plan.symbol) (hvenue : instrument.venueSymbol = plan.venueSymbol)
    {producedAt : DateTime} (haware : producedAt.aware = true)
    (hepoch : producedAt.epochMs F = intent.entryEligibleTsMs) :
    validateCanaryBinding Rat core.toKairosCore (storedReview bar intent id)
      (preparedAllocation core intent plan producedAt).allocation accountId = .ok () := by
  have hinstrument : canaryInstrument Rat core.toKairosCore intent accountId
      = .ok (instrument.toEvedexDevInstrumentRule.refetched, quantity) := by
    rw [canaryInstrument, h.bound]
  have hmapped : some instrument.venueSymbol = paperDevSymbol intent.symbol := by
    rw [h.symbol, hsymbol, hvenue, CanaryPlan.venueSymbol, Option.some_get]
  have hexact := h.evidenceExact id
  unfold validateCanaryBinding
  rw [raiseIf_ne_bind (by rfl),
    raiseIf_bind (by simp [storedReview, storedRoute, preparedReview, CandidateReviewFields.review,
      preparedRoute, h.source]),
    raiseIf_bind (by rfl), raiseIf_ne_bind (by rfl), raiseIf_bind (by rfl),
    raiseIf_ne_bind (by rfl),
    raiseIf_bind (by simp [storedReview, preparedReview, CandidateReviewFields.review, h.strategyId,
      h.strategyRevision]),
    raiseIf_bind (by simp [storedReview, preparedReview, CandidateReviewFields.review, h.intentId])]
  show (canaryInstrument Rat core.toKairosCore intent accountId >>= _) = _
  rw [hinstrument, ok_bind]
  dsimp only
  rw [raiseIf_ne_bind (by exact hmapped), raiseIf_bind (by rw [Bool.not_eq_false']; exact hexact)]
  exact h.allocationValid id haware hepoch

/-- **The canary builder and its validators agree.** Whatever plan, facts,
account and time a canary is prepared from, its binding validates; and at the
entry price it was prepared at, the acceptor returns the prepared quantity as a
float, unless that is not a positive finite one. -/
theorem canary_builder_agrees (core : CanaryCore F) (hcore : core.Contract)
    (plan : CanaryPlan core.toKairosCore) (inputs : CanaryInputs core.toKairosCore)
    (accountId : String) (nowMs accountMaxAgeMs : Int) (allocationMaxAgeS : F)
    (prepared : PreparedCanary F)
    (hprepared : prepareCanary core plan inputs accountId nowMs accountMaxAgeMs allocationMaxAgeS
      = .ok prepared) :
    validateCanaryBinding Rat core.toKairosCore prepared.review prepared.allocation accountId
      = .ok () ∧
    ∃ quantity : Rat,
      inputs.instrument.toEvedexDevInstrumentRule.effectiveMinQuantity
        (Spelling.spell (canaryWorstEntry plan.side inputs.venue)) = .ok quantity ∧
      (dictOfPairs prepared.review.intent.metadata).get? "canary_quantity"
        = some (canonicalDecimal quantity) ∧
      boundCanaryQuantity Rat core.toKairosCore prepared.review.intent accountId
          (canaryWorstEntry plan.side inputs.venue)
        = if PyFloat.isFinite (Spelling.toFloat quantity : F) = true
            ∧ ¬(Spelling.toFloat quantity : F) ≤ PyFloat.lit 0
          then .ok (Spelling.toFloat quantity)
          else .error (.valueError "technical canary quantity is not representable") := by
  refine ⟨?_, prepared_quantity hcore hprepared⟩
  obtain ⟨intent, barHash, quantity, hintent, hsymbol, hvenue, ⟨id, hreview⟩, producedAt, haware,
    hepoch, hallocation⟩ := prepareCanary_ok hcore hprepared
  rw [hreview, hallocation]
  exact hintent.bindingValid id hsymbol hvenue haware hepoch

end Prepared

/-! ## Two canaries

A plan to buy at the close of a bar, prepared at 60400. Under the ordinary rule
the least lot is a twentieth; under the other it is ten to the minus 400, which
every check of the rule and of the builder lets pass, and which is no float. -/

namespace Scenario

open EvedexDevInstrumentRule

/-- The contracts package, as far as one canary goes. -/
def canaryCore : CanaryCore Rat where
  toKairosCore := core [] fun _ => digest 'a'
  strategyIntentV1 f := some (f.intent "strategy-intent.v1" "intent-canary")
  candidateRouteV1 f := some { f with evidenceIds := sortedNames f.evidenceIds }
  candidateReviewV1 f := some (f.review "review-canary")
  strategicAllocation f := some f.allocation
  datetimeFromUnixMs ms := some { aware := true, us := ms * 1000 }
  fromTimestamp seconds := some { aware := true, us := (seconds * 1000000).floor }
  decimalText := canonicalDecimal
  strategyCodeSha256 := digest 'b'

theorem canaryCore_contract : canaryCore.Contract where
  intent f intent h := ⟨_, _, (Option.some.inj h).symm⟩
  route f route h := (Option.some.inj h).symm
  review f review h := ⟨_, (Option.some.inj h).symm⟩
  allocation f allocation h := (Option.some.inj h).symm
  datetime ms at' h := by
    rw [← Option.some.inj h]
    exact ⟨rfl, Int.mul_tdiv_cancel _ (by decide)⟩

/-- A long plan within its bounds. -/
def canaryPlan : CanaryPlan canaryCore.toKairosCore where
  symbol := "BTCUSDT"
  side := .long
  stopDistanceBps := 50
  targetDistanceBps := 75
  maxHoldingMs := 300000
  entryWindowMs := 30000
  valid := by decide +kernel

/-- An instrument that trades from one price step up, in lots of one size. -/
def canaryRule (lot minVolumeUsd : Rat) : EvedexDevInstrumentRule Rat where
  venueSymbol := "BTCUSD:DEV"
  trading := "all"
  marketState := "OPEN"
  updatedAtMs := 50000
  lotSize := 1
  priceIncrement := 1 / 100
  quantityIncrement := lot
  multiplier := 1
  minVolumeUsd := minVolumeUsd
  minPrice := 1 / 100
  maxPrice := 1000000
  minQuantity := lot
  maxQuantity := 1000
  fetchedAtMs := 60000

/-- Figures whose denominators divide a power of ten are decimals. -/
theorem decimals_of_dvd {rule : EvedexDevInstrumentRule Rat} (k : Nat)
    (h : rule.figures.all (fun v => decide (v.den ∣ 10 ^ k)) = true) :
    ∀ v ∈ rule.figures, IsDecimal v := by
  intro v hv
  exact ⟨k, of_decide_eq_true (List.all_eq_true.mp h v hv)⟩

/-- The facts at 60400, under a rule. -/
def canaryInputs (instrument : InstrumentRule canaryCore.toKairosCore) :
    CanaryInputs canaryCore.toKairosCore where
  bar :=
    { symbol := "BTCUSDT", openTimeMs := 0, closeTimeMs := 59999, close := 100
      barSha256 := some (digest 'd'), barSha256_isSome := rfl }
  venue := venue "BTCUSD:DEV" 60300
  account := account 1 60200
  instrument := instrument
  currentAllocation := none
  activeReservationIds := []

/-- The ordinary rule. -/
def ordinaryRule : InstrumentRule canaryCore.toKairosCore where
  toEvedexDevInstrumentRule := canaryRule (1 / 1000) 5
  valid := by decide +kernel
  decimals := decimals_of_dvd 3 (by decide +kernel)

/-- The rule of the smallest lots. -/
def dustRule : InstrumentRule canaryCore.toKairosCore where
  toEvedexDevInstrumentRule := canaryRule (1 / 10 ^ 400) (1 / 10 ^ 400)
  valid := by decide +kernel
  decimals := decimals_of_dvd 400 (by decide +kernel)

/-- Under the ordinary rule a twentieth is prepared, validated and taken again. -/
theorem ordinary_canary_binds : ∃ prepared : PreparedCanary Rat,
    prepareCanary canaryCore canaryPlan (canaryInputs ordinaryRule) "kairos-paper-dev-01" 60400
      30000 93600 = .ok prepared ∧
    validateCanaryBinding Rat canaryCore.toKairosCore prepared.review prepared.allocation
      "kairos-paper-dev-01" = .ok () ∧
    boundCanaryQuantity Rat canaryCore.toKairosCore prepared.review.intent "kairos-paper-dev-01"
      (10001 / 100 : Rat) = .ok (1 / 20) := by
  have made : prepareCanary canaryCore canaryPlan (canaryInputs ordinaryRule)
      "kairos-paper-dev-01" 60400 30000 93600 = .ok _ := eq_ok_of_isSome (by decide +kernel)
  obtain ⟨hvalid, quantity, hquantity, _, hbound⟩ := canary_builder_agrees canaryCore
    canaryCore_contract canaryPlan (canaryInputs ordinaryRule) "kairos-paper-dev-01" 60400 30000
    93600 _ made
  have htwentieth : ordinaryRule.toEvedexDevInstrumentRule.effectiveMinQuantity (10001 / 100)
      = .ok (1 / 20) := by decide +kernel
  have hsame : quantity = 1 / 20 := Except.ok.inj (hquantity.symm.trans htwentieth)
  rw [hsame] at hbound
  exact ⟨_, made, hvalid, hbound.trans (if_pos (by decide +kernel))⟩

/-- Floats that vanish at half of the least subnormal double. -/
@[reducible] def vanishing : Spelling Rat Rat where
  spell := id
  toFloat v := if PyDecimal.abs v ≤ 1 / 2 ^ 1075 then 0 else v

/-- Under the smallest lots the canary is prepared, and Risk refuses its quantity
at the very price it was prepared at. -/
theorem dust_canary_refused : ∃ prepared : PreparedCanary Rat,
    @prepareCanary Rat _ vanishing canaryCore canaryPlan (canaryInputs dustRule)
      "kairos-paper-dev-01" 60400 30000 93600 = .ok prepared ∧
    @boundCanaryQuantity Rat Rat _ _ vanishing canaryCore.toKairosCore prepared.review.intent
      "kairos-paper-dev-01" (10001 / 100)
      = .error (.valueError "technical canary quantity is not representable") := by
  have made : @prepareCanary Rat _ vanishing canaryCore canaryPlan (canaryInputs dustRule)
      "kairos-paper-dev-01" 60400 30000 93600 = .ok _ := eq_ok_of_isSome (by decide +kernel)
  obtain ⟨quantity, hquantity, _, hbound⟩ :=
    @prepared_quantity Rat _ vanishing canaryCore canaryPlan
    "kairos-paper-dev-01" (canaryInputs dustRule) 60400 30000 93600 _ canaryCore_contract made
  have hdust : dustRule.toEvedexDevInstrumentRule.effectiveMinQuantity (10001 / 100)
      = .ok (1 / 10 ^ 400) := by decide +kernel
  have hsame : quantity = 1 / 10 ^ 400 := Except.ok.inj (hquantity.symm.trans hdust)
  rw [hsame] at hbound
  exact ⟨_, made, hbound.trans (if_neg (by decide +kernel))⟩

end Scenario

end KairosRisk
