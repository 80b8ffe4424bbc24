import KairosRisk.Canary
import KairosRisk.CanaryCodec
import KairosRisk.CanaryLot

/-!
# Reading a canary's instrument binding back

The builder computes with exact decimals. A positive one reads back from its
canonical text as it was (`legible_of_isDecimal`), so the codec of the metadata
loses nothing of what a prepared intent carries: the acceptor reads the rule and
the quantity back (`boundCanaryInstrument_prepared`), and takes the same
quantity at the same price (`boundCanaryQuantity_prepared`).
-/

namespace KairosRisk

open PyLib EvedexDevInstrumentRule

/-! ## Figures and their texts -/

/-- A positive decimal in canonical form is what `format` writes. -/
theorem canonicalDecimal_eq {v : Rat} (hpos : 0 < v) (h : IsDecimal v) :
    canonicalDecimal v = PyDecimal.formatF v := by
  obtain ⟨d, hformat, _⟩ := exists_plainDecimal hpos h
  have htext : String.ofList d.chars ≠ "" := by
    intro hempty
    exact d.chars_ne_nil (by simpa using congrArg String.toList hempty)
  have hsign : String.ofList d.chars ≠ "-0" := by
    intro hzero
    have hchars : d.chars = ['-', '0'] := by simpa using congrArg String.toList hzero
    -- a sign is neither a digit nor the point
    rcases d.mem_chars (c := '-') (hchars ▸ List.mem_cons_self) with hc | hc
    · exact absurd hc (by decide)
    · exact absurd hc (by decide)
  rw [canonicalDecimal, hformat, String.toList_ofList, d.contains_point]
  by_cases hnil : d.fraction = []
  · simp [hnil, htext, hsign]
  · have hstrip := d.rstrip_chars hnil
    simp [hnil, hstrip, htext, hsign]

/-- A positive decimal is what its canonical text spells. -/
theorem legible_of_isDecimal {v : Rat} (hpos : 0 < v) (h : IsDecimal v) : Legible v := by
  refine ⟨?_, isPositive_iff_pos.mpr hpos, rfl⟩
  rw [canonicalDecimal_eq hpos h]
  exact parse_formatF hpos h

/-- A whole number of decimal steps is a decimal. -/
theorem isDecimal_of_multiple {step v : Rat} (hstep : IsDecimal step) (h : Multiple step v) :
    IsDecimal v := by
  obtain ⟨n, rfl⟩ := h
  exact (IsDecimal.ofInt n).mul hstep

/-! ## The intent -/

variable {F : Type} {core : KairosCore F} {accountId : String}

/-- Rebuilding a coherent rule gives a coherent rule. -/
theorem EvedexDevInstrumentRule.Coherent.refetched {rule : EvedexDevInstrumentRule Rat}
    (h : rule.Coherent core) : rule.refetched.Coherent core :=
  { h with fetchedAtMs := h.updatedAtMs }

/-- What a prepared intent writes is the encoding of the rebuilt rule. -/
theorem encoded_of_prepared {metadata : List (String × String)} {rule : EvedexDevInstrumentRule Rat}
    {quantity : Rat}
    (h : metadata = purposeItems accountId ++ sortedPairs (rule.texts core quantity)) :
    metadata.Perm (encoding core accountId rule.refetched quantity) := by
  rw [h]
  -- the fetch time is in no text
  exact (sortedPairs_perm _).append_left _

/-- The acceptor reads the rule and the quantity of a prepared intent back. -/
theorem boundCanaryInstrument_prepared {intent : StrategyIntentV1 F} {quantity price : Rat}
    {instrument : InstrumentRule core}
    (hmetadata : intent.metadata = purposeItems accountId
      ++ sortedPairs (instrument.toEvedexDevInstrumentRule.texts core quantity))
    (hevidence : (intent.evidence.filter fun item => item.kind == "venue_instrument")
      = [instrument.toEvedexDevInstrumentRule.evidence core])
    (hprintable : instrument.toEvedexDevInstrumentRule.Printable)
    (hquantity : instrument.toEvedexDevInstrumentRule.effectiveMinQuantity price = .ok quantity) :
    boundCanaryInstrument core intent accountId
      = .ok (instrument.toEvedexDevInstrumentRule.refetched, quantity) := by
  obtain ⟨_, _, _, ⟨⟨hmultiple, hge, _⟩, _⟩, hle⟩ :=
    (effectiveMinQuantity_eq_iff instrument.valid).mp hquantity
  obtain ⟨hcoherent, hgrid⟩ := postInit_ok_iff.mp instrument.valid
  have hdecimals := instrument.decimals
  generalize instrument.toEvedexDevInstrumentRule = rule at *
  have hfigures : ∀ v ∈ rule.figures, 0 < v :=
    fun v hv => isPositive_iff_pos.mp (hcoherent.figures v hv)
  have hstep : 0 < rule.quantityIncrement := hfigures _ (by simp [figures])
  have hpos : 0 < quantity := lt_of_lt_of_le (hfigures _ (by simp [figures])) hge
  have hencoded := encoded_of_prepared hmetadata
  have hkeys : (intent.metadata.map Prod.fst).Nodup :=
    ((hencoded.map Prod.fst).nodup_iff).mpr encoding_nodup
  have hlegible : Legible quantity :=
    legible_of_isDecimal hpos (isDecimal_of_multiple (hdecimals _ (by simp [figures])) hmultiple)
  refine boundCanaryInstrument_ok_iff.mpr (binds_of_encoded hkeys hencoded hprintable
    (fun v hv => legible_of_isDecimal (hfigures v hv) (hdecimals v hv)) hlegible ?_)
  exact ⟨hcoherent.refetched, ⟨hgrid.minPrice, hgrid.maxPrice, hgrid.minQuantity⟩, rfl, hevidence,
    decide_eq_false (not_lt.mpr hge), decide_eq_false (not_lt.mpr hle),
    (aligned_iff hstep).mpr hmultiple⟩

/-- At the entry price the quantity was taken at, the acceptor takes it again,
and refuses it only when it is no positive float. -/
theorem boundCanaryQuantity_prepared [PyFloat F] [Spelling F Rat]
    {intent : StrategyIntentV1 F} {rule : EvedexDevInstrumentRule Rat} {quantity : Rat} {price : F}
    (hbound : boundCanaryInstrument core intent accountId
      = .ok (rule.refetched, quantity))
    (hquantity : rule.effectiveMinQuantity (Spelling.spell price) = .ok quantity) :
    boundCanaryQuantity Rat core intent accountId price
      = if PyFloat.isFinite (Spelling.toFloat quantity : F) = true
          ∧ ¬(Spelling.toFloat quantity : F) ≤ PyFloat.lit 0
        then .ok (Spelling.toFloat quantity)
        else .error (.valueError "technical canary quantity is not representable") := by
  have hagain : rule.refetched.effectiveMinQuantity (Spelling.spell price) = .ok quantity :=
    hquantity
  have hsame : PyDecimal.eqv quantity quantity = true := decide_eq_true rfl
  unfold boundCanaryQuantity
  rw [hbound, ok_bind]
  dsimp only
  -- the lot taken again is the one that was bound, so only the float can fail
  rw [hagain, ok_bind, raiseIf_bind (by rw [hsame]; rfl)]
  split
  next hok =>
    rw [raiseIf_bind (by simp [hok.1, hok.2])]
    rfl
  next hnot =>
    have hrefused : (!PyFloat.isFinite (Spelling.toFloat quantity : F)
        || decide ((Spelling.toFloat quantity : F) ≤ PyFloat.lit 0)) = true := by
      rw [Bool.or_eq_true, Bool.not_eq_true', decide_eq_true_eq]
      by_cases hfinite : PyFloat.isFinite (Spelling.toFloat quantity : F) = true
      · exact Or.inr (Decidable.not_not.mp fun hle => hnot ⟨hfinite, hle⟩)
      · exact Or.inl (Bool.eq_false_iff.mpr hfinite)
    rw [hrefused]
    rfl

end KairosRisk
