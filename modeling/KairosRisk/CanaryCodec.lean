import KairosRisk.CanaryReading
import KairosRisk.Lib.Decimal
import KairosRisk.Scenario
import Mathlib.Data.List.Nodup

/-!
# The metadata of a canary is a codec

A rule and a quantity are written as texts, and `bound_canary_instrument` reads
texts. What it reads is exactly what is written: with distinct keys, an intent
binds a rule and a quantity when its metadata are a rearrangement of their texts
(`binds_iff`). A decimal comes back with its value and another exponent, in the
spelling of its canonical text (`Decimal.reread`).
-/

namespace KairosRisk

open PyLib

/-! ## Pairs and their dictionary -/

/-- Pairs with distinct names are a rearrangement of others when they have their
names, and their dictionary their values. -/
theorem perm_iff_entries {pairs written : List (String × String)}
    (hpairs : (pairs.map Prod.fst).Nodup) (hwritten : (written.map Prod.fst).Nodup) :
    pairs.Perm written ↔ (∀ key, key ∈ pairs.map Prod.fst ↔ key ∈ written.map Prod.fst) ∧
      ∀ p ∈ written, entry (dictOfPairs pairs) p.1 = p.2 := by
  have hget : ∀ {key value}, (dictOfPairs pairs).get? key = some value ↔ (key, value) ∈ pairs := by
    intro key value
    rw [OrderedDict.get?_eq_some, dictOfPairs_items hpairs]
  constructor
  · intro hperm
    refine ⟨fun key => (hperm.map Prod.fst).mem_iff, ?_⟩
    intro p hp
    rw [entry, hget.mpr (hperm.mem_iff.mpr hp), Option.getD_some]
  · rintro ⟨hnames, hentries⟩
    -- a written pair is there, and no other under its name
    have hsub : ∀ p ∈ written, p ∈ pairs := by
      intro p hp
      have hname : p.1 ∈ pairs.map Prod.fst := (hnames p.1).mpr (List.mem_map_of_mem hp)
      obtain ⟨⟨key, value⟩, hmem, hkey⟩ := List.mem_map.mp hname
      have hvalue := hentries p hp
      rw [entry, ← hkey, hget.mpr hmem, Option.getD_some] at hvalue
      have hsame : (key, value) = p := Prod.ext hkey hvalue
      exact hsame ▸ hmem
    rw [List.perm_ext_iff_of_nodup (List.Nodup.of_map _ hpairs) (List.Nodup.of_map _ hwritten)]
    refine fun p => ⟨fun hp => ?_, hsub p⟩
    have hname : p.1 ∈ written.map Prod.fst := (hnames p.1).mp (List.mem_map_of_mem hp)
    obtain ⟨q, hq, hkey⟩ := List.mem_map.mp hname
    have hone := hget.mpr (hsub q hq)
    rw [hkey, hget.mpr hp] at hone
    have hsame : p = q := Prod.ext hkey.symm (Option.some.inj hone)
    exact hsame ▸ hq

/-! ## What is written -/

namespace EvedexDevInstrumentRule

variable {F D : Type} [PyDecimal D] {core : KairosCore F} {rule : EvedexDevInstrumentRule D}
  {quantity : D}

/-- The rule as the acceptor rebuilds it: fetched when it was updated. -/
def refetched {D : Type} (rule : EvedexDevInstrumentRule D) : EvedexDevInstrumentRule D :=
  { rule with fetchedAtMs := rule.updatedAtMs }

/-- The texts of a rule and a quantity. -/
def texts (core : KairosCore F) (rule : EvedexDevInstrumentRule D) (quantity : D) :
    List (String × String) :=
  [("canary_entry_order", canaryEntryOrder), ("canary_quantity", canonicalDecimal quantity),
    ("instrument_rules_sha256", rule.rulesSha256 core)]
    ++ [("venue_lot_size", canonicalDecimal rule.lotSize),
      ("venue_market_state", rule.marketState),
      ("venue_max_price", canonicalDecimal rule.maxPrice),
      ("venue_max_quantity", canonicalDecimal rule.maxQuantity),
      ("venue_min_price", canonicalDecimal rule.minPrice),
      ("venue_min_quantity", canonicalDecimal rule.minQuantity),
      ("venue_min_volume_usd", canonicalDecimal rule.minVolumeUsd),
      ("venue_multiplier", canonicalDecimal rule.multiplier),
      ("venue_price_increment", canonicalDecimal rule.priceIncrement),
      ("venue_quantity_increment", canonicalDecimal rule.quantityIncrement),
      ("venue_symbol", rule.venueSymbol), ("venue_trading", rule.trading),
      ("venue_updated_at_ms", toString rule.updatedAtMs)]

/-- The update time is within the interpreter's bound on digits. -/
def Printable (rule : EvedexDevInstrumentRule D) : Prop :=
  ((toString rule.updatedAtMs).toList.filter Char.isDigit).length ≤ intMaxStrDigits

/-- The metadata are the texts, sorted, when the update time can be printed. -/
theorem metadata_ok_iff {pairs : List (String × String)} :
    rule.metadata core quantity = .ok pairs ↔
      rule.Printable ∧ pairs = sortedPairs (rule.texts core quantity) := by
  by_cases hshort : rule.Printable
  · have htext : intText rule.updatedAtMs = .ok (toString rule.updatedAtMs) := by
      rw [intText]
      exact if_neg (Nat.not_lt.mpr hshort)
    have hwritten : rule.metadata core quantity = .ok (sortedPairs (rule.texts core quantity)) := by
      simp [metadata, texts, rulePayload, metadataItem, htext, List.mapM_cons, ok_bind]
    rw [hwritten, Except.ok.injEq, and_iff_right hshort]
    exact eq_comm
  · have htext : intText rule.updatedAtMs = .error (.valueError
        ("Exceeds the limit (4300 digits) for integer string conversion; "
          ++ "use sys.set_int_max_str_digits() to increase the limit")) := by
      rw [intText]
      exact if_pos (Nat.lt_of_not_le hshort)
    have hrefused : ∃ e, rule.metadata core quantity = .error e :=
      ⟨_, by simp [metadata, rulePayload, metadataItem, htext, List.mapM_cons, ok_bind]; rfl⟩
    obtain ⟨e, he⟩ := hrefused
    rw [he]
    constructor
    · intro h
      cases h
    · rintro ⟨h, _⟩
      exact absurd h hshort

end EvedexDevInstrumentRule

/-! ## What is read is what is written -/

section Reading

open EvedexDevInstrumentRule

variable {F D : Type} [PyDecimal D] {core : KairosCore F} {intent : StrategyIntentV1 F}
  {accountId : String} {rule : EvedexDevInstrumentRule D} {quantity : D}

/-- The pairs the builder adds to those of the rule. -/
def purposeItems (accountId : String) : List (String × String) :=
  [("account_id", accountId), ("alpha_claim", "false"), ("entry_policy", "NEXT_BAR_MARKET"),
    ("purpose", "technical_execution_canary")]

/-- The metadata of a canary: the four fixed entries and the texts. -/
def encoding (core : KairosCore F) (accountId : String) (rule : EvedexDevInstrumentRule D)
    (quantity : D) : List (String × String) :=
  purposeItems accountId ++ rule.texts core quantity

theorem encoding_names : (encoding core accountId rule quantity).map Prod.fst
    = ["account_id", "alpha_claim", "entry_policy", "purpose", "canary_entry_order",
      "canary_quantity", "instrument_rules_sha256", "venue_lot_size", "venue_market_state",
      "venue_max_price", "venue_max_quantity", "venue_min_price", "venue_min_quantity",
      "venue_min_volume_usd", "venue_multiplier", "venue_price_increment",
      "venue_quantity_increment", "venue_symbol", "venue_trading", "venue_updated_at_ms"] := rfl

theorem encoding_nodup : ((encoding core accountId rule quantity).map Prod.fst).Nodup := by
  rw [encoding_names]
  decide +kernel

/-- What is encoded is what the dictionary holds. -/
theorem get?_of_encoded {pairs : List (String × String)}
    (hperm : pairs.Perm (encoding core accountId rule quantity)) {key value : String}
    (h : (key, value) ∈ encoding core accountId rule quantity) :
    (dictOfPairs pairs).get? key = some value := by
  have hkeys : (pairs.map Prod.fst).Nodup := ((hperm.map Prod.fst).nodup_iff).mpr encoding_nodup
  rw [OrderedDict.get?_eq_some, dictOfPairs_items hkeys]
  exact hperm.mem_iff.mpr h

/-- The names of the encoding are the keys the metadata must have. -/
theorem keys_exact_iff {metadata : OrderedDict String String} :
    (metadata.keys.all canaryMetadataKeys.contains
      && canaryMetadataKeys.all metadata.keys.contains) = true ↔
      ∀ key, key ∈ metadata.keys ↔ key ∈ (encoding core accountId rule quantity).map Prod.fst := by
  have hsame : ∀ key, key ∈ canaryMetadataKeys ↔
      key ∈ (encoding core accountId rule quantity).map Prod.fst := by
    have hperm :
        canaryMetadataKeys.Perm ((encoding core accountId rule quantity).map Prod.fst) := by
      rw [encoding_names]
      decide +kernel
    exact fun key => hperm.mem_iff
  simp only [← hsame, Bool.and_eq_true, List.all_eq_true, List.contains_eq_mem, decide_eq_true_eq]
  exact ⟨fun h key => ⟨h.1 key, h.2 key⟩, fun h => ⟨fun key => (h key).mp, fun key => (h key).mpr⟩⟩

/-- The decimal is what its own canonical text spells. -/
def Legible (v : D) : Prop := Spelled (canonicalDecimal v) v

/-- A number that was read from its own text can be printed. -/
theorem printable_of_intOfText {n : Int} (hn : 0 ≤ n) (h : intOfText (toString n) = some n) :
    ((toString n).toList.filter Char.isDigit).length ≤ intMaxStrDigits := by
  obtain ⟨m, rfl⟩ := Int.eq_ofNat_of_zero_le hn
  have htext : (toString (m : Int)).toList = Nat.toDigits 10 m := by
    rw [Int.toString_eq_repr, Int.repr_eq_if, if_pos hn]
    exact Nat.toList_repr
  have hd := allDigits_toDigits m
  have hreverse : AllDigits (Nat.toDigits 10 m).reverse := fun c hc => hd c (List.mem_reverse.mp hc)
  refine Nat.le_of_not_lt fun hlong => ?_
  rw [htext] at hlong
  simp only [intOfText, htext, lstripSpaces_digits hd, lstripSpaces_digits hreverse,
    List.reverse_reverse] at h
  rw [if_pos hlong] at h
  cases h

/-- The conditions of a binding that are not about its texts. -/
structure Sellable (core : KairosCore F) (intent : StrategyIntentV1 F)
    (rule : EvedexDevInstrumentRule D) (quantity : D) : Prop where
  coherent : rule.Coherent core
  onGrid : rule.OnGrid
  refetched : rule.fetchedAtMs = rule.updatedAtMs
  evidence : (intent.evidence.filter fun item => item.kind == "venue_instrument")
    = [rule.evidence core]
  ge : PyDecimal.lt quantity rule.minQuantity = false
  le : PyDecimal.lt rule.maxQuantity quantity = false
  aligned : Aligned quantity rule.quantityIncrement

/-- With distinct keys, the metadata of a binding are the encoding of what it binds. -/
theorem Binds.encoded (hkeys : (intent.metadata.map Prod.fst).Nodup)
    (h : Binds core intent accountId rule quantity) :
    intent.metadata.Perm (encoding core accountId rule quantity) ∧ rule.Printable := by
  have hspells := h.spells
  have hfigures := hspells.figures
  simp only [ruleDecimalFields, figures, List.zip_cons_cons, List.zip_nil_left,
    List.forall_mem_cons, List.not_mem_nil, false_implies, implies_true, and_true] at hfigures
  obtain ⟨hlot, hprice, hquantity, hmultiplier, hvolume, hminPrice, hmaxPrice, hminQuantity,
    hmaxQuantity⟩ := hfigures
  constructor
  · rw [perm_iff_entries hkeys encoding_nodup]
    constructor
    · have hexact : ∀ key, key ∈ (dictOfPairs intent.metadata).keys ↔
          key ∈ (encoding core accountId rule quantity).map Prod.fst :=
        keys_exact_iff.mp hspells.keys
      rwa [OrderedDict.keys, dictOfPairs_items hkeys] at hexact
    · -- one entry after the other
      simp only [encoding, purposeItems, texts, List.cons_append, List.nil_append,
        List.forall_mem_cons, List.not_mem_nil, false_implies, implies_true, and_true]
      exact ⟨hspells.accountId, hspells.alphaClaim, hspells.entryPolicy, hspells.purpose,
        hspells.entryOrder, h.lot.spelled.canonical.symm, h.vouches.hash, hlot.canonical.symm,
        hspells.marketState.symm, hmaxPrice.canonical.symm, hmaxQuantity.canonical.symm,
        hminPrice.canonical.symm, hminQuantity.canonical.symm, hvolume.canonical.symm,
        hmultiplier.canonical.symm, hprice.canonical.symm, hquantity.canonical.symm,
        hspells.venueSymbol.symm, hspells.trading.symm, hspells.updatedText.symm⟩
  · refine printable_of_intOfText hspells.updated_nonneg ?_
    rw [hspells.updatedText]
    exact hspells.updatedAtMs

/-- Metadata that encode a rule and a quantity bind them. -/
theorem binds_of_encoded (hkeys : (intent.metadata.map Prod.fst).Nodup)
    (hperm : intent.metadata.Perm (encoding core accountId rule quantity))
    (hprintable : rule.Printable) (hfigures : ∀ v ∈ rule.figures, Legible v)
    (hquantity : Legible quantity) (h : Sellable core intent rule quantity) :
    Binds core intent accountId rule quantity := by
  obtain ⟨hnames, hentries⟩ := (perm_iff_entries hkeys encoding_nodup).mp hperm
  have hnames' : ∀ key, key ∈ (dictOfPairs intent.metadata).keys ↔
      key ∈ (encoding core accountId rule quantity).map Prod.fst := by
    rwa [OrderedDict.keys, dictOfPairs_items hkeys]
  have hexact := keys_exact_iff.mpr hnames'
  generalize hmetadata : dictOfPairs intent.metadata = metadata at *
  simp only [encoding, purposeItems, texts, List.cons_append, List.nil_append,
    List.forall_mem_cons, List.not_mem_nil, false_implies, implies_true, and_true] at hentries
  obtain ⟨haccount, halpha, hpolicy, hpurpose, horder, hbound, hhash, hlot, hstate, hmaxPrice,
    hmaxQuantity, hminPrice, hminQuantity, hvolume, hmultiplier, hprice, hstep, hsymbol, htrading,
    hupdated⟩ := hentries
  have hnonneg := h.coherent.updatedAtMs
  refine ⟨?_, h.coherent, h.onGrid, ⟨?_, h.evidence⟩, ⟨?_, h.ge, h.le⟩, h.aligned⟩
  · rw [hmetadata]
    refine ⟨hexact, haccount, halpha, horder, hpolicy, hpurpose, htrading.trans h.coherent.trading,
      hstate.trans h.coherent.marketState, hsymbol.symm, htrading.symm, hstate.symm, ?_,
      hupdated.symm, hnonneg, h.refetched, ?_⟩
    · rw [hupdated]
      exact intOfText_toString hnonneg hprintable
    · simp only [figures, List.forall_mem_cons, List.not_mem_nil, false_implies, implies_true,
        and_true] at hfigures
      simp only [ruleDecimalFields, figures, List.zip_cons_cons, List.zip_nil_left,
        List.forall_mem_cons, List.not_mem_nil, false_implies, implies_true, and_true, hlot, hprice,
        hstep, hmultiplier, hvolume, hminPrice, hmaxPrice, hminQuantity, hmaxQuantity]
      exact hfigures
  · rw [hmetadata]
    exact hhash
  · rw [hmetadata, hbound]
    exact hquantity

end Reading

/-! ## In the context of 28 digits -/

section Context

open EvedexDevInstrumentRule

/-- A positive decimal in canonical form is `format`'s text, trimmed. -/
theorem canonicalDecimal_trimmed {v : Decimal} (hpos : 0 < v.value) :
    canonicalDecimal v = String.ofList (trimmed (PyDecimal.formatF v).toList) := by
  obtain ⟨d, htext, _⟩ := Decimal.exists_plain_formatF hpos
  have hempty : String.ofList (trimmed (PyDecimal.formatF v).toList) ≠ "" := by
    rw [htext]
    intro h
    exact d.chars_ne_nil (by simpa using congrArg String.toList h)
  have hsign : String.ofList (trimmed (PyDecimal.formatF v).toList) ≠ "-0" := by
    rw [htext]
    intro h
    have hchars : d.chars = ['-', '0'] := by simpa using congrArg String.toList h
    exact absurd rfl (d.ne_of_mem_chars (e := '-') (hchars ▸ List.mem_cons_self) rfl (by decide))
  rw [canonicalDecimal]
  show (if String.ofList (trimmed _) = "" || String.ofList (trimmed _) = "-0" then "0" else _) = _
  rw [if_neg (by simp [hempty, hsign])]
  rfl

/-- Numerically equal positive decimals have one canonical text. -/
theorem canonicalDecimal_congr {v w : Decimal} (hpos : 0 < v.value) (h : v.value = w.value) :
    canonicalDecimal v = canonicalDecimal w := by
  rw [canonicalDecimal_trimmed hpos, canonicalDecimal_trimmed (h ▸ hpos),
    Decimal.trimmed_formatF_congr hpos h]

theorem isPositive_iff {v : Decimal} : IsPositive v ↔ 0 < v.value := by
  show (!decide ((⟨0, 0⟩ : Decimal).value < v.value)) = false ↔ _
  rw [show (⟨0, 0⟩ : Decimal).value = 0 from by decide +kernel]
  simp

/-- A canonical text reads back as a decimal of the same value, in its own spelling. -/
theorem exists_legible {v : Decimal} (hpos : 0 < v.value) : ∃ w : Decimal,
    PyDecimal.parse (canonicalDecimal v) = some w ∧ w.value = v.value ∧ Legible w := by
  obtain ⟨d, htext, hvalue⟩ := Decimal.exists_plain_formatF hpos
  have hsame : d.decimal.value = v.value := hvalue
  have hread : PyDecimal.parse (canonicalDecimal v) = some d.decimal := by
    rw [canonicalDecimal_trimmed hpos, htext, d.decimal_parse_chars]
  have hdecimal : 0 < d.decimal.value := hsame ▸ hpos
  have hcanonical := canonicalDecimal_congr hdecimal hsame
  exact ⟨d.decimal, hread, hsame, by rw [hcanonical, hread], isPositive_iff.mpr hdecimal, rfl⟩

variable {F : Type} {core : KairosCore F} {rule read : EvedexDevInstrumentRule Decimal}

/-- The rule, numerically, fetched when it was updated. -/
structure Restates (rule read : EvedexDevInstrumentRule Decimal) : Prop where
  venueSymbol : read.venueSymbol = rule.venueSymbol
  trading : read.trading = rule.trading
  marketState : read.marketState = rule.marketState
  updatedAtMs : read.updatedAtMs = rule.updatedAtMs
  fetchedAtMs : read.fetchedAtMs = rule.updatedAtMs
  lotSize : read.lotSize.value = rule.lotSize.value
  priceIncrement : read.priceIncrement.value = rule.priceIncrement.value
  quantityIncrement : read.quantityIncrement.value = rule.quantityIncrement.value
  multiplier : read.multiplier.value = rule.multiplier.value
  minVolumeUsd : read.minVolumeUsd.value = rule.minVolumeUsd.value
  minPrice : read.minPrice.value = rule.minPrice.value
  maxPrice : read.maxPrice.value = rule.maxPrice.value
  minQuantity : read.minQuantity.value = rule.minQuantity.value
  maxQuantity : read.maxQuantity.value = rule.maxQuantity.value

/-- The value of every figure of a coherent rule is positive. -/
theorem Coherent.value_pos (h : rule.Coherent core) : ∀ v ∈ rule.figures, 0 < v.value :=
  fun v hv => isPositive_iff.mp (h.figures v hv)

/-- A coherent rule can be written and read back, every figure legible. -/
theorem exists_restates (h : rule.Coherent core) :
    ∃ read, Restates rule read ∧ ∀ v ∈ read.figures, Legible v := by
  have hpos := Coherent.value_pos h
  simp only [figures, List.forall_mem_cons, List.not_mem_nil, false_implies, implies_true,
    and_true] at hpos
  obtain ⟨hlot, hprice, hquantity, hmultiplier, hvolume, hminPrice, hmaxPrice, hminQuantity,
    hmaxQuantity⟩ := hpos
  obtain ⟨lotSize, _, hlot, hlot'⟩ := exists_legible hlot
  obtain ⟨priceIncrement, _, hprice, hprice'⟩ := exists_legible hprice
  obtain ⟨quantityIncrement, _, hquantity, hquantity'⟩ := exists_legible hquantity
  obtain ⟨multiplier, _, hmultiplier, hmultiplier'⟩ := exists_legible hmultiplier
  obtain ⟨minVolumeUsd, _, hvolume, hvolume'⟩ := exists_legible hvolume
  obtain ⟨minPrice, _, hminPrice, hminPrice'⟩ := exists_legible hminPrice
  obtain ⟨maxPrice, _, hmaxPrice, hmaxPrice'⟩ := exists_legible hmaxPrice
  obtain ⟨minQuantity, _, hminQuantity, hminQuantity'⟩ := exists_legible hminQuantity
  obtain ⟨maxQuantity, _, hmaxQuantity, hmaxQuantity'⟩ := exists_legible hmaxQuantity
  refine ⟨{ rule with
    lotSize, priceIncrement, quantityIncrement, multiplier, minVolumeUsd, minPrice, maxPrice
    minQuantity, maxQuantity, fetchedAtMs := rule.updatedAtMs }, ?_, ?_⟩
  · exact ⟨rfl, rfl, rfl, rfl, rfl, hlot, hprice, hquantity, hmultiplier, hvolume, hminPrice,
      hmaxPrice, hminQuantity, hmaxQuantity⟩
  · simp only [figures, List.forall_mem_cons, List.not_mem_nil, false_implies, implies_true,
      and_true]
    exact ⟨hlot', hprice', hquantity', hmultiplier', hvolume', hminPrice', hmaxPrice',
      hminQuantity', hmaxQuantity'⟩

namespace Restates

variable (h : Restates rule read)

include h

/-- Being coherent is a matter of the values. -/
theorem coherent (hcoherent : rule.Coherent core) (hread : ∀ v ∈ read.figures, Legible v) :
    read.Coherent core := by
  have hlot : (decide (rule.lotSize.value = _)) = true := hcoherent.lotSize
  have hmultiplier : (decide (rule.multiplier.value = _)) = true := hcoherent.multiplier
  have hprices : (!decide (rule.minPrice.value < rule.maxPrice.value)) = false := hcoherent.prices
  have hquantities : decide (rule.maxQuantity.value < rule.minQuantity.value) = false :=
    hcoherent.quantities
  refine ⟨?_, ?_, h.trading.trans hcoherent.trading, h.marketState.trans hcoherent.marketState,
    ?_, ?_, fun v hv => (hread v hv).positive, ?_, ?_, ?_, ?_⟩
  · rw [h.venueSymbol]
    exact hcoherent.symbol
  · rw [h.venueSymbol]
    exact hcoherent.upper
  · rw [h.updatedAtMs]
    exact hcoherent.updatedAtMs
  · rw [h.fetchedAtMs]
    exact hcoherent.updatedAtMs
  · rw [← h.lotSize] at hlot
    exact hlot
  · rw [← h.multiplier] at hmultiplier
    exact hmultiplier
  · rw [← h.minPrice, ← h.maxPrice] at hprices
    exact hprices
  · rw [← h.minQuantity, ← h.maxQuantity] at hquantities
    exact hquantities

/-- So is being on the grids. -/
theorem onGrid (hgrid : rule.OnGrid) : read.OnGrid := by
  have haligned {a a' b b' : Decimal} (ha : a'.value = a.value) (hb : b'.value = b.value)
      (h : Aligned a b) : Aligned a' b' := by
    unfold Aligned at h ⊢
    rwa [Decimal.remainder_congr ha hb]
  exact ⟨haligned h.minPrice h.priceIncrement hgrid.minPrice,
    haligned h.maxPrice h.priceIncrement hgrid.maxPrice,
    haligned h.minQuantity h.quantityIncrement hgrid.minQuantity⟩

/-- Rules that restate each other have one payload, and so one hash and one evidence. -/
theorem rulePayload_eq (hcoherent : rule.Coherent core) :
    (read.rulePayload : List (String × PayloadValue F)) = rule.rulePayload := by
  have hpos := Coherent.value_pos hcoherent
  simp only [figures, List.forall_mem_cons, List.not_mem_nil, false_implies, implies_true,
    and_true] at hpos
  obtain ⟨hlot, hprice, hquantity, hmultiplier, hvolume, hminPrice, hmaxPrice, hminQuantity,
    hmaxQuantity⟩ := hpos
  simp only [rulePayload, h.venueSymbol, h.trading, h.marketState, h.updatedAtMs,
    ← canonicalDecimal_congr hlot h.lotSize.symm,
    ← canonicalDecimal_congr hprice h.priceIncrement.symm,
    ← canonicalDecimal_congr hquantity h.quantityIncrement.symm,
    ← canonicalDecimal_congr hmultiplier h.multiplier.symm,
    ← canonicalDecimal_congr hvolume h.minVolumeUsd.symm,
    ← canonicalDecimal_congr hminPrice h.minPrice.symm,
    ← canonicalDecimal_congr hmaxPrice h.maxPrice.symm,
    ← canonicalDecimal_congr hminQuantity h.minQuantity.symm,
    ← canonicalDecimal_congr hmaxQuantity h.maxQuantity.symm]

theorem rulesSha256_eq (hcoherent : rule.Coherent core) :
    read.rulesSha256 core = rule.rulesSha256 core := by
  rw [rulesSha256, rulesSha256, h.rulePayload_eq hcoherent]

theorem evidence_eq (hcoherent : rule.Coherent core) : read.evidence core = rule.evidence core := by
  rw [evidence, evidence, h.rulesSha256_eq hcoherent, h.venueSymbol, h.updatedAtMs]

theorem metadata_eq (hcoherent : rule.Coherent core) {quantity bound : Decimal}
    (hpos : 0 < quantity.value) (hbound : bound.value = quantity.value) :
    read.metadata core bound = rule.metadata core quantity := by
  rw [metadata, metadata, h.rulePayload_eq hcoherent, h.rulesSha256_eq hcoherent,
    canonicalDecimal_congr hpos hbound.symm]

end Restates

/-- The metadata of an accepted rule bind it again, numerically, with the quantity
they were written for. -/
theorem exists_binds_of_metadata {intent : StrategyIntentV1 F} {accountId : String}
    {quantity : Decimal} {pairs : List (String × String)} (haccepted : rule.postInit core = .ok ())
    (hge : rule.minQuantity.value ≤ quantity.value) (hle : quantity.value ≤ rule.maxQuantity.value)
    (hmultiple : Multiple rule.quantityIncrement.value quantity.value)
    (hfits : quantity.value / rule.quantityIncrement.value < 10 ^ Decimal.precision)
    (hpairs : rule.metadata core quantity = .ok pairs)
    (hmetadata : intent.metadata.Perm (purposeItems accountId ++ pairs))
    (hevidence : (intent.evidence.filter fun item => item.kind == "venue_instrument")
      = [rule.evidence core]) :
    ∃ read bound, Binds core intent accountId read bound ∧ Restates rule read ∧
      bound.value = quantity.value := by
  obtain ⟨hcoherent, hgrid⟩ := postInit_ok_iff.mp haccepted
  have hfigures := Coherent.value_pos hcoherent
  have hstep : 0 < rule.quantityIncrement.value := hfigures _ (by simp [figures])
  have hmin : 0 < rule.minQuantity.value := hfigures _ (by simp [figures])
  have hpos : 0 < quantity.value := lt_of_lt_of_le hmin hge
  obtain ⟨read, hrestates, hread⟩ := exists_restates hcoherent
  obtain ⟨bound, _, hbound, hlegible⟩ := exists_legible hpos
  refine ⟨read, bound, ?_, hrestates, hbound⟩
  -- what is written of the one is what is written of the other
  rw [← hrestates.metadata_eq hcoherent hpos hbound] at hpairs
  obtain ⟨hprintable, hsorted⟩ := metadata_ok_iff.mp hpairs
  have hperm : intent.metadata.Perm (encoding core accountId read bound) := by
    rw [hsorted] at hmetadata
    exact hmetadata.trans ((sortedPairs_perm _).append_left _)
  have hkeys : (intent.metadata.map Prod.fst).Nodup :=
    ((hperm.map Prod.fst).nodup_iff).mpr encoding_nodup
  have hrest : PyDecimal.rem bound read.quantityIncrement = .ok ⟨0, 0⟩ := by
    rw [Decimal.remainder_congr hbound hrestates.quantityIncrement]
    exact Decimal.remainder_multiple hpos.le hstep hmultiple hfits
  refine binds_of_encoded hkeys hperm hprintable hread hlegible
    ⟨hrestates.coherent hcoherent hread, hrestates.onGrid hgrid, ?_, ?_, ?_, ?_, _, hrest, ?_⟩
  · rw [hrestates.fetchedAtMs, hrestates.updatedAtMs]
  · rw [hrestates.evidence_eq hcoherent]
    exact hevidence
  · show decide (bound.value < read.minQuantity.value) = false
    rw [hbound, hrestates.minQuantity]
    exact decide_eq_false (not_lt.mpr hge)
  · show decide (read.maxQuantity.value < bound.value) = false
    rw [hbound, hrestates.maxQuantity]
    exact decide_eq_false (not_lt.mpr hle)
  · decide +kernel

/-- **The metadata are a canonical codec**: what is written is read back, what is
read is what was written, and a decimal has one text, which reads back as it. -/
theorem canary_metadata_codec (core : KairosCore F) :
    (∀ (intent : StrategyIntentV1 F) (accountId : String) (rule : EvedexDevInstrumentRule Decimal)
        (quantity : Decimal) (pairs : List (String × String)),
      rule.postInit core = .ok () →
      rule.minQuantity.value ≤ quantity.value → quantity.value ≤ rule.maxQuantity.value →
      Multiple rule.quantityIncrement.value quantity.value →
      quantity.value / rule.quantityIncrement.value < 10 ^ Decimal.precision →
      rule.metadata core quantity = .ok pairs →
      intent.metadata.Perm (purposeItems accountId ++ pairs) →
      (intent.evidence.filter fun item => item.kind == "venue_instrument") = [rule.evidence core] →
      ∃ read bound, boundCanaryInstrument core intent accountId = .ok (read, bound) ∧
        Restates rule read ∧ bound.value = quantity.value) ∧
    (∀ (intent : StrategyIntentV1 F) (accountId : String) (rule : EvedexDevInstrumentRule Decimal)
        (quantity : Decimal),
      (intent.metadata.map Prod.fst).Nodup →
      boundCanaryInstrument core intent accountId = .ok (rule, quantity) →
      ∃ pairs, rule.metadata core quantity = .ok pairs ∧
        intent.metadata.Perm (purposeItems accountId ++ pairs)) ∧
    ∀ a b : Decimal, 0 < a.value → a.value = b.value →
      canonicalDecimal a = canonicalDecimal b ∧
      ∃ c : Decimal, PyDecimal.parse (canonicalDecimal a) = some c ∧ c.value = a.value := by
  refine ⟨?_, ?_, ?_⟩
  · intro intent accountId rule quantity pairs haccepted hge hle hmultiple hfits hpairs hmetadata
      hevidence
    obtain ⟨read, bound, hbinds, hrestates, hbound⟩ :=
      exists_binds_of_metadata haccepted hge hle hmultiple hfits hpairs hmetadata hevidence
    exact ⟨read, bound, boundCanaryInstrument_ok_iff.mpr hbinds, hrestates, hbound⟩
  · intro intent accountId rule quantity hkeys h
    obtain ⟨hperm, hprintable⟩ := (boundCanaryInstrument_ok_iff.mp h).encoded hkeys
    refine ⟨_, metadata_ok_iff.mpr ⟨hprintable, rfl⟩, ?_⟩
    exact hperm.trans ((sortedPairs_perm _).symm.append_left _)
  · intro a b hpos hab
    obtain ⟨c, hread, hvalue, _⟩ := exists_legible hpos
    exact ⟨canonicalDecimal_congr hpos hab, c, hread, hvalue⟩

end Context

/-! ## Two quantities

The rule trades whole units up to 10^30. Five units are read back; 10^29 of them
are a quotient of thirty digits. -/

namespace Scenario

deriving instance DecidableEq for EvedexDevInstrumentRule

/-- A rule in whole units, its figures in spellings that are not canonical. -/
def unitRule : EvedexDevInstrumentRule Decimal where
  venueSymbol := "BTCUSD:DEV"
  trading := "all"
  marketState := "OPEN"
  updatedAtMs := 50000
  lotSize := ⟨10, -1⟩
  priceIncrement := ⟨100, -4⟩
  quantityIncrement := ⟨1, 0⟩
  multiplier := ⟨1, 0⟩
  minVolumeUsd := ⟨50, -1⟩
  minPrice := ⟨1, -2⟩
  maxPrice := ⟨1, 6⟩
  minQuantity := ⟨1, 0⟩
  maxQuantity := ⟨1, 30⟩
  fetchedAtMs := 60000

/-- The package of the two quantities. -/
def unitCore : KairosCore Rat := core [] fun _ => digest 'a'

/-- What the rule writes of a quantity. -/
def unitPairs (quantity : Decimal) : List (String × String) :=
  (unitRule.metadata unitCore quantity).toOption.getD []

/-- The intent that carries it. -/
def unitIntent (quantity : Decimal) : StrategyIntentV1 Rat :=
  { intent "intent-unit" "BTCUSDT" 59999 with
    evidence := [unitRule.evidence unitCore]
    metadata := purposeItems "kairos-paper-dev-01" ++ unitPairs quantity }

/-- Five units, written as 5.0, are read back as five. -/
theorem five_units_read : ∃ read bound,
    boundCanaryInstrument unitCore (unitIntent ⟨50, -1⟩) "kairos-paper-dev-01" = .ok (read, bound) ∧
      Restates unitRule read ∧ bound.value = (⟨50, -1⟩ : Decimal).value :=
  (canary_metadata_codec unitCore).1 (unitIntent ⟨50, -1⟩) "kairos-paper-dev-01" unitRule ⟨50, -1⟩
    (unitPairs ⟨50, -1⟩) (by decide +kernel) (by decide +kernel) (by decide +kernel)
    ⟨5, by decide +kernel⟩ (by decide +kernel) (by decide +kernel) (List.Perm.refl _)
    (by decide +kernel)

/-- 10^29 units are a multiple between the bounds, and are not read back. -/
theorem distant_quantity_unread :
    unitRule.postInit unitCore = .ok () ∧
    unitRule.minQuantity.value ≤ (⟨1, 29⟩ : Decimal).value ∧
    (⟨1, 29⟩ : Decimal).value ≤ unitRule.maxQuantity.value ∧
    Multiple unitRule.quantityIncrement.value (⟨1, 29⟩ : Decimal).value ∧
    unitRule.metadata unitCore ⟨1, 29⟩ = .ok (unitPairs ⟨1, 29⟩) ∧
    (unitIntent ⟨1, 29⟩).metadata = purposeItems "kairos-paper-dev-01" ++ unitPairs ⟨1, 29⟩ ∧
    ((unitIntent ⟨1, 29⟩).evidence.filter fun item => item.kind == "venue_instrument")
      = [unitRule.evidence unitCore] ∧
    boundCanaryInstrument (D := Decimal) unitCore (unitIntent ⟨1, 29⟩) "kairos-paper-dev-01"
      = .error (.arithmetic .invalidOperation) := by
  refine ⟨?_, ?_, ?_, ⟨10 ^ 29, ?_⟩, ?_, rfl, ?_, ?_⟩ <;> decide +kernel

end Scenario

end KairosRisk
