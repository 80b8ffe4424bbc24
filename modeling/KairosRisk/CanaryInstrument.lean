import KairosRisk.Contracts

/-!
# Exact EVEDEX DEV instrument rules for the manually armed technical canary

A canary intent binds the instrument rule it was prepared under as decimal
strings in its metadata. Risk decodes that metadata, rebuilds the rule and its
hash, and recomputes the least legal lot at its own worst entry price.

A check that fails is a `ValueError`; a `Decimal` operation that signals is
not, and goes through every `except ValueError` of the callers.
-/

namespace KairosRisk

open PyLib

/-- `INSTRUMENT_RULE_DOMAIN`. -/
def instrumentRuleDomain : String := "evedex-dev-instrument-rule.v1"

/-- `CANARY_ENTRY_ORDER`. -/
def canaryEntryOrder : String := "MARKETABLE_IOC_LIMIT"

/-- `_RULE_DECIMAL_FIELDS`. -/
def ruleDecimalFields : List String :=
  ["venue_lot_size", "venue_price_increment", "venue_quantity_increment", "venue_multiplier",
    "venue_min_volume_usd", "venue_min_price", "venue_max_price", "venue_min_quantity",
    "venue_max_quantity"]

section Decimal

variable {D : Type} [PyDecimal D]

/-- `a <= b`. -/
def decimalLe (a b : D) : Bool := !PyDecimal.lt b a

/-- `v == 0`. -/
def decimalIsZero (v : D) : Bool := PyDecimal.eqv v (PyDecimal.ofInt 0)

/-- `canonical_decimal`: one non-exponent, minimal representation. -/
def canonicalDecimal (value : D) : String :=
  let text := (PyDecimal.formatF value).toList
  let text := if text.contains '.' then rstripChar '.' (rstripChar '0' text) else text
  let text := String.ofList text
  if text = "" || text = "-0" then "0" else text

/-- `_decimal` of a value that is a decimal already. -/
def positiveDecimal (value : D) (name : String) : Except PyError D :=
  if decimalLe value (PyDecimal.ofInt 0) then
    .error (.valueError (name ++ " must be finite and positive"))
  else .ok value

/-- `_decimal` of a text. A text that spells an infinity or a NaN is refused
with the ones that spell no decimal at all. -/
def decimalOfText (value name : String) : Except PyError D :=
  match PyDecimal.parse value with
  | none => .error (.valueError (name ++ " must be a decimal"))
  | some parsed => positiveDecimal parsed name

end Decimal

/-- `str(n)`, within the interpreter's bound on digits. -/
def intText (n : Int) : Except PyError String :=
  let text := toString n
  if (text.toList.filter Char.isDigit).length > intMaxStrDigits then
    .error (.valueError ("Exceeds the limit (4300 digits) for integer string conversion; "
      ++ "use sys.set_int_max_str_digits() to increase the limit"))
  else .ok text

/-- Canonical subset of the official SDK/API instrument semantics. -/
structure EvedexDevInstrumentRule (D : Type) where
  venueSymbol : String
  trading : String
  marketState : String
  updatedAtMs : Int
  lotSize : D
  priceIncrement : D
  quantityIncrement : D
  multiplier : D
  minVolumeUsd : D
  minPrice : D
  maxPrice : D
  minQuantity : D
  maxQuantity : D
  fetchedAtMs : Int

namespace EvedexDevInstrumentRule

variable {F D : Type} [PyDecimal D]

/-- `__post_init__`. -/
def postInit (core : KairosCore F) (rule : EvedexDevInstrumentRule D) : Except PyError Unit := do
  raiseIf (!(":DEV".toList.isSuffixOf rule.venueSymbol.toList)
      || rule.venueSymbol ≠ core.upper rule.venueSymbol)
    "venue_symbol must be one normalized EVEDEX DEV instrument"
  raiseIf (rule.trading ≠ "all" || rule.marketState ≠ "OPEN")
    "EVEDEX DEV instrument must have trading=all and marketState=OPEN"
  raiseIf (rule.updatedAtMs < 0) "updated_at_ms must be a non-negative integer"
  raiseIf (rule.fetchedAtMs < 0) "fetched_at_ms must be a non-negative integer"
  let _ ← positiveDecimal rule.lotSize "lot_size"
  let _ ← positiveDecimal rule.priceIncrement "price_increment"
  let _ ← positiveDecimal rule.quantityIncrement "quantity_increment"
  let _ ← positiveDecimal rule.multiplier "multiplier"
  let _ ← positiveDecimal rule.minVolumeUsd "min_volume_usd"
  let _ ← positiveDecimal rule.minPrice "min_price"
  let _ ← positiveDecimal rule.maxPrice "max_price"
  let _ ← positiveDecimal rule.minQuantity "min_quantity"
  let _ ← positiveDecimal rule.maxQuantity "max_quantity"
  raiseIf (!PyDecimal.eqv rule.lotSize (PyDecimal.ofInt 1)
      || !PyDecimal.eqv rule.multiplier (PyDecimal.ofInt 1))
    "technical canary supports only lotSize=1 and multiplier=1"
  raiseIf (decimalLe rule.maxPrice rule.minPrice) "instrument minPrice must be below maxPrice"
  raiseIf (PyDecimal.lt rule.maxQuantity rule.minQuantity)
    "instrument minQuantity must not exceed maxQuantity"
  let minPriceRest ← liftSignal (PyDecimal.rem rule.minPrice rule.priceIncrement)
  raiseIf (!decimalIsZero minPriceRest) "instrument price bounds must align with priceIncrement"
  let maxPriceRest ← liftSignal (PyDecimal.rem rule.maxPrice rule.priceIncrement)
  raiseIf (!decimalIsZero maxPriceRest) "instrument price bounds must align with priceIncrement"
  let minQuantityRest ← liftSignal (PyDecimal.rem rule.minQuantity rule.quantityIncrement)
  raiseIf (!decimalIsZero minQuantityRest)
    "instrument minQuantity must align with quantityIncrement"

/-- The decimal figures of a rule. -/
def figures (rule : EvedexDevInstrumentRule D) : List D :=
  [rule.lotSize, rule.priceIncrement, rule.quantityIncrement, rule.multiplier, rule.minVolumeUsd,
    rule.minPrice, rule.maxPrice, rule.minQuantity, rule.maxQuantity]

/-- `rule_payload`. -/
def rulePayload (rule : EvedexDevInstrumentRule D) : List (String × PayloadValue F) :=
  [("domain", .text instrumentRuleDomain),
    ("venue_lot_size", .text (canonicalDecimal rule.lotSize)),
    ("venue_market_state", .text rule.marketState),
    ("venue_max_price", .text (canonicalDecimal rule.maxPrice)),
    ("venue_max_quantity", .text (canonicalDecimal rule.maxQuantity)),
    ("venue_min_price", .text (canonicalDecimal rule.minPrice)),
    ("venue_min_quantity", .text (canonicalDecimal rule.minQuantity)),
    ("venue_min_volume_usd", .text (canonicalDecimal rule.minVolumeUsd)),
    ("venue_multiplier", .text (canonicalDecimal rule.multiplier)),
    ("venue_price_increment", .text (canonicalDecimal rule.priceIncrement)),
    ("venue_quantity_increment", .text (canonicalDecimal rule.quantityIncrement)),
    ("venue_symbol", .text rule.venueSymbol),
    ("venue_trading", .text rule.trading),
    ("venue_updated_at_ms", .int rule.updatedAtMs)]

/-- `rules_sha256`. -/
def rulesSha256 (core : KairosCore F) (rule : EvedexDevInstrumentRule D) : String :=
  core.canonicalSha256 rule.rulePayload

/-- `(key, str(value))`: a rule payload has texts and one integer. -/
def metadataItem : String × PayloadValue F → Except PyError (String × String)
  | (key, .text s) => .ok (key, s)
  | (key, .int n) => do
    let text ← intText n
    return (key, text)
  | (key, _) => .ok (key, "")

/-- `metadata`: the rule and a quantity under it, as sorted pairs of texts. -/
def metadata (core : KairosCore F) (rule : EvedexDevInstrumentRule D) (quantity : D) :
    Except PyError (List (String × String)) := do
  let payload : List (String × PayloadValue F) := rule.rulePayload
  let items ← (payload.filter fun item => item.1 ≠ "domain").mapM metadataItem
  return sortedPairs ([("canary_entry_order", canaryEntryOrder),
    ("canary_quantity", canonicalDecimal quantity),
    ("instrument_rules_sha256", rule.rulesSha256 core)] ++ items)

/-- `evidence`. -/
def evidence (core : KairosCore F) (rule : EvedexDevInstrumentRule D) : EvidenceReferenceV1 where
  kind := "venue_instrument"
  reference := "EVEDEX_DEV:" ++ rule.venueSymbol ++ ":" ++ toString rule.updatedAtMs
  contentSha256 := some (rule.rulesSha256 core)
  observedAtMs := rule.updatedAtMs

/-- `effective_min_quantity`: the least legal lot at an entry price. -/
def effectiveMinQuantity (rule : EvedexDevInstrumentRule D) (entryPrice : D) :
    Except PyError D := do
  let price ← positiveDecimal entryPrice "entry_price"
  raiseIf (PyDecimal.lt price rule.minPrice || PyDecimal.lt rule.maxPrice price)
    "entry price is outside current EVEDEX instrument bounds"
  let priceRest ← liftSignal (PyDecimal.rem price rule.priceIncrement)
  raiseIf (!decimalIsZero priceRest) "entry price is not aligned with EVEDEX priceIncrement"
  let volume ← liftSignal (PyDecimal.div rule.minVolumeUsd price)
  let lots ← liftSignal (PyDecimal.div volume rule.quantityIncrement)
  let volumeMinimum ← liftSignal (PyDecimal.mul (PyDecimal.ceil lots) rule.quantityIncrement)
  let result := if PyDecimal.lt rule.minQuantity volumeMinimum then volumeMinimum
    else rule.minQuantity
  raiseIf (PyDecimal.lt rule.maxQuantity result)
    "effective minimum quantity exceeds venue maxQuantity"
  return result

end EvedexDevInstrumentRule

variable {F D : Type} [PyDecimal D]

/-- `dict(pairs)`: of a key given twice the last value stands. -/
def dictOfPairs (pairs : List (String × String)) : OrderedDict String String :=
  pairs.foldl (fun m p => m.set p.1 p.2) OrderedDict.empty

/-- Pairs with distinct names are the items of their dictionary. -/
theorem dictOfPairs_items {pairs : List (String × String)} (h : (pairs.map Prod.fst).Nodup) :
    (dictOfPairs pairs).items = pairs :=
  OrderedDict.foldl_set_items pairs OrderedDict.empty h

/-- The keys a canary intent's metadata must have, and no others. -/
def canaryMetadataKeys : List String :=
  ["account_id", "alpha_claim", "canary_entry_order", "canary_quantity", "entry_policy",
    "instrument_rules_sha256", "purpose"] ++ ruleDecimalFields
    ++ ["venue_market_state", "venue_symbol", "venue_trading", "venue_updated_at_ms"]

/-- A rule field of the metadata, in its canonical spelling. -/
def ruleDecimal (metadata : OrderedDict String String) (field : String) : Except PyError D := do
  let text := (metadata.get? field).getD ""
  let value ← decimalOfText text field
  raiseIf (canonicalDecimal value ≠ text) (field ++ " is not canonical")
  return value

/-- `bound_canary_instrument`: revalidate the immutable instrument snapshot and
quantity binding. -/
def boundCanaryInstrument (core : KairosCore F) (intent : StrategyIntentV1 F)
    (accountId : String) : Except PyError (EvedexDevInstrumentRule D × D) := do
  let metadata := dictOfPairs intent.metadata
  let value := fun key => (metadata.get? key).getD ""
  raiseIf (!(metadata.keys.all canaryMetadataKeys.contains
      && canaryMetadataKeys.all metadata.keys.contains))
    "technical canary instrument metadata set is not exact"
  raiseIf (value "account_id" ≠ accountId) "technical canary account binding is invalid"
  raiseIf (value "alpha_claim" ≠ "false"
      || value "canary_entry_order" ≠ canaryEntryOrder
      || value "entry_policy" ≠ "NEXT_BAR_MARKET"
      || value "purpose" ≠ "technical_execution_canary"
      || value "venue_trading" ≠ "all"
      || value "venue_market_state" ≠ "OPEN")
    "technical canary fixed policy metadata is invalid"
  let updatedAtMs ← match intOfText (value "venue_updated_at_ms") with
    | none => .error (.valueError "venue_updated_at_ms is invalid")
    | some n => .ok n
  raiseIf (toString updatedAtMs ≠ value "venue_updated_at_ms" || updatedAtMs < 0)
    "venue_updated_at_ms is not canonical"
  let lotSize ← ruleDecimal metadata "venue_lot_size"
  let priceIncrement ← ruleDecimal metadata "venue_price_increment"
  let quantityIncrement ← ruleDecimal metadata "venue_quantity_increment"
  let multiplier ← ruleDecimal metadata "venue_multiplier"
  let minVolumeUsd ← ruleDecimal metadata "venue_min_volume_usd"
  let minPrice ← ruleDecimal metadata "venue_min_price"
  let maxPrice ← ruleDecimal metadata "venue_max_price"
  let minQuantity ← ruleDecimal metadata "venue_min_quantity"
  let maxQuantity ← ruleDecimal metadata "venue_max_quantity"
  let rule : EvedexDevInstrumentRule D :=
    { venueSymbol := value "venue_symbol"
      trading := value "venue_trading"
      marketState := value "venue_market_state"
      updatedAtMs, lotSize, priceIncrement, quantityIncrement, multiplier, minVolumeUsd
      minPrice, maxPrice, minQuantity, maxQuantity
      fetchedAtMs := updatedAtMs }
  rule.postInit core
  raiseIf (value "instrument_rules_sha256" ≠ rule.rulesSha256 core)
    "technical canary instrument rule hash is invalid"
  let venueEvidence := intent.evidence.filter fun item => item.kind == "venue_instrument"
  raiseIf (venueEvidence ≠ [rule.evidence core])
    "technical canary venue instrument evidence is invalid"
  let boundText := value "canary_quantity"
  let bound ← decimalOfText boundText "canary_quantity"
  raiseIf (canonicalDecimal bound ≠ boundText) "technical canary quantity is not canonical"
  let outside := PyDecimal.lt bound rule.minQuantity || PyDecimal.lt rule.maxQuantity bound
  raiseIf outside "technical canary quantity violates bound instrument increments"
  let rest ← liftSignal (PyDecimal.rem bound rule.quantityIncrement)
  raiseIf (!decimalIsZero rest) "technical canary quantity violates bound instrument increments"
  return (rule, bound)

/-- `bound_canary_quantity`: the exact venue minimum after rechecking it at
Risk's worst entry. -/
def boundCanaryQuantity (D : Type) [PyFloat F] [PyDecimal D] [Spelling F D] (core : KairosCore F)
    (intent : StrategyIntentV1 F) (accountId : String) (worstEntryPrice : F) :
    Except PyError F := do
  let (rule, bound) ← boundCanaryInstrument (D := D) core intent accountId
  let expectedQuantity ← rule.effectiveMinQuantity (Spelling.spell worstEntryPrice)
  raiseIf (!PyDecimal.eqv bound expectedQuantity)
    "technical canary quantity is not the current effective venue minimum"
  let result : F := Spelling.toFloat bound
  raiseIf (!PyFloat.isFinite result || result ≤ PyFloat.lit 0)
    "technical canary quantity is not representable"
  return result

end KairosRisk
