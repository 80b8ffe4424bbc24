import KairosRisk.CanaryCodec
import KairosRisk.Lib.Agree

/-!
# The instrument rule, from the venue's endpoint

A session asks the public DEV endpoint for the list of instruments and takes the
one row that bears the asked name. Rows are JSON: a figure may be a number or a
text, spelled in many ways.

`fetch_outcomes` says what is accepted and which exceptions get past the
promised `CanaryInstrumentError`; `fetch_restated` that neither the order of the
rows, nor the other rows, nor the spelling of the figures has any part in what a
canary is bound to.
-/

namespace KairosRisk

open PyLib

/-! ## JSON -/

/-- What `json.loads(body, parse_float=Decimal)` returns. -/
inductive JsonValue (D : Type) where
  | null
  | bool (value : Bool)
  | int (value : Int)
  | decimal (value : D)
  /-- `NaN`, `Infinity` or `-Infinity`, which the decoder makes floats of. -/
  | notFinite
  | text (value : String)
  | list (items : List (JsonValue D))
  /-- The members as they are written: of a name given twice the last value stands. -/
  | object (members : List (String × JsonValue D))

/-- What the standard library reads in a text. -/
structure TextReadings (D : Type) where
  /-- `datetime.fromisoformat`. -/
  fromisoformat : String → Option DateTime
  /-- `Decimal(text)`: not a number at all, an infinity or a NaN, or a finite decimal. -/
  decimal : String → Option (Option D)

variable {F D : Type}

/-- `payload.get(key)`. -/
def JsonValue.member (members : List (String × JsonValue D)) (key : String) : JsonValue D :=
  (members.reverse.lookup key).getD .null

/-- `_string`. -/
def JsonValue.string (value : JsonValue D) (name : String) : Except PyError String :=
  match value with
  | .text s =>
    if s = "" then .error (.valueError (name ++ " must be a non-empty string")) else .ok s
  | _ => .error (.valueError (name ++ " must be a non-empty string"))

/-- `value.replace("Z", "+00:00")`. -/
def utcOffsets (s : String) : String :=
  String.ofList (s.toList.flatMap fun c => if c = 'Z' then "+00:00".toList else [c])

/-- The instants a `datetime` in UTC can hold, in microseconds. -/
def inCalendar (us : Int) : Bool :=
  decide (-62135596800000000 ≤ us) && decide (us ≤ 253402300799999999)

/-- `_timestamp_ms`. An instant that UTC cannot hold is an `OverflowError`. -/
def JsonValue.timestampMs (F : Type) [PyFloat F] (texts : TextReadings D) :
    JsonValue D → Except PyError Int
  | .text s =>
    if s = "" then .error (.valueError "updatedAt must be a non-empty ISO-8601 timestamp")
    else match texts.fromisoformat (utcOffsets s) with
      | none => .error (.valueError "updatedAt must be a valid ISO-8601 timestamp")
      | some parsed =>
        if !parsed.aware then .error (.valueError "updatedAt must be timezone-aware")
        else if inCalendar parsed.us then .ok (PyFloat.timestampMs F parsed.us)
        else .error (.arithmetic .overflow)
  | _ => .error (.valueError "updatedAt must be a non-empty ISO-8601 timestamp")

section Decimal

variable [PyDecimal D]

/-- `_decimal`. The `str` of a list, an object or `None` is no decimal. -/
def JsonValue.positiveDecimal (texts : TextReadings D) (value : JsonValue D) (name : String) :
    Except PyError D :=
  match value with
  | .int n => KairosRisk.positiveDecimal (PyDecimal.ofInt n) name
  | .decimal v => KairosRisk.positiveDecimal v name
  | .notFinite => .error (.valueError (name ++ " must be finite and positive"))
  | .text s => match texts.decimal s with
    | none => .error (.valueError (name ++ " must be a decimal"))
    | some none => .error (.valueError (name ++ " must be finite and positive"))
    | some (some v) => KairosRisk.positiveDecimal v name
  | _ => .error (.valueError (name ++ " must be a decimal"))

/-- `from_api`. -/
def EvedexDevInstrumentRule.fromApi [PyFloat F] (core : KairosCore F) (texts : TextReadings D)
    (payload : List (String × JsonValue D)) (fetchedAtMs : Int) :
    Except PyError (EvedexDevInstrumentRule D) := do
  let value := JsonValue.member payload
  let venueSymbol ← (value "name").string "name"
  let trading ← (value "trading").string "trading"
  let marketState ← (value "marketState").string "marketState"
  let updatedAtMs ← (value "updatedAt").timestampMs F texts
  let lotSize ← (value "lotSize").positiveDecimal texts "lotSize"
  let priceIncrement ← (value "priceIncrement").positiveDecimal texts "priceIncrement"
  let quantityIncrement ← (value "quantityIncrement").positiveDecimal texts "quantityIncrement"
  let multiplier ← (value "multiplier").positiveDecimal texts "multiplier"
  let minVolumeUsd ← (value "minVolume").positiveDecimal texts "minVolume"
  let minPrice ← (value "minPrice").positiveDecimal texts "minPrice"
  let maxPrice ← (value "maxPrice").positiveDecimal texts "maxPrice"
  let minQuantity ← (value "minQuantity").positiveDecimal texts "minQuantity"
  let maxQuantity ← (value "maxQuantity").positiveDecimal texts "maxQuantity"
  let rule : EvedexDevInstrumentRule D :=
    { venueSymbol, trading, marketState, updatedAtMs, lotSize, priceIncrement, quantityIncrement
      multiplier, minVolumeUsd, minPrice, maxPrice, minQuantity, maxQuantity, fetchedAtMs }
  rule.postInit core
  return rule

/-! ## The endpoint -/

/-- `CanaryInstrumentError`. -/
def canaryInstrumentError (message : String) : PyError := .runtimeError message

/-- `_MAX_RESPONSE_BYTES`. -/
def maxResponseBytes : Nat := 2 * 1024 * 1024

/-- A call that failed: with an exception its `except` clause names, or with another one. -/
inductive Failure where
  | named
  | other (e : PyError)

/-- What the caller sees of such a call. -/
def heard {α : Type} (result : Except Failure α) (message : String) : Except PyError α :=
  match result with
  | .ok a => .ok a
  | .error .named => .error (canaryInstrumentError message)
  | .error (.other e) => .error e

/-- A response: how long it is, and what it decodes to. -/
structure Body (D : Type) where
  size : Nat
  decoded : Except Failure (JsonValue D)

/-- The members of an object that bears the name. -/
def rowNamed (venueSymbol : String) : JsonValue D → Option (List (String × JsonValue D))
  | .object members => match JsonValue.member members "name" with
    | .text s => if s = venueSymbol then some members else none
    | _ => none
  | _ => none

/-- `fetch_evedex_dev_instrument`, of what the endpoint answered. -/
def fetchEvedexDevInstrument [PyFloat F] (core : KairosCore F) (texts : TextReadings D)
    (response : Except Failure (Body D)) (venueSymbol : String) (fetchedAtMs : Int) :
    Except PyError (EvedexDevInstrumentRule D) := do
  let body ← heard response "official EVEDEX DEV instrument endpoint is unavailable"
  if maxResponseBytes < body.size then
    .error (canaryInstrumentError
      "official EVEDEX DEV instrument response is unexpectedly large")
  else
    let decoded ← heard body.decoded "official EVEDEX DEV instrument response is invalid JSON"
    match decoded with
    | .list items => match items.filterMap (rowNamed venueSymbol) with
      | [row] => match EvedexDevInstrumentRule.fromApi core texts row fetchedAtMs with
        | .error (.valueError _) =>
          .error (canaryInstrumentError "official EVEDEX DEV instrument rule is unsafe")
        | result => result
      | _ => .error (canaryInstrumentError
        "exact EVEDEX DEV instrument is missing or duplicated")
    | _ => .error (canaryInstrumentError
      "official EVEDEX DEV instrument response is not a list")

end Decimal

/-! ## What a row states -/

/-- A text, and not an empty one. -/
def JsonValue.Names (value : JsonValue D) (s : String) : Prop := value = .text s ∧ s ≠ ""

/-- The text of an aware instant, in microseconds. -/
def JsonValue.SpellsInstant (texts : TextReadings D) (value : JsonValue D) (us : Int) : Prop :=
  ∃ s parsed, value.Names s ∧ texts.fromisoformat (utcOffsets s) = some parsed ∧
    parsed.aware = true ∧ parsed.us = us

/-- The finite decimal it is or spells. -/
def JsonValue.figure? [PyDecimal D] (texts : TextReadings D) : JsonValue D → Option D
  | .int n => some (PyDecimal.ofInt n)
  | .decimal v => some v
  | .text s => (texts.decimal s).join
  | _ => none

section Steps

variable {β : Type} {result : Except PyError β}

/-- A check that raises is no result past the checks. -/
theorem refused_bind_ne {α : Type} (hpast : PastChecks result) {x : Except PyError α}
    {f : α → Except PyError β} (h : ∃ message, x = .error (.valueError message)) :
    (x >>= f) ≠ result := by
  obtain ⟨message, rfl⟩ := h
  exact fun heq => hpast message heq.symm

theorem string_names {value : JsonValue D} {s : String} (name : String) (h : value.Names s) :
    value.string name = .ok s := by
  obtain ⟨rfl, hne⟩ := h
  exact if_neg hne

theorem string_no_name {value : JsonValue D} (name : String) (h : ∀ s, ¬value.Names s) :
    ∃ message, value.string name = .error (.valueError message) := by
  cases value with
  | text s =>
    have hempty : s = "" := Decidable.not_not.mp fun hne => h s ⟨rfl, hne⟩
    exact ⟨_, if_pos hempty⟩
  | _ => exact ⟨_, rfl⟩

theorem string_bind_iff (hpast : PastChecks result) {value : JsonValue D} {name : String}
    {f : String → Except PyError β} :
    (value.string name >>= f) = result ↔ ∃ s, value.Names s ∧ f s = result := by
  constructor
  · intro h
    by_cases hnamed : ∃ s, value.Names s
    · obtain ⟨s, hs⟩ := hnamed
      rw [string_names name hs] at h
      exact ⟨s, hs, h⟩
    · exact absurd h (refused_bind_ne hpast (string_no_name name (not_exists.mp hnamed)))
  · rintro ⟨s, hs, h⟩
    rw [string_names name hs]
    exact h

/-- An aware instant is taken as far as UTC can hold it. -/
theorem timestampMs_instant [PyFloat F] {texts : TextReadings D} {value : JsonValue D} {us : Int}
    (h : value.SpellsInstant texts us) : value.timestampMs F texts =
      if inCalendar us then .ok (PyFloat.timestampMs F us) else .error (.arithmetic .overflow) := by
  obtain ⟨s, parsed, ⟨rfl, hne⟩, hparsed, haware, rfl⟩ := h
  unfold JsonValue.timestampMs
  simp only [if_neg hne, hparsed, haware]
  rfl

theorem timestampMs_no_instant [PyFloat F] {texts : TextReadings D} {value : JsonValue D}
    (h : ∀ us, ¬value.SpellsInstant texts us) :
    ∃ message, value.timestampMs F texts = .error (.valueError message) := by
  cases value with
  | text s =>
    unfold JsonValue.timestampMs
    by_cases hempty : s = ""
    · exact ⟨_, if_pos hempty⟩
    cases hparsed : texts.fromisoformat (utcOffsets s) with
    | none =>
      refine ⟨"updatedAt must be a valid ISO-8601 timestamp", ?_⟩
      simp only [if_neg hempty, hparsed]
    | some parsed =>
      have hnaive : parsed.aware = false := by
        cases haware : parsed.aware with
        | false => rfl
        | true => exact absurd ⟨s, parsed, ⟨rfl, hempty⟩, hparsed, haware, rfl⟩ (h parsed.us)
      refine ⟨"updatedAt must be timezone-aware", ?_⟩
      simp only [if_neg hempty, hparsed, hnaive]
      rfl
  | _ => exact ⟨_, rfl⟩

theorem timestampMs_bind_iff [PyFloat F] (hpast : PastChecks result) {texts : TextReadings D}
    {value : JsonValue D} {f : Int → Except PyError β} :
    (value.timestampMs F texts >>= f) = result ↔
      ∃ us, value.SpellsInstant texts us ∧
        (inCalendar us = true ∧ f (PyFloat.timestampMs F us) = result ∨
          inCalendar us = false ∧ .error (.arithmetic .overflow) = result) := by
  constructor
  · intro h
    by_cases hspelled : ∃ us, value.SpellsInstant texts us
    · obtain ⟨us, hus⟩ := hspelled
      rw [timestampMs_instant hus] at h
      refine ⟨us, hus, ?_⟩
      cases hcalendar : inCalendar us with
      | true =>
        rw [hcalendar] at h
        exact Or.inl ⟨rfl, h⟩
      | false =>
        rw [hcalendar] at h
        exact Or.inr ⟨rfl, h⟩
    · exact absurd h (refused_bind_ne hpast (timestampMs_no_instant (not_exists.mp hspelled)))
  · rintro ⟨us, hus, ⟨hcalendar, h⟩ | ⟨hcalendar, h⟩⟩
    · rw [timestampMs_instant hus, hcalendar]
      exact h
    · rw [timestampMs_instant hus, hcalendar]
      exact h

/-- A value that stands for a decimal is read as that decimal. -/
theorem positiveDecimal_figure [PyDecimal D] {texts : TextReadings D} {value : JsonValue D} {v : D}
    (name : String) (h : value.figure? texts = some v) :
    value.positiveDecimal texts name = positiveDecimal v name := by
  cases value with
  | int n =>
    cases h
    rfl
  | decimal w =>
    cases h
    rfl
  | text s =>
    have hread : texts.decimal s = some (some v) := Option.join_eq_some_iff.mp h
    unfold JsonValue.positiveDecimal
    simp only [hread]
  | _ => cases h

/-- A value that stands for none is refused. -/
theorem positiveDecimal_no_figure [PyDecimal D] {texts : TextReadings D} {value : JsonValue D}
    (name : String) (h : value.figure? texts = none) :
    ∃ message, value.positiveDecimal texts name = .error (.valueError message) := by
  cases value with
  | int n => cases h
  | decimal w => cases h
  | text s =>
    unfold JsonValue.positiveDecimal
    change (texts.decimal s).join = none at h
    dsimp only
    rcases hread : texts.decimal s with _ | (_ | v)
    · exact ⟨_, rfl⟩
    · exact ⟨_, rfl⟩
    · rw [hread] at h
      cases h
  | _ => exact ⟨_, rfl⟩

theorem figure_bind_iff [PyDecimal D] (hpast : PastChecks result) {texts : TextReadings D}
    {value : JsonValue D} {name : String} {f : D → Except PyError β} :
    (value.positiveDecimal texts name >>= f) = result ↔
      ∃ v, value.figure? texts = some v ∧ IsPositive v ∧ f v = result := by
  cases hfigure : value.figure? texts with
  | none =>
    constructor
    · intro h
      exact absurd h (refused_bind_ne hpast (positiveDecimal_no_figure name hfigure))
    · rintro ⟨_, h, _⟩
      cases h
  | some v =>
    rw [positiveDecimal_figure name hfigure, positiveDecimal_bind_iff hpast]
    constructor
    · rintro ⟨hpositive, h⟩
      exact ⟨v, rfl, hpositive, h⟩
    · rintro ⟨_, hv, hpositive, h⟩
      cases hv
      exact ⟨hpositive, h⟩

end Steps

/-! ## What the endpoint offers -/

section Offers

/-- The response, in full and of a bearable size, lists the one row of the name. -/
def Offers (response : Except Failure (Body D)) (venueSymbol : String)
    (row : List (String × JsonValue D)) : Prop :=
  ∃ body items, response = .ok body ∧ body.size ≤ maxResponseBytes ∧
    body.decoded = .ok (.list items) ∧ items.filterMap (rowNamed venueSymbol) = [row]

variable {response : Except Failure (Body D)} {venueSymbol : String}
  {row : List (String × JsonValue D)}

theorem member_rowNamed {value : JsonValue D} (h : rowNamed venueSymbol value = some row) :
    JsonValue.member row "name" = .text venueSymbol := by
  unfold rowNamed at h
  split at h
  next members =>
    split at h
    next s hname =>
      split at h
      next hs =>
        cases h
        rw [hname, hs]
      next => cases h
    next => cases h
  next => cases h

theorem Offers.name (h : Offers response venueSymbol row) :
    JsonValue.member row "name" = .text venueSymbol := by
  obtain ⟨_, items, _, _, _, hrow⟩ := h
  have hmem : row ∈ items.filterMap (rowNamed venueSymbol) := by
    rw [hrow]
    exact List.mem_singleton_self row
  obtain ⟨value, _, hvalue⟩ := List.mem_filterMap.mp hmem
  exact member_rowNamed hvalue

end Offers

/-! ## A row and its rule -/

section Rows

open EvedexDevInstrumentRule

variable [PyFloat F] [PyDecimal D]

/-- The row states the rule, but for when it was fetched. -/
structure States (F : Type) [PyFloat F] (texts : TextReadings D)
    (row : List (String × JsonValue D)) (rule : EvedexDevInstrumentRule D) : Prop where
  venueSymbol : (JsonValue.member row "name").Names rule.venueSymbol
  trading : (JsonValue.member row "trading").Names rule.trading
  marketState : (JsonValue.member row "marketState").Names rule.marketState
  updatedAtMs : ∃ us, (JsonValue.member row "updatedAt").SpellsInstant texts us ∧
    inCalendar us = true ∧ PyFloat.timestampMs F us = rule.updatedAtMs
  lotSize : (JsonValue.member row "lotSize").figure? texts = some rule.lotSize
  priceIncrement : (JsonValue.member row "priceIncrement").figure? texts = some rule.priceIncrement
  quantityIncrement :
    (JsonValue.member row "quantityIncrement").figure? texts = some rule.quantityIncrement
  multiplier : (JsonValue.member row "multiplier").figure? texts = some rule.multiplier
  minVolumeUsd : (JsonValue.member row "minVolume").figure? texts = some rule.minVolumeUsd
  minPrice : (JsonValue.member row "minPrice").figure? texts = some rule.minPrice
  maxPrice : (JsonValue.member row "maxPrice").figure? texts = some rule.maxPrice
  minQuantity : (JsonValue.member row "minQuantity").figure? texts = some rule.minQuantity
  maxQuantity : (JsonValue.member row "maxQuantity").figure? texts = some rule.maxQuantity

/-- The row has its names, and an instant that UTC cannot hold. -/
structure OffCalendar (texts : TextReadings D) (row : List (String × JsonValue D)) : Prop where
  names : ∀ key ∈ ["name", "trading", "marketState"], ∃ s, (JsonValue.member row key).Names s
  updatedAt : ∃ us, (JsonValue.member row "updatedAt").SpellsInstant texts us ∧
    inCalendar us = false

variable {core : KairosCore F} {texts : TextReadings D} {row : List (String × JsonValue D)}
  {fetchedAtMs : Int} {response : Except Failure (Body D)} {venueSymbol : String}

/-- Past its readings, `from_api` builds the rule the row states. -/
theorem fromApi_iff {result : Except PyError (EvedexDevInstrumentRule D)}
    (hpast : PastChecks result) :
    fromApi core texts row fetchedAtMs = result ↔
      (∃ rule, States F texts row rule ∧ rule.fetchedAtMs = fetchedAtMs ∧
        (∀ v ∈ rule.figures, IsPositive v) ∧
        (rule.postInit core >>= fun _ => pure rule) = result) ∨
      OffCalendar texts row ∧ .error (.arithmetic .overflow) = result := by
  unfold fromApi
  simp only [string_bind_iff hpast, timestampMs_bind_iff hpast, figure_bind_iff hpast]
  constructor
  · rintro ⟨venueSymbol, hsymbol, trading, htrading, marketState, hstate, us, hspells,
      ⟨hin, lotSize, hlot, hlot', priceIncrement, hprice, hprice', quantityIncrement, hquantity,
        hquantity', multiplier, hmultiplier, hmultiplier', minVolumeUsd, hvolume, hvolume',
        minPrice, hminPrice, hminPrice', maxPrice, hmaxPrice, hmaxPrice', minQuantity,
        hminQuantity, hminQuantity', maxQuantity, hmaxQuantity, hmaxQuantity', h⟩ | ⟨hoff, h⟩⟩
    · refine Or.inl ⟨_, ⟨hsymbol, htrading, hstate, ⟨us, hspells, hin, rfl⟩, hlot, hprice,
        hquantity, hmultiplier, hvolume, hminPrice, hmaxPrice, hminQuantity, hmaxQuantity⟩, rfl, ?_,
        h⟩
      simp only [figures, List.forall_mem_cons, List.not_mem_nil, false_implies, implies_true,
        and_true]
      exact ⟨hlot', hprice', hquantity', hmultiplier', hvolume', hminPrice', hmaxPrice',
        hminQuantity', hmaxQuantity'⟩
    · refine Or.inr ⟨⟨?_, us, hspells, hoff⟩, h⟩
      simp only [List.forall_mem_cons, List.not_mem_nil, false_implies, implies_true, and_true]
      exact ⟨⟨_, hsymbol⟩, ⟨_, htrading⟩, _, hstate⟩
  · rintro (⟨rule, hstates, rfl, hpositive, h⟩ | ⟨hoff, h⟩)
    · simp only [figures, List.forall_mem_cons, List.not_mem_nil, false_implies, implies_true,
        and_true] at hpositive
      obtain ⟨hlot, hprice, hquantity, hmultiplier, hvolume, hminPrice, hmaxPrice, hminQuantity,
        hmaxQuantity⟩ := hpositive
      obtain ⟨us, hspells, hin, hupdated⟩ := hstates.updatedAtMs
      refine ⟨_, hstates.venueSymbol, _, hstates.trading, _, hstates.marketState, us, hspells,
        Or.inl ⟨hin, _, hstates.lotSize, hlot, _, hstates.priceIncrement, hprice, _,
          hstates.quantityIncrement, hquantity, _, hstates.multiplier, hmultiplier, _,
          hstates.minVolumeUsd, hvolume, _, hstates.minPrice, hminPrice, _, hstates.maxPrice,
          hmaxPrice, _, hstates.minQuantity, hminQuantity, _, hstates.maxQuantity,
            hmaxQuantity, ?_⟩⟩
      rw [hupdated]
      exact h
    · obtain ⟨us, hspells, hus⟩ := hoff.updatedAt
      obtain ⟨_, hsymbol⟩ := hoff.names "name" (by simp)
      obtain ⟨_, htrading⟩ := hoff.names "trading" (by simp)
      obtain ⟨_, hstate⟩ := hoff.names "marketState" (by simp)
      exact ⟨_, hsymbol, _, htrading, _, hstate, us, hspells, Or.inr ⟨hus, h⟩⟩

/-- A row is accepted exactly for the coherent rule on its grids that it states. -/
theorem fromApi_ok_iff {rule : EvedexDevInstrumentRule D} :
    fromApi core texts row fetchedAtMs = .ok rule ↔
      States F texts row rule ∧ rule.fetchedAtMs = fetchedAtMs ∧ rule.Coherent core ∧
      rule.OnGrid := by
  rw [fromApi_iff (pastChecks_ok rule)]
  constructor
  · rintro (⟨rule', hstates, hfetched, _, h⟩ | ⟨_, h⟩)
    · obtain ⟨_, hinit, h⟩ := ok_of_bind h
      cases h
      exact ⟨hstates, hfetched, postInit_ok_iff.mp hinit⟩
    · cases h
  · rintro ⟨hstates, hfetched, hcoherent, hgrid⟩
    refine Or.inl ⟨rule, hstates, hfetched, hcoherent.figures, ?_⟩
    rw [postInit_ok_iff.mpr ⟨hcoherent, hgrid⟩]
    rfl

/-- What is no `ValueError` is an instant off the calendar, or the signal of a
remainder of the rule it states. -/
theorem fromApi_error_iff {e : PyError} (hclass : ∀ message, e ≠ .valueError message) :
    fromApi core texts row fetchedAtMs = .error e ↔
      OffCalendar texts row ∧ e = .arithmetic .overflow ∨
      ∃ rule, States F texts row rule ∧ rule.fetchedAtMs = fetchedAtMs ∧ rule.Coherent core ∧
        rule.alignment = .error e := by
  have hpast {α : Type} : PastChecks (.error e : Except PyError α) := pastChecks_error hclass
  rw [fromApi_iff hpast]
  constructor
  · rintro (⟨rule, hstates, hfetched, _, h⟩ | ⟨hoff, h⟩)
    · refine Or.inr ⟨rule, hstates, hfetched, (postInit_iff hpast).mp ?_⟩
      cases hinit : rule.postInit core with
      | error e' =>
        rw [hinit] at h
        exact congrArg _ (Except.error.inj h)
      | ok _ =>
        rw [hinit] at h
        cases h
    · exact Or.inl ⟨hoff, (Except.error.inj h).symm⟩
  · rintro (⟨hoff, rfl⟩ | ⟨rule, hstates, hfetched, hcoherent, halignment⟩)
    · exact Or.inr ⟨hoff, rfl⟩
    · refine Or.inl ⟨rule, hstates, hfetched, hcoherent.figures, ?_⟩
      rw [(postInit_iff hpast).mpr ⟨hcoherent, halignment⟩]
      rfl

/-! ## What is fetched -/

/-- What a list of instruments comes to. -/
theorem fetch_listed {body : Body D} {items : List (JsonValue D)}
    (hsize : body.size ≤ maxResponseBytes) (hitems : body.decoded = .ok (.list items)) :
    fetchEvedexDevInstrument core texts (.ok body) venueSymbol fetchedAtMs =
      match items.filterMap (rowNamed venueSymbol) with
      | [row] => match fromApi core texts row fetchedAtMs with
        | .error (.valueError _) =>
          .error (canaryInstrumentError "official EVEDEX DEV instrument rule is unsafe")
        | result => result
      | _ => .error (canaryInstrumentError
        "exact EVEDEX DEV instrument is missing or duplicated") := by
  unfold fetchEvedexDevInstrument
  simp only [heard, hitems, ok_bind, if_neg (Nat.not_lt.mpr hsize)]

/-- Of the row on offer the fetch makes a rule, and of a `ValueError` its own exception. -/
theorem fetch_offered (h : Offers response venueSymbol row) :
    fetchEvedexDevInstrument core texts response venueSymbol fetchedAtMs =
      match fromApi core texts row fetchedAtMs with
      | .error (.valueError _) =>
        .error (canaryInstrumentError "official EVEDEX DEV instrument rule is unsafe")
      | result => result := by
  obtain ⟨body, items, rfl, hsize, hitems, hrow⟩ := h
  rw [fetch_listed hsize hitems, hrow]

variable (core texts fetchedAtMs) in
/-- Without such a row it raises: its own exception, or one that nobody expects. -/
theorem fetch_not_offered (h : ∀ row, ¬Offers response venueSymbol row) :
    (∃ message, fetchEvedexDevInstrument core texts response venueSymbol fetchedAtMs
      = .error (canaryInstrumentError message)) ∨
    ∃ e, fetchEvedexDevInstrument core texts response venueSymbol fetchedAtMs = .error e ∧
      (response = .error (.other e) ∨ ∃ body, response = .ok body ∧
        body.size ≤ maxResponseBytes ∧ body.decoded = .error (.other e)) := by
  unfold fetchEvedexDevInstrument
  cases response with
  | error failure =>
    cases failure with
    | named => exact Or.inl ⟨_, rfl⟩
    | other e => exact Or.inr ⟨e, rfl, Or.inl rfl⟩
  | ok body =>
    rw [heard, ok_bind]
    by_cases hsize : maxResponseBytes < body.size
    · rw [if_pos hsize]
      exact Or.inl ⟨_, rfl⟩
    rw [if_neg hsize]
    cases hdecoded : body.decoded with
    | error failure =>
      cases failure with
      | named => exact Or.inl ⟨_, rfl⟩
      | other e => exact Or.inr ⟨e, rfl, Or.inr ⟨body, rfl, Nat.not_lt.mp hsize, hdecoded⟩⟩
    | ok decoded =>
      rw [heard, ok_bind]
      cases decoded with
      | list items =>
        dsimp only
        split
        next row hrow =>
          exact absurd ⟨body, items, rfl, Nat.not_lt.mp hsize, hdecoded, hrow⟩ (h row)
        next => exact Or.inl ⟨_, rfl⟩
      | _ => exact Or.inl ⟨_, rfl⟩

/-- A rule is returned exactly when the row on offer states it. -/
theorem fetch_ok_iff {rule : EvedexDevInstrumentRule D} :
    fetchEvedexDevInstrument core texts response venueSymbol fetchedAtMs = .ok rule ↔
      ∃ row, Offers response venueSymbol row ∧ States F texts row rule ∧
        rule.fetchedAtMs = fetchedAtMs ∧ rule.Coherent core ∧ rule.OnGrid := by
  simp only [← fromApi_ok_iff]
  constructor
  · intro h
    by_cases hoffered : ∃ row, Offers response venueSymbol row
    · obtain ⟨row, hrow⟩ := hoffered
      rw [fetch_offered hrow] at h
      refine ⟨row, hrow, ?_⟩
      split at h
      · cases h
      · exact h
    · obtain ⟨_, hraised⟩ | ⟨_, hraised, _⟩ :=
        fetch_not_offered core texts fetchedAtMs (not_exists.mp hoffered)
      · rw [hraised] at h
        cases h
      · rw [hraised] at h
        cases h
  · rintro ⟨row, hrow, h⟩
    rw [fetch_offered hrow, h]

/-- An exception other than the promised one, where the row is on offer. -/
theorem fetch_offered_error_iff (h : Offers response venueSymbol row) {e : PyError}
    (hclass : ∀ message, e ≠ canaryInstrumentError message) :
    fetchEvedexDevInstrument core texts response venueSymbol fetchedAtMs = .error e ↔
      (∀ message, e ≠ .valueError message) ∧ fromApi core texts row fetchedAtMs = .error e := by
  rw [fetch_offered h]
  constructor
  · intro hraised
    split at hraised
    · exact absurd (Except.error.inj hraised).symm (hclass _)
    next hother =>
      refine ⟨?_, hraised⟩
      rintro message rfl
      exact hother message hraised
  · rintro ⟨hvalue, hraised⟩
    rw [hraised]
    split
    next message heq => exact absurd (Except.error.inj heq) (hvalue message)
    next => rfl

/-- What is no `CanaryInstrumentError` came from the transport, from the decoder
or from the row on offer. -/
theorem fetch_error_iff {e : PyError} (hclass : ∀ message, e ≠ canaryInstrumentError message) :
    fetchEvedexDevInstrument core texts response venueSymbol fetchedAtMs = .error e ↔
      response = .error (.other e) ∨
      (∃ body, response = .ok body ∧ body.size ≤ maxResponseBytes ∧
        body.decoded = .error (.other e)) ∨
      ∃ row, Offers response venueSymbol row ∧ (∀ message, e ≠ .valueError message) ∧
        fromApi core texts row fetchedAtMs = .error e := by
  constructor
  · intro h
    by_cases hoffered : ∃ row, Offers response venueSymbol row
    · obtain ⟨row, hrow⟩ := hoffered
      exact Or.inr (Or.inr ⟨row, hrow, (fetch_offered_error_iff hrow hclass).mp h⟩)
    · obtain ⟨_, hraised⟩ | ⟨e', hraised, hcause⟩ :=
        fetch_not_offered core texts fetchedAtMs (not_exists.mp hoffered)
      · rw [hraised] at h
        exact absurd (Except.error.inj h).symm (hclass _)
      · rw [hraised] at h
        cases h
        exact hcause.elim Or.inl fun hcause => Or.inr (Or.inl hcause)
  · rintro (rfl | ⟨body, rfl, hsize, hdecoded⟩ | ⟨row, hrow, h⟩)
    · rfl
    · unfold fetchEvedexDevInstrument
      simp only [heard, ok_bind, if_neg (Nat.not_lt.mpr hsize), hdecoded]
      rfl
    · exact (fetch_offered_error_iff hrow hclass).mpr h

/-- **What is fetched, and what gets past the promised exception.** A rule is
returned exactly when the response lists one row of the name and the row states
that rule, coherent and on its grids; and the rule is the asked one. What is no
`CanaryInstrumentError` came from the transport or the decoder, is an update that
UTC cannot hold, or is the signal of a grid too fine for the context. -/
theorem fetch_outcomes (core : KairosCore F) (texts : TextReadings D)
    (response : Except Failure (Body D)) (venueSymbol : String) (fetchedAtMs : Int) :
    (∀ rule, fetchEvedexDevInstrument core texts response venueSymbol fetchedAtMs = .ok rule ↔
      ∃ row, Offers response venueSymbol row ∧ States F texts row rule ∧
        rule.fetchedAtMs = fetchedAtMs ∧ rule.Coherent core ∧ rule.OnGrid) ∧
    (∀ rule, fetchEvedexDevInstrument core texts response venueSymbol fetchedAtMs = .ok rule →
      rule.venueSymbol = venueSymbol) ∧
    ∀ e, (∀ message, e ≠ canaryInstrumentError message) →
      (fetchEvedexDevInstrument core texts response venueSymbol fetchedAtMs = .error e ↔
        response = .error (.other e) ∨
        (∃ body, response = .ok body ∧ body.size ≤ maxResponseBytes ∧
          body.decoded = .error (.other e)) ∨
        ∃ row, Offers response venueSymbol row ∧ (∀ message, e ≠ .valueError message) ∧
          (OffCalendar texts row ∧ e = .arithmetic .overflow ∨
            ∃ rule, States F texts row rule ∧ rule.fetchedAtMs = fetchedAtMs ∧
              rule.Coherent core ∧ rule.alignment = .error e)) := by
  refine ⟨fun rule => fetch_ok_iff, ?_, ?_⟩
  · intro rule h
    obtain ⟨row, hrow, hstates, _⟩ := fetch_ok_iff.mp h
    have hname := hstates.venueSymbol.1
    rw [hrow.name] at hname
    exact (JsonValue.text.inj hname).symm
  · intro e hclass
    rw [fetch_error_iff hclass]
    refine or_congr Iff.rfl (or_congr Iff.rfl (exists_congr fun row => and_congr Iff.rfl ?_))
    exact and_congr_right fun hvalue => fromApi_error_iff hvalue

end Rows

/-! ## One rule, spelled twice -/

section Restated

open EvedexDevInstrumentRule

variable {core : KairosCore F} {texts : TextReadings Decimal}
  {rule rule' : EvedexDevInstrumentRule Decimal}

/-- One exception, or two `ValueError`s. -/
def SameClass (e e' : PyError) : Prop :=
  e = e' ∨ ∃ message message', e = .valueError message ∧ e' = .valueError message'

/-- Computations with the same results past their checks agree. -/
theorem agree_of_past {α : Type} {x y : Except PyError α}
    (h : ∀ {result : Except PyError α}, PastChecks result → (x = result ↔ y = result)) :
    Agree SameClass Eq x y := by
  cases x with
  | ok a =>
    rw [(h (pastChecks_ok a)).mp rfl]
    exact .ok rfl
  | error e =>
    cases y with
    | ok a => cases (h (pastChecks_ok a)).mpr rfl
    | error e' =>
      by_cases hclass : ∀ message, e ≠ .valueError message
      · exact .error (Or.inl (Except.error.inj ((h (pastChecks_error hclass)).mp rfl)).symm)
      by_cases hclass' : ∀ message, e' ≠ .valueError message
      · exact .error (Or.inl (Except.error.inj ((h (pastChecks_error hclass')).mpr rfl)))
      · simp only [not_forall, Decidable.not_not] at hclass hclass'
        obtain ⟨message, he⟩ := hclass
        obtain ⟨message', he'⟩ := hclass'
        exact .error (Or.inr ⟨message, message', he, he'⟩)

/-- Numerically one rule, whenever it was fetched. -/
def SameRule (rule rule' : EvedexDevInstrumentRule Decimal) : Prop := Restates rule rule'.refetched

theorem SameRule.symm (h : SameRule rule rule') : SameRule rule' rule :=
  ⟨h.venueSymbol.symm, h.trading.symm, h.marketState.symm, h.updatedAtMs.symm, h.updatedAtMs.symm,
    h.lotSize.symm, h.priceIncrement.symm, h.quantityIncrement.symm, h.multiplier.symm,
    h.minVolumeUsd.symm, h.minPrice.symm, h.maxPrice.symm, h.minQuantity.symm, h.maxQuantity.symm⟩

namespace SameRule

variable (h : SameRule rule rule')

include h

/-- The figures are positive together. -/
theorem value_pos (hpos : ∀ v ∈ rule.figures, 0 < v.value) : ∀ v ∈ rule'.figures, 0 < v.value := by
  simp only [figures, List.forall_mem_cons, List.not_mem_nil, false_implies, implies_true,
    and_true] at hpos ⊢
  obtain ⟨hlot, hprice, hquantity, hmultiplier, hvolume, hminPrice, hmaxPrice, hminQuantity,
    hmaxQuantity⟩ := hpos
  exact ⟨h.lotSize ▸ hlot, h.priceIncrement ▸ hprice, h.quantityIncrement ▸ hquantity,
    h.multiplier ▸ hmultiplier, h.minVolumeUsd ▸ hvolume, h.minPrice ▸ hminPrice,
    h.maxPrice ▸ hmaxPrice, h.minQuantity ▸ hminQuantity, h.maxQuantity ▸ hmaxQuantity⟩

/-- Being coherent is a matter of the values. -/
theorem coherent (hfetched : 0 ≤ rule'.fetchedAtMs) (hcoherent : rule.Coherent core) :
    rule'.Coherent core := by
  have hlot : decide (rule.lotSize.value = _) = true := hcoherent.lotSize
  have hmultiplier : decide (rule.multiplier.value = _) = true := hcoherent.multiplier
  have hprices : (!decide (rule.minPrice.value < rule.maxPrice.value)) = false := hcoherent.prices
  have hquantities : decide (rule.maxQuantity.value < rule.minQuantity.value) = false :=
    hcoherent.quantities
  rw [← h.lotSize] at hlot
  rw [← h.multiplier] at hmultiplier
  rw [← h.minPrice, ← h.maxPrice] at hprices
  rw [← h.minQuantity, ← h.maxQuantity] at hquantities
  have hpositive := h.value_pos (Coherent.value_pos hcoherent)
  have hsymbol := hcoherent.symbol
  have hupper := hcoherent.upper
  have hupdated := hcoherent.updatedAtMs
  rw [← h.venueSymbol] at hsymbol hupper
  rw [← h.updatedAtMs] at hupdated
  exact ⟨hsymbol, hupper, h.trading.trans hcoherent.trading,
    h.marketState.trans hcoherent.marketState, hupdated, hfetched,
    fun v hv => isPositive_iff.mpr (hpositive v hv), hlot, hmultiplier, hprices, hquantities⟩

theorem alignment_eq : rule'.alignment = rule.alignment := by
  unfold alignment
  rw [show PyDecimal.rem rule'.minPrice rule'.priceIncrement = PyDecimal.rem rule.minPrice
      rule.priceIncrement from Decimal.remainder_congr h.minPrice h.priceIncrement,
    show PyDecimal.rem rule'.maxPrice rule'.priceIncrement = PyDecimal.rem rule.maxPrice
      rule.priceIncrement from Decimal.remainder_congr h.maxPrice h.priceIncrement,
    show PyDecimal.rem rule'.minQuantity rule'.quantityIncrement = PyDecimal.rem rule.minQuantity
      rule.quantityIncrement from Decimal.remainder_congr h.minQuantity h.quantityIncrement]

/-- `__post_init__` takes both or raises alike. -/
theorem postInit_agree (hfetched : 0 ≤ rule.fetchedAtMs) (hfetched' : 0 ≤ rule'.fetchedAtMs) :
    Agree SameClass Eq (rule.postInit core) (rule'.postInit core) := by
  apply agree_of_past
  intro result hpast
  rw [postInit_iff hpast, postInit_iff hpast, h.alignment_eq]
  exact and_congr_left fun _ => ⟨h.coherent hfetched', h.symm.coherent hfetched⟩

/-- So does the construction. -/
theorem built (hfetched : 0 ≤ rule.fetchedAtMs) (hfetched' : 0 ≤ rule'.fetchedAtMs) :
    Agree SameClass SameRule (rule.postInit core >>= fun _ => pure rule)
      (rule'.postInit core >>= fun _ => pure rule') :=
  (h.postInit_agree hfetched hfetched').bind fun _ _ _ => .ok h

end SameRule

/-! ### The least lot -/

theorem lt_congr {a a' b b' : Decimal} (ha : a'.value = a.value) (hb : b'.value = b.value) :
    PyDecimal.lt a b = PyDecimal.lt a' b' := by
  show decide (a.value < b.value) = decide (a'.value < b'.value)
  rw [ha, hb]

theorem div_congr {a a' b b' : Decimal} (ha : a'.value = a.value) (hb : b'.value = b.value) :
    PyDecimal.div a b = PyDecimal.div a' b' := by
  show Decimal.quotient a b = Decimal.quotient a' b'
  rw [Decimal.quotient, Decimal.quotient, ha, hb]

theorem mul_congr {a a' b b' : Decimal} (ha : a'.value = a.value) (hb : b'.value = b.value) :
    PyDecimal.mul a b = PyDecimal.mul a' b' := by
  show Decimal.finalize (a.value * b.value) = Decimal.finalize (a'.value * b'.value)
  rw [ha, hb]

/-- A step that both rules take alike. -/
theorem agree_step {α β γ : Type} {S : β → γ → Prop} {x y : Except PyError α}
    {f : α → Except PyError β} {g : α → Except PyError γ} (h : x = y)
    (hrest : ∀ a, Agree Eq S (f a) (g a)) : Agree Eq S (x >>= f) (y >>= g) := by
  refine (Agree.of_eq (fun _ => rfl) h).bind ?_
  rintro a _ rfl
  exact hrest a

/-- The least lots at a price are one lot, and positive. -/
theorem SameRule.lot_agree (h : SameRule rule rule') (hpos : 0 < rule.minQuantity.value)
    (price : Decimal) :
    Agree Eq (fun quantity quantity' : Decimal =>
        quantity'.value = quantity.value ∧ 0 < quantity.value)
      (rule.effectiveMinQuantity price) (rule'.effectiveMinQuantity price) := by
  unfold effectiveMinQuantity
  refine agree_step rfl fun price => ?_
  refine agree_step (by rw [lt_congr rfl h.minPrice, lt_congr h.maxPrice rfl]; rfl) fun _ => ?_
  refine agree_step (congrArg liftSignal (Decimal.remainder_congr rfl h.priceIncrement.symm))
    fun rest => ?_
  refine agree_step rfl fun _ => ?_
  refine agree_step (congrArg liftSignal (div_congr h.minVolumeUsd rfl)) fun volume => ?_
  refine agree_step (congrArg liftSignal (div_congr rfl h.quantityIncrement)) fun lots => ?_
  refine agree_step (congrArg liftSignal (mul_congr rfl h.quantityIncrement)) fun minimum => ?_
  -- the lots are one decimal, or the two least quantities
  have hless : PyDecimal.lt rule.minQuantity minimum = PyDecimal.lt rule'.minQuantity minimum :=
    lt_congr h.minQuantity rfl
  dsimp only
  rw [hless]
  by_cases hmore : PyDecimal.lt rule'.minQuantity minimum = true
  · rw [if_pos hmore, if_pos hmore]
    refine agree_step (by rw [lt_congr h.maxQuantity rfl]; rfl) fun _ => .ok ⟨rfl, ?_⟩
    rw [← hless] at hmore
    exact lt_trans hpos (of_decide_eq_true hmore)
  · rw [if_neg hmore, if_neg hmore]
    exact agree_step (by rw [lt_congr h.maxQuantity h.minQuantity]; rfl)
      fun _ => .ok ⟨h.minQuantity, hpos⟩

/-- A canary is bound to one and the same thing under either rule: the hash, the
evidence, and at each price the least lot with the metadata it is written to. -/
structure Interchangeable (core : KairosCore F) (rule rule' : EvedexDevInstrumentRule Decimal) :
    Prop where
  same : SameRule rule rule'
  rulesSha256 : rule'.rulesSha256 core = rule.rulesSha256 core
  evidence : rule'.evidence core = rule.evidence core
  lots : ∀ price, Agree Eq (fun quantity quantity' : Decimal =>
      quantity'.value = quantity.value ∧
        rule'.metadata core quantity' = rule.metadata core quantity)
    (rule.effectiveMinQuantity price) (rule'.effectiveMinQuantity price)

theorem SameRule.interchangeable (h : SameRule rule rule') (hcoherent : rule.Coherent core) :
    Interchangeable core rule rule' := by
  have hrestates : Restates rule rule'.refetched := h
  refine ⟨h, hrestates.rulesSha256_eq hcoherent, hrestates.evidence_eq hcoherent, fun price => ?_⟩
  have hpos : 0 < rule.minQuantity.value := Coherent.value_pos hcoherent _ (by simp [figures])
  refine (h.lot_agree hpos price).mono ?_
  rintro quantity quantity' ⟨hvalue, hpositive⟩
  exact ⟨hvalue, hrestates.metadata_eq hcoherent hpositive hvalue⟩

/-! ### The rows -/

/-- The rows say the same, figure by figure, in whatever spelling and order. -/
structure SameRow (texts : TextReadings Decimal) (row row' : List (String × JsonValue Decimal)) :
    Prop where
  names : ∀ key ∈ ["name", "trading", "marketState"], ∀ s,
    (JsonValue.member row key).Names s ↔ (JsonValue.member row' key).Names s
  updatedAt : ∀ us, (JsonValue.member row "updatedAt").SpellsInstant texts us ↔
    (JsonValue.member row' "updatedAt").SpellsInstant texts us
  figures : ∀ key ∈ ["lotSize", "priceIncrement", "quantityIncrement", "multiplier", "minVolume",
      "minPrice", "maxPrice", "minQuantity", "maxQuantity"],
    Option.Rel (fun v v' => v'.value = v.value) ((JsonValue.member row key).figure? texts)
      ((JsonValue.member row' key).figure? texts)

theorem string_agree {value value' : JsonValue Decimal} {name : String}
    (h : ∀ s, value.Names s ↔ value'.Names s) :
    Agree SameClass Eq (value.string name) (value'.string name) := by
  apply agree_of_past
  intro result hpast
  rw [← bind_pure (value.string name), ← bind_pure (value'.string name), string_bind_iff hpast,
    string_bind_iff hpast]
  exact exists_congr fun s => and_congr_left fun _ => h s

theorem timestampMs_agree [PyFloat F] {value value' : JsonValue Decimal}
    (h : ∀ us, value.SpellsInstant texts us ↔ value'.SpellsInstant texts us) :
    Agree SameClass Eq (value.timestampMs F texts) (value'.timestampMs F texts) := by
  apply agree_of_past
  intro result hpast
  rw [← bind_pure (value.timestampMs F texts), ← bind_pure (value'.timestampMs F texts),
    timestampMs_bind_iff hpast, timestampMs_bind_iff hpast]
  exact exists_congr fun us => and_congr_left fun _ => h us

theorem figure_agree {value value' : JsonValue Decimal} {name : String}
    (h : Option.Rel (fun v v' => v'.value = v.value) (value.figure? texts) (value'.figure? texts)) :
    Agree SameClass (fun v v' : Decimal => v'.value = v.value)
      (value.positiveDecimal texts name) (value'.positiveDecimal texts name) := by
  cases hv : value.figure? texts with
  | none =>
    rw [hv] at h
    cases hv' : value'.figure? texts with
    | some _ =>
      rw [hv'] at h
      cases h
    | none =>
      obtain ⟨message, hrefused⟩ := positiveDecimal_no_figure name hv
      obtain ⟨message', hrefused'⟩ := positiveDecimal_no_figure name hv'
      rw [hrefused, hrefused']
      exact .error (Or.inr ⟨message, message', rfl, rfl⟩)
  | some v =>
    rw [hv] at h
    cases hv' : value'.figure? texts with
    | none =>
      rw [hv'] at h
      cases h
    | some v' =>
      rw [hv'] at h
      have hsame : v'.value = v.value := by
        cases h with
        | some h => exact h
      have hzero : decimalLe v (PyDecimal.ofInt 0) = decimalLe v' (PyDecimal.ofInt 0) := by
        rw [decimalLe, decimalLe, lt_congr rfl hsame]
      rw [positiveDecimal_figure name hv, positiveDecimal_figure name hv', positiveDecimal,
        positiveDecimal, hzero]
      split
      next => exact .error (Or.inl rfl)
      next => exact .ok hsame

/-- **Rows that say the same are taken for one rule**, or refused alike. -/
theorem fromApi_agree [PyFloat F] {row row' : List (String × JsonValue Decimal)}
    (h : SameRow texts row row')
    {fetchedAtMs fetchedAtMs' : Int} (hfetched : 0 ≤ fetchedAtMs) (hfetched' : 0 ≤ fetchedAtMs') :
    Agree SameClass SameRule (fromApi core texts row fetchedAtMs)
      (fromApi core texts row' fetchedAtMs') := by
  unfold fromApi
  refine (string_agree (h.names _ (by simp))).bind ?_
  rintro venueSymbol _ rfl
  refine (string_agree (h.names _ (by simp))).bind ?_
  rintro trading _ rfl
  refine (string_agree (h.names _ (by simp))).bind ?_
  rintro marketState _ rfl
  refine (timestampMs_agree h.updatedAt).bind ?_
  rintro updatedAtMs _ rfl
  refine (figure_agree (h.figures _ (by simp))).bind fun lotSize _ hlot => ?_
  refine (figure_agree (h.figures _ (by simp))).bind fun priceIncrement _ hprice => ?_
  refine (figure_agree (h.figures _ (by simp))).bind fun quantityIncrement _ hquantity => ?_
  refine (figure_agree (h.figures _ (by simp))).bind fun multiplier _ hmultiplier => ?_
  refine (figure_agree (h.figures _ (by simp))).bind fun minVolumeUsd _ hvolume => ?_
  refine (figure_agree (h.figures _ (by simp))).bind fun minPrice _ hminPrice => ?_
  refine (figure_agree (h.figures _ (by simp))).bind fun maxPrice _ hmaxPrice => ?_
  refine (figure_agree (h.figures _ (by simp))).bind fun minQuantity _ hminQuantity => ?_
  refine (figure_agree (h.figures _ (by simp))).bind fun maxQuantity _ hmaxQuantity => ?_
  exact SameRule.built ⟨rfl, rfl, rfl, rfl, rfl, hlot, hprice, hquantity, hmultiplier, hvolume,
    hminPrice, hmaxPrice, hminQuantity, hmaxQuantity⟩ hfetched hfetched'

/-- Two responses, in full, whose rows of the name say the same, in any order and
among any others. -/
structure Relisted (texts : TextReadings Decimal) (venueSymbol : String)
    (body body' : Body Decimal) : Prop where
  size : body.size ≤ maxResponseBytes
  size' : body'.size ≤ maxResponseBytes
  rows : ∃ items items' rows, body.decoded = .ok (.list items) ∧
    body'.decoded = .ok (.list items') ∧
    List.Forall₂ (SameRow texts) (items.filterMap (rowNamed venueSymbol)) rows ∧
    rows.Perm (items'.filterMap (rowNamed venueSymbol))

/-- **The order, the company and the spelling of a row do not matter.** What is
fetched of two responses that say the same of an instrument is interchangeable,
or neither is taken and for the same reason. -/
theorem fetch_restated [PyFloat F] (core : KairosCore F) (texts : TextReadings Decimal)
    (venueSymbol : String) (body body' : Body Decimal) (fetchedAtMs fetchedAtMs' : Int)
    (hfetched : 0 ≤ fetchedAtMs) (hfetched' : 0 ≤ fetchedAtMs')
    (h : Relisted texts venueSymbol body body') :
    Agree Eq (Interchangeable core)
      (fetchEvedexDevInstrument core texts (.ok body) venueSymbol fetchedAtMs)
      (fetchEvedexDevInstrument core texts (.ok body') venueSymbol fetchedAtMs') := by
  obtain ⟨items, items', rows, hitems, hitems', hrows, hperm⟩ := h.rows
  rw [fetch_listed h.size hitems, fetch_listed h.size' hitems']
  generalize items.filterMap (rowNamed venueSymbol) = listed at hrows
  generalize items'.filterMap (rowNamed venueSymbol) = listed' at hperm
  match listed, rows, hrows with
  | [], [], .nil =>
    cases hperm.nil_eq
    exact .error rfl
  | [row], [row'], .cons hrow .nil =>
    cases hperm.singleton_eq
    dsimp only
    cases hmade : fromApi core texts row fetchedAtMs with
    | ok rule =>
      obtain ⟨rule', hmade', hsame⟩ := (fromApi_agree hrow hfetched hfetched').ok_of_ok hmade
      rw [hmade']
      exact .ok (hsame.interchangeable (fromApi_ok_iff.mp hmade).2.2.1)
    | error e =>
      have hagree : Agree SameClass SameRule (fromApi core texts row fetchedAtMs)
          (fromApi core texts row' fetchedAtMs') := fromApi_agree hrow hfetched hfetched'
      rw [hmade] at hagree
      cases hmade' : fromApi core texts row' fetchedAtMs' with
      | ok rule' =>
        rw [hmade'] at hagree
        cases hagree
      | error e' =>
        rw [hmade'] at hagree
        cases hagree with
        | error hclass =>
          rcases hclass with rfl | ⟨message, message', rfl, rfl⟩
          · cases e <;> exact .error rfl
          · exact .error rfl
  | _ :: _ :: _, _ :: _ :: _, .cons _ (.cons _ _) =>
    obtain ⟨_, _, _, rfl⟩ : ∃ a b rest, listed' = a :: b :: rest := by
      have hlength := hperm.length_eq
      match listed', hlength with
      | a :: b :: rest, _ => exact ⟨a, b, rest, rfl⟩
    exact .error rfl

end Restated

/-! ## Two spellings of one instrument -/

namespace Scenario

/-- One instant, and the decimals of the context. -/
def plainTexts : TextReadings Decimal where
  fromisoformat s := if s = "2026-01-01T00:00:00+00:00" then some ⟨true, 1767225600000000⟩ else none
  decimal s := (Decimal.parse s).map some

/-- An open instrument of the name, with the figures as given. -/
def listing (name : String) (figures : List (String × JsonValue Decimal)) :
    List (String × JsonValue Decimal) :=
  [("name", .text name), ("trading", .text "all"), ("marketState", .text "OPEN"),
    ("updatedAt", .text "2026-01-01T00:00:00Z")] ++ figures

/-- Mostly numbers. -/
def inNumbers (priceIncrement : JsonValue Decimal) : List (String × JsonValue Decimal) :=
  [("lotSize", .int 1), ("priceIncrement", priceIncrement), ("quantityIncrement", .decimal ⟨1, -3⟩),
    ("multiplier", .int 1), ("minVolume", .int 5), ("minPrice", .decimal ⟨1, -2⟩),
    ("maxPrice", .int 1000000), ("minQuantity", .decimal ⟨1, -3⟩), ("maxQuantity", .int 1000)]

/-- The same in texts, the other way round. -/
def inTexts : List (String × JsonValue Decimal) :=
  [("maxQuantity", .text "1000.0"), ("minQuantity", .text "0.0010"), ("maxPrice", .text "1e6"),
    ("minPrice", .text " 0.010 "), ("minVolume", .text "+5.00"), ("multiplier", .text "1.0"),
    ("quantityIncrement", .text "0.0010"), ("priceIncrement", .text "0.010"),
    ("lotSize", .text "1.000")]

def bodyInNumbers : Body Decimal where
  size := 900
  decoded := .ok (.list [.object (listing "BTCUSD:DEV" (inNumbers (.decimal ⟨1, -2⟩))), .null])

def bodyInTexts : Body Decimal where
  size := 1900
  decoded := .ok (.list [.text "BTCUSD:DEV", .object (listing "ETHUSD:DEV" []),
    .object (listing "BTCUSD:DEV" inTexts)])

/-- A grid so fine that the quotient of a bound does not fit the context. -/
def bodyTooFine : Body Decimal where
  size := 900
  decoded := .ok (.list [.object (listing "BTCUSD:DEV" (inNumbers (.decimal ⟨1, -40⟩)))])

theorem relisted : Relisted plainTexts "BTCUSD:DEV" bodyInNumbers bodyInTexts := by
  refine ⟨by decide, by decide, _, _, [listing "BTCUSD:DEV" inTexts], rfl, rfl,
    .cons ⟨?_, fun _ => Iff.rfl, ?_⟩ .nil, List.Perm.refl _⟩
  · intro key hkey s
    simp only [List.mem_cons, List.not_mem_nil, or_false] at hkey
    rcases hkey with rfl | rfl | rfl <;> exact Iff.rfl
  · intro key hkey
    simp only [List.mem_cons, List.not_mem_nil, or_false] at hkey
    rcases hkey with rfl | rfl | rfl | rfl | rfl | rfl | rfl | rfl | rfl <;>
      exact .some (by decide +kernel)

/-- Both are fetched, one spelled otherwise than the other, under one hash. -/
theorem respelled_instrument : ∃ rule rule',
    fetchEvedexDevInstrument unitCore plainTexts (.ok bodyInNumbers) "BTCUSD:DEV" 60000 = .ok rule ∧
    fetchEvedexDevInstrument unitCore plainTexts (.ok bodyInTexts) "BTCUSD:DEV" 90000 = .ok rule' ∧
    rule.minPrice ≠ rule'.minPrice ∧ rule'.rulesSha256 unitCore = rule.rulesSha256 unitCore := by
  have made : fetchEvedexDevInstrument unitCore plainTexts (.ok bodyInNumbers) "BTCUSD:DEV" 60000
      = .ok _ := eq_ok_of_isSome (by decide +kernel)
  have made' : fetchEvedexDevInstrument unitCore plainTexts (.ok bodyInTexts) "BTCUSD:DEV" 90000
      = .ok _ := eq_ok_of_isSome (by decide +kernel)
  obtain ⟨rule', hrule', hsame⟩ := (fetch_restated unitCore plainTexts "BTCUSD:DEV" bodyInNumbers
    bodyInTexts 60000 90000 (by decide) (by decide) relisted).ok_of_ok made
  rw [made'] at hrule'
  cases hrule'
  exact ⟨_, _, made, made', by decide +kernel, hsame.rulesSha256⟩

/-- The grid too fine: the signal of its remainder gets past the promised exception. -/
theorem too_fine_escapes : ∃ row rule, Offers (.ok bodyTooFine) "BTCUSD:DEV" row ∧
    States Rat plainTexts row rule ∧ rule.Coherent unitCore ∧
      rule.alignment = .error (.arithmetic .invalidOperation) := by
  have raised : fetchEvedexDevInstrument unitCore plainTexts (.ok bodyTooFine) "BTCUSD:DEV" 60000
      = .error (.arithmetic .invalidOperation) := by decide +kernel
  obtain h | ⟨_, h, _, hdecoded⟩ | ⟨row, hrow, _, ⟨_, h⟩ | ⟨rule, hstates, _, hcoherent, h⟩⟩ :=
    ((fetch_outcomes unitCore plainTexts (.ok bodyTooFine) "BTCUSD:DEV" 60000).2.2
      (.arithmetic .invalidOperation) (fun _ h => nomatch h)).mp raised
  · cases h
  · cases h
    cases hdecoded
  · cases h
  · exact ⟨row, rule, hrow, hstates, hcoherent, h⟩

end Scenario

end KairosRisk
