import KairosRisk.CanaryInstrument

/-!
# Reading an instrument binding

`bound_canary_instrument` reads a rule out of strings, and every check that
fails on the way is a `ValueError`. So a result that is none says that the
checks before it passed: it is what the computation gives past them
(`boundCanaryInstrument_iff`, `postInit_iff`, `effectiveMinQuantity_iff`).

What is left there are the decimal operations. They may signal, and in which
order they are reached says on which figures (`EvedexDevInstrumentRule.Overtaxed`,
`EvedexDevInstrumentRule.LotOvertaxed`).
-/

namespace KairosRisk

open PyLib

/-! ## Past the checks -/

section Checks

variable {α β : Type}

/-- The result is no `ValueError`. -/
def PastChecks (result : Except PyError α) : Prop :=
  ∀ message, result ≠ .error (.valueError message)

/-- The computation raised something that is no `ValueError`. -/
def Escapes (result : Except PyError α) : Prop :=
  ∃ e, result = .error e ∧ ∀ message, e ≠ .valueError message

theorem pastChecks_ok (a : α) : PastChecks (.ok a) := fun _ h => nomatch h

theorem pastChecks_error {e : PyError} (h : ∀ message, e ≠ .valueError message) :
    PastChecks (.error e : Except PyError α) := fun message he => h message (Except.error.inj he)

variable {result : Except PyError β}

/-- A check that was passed found nothing. -/
theorem raiseIf_bind_iff (hpast : PastChecks result) {test : Bool} {message : String}
    {f : Unit → Except PyError β} :
    (raiseIf test message >>= f) = result ↔ test = false ∧ f () = result := by
  cases test with
  | true =>
    constructor
    · intro h
      exact absurd h.symm (hpast message)
    · rintro ⟨h, _⟩
      cases h
  | false => exact ⟨fun h => ⟨rfl, h⟩, fun h => h.2⟩

/-- The last check of a computation that returns nothing. -/
theorem raiseIf_iff {result : Except PyError Unit} (hpast : PastChecks result) {test : Bool}
    {message : String} : raiseIf test message = result ↔ test = false ∧ .ok () = result := by
  cases test with
  | true =>
    constructor
    · intro h
      exact absurd h.symm (hpast message)
    · rintro ⟨h, _⟩
      cases h
  | false => exact ⟨fun h => ⟨rfl, h⟩, fun h => h.2⟩

/-- What escapes a computation escapes what it does past its checks. -/
theorem escapes_past {x y : Except PyError α} {passed : Prop}
    (h : ∀ {result : Except PyError α}, PastChecks result → (x = result ↔ passed ∧ y = result)) :
    Escapes x ↔ passed ∧ Escapes y := by
  constructor
  · rintro ⟨e, hx, hclass⟩
    obtain ⟨hpassed, hy⟩ := (h (pastChecks_error hclass)).mp hx
    exact ⟨hpassed, e, hy, hclass⟩
  · rintro ⟨hpassed, e, hy, hclass⟩
    exact ⟨e, (h (pastChecks_error hclass)).mpr ⟨hpassed, hy⟩, hclass⟩

theorem escapes_raiseIf_bind_iff {test : Bool} {message : String} {f : Unit → Except PyError β} :
    Escapes (raiseIf test message >>= f) ↔ test = false ∧ Escapes (f ()) :=
  escapes_past fun hpast => raiseIf_bind_iff hpast

/-- A check raises nothing else. -/
theorem not_escapes_raiseIf {test : Bool} {message : String} : ¬Escapes (raiseIf test message) := by
  rintro ⟨e, h, hclass⟩
  have hpassed := ((raiseIf_iff (pastChecks_error hclass)).mp h).2
  cases hpassed

/-- What escapes does so in the first step or after it. -/
theorem escapes_bind_iff {x : Except PyError α} {f : α → Except PyError β} :
    Escapes (x >>= f) ↔ Escapes x ∨ ∃ a, x = .ok a ∧ Escapes (f a) := by
  cases x with
  | error e =>
    constructor
    · rintro ⟨e', h, hclass⟩
      cases h
      exact Or.inl ⟨e, rfl, hclass⟩
    · rintro (⟨e', h, hclass⟩ | ⟨_, h, _⟩)
      · cases h
        exact ⟨e, rfl, hclass⟩
      · cases h
  | ok a =>
    constructor
    · intro h
      exact Or.inr ⟨a, rfl, h⟩
    · rintro (⟨_, h, _⟩ | ⟨_, hok, h⟩)
      · cases h
      · cases hok
        exact h

/-- What came of a decimal operation and the rest. -/
theorem liftSignal_bind_ok_iff {x : Except ArithmeticSignal α} {f : α → Except PyError β} {b : β} :
    (liftSignal x >>= f) = .ok b ↔ ∃ a, x = .ok a ∧ f a = .ok b := by
  cases x with
  | error signal =>
    constructor
    · intro h
      cases h
    · rintro ⟨a, h, _⟩
      cases h
  | ok a =>
    constructor
    · intro h
      exact ⟨a, rfl, h⟩
    · rintro ⟨_, hok, h⟩
      cases hok
      exact h

/-- A signal escapes, or what follows the operation does. -/
theorem escapes_liftSignal_bind_iff {x : Except ArithmeticSignal α} {f : α → Except PyError β} :
    Escapes (liftSignal x >>= f) ↔
      (∃ signal, x = .error signal) ∨ ∃ a, x = .ok a ∧ Escapes (f a) := by
  rw [escapes_bind_iff]
  cases x with
  | error signal =>
    constructor
    · intro _
      exact Or.inl ⟨signal, rfl⟩
    · intro _
      exact Or.inl ⟨.arithmetic signal, rfl, fun _ h => nomatch h⟩
  | ok a =>
    refine or_congr ?_ ?_
    · constructor
      · rintro ⟨_, h, _⟩
        cases h
      · rintro ⟨_, h⟩
        cases h
    · constructor
      · rintro ⟨_, hok, h⟩
        cases hok
        exact ⟨a, rfl, h⟩
      · rintro ⟨_, hok, h⟩
        cases hok
        exact ⟨a, rfl, h⟩

end Checks

section Decimal

variable {D : Type} [PyDecimal D] {β : Type} {result : Except PyError β}

/-- `v > 0`. -/
def IsPositive (v : D) : Prop := decimalLe v (PyDecimal.ofInt 0) = false

/-- `_decimal` of a decimal gives it back when it is positive. -/
theorem positiveDecimal_bind_iff (hpast : PastChecks result) {v : D} {name : String}
    {f : D → Except PyError β} :
    (positiveDecimal v name >>= f) = result ↔ IsPositive v ∧ f v = result := by
  unfold positiveDecimal IsPositive
  by_cases hle : decimalLe v (PyDecimal.ofInt 0) = true
  · rw [if_pos hle, hle]
    constructor
    · intro h
      exact absurd h.symm (hpast _)
    · rintro ⟨h, _⟩
      cases h
  · rw [if_neg hle, Bool.eq_false_iff.mpr hle]
    exact ⟨fun h => ⟨rfl, h⟩, fun h => h.2⟩

/-- The text spells the decimal, positive and in canonical form. -/
structure Spelled (text : String) (v : D) : Prop where
  parse : PyDecimal.parse text = some v
  positive : IsPositive v
  canonical : canonicalDecimal v = text

/-- `_decimal` of a text and the check that it is canonical. -/
theorem decimalOfText_bind_iff (hpast : PastChecks result) {text name message : String}
    {f : D → Except PyError β} :
    (decimalOfText text name >>= fun v => raiseIf (canonicalDecimal v ≠ text) message >>= fun _ =>
        f v) = result ↔ ∃ v : D, Spelled text v ∧ f v = result := by
  unfold decimalOfText
  cases hparse : (PyDecimal.parse text : Option D) with
  | none =>
    constructor
    · intro h
      exact absurd h.symm (hpast _)
    · rintro ⟨v, hspelled, _⟩
      rw [hspelled.parse] at hparse
      cases hparse
  | some parsed =>
    rw [positiveDecimal_bind_iff hpast, raiseIf_bind_iff hpast, decide_eq_false_iff_not,
      Decidable.not_not]
    constructor
    · rintro ⟨hpositive, hcanonical, h⟩
      exact ⟨parsed, ⟨hparse, hpositive, hcanonical⟩, h⟩
    · rintro ⟨v, hspelled, h⟩
      have hsame : parsed = v := Option.some.inj (hparse.symm.trans hspelled.parse)
      subst hsame
      exact ⟨hspelled.positive, hspelled.canonical, h⟩

/-- A rule field of the metadata and the rest. -/
theorem ruleDecimal_bind_iff (hpast : PastChecks result) {metadata : OrderedDict String String}
    {field : String} {f : D → Except PyError β} :
    (ruleDecimal metadata field >>= f) = result ↔
      ∃ v : D, Spelled ((metadata.get? field).getD "") v ∧ f v = result := by
  unfold ruleDecimal
  simp only [bind_assoc, pure_bind]
  exact decimalOfText_bind_iff hpast

/-- `a % b == 0`. -/
def Aligned (a b : D) : Prop := ∃ rest, PyDecimal.rem a b = .ok rest ∧ decimalIsZero rest = true

/-- `a % b` signals. -/
def RestSignals (a b : D) : Prop := ∃ signal, PyDecimal.rem a b = .error signal

/-- An alignment check that returned found the alignment. -/
theorem aligned_bind_ok_iff {a b : D} {message : String} {f : Unit → Except PyError β} {r : β} :
    (liftSignal (PyDecimal.rem a b) >>= fun rest => raiseIf (!decimalIsZero rest) message >>= f)
      = .ok r ↔ Aligned a b ∧ f () = .ok r := by
  rw [liftSignal_bind_ok_iff]
  constructor
  · rintro ⟨rest, hrest, h⟩
    obtain ⟨hzero, h⟩ := ok_of_raiseIf h
    exact ⟨⟨rest, hrest, by simpa using hzero⟩, h⟩
  · rintro ⟨⟨rest, hrest, hzero⟩, h⟩
    exact ⟨rest, hrest, by rw [raiseIf_bind (by simpa using hzero), h]⟩

/-- The signal of an alignment check escapes, or what follows it does. -/
theorem escapes_aligned_bind_iff {a b : D} {message : String} {f : Unit → Except PyError β} :
    Escapes (liftSignal (PyDecimal.rem a b) >>= fun rest =>
        raiseIf (!decimalIsZero rest) message >>= f)
      ↔ RestSignals a b ∨ (Aligned a b ∧ Escapes (f ())) := by
  rw [escapes_liftSignal_bind_iff]
  refine or_congr Iff.rfl ?_
  constructor
  · rintro ⟨rest, hrest, hescapes⟩
    obtain ⟨hzero, hescapes⟩ := escapes_raiseIf_bind_iff.mp hescapes
    exact ⟨⟨rest, hrest, by simpa using hzero⟩, hescapes⟩
  · rintro ⟨⟨rest, hrest, hzero⟩, hescapes⟩
    exact ⟨rest, hrest, escapes_raiseIf_bind_iff.mpr ⟨by simpa using hzero, hescapes⟩⟩

end Decimal

/-! ## The rule -/

namespace EvedexDevInstrumentRule

variable {F D : Type} [PyDecimal D]

/-- The rule passes the checks of `__post_init__` that take no remainder. -/
structure Coherent (core : KairosCore F) (rule : EvedexDevInstrumentRule D) : Prop where
  symbol : ":DEV".toList.isSuffixOf rule.venueSymbol.toList = true
  upper : rule.venueSymbol = core.upper rule.venueSymbol
  trading : rule.trading = "all"
  marketState : rule.marketState = "OPEN"
  updatedAtMs : 0 ≤ rule.updatedAtMs
  fetchedAtMs : 0 ≤ rule.fetchedAtMs
  figures : ∀ v ∈ rule.figures, IsPositive v
  lotSize : PyDecimal.eqv rule.lotSize (PyDecimal.ofInt 1) = true
  multiplier : PyDecimal.eqv rule.multiplier (PyDecimal.ofInt 1) = true
  prices : decimalLe rule.maxPrice rule.minPrice = false
  quantities : PyDecimal.lt rule.maxQuantity rule.minQuantity = false

/-- The remainders of `__post_init__`, in their order. -/
def alignment (rule : EvedexDevInstrumentRule D) : Except PyError Unit := do
  let minPriceRest ← liftSignal (PyDecimal.rem rule.minPrice rule.priceIncrement)
  raiseIf (!decimalIsZero minPriceRest) "instrument price bounds must align with priceIncrement"
  let maxPriceRest ← liftSignal (PyDecimal.rem rule.maxPrice rule.priceIncrement)
  raiseIf (!decimalIsZero maxPriceRest) "instrument price bounds must align with priceIncrement"
  let minQuantityRest ← liftSignal (PyDecimal.rem rule.minQuantity rule.quantityIncrement)
  raiseIf (!decimalIsZero minQuantityRest)
    "instrument minQuantity must align with quantityIncrement"

/-- Both price bounds and the least quantity are on their grids. -/
structure OnGrid (rule : EvedexDevInstrumentRule D) : Prop where
  minPrice : Aligned rule.minPrice rule.priceIncrement
  maxPrice : Aligned rule.maxPrice rule.priceIncrement
  minQuantity : Aligned rule.minQuantity rule.quantityIncrement

/-- A remainder of `__post_init__` signals, those before it being zero. -/
inductive Overtaxed (rule : EvedexDevInstrumentRule D) : Prop
  | minPrice (signals : RestSignals rule.minPrice rule.priceIncrement)
  | maxPrice (minPrice : Aligned rule.minPrice rule.priceIncrement)
      (signals : RestSignals rule.maxPrice rule.priceIncrement)
  | minQuantity (minPrice : Aligned rule.minPrice rule.priceIncrement)
      (maxPrice : Aligned rule.maxPrice rule.priceIncrement)
      (signals : RestSignals rule.minQuantity rule.quantityIncrement)

variable {core : KairosCore F} {rule : EvedexDevInstrumentRule D}

/-- Past its checks, `__post_init__` takes the remainders. -/
theorem postInit_iff {result : Except PyError Unit} (hpast : PastChecks result) :
    rule.postInit core = result ↔ rule.Coherent core ∧ rule.alignment = result := by
  unfold postInit
  -- one conjunct for each check, in the order they are made
  simp only [raiseIf_bind_iff hpast, positiveDecimal_bind_iff hpast, Bool.or_eq_false_iff,
    Bool.not_eq_false', decide_eq_false_iff_not, Decidable.not_not, Int.not_lt]
  constructor
  · rintro ⟨⟨hsymbol, hupper⟩, ⟨htrading, hstate⟩, hupdated, hfetched, hlot, hprice, hquantity,
      hmultiplier, hvolume, hminPrice, hmaxPrice, hminQuantity, hmaxQuantity,
      ⟨hlotSize, hmultiple⟩, hprices, hquantities, h⟩
    refine ⟨⟨hsymbol, hupper, htrading, hstate, hupdated, hfetched, ?_, hlotSize,
      hmultiple, hprices, hquantities⟩, h⟩
    simp only [figures, List.forall_mem_cons, List.not_mem_nil, false_implies, implies_true,
      and_true]
    exact ⟨hlot, hprice, hquantity, hmultiplier, hvolume, hminPrice, hmaxPrice, hminQuantity,
      hmaxQuantity⟩
  · rintro ⟨hcoherent, h⟩
    have hfigures := hcoherent.figures
    simp only [figures, List.forall_mem_cons, List.not_mem_nil, false_implies, implies_true,
      and_true] at hfigures
    obtain ⟨hlot, hprice, hquantity, hmultiplier, hvolume, hminPrice, hmaxPrice, hminQuantity,
      hmaxQuantity⟩ := hfigures
    exact ⟨⟨hcoherent.symbol, hcoherent.upper⟩, ⟨hcoherent.trading, hcoherent.marketState⟩,
      hcoherent.updatedAtMs, hcoherent.fetchedAtMs, hlot, hprice, hquantity, hmultiplier, hvolume,
      hminPrice, hmaxPrice, hminQuantity, hmaxQuantity, ⟨hcoherent.lotSize, hcoherent.multiplier⟩,
      hcoherent.prices, hcoherent.quantities, h⟩

/-- The remainders are zero exactly when the rule is on its grids. -/
theorem alignment_ok_iff : rule.alignment = .ok () ↔ rule.OnGrid := by
  unfold alignment
  rw [aligned_bind_ok_iff, aligned_bind_ok_iff]
  constructor
  · rintro ⟨hminPrice, hmaxPrice, h⟩
    obtain ⟨rest, hrest, h⟩ := liftSignal_bind_ok_iff.mp h
    exact ⟨hminPrice, hmaxPrice, rest, hrest, by simpa using raiseIf_ok h⟩
  · rintro ⟨hminPrice, hmaxPrice, rest, hrest, hzero⟩
    refine ⟨hminPrice, hmaxPrice, liftSignal_bind_ok_iff.mpr ⟨rest, hrest, ?_⟩⟩
    rw [hzero]
    rfl

/-- A signal escapes them exactly when one of them is reached and signals. -/
theorem escapes_alignment_iff : Escapes rule.alignment ↔ rule.Overtaxed := by
  unfold alignment
  rw [escapes_aligned_bind_iff, escapes_aligned_bind_iff, escapes_liftSignal_bind_iff]
  have hlast : ¬∃ rest, PyDecimal.rem rule.minQuantity rule.quantityIncrement = .ok rest ∧
      Escapes (raiseIf (!decimalIsZero rest)
        "instrument minQuantity must align with quantityIncrement") := by
    rintro ⟨rest, _, hescapes⟩
    exact not_escapes_raiseIf hescapes
  rw [or_iff_left hlast]
  constructor
  · rintro (hsignals | ⟨hminPrice, hsignals | ⟨hmaxPrice, hsignals⟩⟩)
    · exact .minPrice hsignals
    · exact .maxPrice hminPrice hsignals
    · exact .minQuantity hminPrice hmaxPrice hsignals
  · rintro (hsignals | ⟨hminPrice, hsignals⟩ | ⟨hminPrice, hmaxPrice, hsignals⟩)
    · exact Or.inl hsignals
    · exact Or.inr ⟨hminPrice, Or.inl hsignals⟩
    · exact Or.inr ⟨hminPrice, Or.inr ⟨hmaxPrice, hsignals⟩⟩

/-- An accepted rule is coherent and on its grids. -/
theorem postInit_ok_iff : rule.postInit core = .ok () ↔ rule.Coherent core ∧ rule.OnGrid := by
  rw [postInit_iff (pastChecks_ok ()), alignment_ok_iff]

/-- A signal escapes `__post_init__` on a coherent rule whose remainders signal. -/
theorem escapes_postInit_iff :
    Escapes (rule.postInit core) ↔ rule.Coherent core ∧ rule.Overtaxed := by
  rw [← escapes_alignment_iff]
  exact escapes_past postInit_iff

/-! ## The least lot -/

/-- The price is positive and within the rule's bounds. -/
structure Quoted (rule : EvedexDevInstrumentRule D) (price : D) : Prop where
  positive : IsPositive price
  ge : PyDecimal.lt price rule.minPrice = false
  le : PyDecimal.lt rule.maxPrice price = false

/-- The least whole number of increments that is worth the minimum volume. -/
def volumeMinimum (rule : EvedexDevInstrumentRule D) (price : D) :
    Except ArithmeticSignal D := do
  let volume ← PyDecimal.div rule.minVolumeUsd price
  let lots ← PyDecimal.div volume rule.quantityIncrement
  PyDecimal.mul (PyDecimal.ceil lots) rule.quantityIncrement

/-- A decimal operation of `effective_min_quantity` signals. -/
inductive LotOvertaxed (rule : EvedexDevInstrumentRule D) (price : D) : Prop
  | price (quoted : rule.Quoted price) (signals : RestSignals price rule.priceIncrement)
  | volume (quoted : rule.Quoted price) (aligned : Aligned price rule.priceIncrement)
      (signals : ∃ signal, rule.volumeMinimum price = .error signal)

variable {price : D}

/-- Operations whose signals nobody catches are one operation. -/
theorem liftSignal_bind {α β γ : Type} {x : Except ArithmeticSignal α}
    {f : α → Except ArithmeticSignal β} {g : β → Except PyError γ} :
    (liftSignal x >>= fun a => liftSignal (f a) >>= g) = liftSignal (x >>= f) >>= g := by
  cases x with
  | error => rfl
  | ok => rfl

/-- `effective_min_quantity` of a price within the bounds. -/
def takeLot (rule : EvedexDevInstrumentRule D) (price : D) : Except PyError D := do
  let priceRest ← liftSignal (PyDecimal.rem price rule.priceIncrement)
  raiseIf (!decimalIsZero priceRest) "entry price is not aligned with EVEDEX priceIncrement"
  let minimum ← liftSignal (rule.volumeMinimum price)
  raiseIf (PyDecimal.lt rule.maxQuantity (PyDecimal.max rule.minQuantity minimum))
    "effective minimum quantity exceeds venue maxQuantity"
  return PyDecimal.max rule.minQuantity minimum

/-- Past the checks of the price, the lot is taken. -/
theorem effectiveMinQuantity_iff {result : Except PyError D} (hpast : PastChecks result) :
    rule.effectiveMinQuantity price = result ↔ rule.Quoted price ∧ rule.takeLot price = result := by
  unfold effectiveMinQuantity takeLot volumeMinimum
  simp only [positiveDecimal_bind_iff hpast, raiseIf_bind_iff hpast, Bool.or_eq_false_iff,
    ← liftSignal_bind]
  constructor
  · rintro ⟨hpositive, ⟨hge, hle⟩, h⟩
    exact ⟨⟨hpositive, hge, hle⟩, h⟩
  · rintro ⟨hquoted, h⟩
    exact ⟨hquoted.positive, ⟨hquoted.ge, hquoted.le⟩, h⟩

/-- **The least lot** at a price within the bounds and on the grid. -/
theorem effectiveMinQuantity_ok_iff {quantity : D} :
    rule.effectiveMinQuantity price = .ok quantity ↔
      rule.Quoted price ∧ Aligned price rule.priceIncrement ∧
        ∃ minimum, rule.volumeMinimum price = .ok minimum ∧
          PyDecimal.max rule.minQuantity minimum = quantity ∧
          PyDecimal.lt rule.maxQuantity quantity = false := by
  rw [effectiveMinQuantity_iff (pastChecks_ok _), takeLot, aligned_bind_ok_iff,
    liftSignal_bind_ok_iff]
  refine and_congr Iff.rfl (and_congr Iff.rfl (exists_congr fun minimum => ?_))
  refine and_congr Iff.rfl ?_
  rw [raiseIf_bind_iff (pastChecks_ok _)]
  constructor
  · rintro ⟨hle, h⟩
    cases h
    exact ⟨rfl, hle⟩
  · rintro ⟨rfl, hle⟩
    exact ⟨hle, rfl⟩

theorem escapes_takeLot_iff : Escapes (rule.takeLot price) ↔
    RestSignals price rule.priceIncrement ∨ (Aligned price rule.priceIncrement ∧
      ∃ signal, rule.volumeMinimum price = .error signal) := by
  have hlast : ¬∃ minimum, rule.volumeMinimum price = .ok minimum ∧
      Escapes (raiseIf (PyDecimal.lt rule.maxQuantity (PyDecimal.max rule.minQuantity minimum))
        "effective minimum quantity exceeds venue maxQuantity" >>= fun _ =>
        (pure (PyDecimal.max rule.minQuantity minimum) : Except PyError D)) := by
    rintro ⟨minimum, _, hescapes⟩
    obtain ⟨_, e, h, _⟩ := escapes_raiseIf_bind_iff.mp hescapes
    cases h
  rw [takeLot, escapes_aligned_bind_iff, escapes_liftSignal_bind_iff, or_iff_left hlast]

/-- **A signal escapes it** exactly when an operation it reaches signals. -/
theorem escapes_effectiveMinQuantity_iff :
    Escapes (rule.effectiveMinQuantity price) ↔ rule.LotOvertaxed price := by
  rw [escapes_past effectiveMinQuantity_iff, escapes_takeLot_iff]
  constructor
  · rintro ⟨hquoted, hsignals | ⟨haligned, hsignals⟩⟩
    · exact .price hquoted hsignals
    · exact .volume hquoted haligned hsignals
  · rintro (⟨hquoted, hsignals⟩ | ⟨hquoted, haligned, hsignals⟩)
    · exact ⟨hquoted, Or.inl hsignals⟩
    · exact ⟨hquoted, Or.inr ⟨haligned, hsignals⟩⟩

end EvedexDevInstrumentRule

/-! ## The binding -/

section Binding

open EvedexDevInstrumentRule

variable {F D : Type} [PyDecimal D] {core : KairosCore F}

/-- The value of a metadata entry. -/
def entry (metadata : OrderedDict String String) (key : String) : String :=
  (metadata.get? key).getD ""

/-- The metadata spells the rule, for this account and under the fixed policy. -/
structure Spells (accountId : String) (metadata : OrderedDict String String)
    (rule : EvedexDevInstrumentRule D) : Prop where
  keys : (metadata.keys.all canaryMetadataKeys.contains
    && canaryMetadataKeys.all metadata.keys.contains) = true
  accountId : entry metadata "account_id" = accountId
  alphaClaim : entry metadata "alpha_claim" = "false"
  entryOrder : entry metadata "canary_entry_order" = canaryEntryOrder
  entryPolicy : entry metadata "entry_policy" = "NEXT_BAR_MARKET"
  purpose : entry metadata "purpose" = "technical_execution_canary"
  tradingAll : entry metadata "venue_trading" = "all"
  marketOpen : entry metadata "venue_market_state" = "OPEN"
  venueSymbol : rule.venueSymbol = entry metadata "venue_symbol"
  trading : rule.trading = entry metadata "venue_trading"
  marketState : rule.marketState = entry metadata "venue_market_state"
  updatedAtMs : intOfText (entry metadata "venue_updated_at_ms") = some rule.updatedAtMs
  updatedText : toString rule.updatedAtMs = entry metadata "venue_updated_at_ms"
  updated_nonneg : 0 ≤ rule.updatedAtMs
  fetchedAtMs : rule.fetchedAtMs = rule.updatedAtMs
  figures : ∀ p ∈ ruleDecimalFields.zip rule.figures, Spelled (entry metadata p.1) p.2

/-- `bound_canary_instrument` once the rule was read. -/
def bindRule (core : KairosCore F) (intent : StrategyIntentV1 F)
    (metadata : OrderedDict String String) (rule : EvedexDevInstrumentRule D) :
    Except PyError (EvedexDevInstrumentRule D × D) := do
  rule.postInit core
  raiseIf (entry metadata "instrument_rules_sha256" ≠ rule.rulesSha256 core)
    "technical canary instrument rule hash is invalid"
  let venueEvidence := intent.evidence.filter fun item => item.kind == "venue_instrument"
  raiseIf (venueEvidence ≠ [rule.evidence core])
    "technical canary venue instrument evidence is invalid"
  let boundText := entry metadata "canary_quantity"
  let bound ← decimalOfText boundText "canary_quantity"
  raiseIf (canonicalDecimal bound ≠ boundText) "technical canary quantity is not canonical"
  let outside := PyDecimal.lt bound rule.minQuantity || PyDecimal.lt rule.maxQuantity bound
  raiseIf outside "technical canary quantity violates bound instrument increments"
  let rest ← liftSignal (PyDecimal.rem bound rule.quantityIncrement)
  raiseIf (!decimalIsZero rest) "technical canary quantity violates bound instrument increments"
  return (rule, bound)

/-- Past the checks of its reading, `bound_canary_instrument` binds the rule that was read. -/
theorem boundCanaryInstrument_iff {intent : StrategyIntentV1 F} {accountId : String}
    {result : Except PyError (EvedexDevInstrumentRule D × D)} (hpast : PastChecks result) :
    boundCanaryInstrument core intent accountId = result ↔
      ∃ rule : EvedexDevInstrumentRule D, Spells accountId (dictOfPairs intent.metadata) rule ∧
        bindRule core intent (dictOfPairs intent.metadata) rule = result := by
  unfold boundCanaryInstrument
  dsimp only
  generalize dictOfPairs intent.metadata = metadata
  cases hread : intOfText ((metadata.get? "venue_updated_at_ms").getD "") with
  | none =>
    constructor
    · intro h
      simp only [raiseIf_bind_iff hpast] at h
      exact absurd h.2.2.2.symm (hpast _)
    · rintro ⟨rule, hspells, _⟩
      have hupdated := hspells.updatedAtMs
      rw [entry, hread] at hupdated
      cases hupdated
  | some updatedAtMs =>
    simp only [ok_bind, raiseIf_bind_iff hpast, ruleDecimal_bind_iff hpast, Bool.or_eq_false_iff,
      Bool.not_eq_false', decide_eq_false_iff_not, Decidable.not_not, Int.not_lt]
    constructor
    · rintro ⟨hkeys, haccount, ⟨⟨⟨⟨⟨halpha, horder⟩, hpolicy⟩, hpurpose⟩, htrading⟩, hopen⟩,
        ⟨htext, hnonneg⟩, lotSize, hlot, priceIncrement, hprice, quantityIncrement, hquantity,
        multiplier, hmultiplier, minVolumeUsd, hvolume, minPrice, hminPrice, maxPrice, hmaxPrice,
        minQuantity, hminQuantity, maxQuantity, hmaxQuantity, h⟩
      refine ⟨_, ?_, h⟩
      refine ⟨hkeys, haccount, halpha, horder, hpolicy, hpurpose, htrading, hopen, rfl, rfl, rfl,
        hread, htext, hnonneg, rfl, ?_⟩
      simp only [ruleDecimalFields, figures, List.zip_cons_cons, List.zip_nil_left,
        List.forall_mem_cons, List.not_mem_nil, false_implies, implies_true, and_true]
      exact ⟨hlot, hprice, hquantity, hmultiplier, hvolume, hminPrice, hmaxPrice, hminQuantity,
        hmaxQuantity⟩
    · rintro ⟨⟨venueSymbol, trading, marketState, updated, lotSize, priceIncrement,
        quantityIncrement, multiplier, minVolumeUsd, minPrice, maxPrice, minQuantity, maxQuantity,
        fetchedAtMs⟩, hspells, h⟩
      have hupdated : updatedAtMs = updated :=
        Option.some.inj (hread.symm.trans hspells.updatedAtMs)
      have hfetched : fetchedAtMs = updated := hspells.fetchedAtMs
      have hsymbol : venueSymbol = entry metadata "venue_symbol" := hspells.venueSymbol
      have htrading : trading = entry metadata "venue_trading" := hspells.trading
      have hstate : marketState = entry metadata "venue_market_state" := hspells.marketState
      have hfigures := hspells.figures
      simp only [ruleDecimalFields, figures, List.zip_cons_cons, List.zip_nil_left,
        List.forall_mem_cons, List.not_mem_nil, false_implies, implies_true, and_true] at hfigures
      obtain ⟨hlot, hprice, hquantity, hmultiplier, hvolume, hminPrice, hmaxPrice, hminQuantity,
        hmaxQuantity⟩ := hfigures
      subst hupdated hfetched hsymbol htrading hstate
      exact ⟨hspells.keys, hspells.accountId, ⟨⟨⟨⟨⟨hspells.alphaClaim, hspells.entryOrder⟩,
        hspells.entryPolicy⟩, hspells.purpose⟩, hspells.tradingAll⟩, hspells.marketOpen⟩,
        ⟨hspells.updatedText, hspells.updated_nonneg⟩, lotSize, hlot, priceIncrement, hprice,
        quantityIncrement, hquantity, multiplier, hmultiplier, minVolumeUsd, hvolume, minPrice,
        hminPrice, maxPrice, hmaxPrice, minQuantity, hminQuantity, maxQuantity, hmaxQuantity, h⟩

/-- The hash and the evidence of the intent are those of the rule. -/
structure Vouches (core : KairosCore F) (intent : StrategyIntentV1 F)
    (rule : EvedexDevInstrumentRule D) : Prop where
  hash : entry (dictOfPairs intent.metadata) "instrument_rules_sha256" = rule.rulesSha256 core
  evidence : (intent.evidence.filter fun item => item.kind == "venue_instrument")
    = [rule.evidence core]

/-- The metadata spells a quantity between the rule's bounds. -/
structure SpellsQuantity (intent : StrategyIntentV1 F) (rule : EvedexDevInstrumentRule D)
    (quantity : D) : Prop where
  spelled : Spelled (entry (dictOfPairs intent.metadata) "canary_quantity") quantity
  ge : PyDecimal.lt quantity rule.minQuantity = false
  le : PyDecimal.lt rule.maxQuantity quantity = false

/-- The intent binds the rule and the quantity. -/
structure Binds (core : KairosCore F) (intent : StrategyIntentV1 F) (accountId : String)
    (rule : EvedexDevInstrumentRule D) (quantity : D) : Prop where
  spells : Spells accountId (dictOfPairs intent.metadata) rule
  coherent : rule.Coherent core
  onGrid : rule.OnGrid
  vouches : Vouches core intent rule
  lot : SpellsQuantity intent rule quantity
  aligned : Aligned quantity rule.quantityIncrement

/-- A remainder of `bound_canary_instrument` signals: one of the rule's, or the
quantity's under a rule that was accepted. -/
inductive BindingOvertaxed (D : Type) [PyDecimal D] (core : KairosCore F)
    (intent : StrategyIntentV1 F) (accountId : String) : Prop
  | rule {rule : EvedexDevInstrumentRule D}
      (spells : Spells accountId (dictOfPairs intent.metadata) rule)
      (coherent : rule.Coherent core) (overtaxed : rule.Overtaxed)
  | quantity {rule : EvedexDevInstrumentRule D} {quantity : D}
      (spells : Spells accountId (dictOfPairs intent.metadata) rule)
      (coherent : rule.Coherent core) (onGrid : rule.OnGrid) (vouches : Vouches core intent rule)
      (lot : SpellsQuantity intent rule quantity)
      (signals : RestSignals quantity rule.quantityIncrement)

variable {intent : StrategyIntentV1 F} {accountId : String} {rule : EvedexDevInstrumentRule D}

/-- A rule that is accepted is bound when the intent vouches for it and a
quantity under it is aligned. -/
theorem bindRule_accepted_iff {result : Except PyError (EvedexDevInstrumentRule D × D)}
    (hpast : PastChecks result) (haccepted : rule.postInit core = .ok ()) :
    bindRule core intent (dictOfPairs intent.metadata) rule = result ↔
      Vouches core intent rule ∧ ∃ quantity, SpellsQuantity intent rule quantity ∧
        (liftSignal (PyDecimal.rem quantity rule.quantityIncrement) >>= fun rest =>
          raiseIf (!decimalIsZero rest)
            "technical canary quantity violates bound instrument increments" >>= fun _ =>
          pure (rule, quantity)) = result := by
  unfold bindRule
  rw [haccepted]
  simp only [ok_bind, raiseIf_bind_iff hpast, decimalOfText_bind_iff hpast, Bool.or_eq_false_iff,
    decide_eq_false_iff_not, Decidable.not_not]
  constructor
  · rintro ⟨hhash, hevidence, quantity, hspelled, ⟨hge, hle⟩, h⟩
    exact ⟨⟨hhash, hevidence⟩, quantity, ⟨hspelled, hge, hle⟩, h⟩
  · rintro ⟨hvouches, quantity, hquantity, h⟩
    exact ⟨hvouches.hash, hvouches.evidence, quantity, hquantity.spelled,
      ⟨hquantity.ge, hquantity.le⟩, h⟩

/-- **What `bound_canary_instrument` returns** is what the intent binds. -/
theorem boundCanaryInstrument_ok_iff {quantity : D} :
    boundCanaryInstrument core intent accountId = .ok (rule, quantity) ↔
      Binds core intent accountId rule quantity := by
  rw [boundCanaryInstrument_iff (pastChecks_ok _)]
  constructor
  · rintro ⟨rule', hspells, h⟩
    obtain ⟨_, haccepted, _⟩ := ok_of_bind h
    obtain ⟨hcoherent, honGrid⟩ := postInit_ok_iff.mp haccepted
    obtain ⟨hvouches, quantity', hquantity, h⟩ :=
      (bindRule_accepted_iff (pastChecks_ok _) haccepted).mp h
    obtain ⟨haligned, h⟩ := aligned_bind_ok_iff.mp h
    cases h
    exact ⟨hspells, hcoherent, honGrid, hvouches, hquantity, haligned⟩
  · intro h
    have haccepted : rule.postInit core = .ok () := postInit_ok_iff.mpr ⟨h.coherent, h.onGrid⟩
    refine ⟨rule, h.spells, (bindRule_accepted_iff (pastChecks_ok _) haccepted).mpr ?_⟩
    exact ⟨h.vouches, quantity, h.lot, aligned_bind_ok_iff.mpr ⟨h.aligned, rfl⟩⟩

/-- **A signal escapes it** exactly when a remainder it reaches signals. -/
theorem escapes_boundCanaryInstrument_iff :
    Escapes (boundCanaryInstrument (D := D) core intent accountId) ↔
      BindingOvertaxed D core intent accountId := by
  constructor
  · rintro ⟨e, h, hclass⟩
    obtain ⟨rule, hspells, h⟩ := (boundCanaryInstrument_iff (pastChecks_error hclass)).mp h
    cases haccepted : rule.postInit core with
    | error err =>
      rw [bindRule, haccepted] at h
      cases h
      obtain ⟨hcoherent, hovertaxed⟩ := escapes_postInit_iff.mp ⟨e, haccepted, hclass⟩
      exact .rule hspells hcoherent hovertaxed
    | ok =>
      obtain ⟨hcoherent, honGrid⟩ := postInit_ok_iff.mp haccepted
      obtain ⟨hvouches, quantity, hquantity, h⟩ :=
        (bindRule_accepted_iff (pastChecks_error hclass) haccepted).mp h
      rcases escapes_aligned_bind_iff.mp ⟨e, h, hclass⟩ with hsignals | ⟨_, _, hreturned, _⟩
      · exact .quantity hspells hcoherent honGrid hvouches hquantity hsignals
      · cases hreturned
  · rintro (⟨hspells, hcoherent, hovertaxed⟩ |
      ⟨hspells, hcoherent, honGrid, hvouches, hquantity, hsignals⟩)
    · obtain ⟨e, h, hclass⟩ := escapes_postInit_iff.mpr ⟨hcoherent, hovertaxed⟩
      refine ⟨e, (boundCanaryInstrument_iff (pastChecks_error hclass)).mpr ⟨_, hspells, ?_⟩, hclass⟩
      rw [bindRule, h]
      rfl
    · have haccepted := postInit_ok_iff.mpr ⟨hcoherent, honGrid⟩
      obtain ⟨e, h, hclass⟩ := escapes_aligned_bind_iff.mpr (Or.inl hsignals)
      refine ⟨e, (boundCanaryInstrument_iff (pastChecks_error hclass)).mpr ⟨_, hspells, ?_⟩, hclass⟩
      exact (bindRule_accepted_iff (pastChecks_error hclass) haccepted).mpr
        ⟨hvouches, _, hquantity, h⟩

/-- Past the binding, the lot is taken again at the worst entry. -/
theorem escapes_boundCanaryQuantity_iff [PyFloat F] [Spelling F D] {worstEntryPrice : F} :
    Escapes (boundCanaryQuantity D core intent accountId worstEntryPrice) ↔
      BindingOvertaxed D core intent accountId ∨
        ∃ (rule : EvedexDevInstrumentRule D) (quantity : D),
          Binds core intent accountId rule quantity ∧
          rule.LotOvertaxed (Spelling.spell worstEntryPrice) := by
  unfold boundCanaryQuantity
  rw [escapes_bind_iff, escapes_boundCanaryInstrument_iff, Prod.exists]
  refine or_congr Iff.rfl (exists_congr fun rule => exists_congr fun quantity => ?_)
  rw [boundCanaryInstrument_ok_iff, ← escapes_effectiveMinQuantity_iff]
  refine and_congr Iff.rfl ?_
  dsimp only
  rw [escapes_bind_iff]
  refine or_iff_left ?_
  -- what follows the lot are checks
  rintro ⟨expected, _, hescapes⟩
  obtain ⟨_, hescapes⟩ := escapes_raiseIf_bind_iff.mp hescapes
  obtain ⟨_, e, h, _⟩ := escapes_raiseIf_bind_iff.mp hescapes
  cases h

end Binding

end KairosRisk
