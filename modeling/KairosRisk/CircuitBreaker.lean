import KairosRisk.Contracts
import KairosRisk.Lib.OrderedDict
import KairosRisk.Lib.PyNum
import KairosRisk.Lib.Run

/-!
# The circuit breakers

A breaker is a mutable machine of three states: consecutive failures trip it,
a cooldown turns `OPEN` into `HALF_OPEN` as a side effect of reading it, a
failed probe trips it again and a success closes it. The registry keeps one
breaker a model and one a provider, made on first use, and collapses them into
one `SystemMode`.

A breaker that was never made answers as one made at that moment, so the
registry is read through `breaker` and `providerBreaker`, and the lemmas beside
them say what a write under one name does to a read under another. That the
mode is a function of the health events alone is shown in `ModeHistory`.
-/

namespace KairosRisk

open PyLib

/-! ## One breaker -/

/-- `BreakerState`; `opened` is `OPEN`. -/
inductive BreakerState where
  | closed | opened | halfOpen
  deriving DecidableEq, Repr

/-- `CircuitBreaker`. -/
structure CircuitBreaker (F : Type) where
  maxConsecutiveFailures : Nat
  cooldownS : F
  state : BreakerState
  consecutiveFailures : Nat
  openedAt : Option F

namespace CircuitBreaker

variable {F : Type}

/-- `CircuitBreaker(max, cooldown)`. -/
def new (max : Nat) (cooldown : F) : CircuitBreaker F where
  maxConsecutiveFailures := max
  cooldownS := cooldown
  state := .closed
  consecutiveFailures := 0
  openedAt := none

/-- `_trip`. -/
def trip (b : CircuitBreaker F) (now : F) : CircuitBreaker F :=
  { b with state := .opened, openedAt := some now }

/-- `record_success`. -/
def recordSuccess (b : CircuitBreaker F) : CircuitBreaker F :=
  { b with consecutiveFailures := 0, state := .closed, openedAt := none }

variable [PyFloat F]

/-- `_maybe_half_open`, at a reading of the monotonic clock. -/
def maybeHalfOpen (b : CircuitBreaker F) (now : F) : CircuitBreaker F :=
  match b.state, b.openedAt with
  | .opened, some openedAt =>
    if b.cooldownS ≤ now - openedAt then { b with state := .halfOpen } else b
  | _, _ => b

/-- `record_failure`. -/
def recordFailure (b : CircuitBreaker F) (now : F) : CircuitBreaker F :=
  let b := b.maybeHalfOpen now
  -- a failed probe trips again at once, for a fresh cooldown
  if b.state = .halfOpen then b.trip now
  else
    let b := { b with consecutiveFailures := b.consecutiveFailures + 1 }
    if b.consecutiveFailures > b.maxConsecutiveFailures then b.trip now else b

/-- `llm_allowed`: the breaker it leaves, and the answer. -/
def llmAllowed (b : CircuitBreaker F) (now : F) : CircuitBreaker F × Bool :=
  let b := b.maybeHalfOpen now
  (b, b.state = .closed)

end CircuitBreaker

/-! ## The registry -/

/-- `CircuitBreakerRegistry`. -/
structure CircuitBreakerRegistry (F : Type) where
  max : Nat
  cooldown : F
  breakers : OrderedDict String (CircuitBreaker F)
  providerBreakers : OrderedDict String (CircuitBreaker F)

/-- What `time.monotonic()` answers at each access one call makes. -/
structure MonotonicClock (F : Type) where
  /-- `record_failure` of the model's breaker. -/
  failure : F
  /-- `record_failure` of the provider's breaker. -/
  providerFailure : F
  /-- `is_provider_down` in `system_mode`. -/
  provider : F
  /-- `llm_allowed` of each model's breaker in `system_mode`. -/
  model : String → F

namespace CircuitBreakerRegistry

def FLASH : String := "deepseek-flash"
def LUNA : String := "gpt-6-luna"
def SOL : String := "gpt-6.1-sol"
def OPENAI : String := "openai"
def LEGACY_FLASH : String := "deepseek-v4-flash"
def LEGACY_LUNA : String := "gpt-5.6-luna"
def TERRA : String := "gpt-5.6-terra"
def LEGACY_SOL : String := "gpt-5.6-sol"
def LEGACY_SOL_6 : String := "gpt-6-sol"

def CURRENT_MODELS : List String := [LUNA, SOL]
def LEGACY_MODELS : List String :=
  [FLASH, LEGACY_FLASH, LEGACY_LUNA, TERRA, LEGACY_SOL, LEGACY_SOL_6]
def KNOWN_MODELS : List String := CURRENT_MODELS ++ LEGACY_MODELS
def OPENAI_MODELS : List String := [LUNA, SOL, LEGACY_LUNA, TERRA, LEGACY_SOL, LEGACY_SOL_6]

/-- `infer_provider`. -/
def inferProvider (model : String) : Option String :=
  if model ∈ OPENAI_MODELS ∨ "gpt-".toList.isPrefixOf model.toList then some OPENAI
  else if model = FLASH ∨ "deepseek-".toList.isPrefixOf model.toList then some "deepseek"
  else none

/-- Every known model's provider is inferred. -/
theorem inferProvider_known : ∀ model ∈ KNOWN_MODELS, (inferProvider model).isSome = true := by
  decide

/-- Every current model is served by OpenAI. -/
theorem inferProvider_current : ∀ model ∈ CURRENT_MODELS, inferProvider model = some OPENAI := by
  decide

theorem known_of_current {model : String} (h : model ∈ CURRENT_MODELS) : model ∈ KNOWN_MODELS :=
  List.mem_append_left _ h

variable {F : Type}

/-- `CircuitBreakerRegistry(max, cooldown)`. -/
def new (max : Nat) (cooldown : F) : CircuitBreakerRegistry F where
  max := max
  cooldown := cooldown
  breakers := OrderedDict.empty
  providerBreakers := OrderedDict.empty

/-- `breaker`. What a caller does to the breaker `setdefault` returns is
written back under its key, which is where `setdefault` put it. -/
def breaker (r : CircuitBreakerRegistry F) (model : String) : CircuitBreaker F :=
  (r.breakers.get? model).getD (CircuitBreaker.new r.max r.cooldown)

def putBreaker (r : CircuitBreakerRegistry F) (model : String) (b : CircuitBreaker F) :
    CircuitBreakerRegistry F :=
  { r with breakers := r.breakers.set model b }

section Provider

-- `lower` is `str.lower`
variable (lower : String → String)

/-- `normalize_provider`. -/
def normalizeProvider (provider : String) : String := lower (strip provider)

/-- `provider_breaker`. -/
def providerBreaker (r : CircuitBreakerRegistry F) (provider : String) : CircuitBreaker F :=
  (r.providerBreakers.get? (normalizeProvider lower provider)).getD
    (CircuitBreaker.new r.max r.cooldown)

def putProviderBreaker (r : CircuitBreakerRegistry F) (provider : String) (b : CircuitBreaker F) :
    CircuitBreakerRegistry F :=
  { r with providerBreakers := r.providerBreakers.set (normalizeProvider lower provider) b }

@[simp] theorem breaker_putBreaker (r : CircuitBreakerRegistry F) (model model' : String)
    (b : CircuitBreaker F) :
    (r.putBreaker model b).breaker model' = if model = model' then b else r.breaker model' := by
  unfold putBreaker breaker
  rw [OrderedDict.get?_set]
  split <;> rfl

@[simp] theorem providerBreaker_putBreaker (r : CircuitBreakerRegistry F) (model : String)
    (b : CircuitBreaker F) (provider : String) :
    (r.putBreaker model b).providerBreaker lower provider = r.providerBreaker lower provider := rfl

@[simp] theorem breaker_putProviderBreaker (r : CircuitBreakerRegistry F) (provider : String)
    (b : CircuitBreaker F) (model : String) :
    (r.putProviderBreaker lower provider b).breaker model = r.breaker model := rfl

@[simp] theorem providerBreaker_putProviderBreaker (r : CircuitBreakerRegistry F)
    (p q : String) (b : CircuitBreaker F) :
    (r.putProviderBreaker lower p b).providerBreaker lower q
      = if normalizeProvider lower p = normalizeProvider lower q then b
        else r.providerBreaker lower q := by
  unfold putProviderBreaker providerBreaker
  rw [OrderedDict.get?_set]
  split <;> rfl

/-- One breaker a normalized name. -/
theorem providerBreaker_congr (r : CircuitBreakerRegistry F) {p q : String}
    (h : normalizeProvider lower p = normalizeProvider lower q) :
    r.providerBreaker lower p = r.providerBreaker lower q := by
  unfold providerBreaker
  rw [h]

/-- `record_success`. -/
def recordSuccess (r : CircuitBreakerRegistry F) (model : String) : CircuitBreakerRegistry F :=
  r.putBreaker model (r.breaker model).recordSuccess

/-- `record_provider_success`. -/
def recordProviderSuccess (r : CircuitBreakerRegistry F) (provider : String) :
    CircuitBreakerRegistry F :=
  r.putProviderBreaker lower provider (r.providerBreaker lower provider).recordSuccess

variable [PyFloat F]

/-- `record_failure`. -/
def recordFailure (r : CircuitBreakerRegistry F) (model : String) (now : F) :
    CircuitBreakerRegistry F :=
  r.putBreaker model ((r.breaker model).recordFailure now)

/-- `record_provider_failure`. -/
def recordProviderFailure (r : CircuitBreakerRegistry F) (provider : String) (now : F) :
    CircuitBreakerRegistry F :=
  r.putProviderBreaker lower provider ((r.providerBreaker lower provider).recordFailure now)

/-- `is_provider_down`: the registry it leaves, and the answer. -/
def isProviderDown (r : CircuitBreakerRegistry F) (provider : String) (now : F) :
    CircuitBreakerRegistry F × Bool :=
  let (b, allowed) := (r.providerBreaker lower provider).llmAllowed now
  (r.putProviderBreaker lower provider b, !allowed)

/-- `system_mode`: the registry it leaves, and the mode. -/
def systemMode (r : CircuitBreakerRegistry F) (now : MonotonicClock F) :
    CircuitBreakerRegistry F × SystemMode :=
  let (r, openaiDown) := r.isProviderDown lower OPENAI now.provider
  if openaiDown then (r, .localQuantMode)
  else
    -- the comprehension reads every breaker, and a read may leave one half open
    let r' := { r with
      breakers := r.breakers.mapValues fun model b => (b.llmAllowed (now.model model)).1 }
    let downModels := (r.breakers.items.filter fun p =>
      !(p.2.llmAllowed (now.model p.1)).2).map Prod.fst
    if downModels.any (· ≠ FLASH) then (r', .localQuantMode)
    else if FLASH ∈ downModels then (r', .textLocalFilter)
    else (r', .normal)

end Provider

end CircuitBreakerRegistry

/-! ## Health events -/

open CircuitBreakerRegistry

/-- The arguments of `apply_health_event`. -/
structure HealthEvent where
  model : String
  ok : Bool
  kind : String
  provider : Option String
  deriving DecidableEq

/-- `_MODEL_OUTAGE_KINDS`. -/
def modelOutageKinds : List String := ["5xx", "timeout", "connection", "rate_limit"]

/-- `_PROVIDER_OUTAGE_KINDS`. -/
def providerOutageKinds : List String := ["connection", "rate_limit", "provider_outage"]

/-- A text that may be missing, as a condition: an empty one is false as well. -/
def truthy : Option String → Bool
  | some s => s ≠ ""
  | none => false

/-- `provider or inferred`. -/
def resolveProvider (provider : Option String) (model : String) : Option String :=
  if truthy provider then provider else inferProvider model

section Service

variable {F : Type} (lower : String → String)

/-- `RiskService.record_llm_success`. -/
def recordLlmSuccess (r : CircuitBreakerRegistry F) (model : String) (provider : Option String) :
    CircuitBreakerRegistry F :=
  let resolvedProvider := resolveProvider provider model
  -- a success through another provider does not prove a known model's route
  if model ∈ KNOWN_MODELS ∧ truthy resolvedProvider
      ∧ resolvedProvider.map (normalizeProvider lower) ≠ inferProvider model then r
  else
    let r := r.recordSuccess model
    match resolvedProvider with
    | some p =>
      if truthy (some p) ∧ model ∈ CURRENT_MODELS then r.recordProviderSuccess lower p else r
    | none => r

variable [PyFloat F]

/-- The failure branch of `apply_health_event`. -/
def recordLlmOutage (r : CircuitBreakerRegistry F) (e : HealthEvent) (now : MonotonicClock F) :
    CircuitBreakerRegistry F :=
  let r := if e.kind ∈ modelOutageKinds then r.recordFailure e.model now.failure else r
  match resolveProvider e.provider e.model with
  | some p =>
    if truthy (some p) ∧ normalizeProvider lower p = OPENAI ∧ e.kind ∈ providerOutageKinds then
      r.recordProviderFailure lower p now.providerFailure
    else r
  | none => r

/-- `RiskService.apply_health_event`: the registry it leaves, and the mode. -/
def applyHealthEvent (r : CircuitBreakerRegistry F) (e : HealthEvent) (now : MonotonicClock F) :
    CircuitBreakerRegistry F × SystemMode :=
  let r :=
    if e.ok then recordLlmSuccess lower r e.model (resolveProvider e.provider e.model)
    else recordLlmOutage lower r e now
  r.systemMode lower now

end Service

end KairosRisk
