import KairosRisk.CircuitBreaker

/-!
# The system mode is a function of the health history

A breaker's state depends on when it was read, the registry's contents on which
models were ever named. The mode depends on neither. `modeOf` says what it is
for a history of health events: a model is down when more than the limit of its
outages came since its last recovering success, OpenAI likewise, and the mode
follows from who is down.

`Tracks` ties a breaker to such a count at any clock: while it is closed it
holds the count, and otherwise the count is over the limit. `Agrees` says it of
every breaker of a registry, including those not made yet. Each event extends
the history it agrees with (`agrees_applyHealthEvent`), a read changes nothing
about it (`agrees_systemMode`), and what a read answers is `modeOf`
(`systemMode_of_agrees`).
-/

namespace KairosRisk

open PyLib CircuitBreakerRegistry

/-! ## What the history says -/

section History

variable (lower : String → String)

/-- The provider an event is resolved to, normalized. -/
def HealthEvent.route (e : HealthEvent) : Option String :=
  (resolveProvider e.provider e.model).map (normalizeProvider lower)

/-- The event is a failure of the model with an outage kind. -/
def HealthEvent.isOutageOf (model : String) (e : HealthEvent) : Bool :=
  !e.ok && e.model = model && e.kind ∈ modelOutageKinds

/-- The event is a success of the model that recovers it: unless the model is
known and the success comes from another provider than its own. -/
def HealthEvent.recovers (model : String) (e : HealthEvent) : Bool :=
  e.ok && e.model = model && !(model ∈ KNOWN_MODELS && e.route lower ≠ inferProvider model)

/-- The event is a failure of OpenAI as a provider. -/
def HealthEvent.isOpenaiOutage (e : HealthEvent) : Bool :=
  !e.ok && e.kind ∈ providerOutageKinds && e.route lower = some OPENAI

/-- The event is a success of a current model through OpenAI. -/
def HealthEvent.recoversOpenai (e : HealthEvent) : Bool :=
  e.ok && e.model ∈ CURRENT_MODELS && e.route lower = some OPENAI

variable (max : Nat) (events : List HealthEvent)

/-- More than `max` outages of the model since its last recovering success. -/
def ModelDown (model : String) : Prop :=
  max < since (HealthEvent.recovers lower model) (HealthEvent.isOutageOf model) events

/-- More than `max` outages of OpenAI since its last recovering success. -/
def OpenaiDown : Prop :=
  max < since (HealthEvent.recoversOpenai lower) (HealthEvent.isOpenaiOutage lower) events

open Classical in
/-- **The mode a history calls for.** -/
noncomputable def modeOf : SystemMode :=
  if OpenaiDown lower max events ∨ ∃ model, model ≠ FLASH ∧ ModelDown lower max events model then
    .localQuantMode
  else if ModelDown lower max events FLASH then .textLocalFilter
  else .normal

end History

/-! ## A breaker and its count -/

variable {F : Type}

/-- The breaker's state fits a history of `n` outages since the last recovery. -/
structure Tracks (max : Nat) (b : CircuitBreaker F) (n : Nat) : Prop where
  limit : b.maxConsecutiveFailures = max
  closed : b.state = .closed → b.consecutiveFailures = n ∧ n ≤ max
  degraded : b.state ≠ .closed → max < b.consecutiveFailures ∧ max < n

theorem tracks_new (max : Nat) (cooldown : F) : Tracks max (CircuitBreaker.new max cooldown) 0 where
  limit := rfl
  closed := fun _ => ⟨rfl, Nat.zero_le max⟩
  degraded := fun h => absurd rfl h

/-- A closed breaker's history is within the limit, any other's is over it. -/
theorem Tracks.closed_iff {max n : Nat} {b : CircuitBreaker F} (h : Tracks max b n) :
    b.state = .closed ↔ n ≤ max := by
  constructor
  · exact fun hc => (h.closed hc).2
  · intro hn
    apply Decidable.byContradiction
    intro hc
    have := (h.degraded hc).2
    omega

theorem Tracks.recordSuccess {max n : Nat} {b : CircuitBreaker F} (h : Tracks max b n) :
    Tracks max b.recordSuccess 0 where
  limit := h.limit
  closed := fun _ => ⟨rfl, Nat.zero_le max⟩
  degraded := fun hc => absurd rfl hc

theorem Tracks.trip {max n : Nat} {b : CircuitBreaker F} (h : b.maxConsecutiveFailures = max)
    (hb : max < b.consecutiveFailures) (hn : max < n) (now : F) : Tracks max (b.trip now) n where
  limit := h
  closed := nofun
  degraded := fun _ => ⟨hb, hn⟩

section Breaker

variable [PyFloat F]

/-- The cooldown moves between two states that are not closed. -/
theorem maybeHalfOpen_cases (b : CircuitBreaker F) (now : F) :
    b.maybeHalfOpen now = b ∨
      b.state ≠ .closed ∧ b.maybeHalfOpen now = { b with state := .halfOpen } := by
  unfold CircuitBreaker.maybeHalfOpen
  split
  next hs _ =>
    split
    · exact Or.inr ⟨by rw [hs]; nofun, rfl⟩
    · exact Or.inl rfl
  next => exact Or.inl rfl

/-- Time alone changes nothing the history says. -/
theorem Tracks.maybeHalfOpen {max n : Nat} {b : CircuitBreaker F} (h : Tracks max b n) (now : F) :
    Tracks max (b.maybeHalfOpen now) n := by
  rcases maybeHalfOpen_cases b now with he | ⟨hc, he⟩
  · rw [he]
    exact h
  · rw [he]
    exact { limit := h.limit, closed := nofun, degraded := fun _ => h.degraded hc }

theorem Tracks.recordFailure {max n : Nat} {b : CircuitBreaker F} (h : Tracks max b n) (now : F) :
    Tracks max (b.recordFailure now) (n + 1) := by
  have hb := h.maybeHalfOpen now
  unfold CircuitBreaker.recordFailure
  dsimp only
  generalize b.maybeHalfOpen now = b at hb ⊢
  split
  next hprobe =>
    -- a failed probe trips again without counting
    have hc : b.state ≠ .closed := by rw [hprobe]; nofun
    obtain ⟨hcount, hn⟩ := hb.degraded hc
    exact Tracks.trip hb.limit hcount (by omega) now
  next =>
    split
    next hover =>
      have hover : b.maxConsecutiveFailures < b.consecutiveFailures + 1 := hover
      rw [hb.limit] at hover
      refine Tracks.trip ?_ ?_ ?_ now
      · exact hb.limit
      · exact hover
      by_cases hc : b.state = .closed
      · have := hb.closed hc
        omega
      · have := hb.degraded hc
        omega
    next hunder =>
      have hunder : ¬b.maxConsecutiveFailures < b.consecutiveFailures + 1 := hunder
      rw [hb.limit] at hunder
      -- an open breaker is over the limit already, so this one is closed
      have hc : b.state = .closed := by
        apply Decidable.byContradiction
        intro hc
        have := hb.degraded hc
        omega
      obtain ⟨hcount, hn⟩ := hb.closed hc
      have hclosed : b.consecutiveFailures + 1 = n + 1 ∧ n + 1 ≤ max := by omega
      exact { limit := hb.limit, closed := fun _ => hclosed, degraded := fun hd => absurd hc hd }

/-- What a read answers. -/
theorem Tracks.llmAllowed {max n : Nat} {b : CircuitBreaker F} (h : Tracks max b n) (now : F) :
    (b.llmAllowed now).2 = decide (n ≤ max) := by
  show decide ((b.maybeHalfOpen now).state = .closed) = decide (n ≤ max)
  rw [decide_eq_decide]
  exact (h.maybeHalfOpen now).closed_iff

/-- One event, for a breaker that takes the successes `q` holds of and the
failures `p` holds of. -/
theorem Tracks.snoc {max : Nat} {b b' : CircuitBreaker F} {q p : HealthEvent → Bool}
    {events : List HealthEvent} (h : Tracks max b (since q p events)) (e : HealthEvent) (now : F)
    (hb' : b' = if q e = true then b.recordSuccess else if p e = true then b.recordFailure now
      else b) :
    Tracks max b' (since q p (events ++ [e])) := by
  rw [hb']
  cases hq : q e with
  | true =>
    rw [since_snoc_of_mem hq, if_pos rfl]
    exact h.recordSuccess
  | false =>
    rw [since_snoc_of_not hq, if_neg Bool.false_ne_true]
    split
    · exact h.recordFailure now
    · exact h

end Breaker

/-! ## The registry and the history -/

variable {lower : String → String}

theorem truthy_inferProvider (model : String) :
    inferProvider model = none ∨ truthy (inferProvider model) = true := by
  unfold inferProvider
  split
  · exact Or.inr (by decide)
  · split
    · exact Or.inr (by decide)
    · exact Or.inl rfl

/-- What a provider resolves to is missing or not empty. -/
theorem truthy_resolveProvider (provider : Option String) (model : String) :
    resolveProvider provider model = none ∨ truthy (resolveProvider provider model) = true := by
  unfold resolveProvider
  split
  next h => exact Or.inr h
  next => exact truthy_inferProvider model

theorem inferProvider_of_none {provider : Option String} {model : String}
    (h : resolveProvider provider model = none) : inferProvider model = none := by
  unfold resolveProvider at h
  split at h
  next ht =>
    rw [h] at ht
    exact absurd ht Bool.false_ne_true
  next => exact h

/-- Resolving twice, as the success path does, is resolving once. -/
theorem resolveProvider_idem (provider : Option String) (model : String) :
    resolveProvider (resolveProvider provider model) model = resolveProvider provider model := by
  rcases truthy_resolveProvider provider model with h | h
  · rw [h]
    exact inferProvider_of_none h
  · rw [resolveProvider, if_pos h]

/-- A known model's event is always resolved to a provider. -/
theorem truthy_resolveProvider_known {model : String} (h : model ∈ KNOWN_MODELS)
    (provider : Option String) : truthy (resolveProvider provider model) = true := by
  rcases truthy_resolveProvider provider model with hn | ht
  · have hsome := inferProvider_known model h
    rw [inferProvider_of_none hn] at hsome
    exact absurd hsome Bool.false_ne_true
  · exact ht

/-- Every breaker of the registry, made or not, fits the history. -/
structure Agrees (lower : String → String) (max : Nat) (events : List HealthEvent)
    (r : CircuitBreakerRegistry F) : Prop where
  limit : r.max = max
  model : ∀ model, Tracks max (r.breaker model)
    (since (HealthEvent.recovers lower model) (HealthEvent.isOutageOf model) events)
  openai : Tracks max (r.providerBreaker lower OPENAI)
    (since (HealthEvent.recoversOpenai lower) (HealthEvent.isOpenaiOutage lower) events)

theorem agrees_new (lower : String → String) (max : Nat) (cooldown : F) :
    Agrees lower max [] (CircuitBreakerRegistry.new max cooldown) where
  limit := rfl
  model := fun _ => tracks_new max cooldown
  openai := tracks_new max cooldown

/-! ### An event -/

/-- Whether a success counts at all. -/
theorem recovers_iff {e : HealthEvent} (hok : e.ok = true) :
    e.recovers lower e.model = true ↔
      ¬(e.model ∈ KNOWN_MODELS ∧ truthy (resolveProvider e.provider e.model)
        ∧ e.route lower ≠ inferProvider e.model) := by
  simp only [HealthEvent.recovers, hok, decide_true, Bool.true_and, Bool.not_eq_true',
    Bool.and_eq_false_iff, decide_eq_false_iff_not, not_and]
  constructor
  · rintro (hk | hr) hknown _
    · exact absurd hknown hk
    · exact hr
  · intro h
    by_cases hk : e.model ∈ KNOWN_MODELS
    · exact Or.inr (h hk (truthy_resolveProvider_known hk e.provider))
    · exact Or.inl hk

theorem recovers_of_ne {model : String} {e : HealthEvent} (h : e.model ≠ model) :
    e.recovers lower model = false := by
  simp [HealthEvent.recovers, h]

/-- A success that recovers OpenAI recovers its model. -/
theorem recovers_of_recoversOpenai {e : HealthEvent} (h : e.recoversOpenai lower = true) :
    e.recovers lower e.model = true := by
  simp only [HealthEvent.recoversOpenai, Bool.and_eq_true, decide_eq_true_eq] at h
  obtain ⟨⟨hok, hcurrent⟩, hroute⟩ := h
  rw [recovers_iff hok]
  rintro ⟨-, -, hne⟩
  exact hne (by rw [hroute, inferProvider_current _ hcurrent])

section Event

variable {max : Nat} {events : List HealthEvent} {r : CircuitBreakerRegistry F}

/-- What a success does to each model's breaker. -/
theorem recordLlmSuccess_breaker (r : CircuitBreakerRegistry F) {e : HealthEvent}
    (hok : e.ok = true) (model : String) :
    (recordLlmSuccess lower r e.model (resolveProvider e.provider e.model)).breaker model
      = if e.recovers lower model = true then (r.breaker model).recordSuccess
        else r.breaker model := by
  unfold recordLlmSuccess
  rw [resolveProvider_idem]
  dsimp only
  have hiff : e.recovers lower e.model = true ↔ _ := recovers_iff hok
  by_cases hm : e.model = model
  · subst hm
    -- the success is refused exactly where the history does not count it
    split
    next hforeign => rw [if_neg (fun h => hiff.mp h hforeign)]
    next hown =>
      rw [if_pos (hiff.mpr hown)]
      split
      · split <;> simp [recordSuccess, recordProviderSuccess]
      · simp [recordSuccess]
  · rw [recovers_of_ne hm, if_neg Bool.false_ne_true]
    split
    · rfl
    · split
      · split <;> simp [recordSuccess, recordProviderSuccess, hm]
      · simp [recordSuccess, hm]

/-- What a success does to OpenAI's breaker. -/
theorem recordLlmSuccess_openai (hlower : normalizeProvider lower OPENAI = OPENAI)
    (r : CircuitBreakerRegistry F) {e : HealthEvent} (hok : e.ok = true) :
    (recordLlmSuccess lower r e.model (resolveProvider e.provider e.model)).providerBreaker lower
        OPENAI
      = if e.recoversOpenai lower = true then (r.providerBreaker lower OPENAI).recordSuccess
        else r.providerBreaker lower OPENAI := by
  unfold recordLlmSuccess
  rw [resolveProvider_idem]
  dsimp only
  split
  next hforeign =>
    -- a refused success is no success of a current model through OpenAI
    rw [if_neg]
    intro h
    exact (recovers_iff hok).mp (recovers_of_recoversOpenai h) hforeign
  next hown =>
    have hroute : e.route lower
        = (resolveProvider e.provider e.model).map (normalizeProvider lower) := rfl
    have htruthy := truthy_resolveProvider e.provider e.model
    cases hp : resolveProvider e.provider e.model with
    | none =>
      rw [hp] at hroute
      simp [HealthEvent.recoversOpenai, hroute, recordSuccess]
    | some p =>
      rw [hp] at hroute htruthy hown
      have htruthy : truthy (some p) = true := htruthy.resolve_left nofun
      dsimp only
      by_cases hcurrent : e.model ∈ CURRENT_MODELS
      · -- the success was not refused, so it came through the model's own provider
        have howned : e.route lower = some OPENAI := by
          apply Decidable.byContradiction
          intro hne
          apply hown
          refine ⟨known_of_current hcurrent, htruthy, ?_⟩
          rw [inferProvider_current _ hcurrent]
          rw [hroute] at hne
          exact hne
        have hname : normalizeProvider lower p = OPENAI := by
          rw [howned] at hroute
          exact (Option.some.inj hroute).symm
        rw [if_pos ⟨htruthy, hcurrent⟩]
        have hsame : normalizeProvider lower p = normalizeProvider lower OPENAI := by
          rw [hname, hlower]
        have hrecovers : e.recoversOpenai lower = true := by
          simp [HealthEvent.recoversOpenai, hok, hcurrent, howned]
        rw [if_pos hrecovers, recordProviderSuccess, providerBreaker_putProviderBreaker,
          if_pos hsame, providerBreaker_congr lower _ hsame]
        rfl
      · rw [if_neg (fun h => hcurrent h.2)]
        simp [HealthEvent.recoversOpenai, hcurrent, recordSuccess]

variable [PyFloat F]

/-- What a failure does to each model's breaker. -/
theorem recordLlmOutage_breaker (r : CircuitBreakerRegistry F) {e : HealthEvent}
    (hok : e.ok = false) (now : MonotonicClock F) (model : String) :
    (recordLlmOutage lower r e now).breaker model
      = if e.isOutageOf model = true then (r.breaker model).recordFailure now.failure
        else r.breaker model := by
  have hmodel : (if e.kind ∈ modelOutageKinds then r.recordFailure e.model now.failure
      else r).breaker model
      = if e.isOutageOf model = true then (r.breaker model).recordFailure now.failure
        else r.breaker model := by
    by_cases hkind : e.kind ∈ modelOutageKinds
    · by_cases hm : e.model = model
      · simp [HealthEvent.isOutageOf, hok, hkind, hm, recordFailure]
      · simp [HealthEvent.isOutageOf, hkind, hm, recordFailure]
    · simp [HealthEvent.isOutageOf, hkind]
  unfold recordLlmOutage
  dsimp only
  -- the provider's breaker is another one
  split
  · split
    · exact hmodel
    · exact hmodel
  · exact hmodel

/-- What a failure does to OpenAI's breaker. -/
theorem recordLlmOutage_openai (hlower : normalizeProvider lower OPENAI = OPENAI)
    (r : CircuitBreakerRegistry F) {e : HealthEvent} (hok : e.ok = false)
    (now : MonotonicClock F) :
    (recordLlmOutage lower r e now).providerBreaker lower OPENAI
      = if e.isOpenaiOutage lower = true then
          (r.providerBreaker lower OPENAI).recordFailure now.providerFailure
        else r.providerBreaker lower OPENAI := by
  have hmodel : (if e.kind ∈ modelOutageKinds then r.recordFailure e.model now.failure
      else r).providerBreaker lower = r.providerBreaker lower := by
    split <;> rfl
  have hroute : e.route lower
      = (resolveProvider e.provider e.model).map (normalizeProvider lower) := rfl
  have htruthy := truthy_resolveProvider e.provider e.model
  unfold recordLlmOutage
  dsimp only
  cases hp : resolveProvider e.provider e.model with
  | none =>
    -- an outage of nobody's route moves no provider
    rw [hp] at hroute
    dsimp only
    rw [hmodel]
    simp [HealthEvent.isOpenaiOutage, hroute]
  | some p =>
    rw [hp] at hroute htruthy
    have htruthy : truthy (some p) = true := htruthy.resolve_left nofun
    dsimp only
    by_cases hname : normalizeProvider lower p = OPENAI ∧ e.kind ∈ providerOutageKinds
    · have hsame : normalizeProvider lower p = normalizeProvider lower OPENAI := by
        rw [hname.1, hlower]
      have houtage : e.isOpenaiOutage lower = true := by
        simp [HealthEvent.isOpenaiOutage, hok, hname, hroute]
      rw [if_pos ⟨htruthy, hname⟩, if_pos houtage, recordProviderFailure,
        providerBreaker_putProviderBreaker, if_pos hsame, providerBreaker_congr lower _ hsame,
        hmodel]
    · rw [if_neg (fun h => hname h.2), hmodel, if_neg]
      intro houtage
      apply hname
      simp only [HealthEvent.isOpenaiOutage, hroute, Bool.and_eq_true, decide_eq_true_eq] at houtage
      exact ⟨Option.some.inj houtage.2, houtage.1.2⟩

theorem Agrees.recordLlmSuccess (hlower : normalizeProvider lower OPENAI = OPENAI)
    (h : Agrees lower max events r) {e : HealthEvent} (hok : e.ok = true) :
    Agrees lower max (events ++ [e])
      (recordLlmSuccess lower r e.model (resolveProvider e.provider e.model)) where
  limit := by
    rw [← h.limit]
    unfold KairosRisk.recordLlmSuccess
    dsimp only
    split
    · rfl
    · split
      · split <;> rfl
      · rfl
  model := fun model => by
    refine (h.model model).snoc e r.cooldown ?_
    rw [recordLlmSuccess_breaker r hok]
    simp [HealthEvent.isOutageOf, hok]
  openai := by
    refine h.openai.snoc e r.cooldown ?_
    rw [recordLlmSuccess_openai hlower r hok]
    simp [HealthEvent.isOpenaiOutage, hok]

theorem Agrees.recordLlmOutage (hlower : normalizeProvider lower OPENAI = OPENAI)
    (h : Agrees lower max events r) {e : HealthEvent} (hok : e.ok = false)
    (now : MonotonicClock F) :
    Agrees lower max (events ++ [e]) (recordLlmOutage lower r e now) where
  limit := by
    rw [← h.limit]
    unfold KairosRisk.recordLlmOutage
    dsimp only
    split
    · split <;> split <;> rfl
    · split <;> rfl
  model := fun model => by
    refine (h.model model).snoc e now.failure ?_
    rw [recordLlmOutage_breaker r hok]
    simp [HealthEvent.recovers, hok]
  openai := by
    refine h.openai.snoc e now.providerFailure ?_
    rw [recordLlmOutage_openai hlower r hok]
    simp [HealthEvent.recoversOpenai, hok]

/-! ### A read -/

/-- Reading every model's breaker leaves each where its cooldown has it, and
one that was never made as it would be made. -/
theorem breaker_mapValues (r : CircuitBreakerRegistry F) (now : String → F) (model : String) :
    ({ r with breakers := r.breakers.mapValues fun model b => (b.llmAllowed (now model)).1 }
        : CircuitBreakerRegistry F).breaker model
      = (r.breaker model).maybeHalfOpen (now model) := by
  unfold breaker
  rw [OrderedDict.get?_mapValues]
  cases r.breakers.get? model with
  | some b => rfl
  | none => rfl

/-- The registry after OpenAI's breaker was read. -/
theorem Agrees.isProviderDown (h : Agrees lower max events r) (now : F) :
    Agrees lower max events (r.isProviderDown lower OPENAI now).1 where
  limit := h.limit
  model := h.model
  openai := by
    unfold CircuitBreakerRegistry.isProviderDown
    rw [providerBreaker_putProviderBreaker, if_pos rfl]
    exact h.openai.maybeHalfOpen now

/-- OpenAI is called down when its history says so. -/
theorem isProviderDown_iff (h : Agrees lower max events r) (now : F) :
    (r.isProviderDown lower OPENAI now).2 = true ↔ OpenaiDown lower max events := by
  show (!((r.providerBreaker lower OPENAI).llmAllowed now).2) = true ↔ _
  rw [h.openai.llmAllowed]
  simp [OpenaiDown]

/-- A model is among those a read finds down when its history says so. -/
theorem mem_downModels (h : Agrees lower max events r) (now : String → F) (model : String) :
    model ∈ (r.breakers.items.filter fun p => !(p.2.llmAllowed (now p.1)).2).map Prod.fst
      ↔ ModelDown lower max events model := by
  have htracks := h.model model
  rw [List.mem_map]
  constructor
  · rintro ⟨⟨model, b⟩, hb, rfl⟩
    obtain ⟨hitem, hdown⟩ := List.mem_filter.mp hb
    have hfound : r.breaker model = b := by
      rw [breaker, OrderedDict.get?_eq_some.mpr hitem]
      rfl
    rw [hfound] at htracks
    rw [htracks.llmAllowed] at hdown
    simpa [ModelDown] using hdown
  · intro hdown
    cases hget : r.breakers.get? model with
    | none =>
      -- a breaker that was never made is closed
      have hnew : r.breaker model = CircuitBreaker.new r.max r.cooldown := by
        rw [breaker, hget]
        rfl
      rw [hnew] at htracks
      exact absurd hdown (Nat.not_lt.mpr (htracks.closed_iff.mp rfl))
    | some b =>
      have hfound : r.breaker model = b := by
        rw [breaker, hget]
        rfl
      rw [hfound] at htracks
      refine ⟨(model, b), List.mem_filter.mpr ⟨OrderedDict.get?_eq_some.mp hget, ?_⟩, rfl⟩
      rw [htracks.llmAllowed]
      simpa [ModelDown] using hdown

/-- **A read changes nothing the history says.** -/
theorem Agrees.systemMode (h : Agrees lower max events r) (now : MonotonicClock F) :
    Agrees lower max events (r.systemMode lower now).1 := by
  have hprovider := h.isProviderDown now.provider
  unfold CircuitBreakerRegistry.systemMode
  rcases hr : r.isProviderDown lower OPENAI now.provider with ⟨r₁, down⟩
  rw [hr] at hprovider
  have hread : Agrees lower max events { r₁ with
      breakers := r₁.breakers.mapValues fun model b => (b.llmAllowed (now.model model)).1 } :=
    { limit := hprovider.limit
      model := fun model => by
        rw [breaker_mapValues r₁ now.model model]
        exact (hprovider.model model).maybeHalfOpen _
      openai := hprovider.openai }
  dsimp only
  split
  · exact hprovider
  · split
    · exact hread
    · split
      · exact hread
      · exact hread

/-- **What a read answers is what the history says**, whatever the clock says. -/
theorem systemMode_of_agrees (h : Agrees lower max events r) (now : MonotonicClock F) :
    (r.systemMode lower now).2 = modeOf lower max events := by
  have hprovider := h.isProviderDown now.provider
  have hopenai := isProviderDown_iff h now.provider
  unfold CircuitBreakerRegistry.systemMode modeOf
  rcases hr : r.isProviderDown lower OPENAI now.provider with ⟨r₁, down⟩
  rw [hr] at hprovider hopenai
  have hdown := mem_downModels hprovider now.model
  dsimp only at hopenai hdown ⊢
  -- only membership in the set of models that are down matters from here on
  generalize (r₁.breakers.items.filter fun p => !(p.2.llmAllowed (now.model p.1)).2).map Prod.fst
    = downModels at hdown ⊢
  by_cases hopen : OpenaiDown lower max events
  · rw [if_pos (hopenai.mpr hopen), if_pos (Or.inl hopen)]
  · rw [if_neg (fun hd => hopen (hopenai.mp hd))]
    by_cases hother : ∃ model, model ≠ FLASH ∧ ModelDown lower max events model
    · rw [if_pos (Or.inr hother), if_pos]
      obtain ⟨model, hne, hmodel⟩ := hother
      rw [List.any_eq_true]
      exact ⟨model, (hdown model).mpr hmodel, decide_eq_true hne⟩
    · have hnone : ¬downModels.any (fun model => model ≠ FLASH) = true := by
        rw [List.any_eq_true]
        rintro ⟨model, hmodel, hne⟩
        exact hother ⟨model, of_decide_eq_true hne, (hdown model).mp hmodel⟩
      have hspec : ¬(OpenaiDown lower max events
          ∨ ∃ model, model ≠ FLASH ∧ ModelDown lower max events model) :=
        fun hd => hd.elim hopen hother
      rw [if_neg hnone, if_neg hspec]
      by_cases hflash : ModelDown lower max events FLASH
      · rw [if_pos hflash, if_pos ((hdown FLASH).mpr hflash)]
      · rw [if_neg hflash, if_neg (fun hm => hflash ((hdown FLASH).mp hm))]

/-- **An event extends the history.** -/
theorem agrees_applyHealthEvent (hlower : normalizeProvider lower OPENAI = OPENAI)
    (h : Agrees lower max events r) (e : HealthEvent) (now : MonotonicClock F) :
    Agrees lower max (events ++ [e]) (applyHealthEvent lower r e now).1 := by
  unfold applyHealthEvent
  apply Agrees.systemMode
  cases hok : e.ok with
  | true => exact h.recordLlmSuccess hlower hok
  | false => exact h.recordLlmOutage hlower hok now

end Event

/-! ## Runs -/

/-- What the service does with its breakers. -/
inductive HealthStep (F : Type) where
  /-- `apply_health_event`. -/
  | event (e : HealthEvent) (now : MonotonicClock F)
  /-- A read of `system_mode`. -/
  | read (now : MonotonicClock F)

/-- The event a step applies. -/
def HealthStep.event? : HealthStep F → Option HealthEvent
  | .event e _ => some e
  | .read _ => none

section Run

variable [PyFloat F] (lower : String → String)

/-- One step. -/
def healthStep (r : CircuitBreakerRegistry F) : HealthStep F → CircuitBreakerRegistry F
  | .event e now => (applyHealthEvent lower r e now).1
  | .read now => (r.systemMode lower now).1

variable {lower}

/-- One step keeps a registry in agreement with the events so far. -/
theorem agrees_healthStep (hlower : normalizeProvider lower OPENAI = OPENAI) {max : Nat}
    {steps : List (HealthStep F)} {r : CircuitBreakerRegistry F}
    (h : Agrees lower max (steps.filterMap HealthStep.event?) r) (step : HealthStep F) :
    Agrees lower max ((steps ++ [step]).filterMap HealthStep.event?) (healthStep lower r step) := by
  rw [List.filterMap_append]
  cases step with
  | event e now => exact agrees_applyHealthEvent hlower h e now
  | read now =>
    show Agrees lower max (_ ++ []) _
    rw [List.append_nil]
    exact h.systemMode now

theorem agrees_run (hlower : normalizeProvider lower OPENAI = OPENAI) (max : Nat) (cooldown : F)
    (steps : List (HealthStep F)) :
    Agrees lower max (steps.filterMap HealthStep.event?)
      (run (healthStep lower) (CircuitBreakerRegistry.new max cooldown) steps) := by
  have hstep : ∀ (done : List (HealthStep F)) (r : CircuitBreakerRegistry F) (step : HealthStep F),
      Agrees lower max (done.filterMap HealthStep.event?) r →
      Agrees lower max ((done ++ [step]).filterMap HealthStep.event?) (healthStep lower r step) :=
    fun _ _ step h => agrees_healthStep hlower h step
  exact run_history hstep steps [] (agrees_new lower max cooldown)

/-- **The mode is the one the history calls for**, after any health events and
any reads of it, at any clock: for a read, and for the answer to one more
event. -/
theorem mode_implements_history (lower : String → String) (hlower : lower "openai" = "openai")
    (max : Nat) (cooldown : F) (steps : List (HealthStep F)) :
    (∀ now, ((run (healthStep lower) (CircuitBreakerRegistry.new max cooldown) steps).systemMode
        lower now).2 = modeOf lower max (steps.filterMap HealthStep.event?))
      ∧ ∀ e now, (applyHealthEvent lower
          (run (healthStep lower) (CircuitBreakerRegistry.new max cooldown) steps) e now).2
        = modeOf lower max (steps.filterMap HealthStep.event? ++ [e]) := by
  have hopenai : normalizeProvider lower OPENAI = OPENAI := by
    show lower (strip "openai") = "openai"
    rw [show strip "openai" = "openai" from by decide, hlower]
  have h := agrees_run hopenai max cooldown steps
  constructor
  · exact fun now => systemMode_of_agrees h now
  · intro e now
    unfold applyHealthEvent
    apply systemMode_of_agrees
    cases hok : e.ok with
    | true => exact h.recordLlmSuccess hopenai hok
    | false => exact h.recordLlmOutage hopenai hok now

end Run

namespace Scenario

/-- A time-out of the Flash model. -/
def flashTimeout : HealthEvent where
  model := FLASH
  ok := false
  kind := "timeout"
  provider := none

/-- Every access reads `now`. -/
def clockAt (now : Rat) : MonotonicClock Rat := ⟨now, now, now, fun _ => now⟩

/-- Three time-outs, and two reads of the mode: one at once and one long after
the cooldown. -/
def flashTimeouts : List (HealthStep Rat) :=
  [.event flashTimeout (clockAt 0), .event flashTimeout (clockAt 1),
    .event flashTimeout (clockAt 2), .read (clockAt 3), .read (clockAt 1000)]

/-- Only Flash is down, and so only the text is filtered locally, with the
breaker half open by then. -/
theorem flash_timeouts_filter :
    ((run (healthStep String.toLower) (CircuitBreakerRegistry.new 2 300) flashTimeouts).systemMode
        String.toLower (clockAt 1001)).2 = .textLocalFilter := by
  rw [(mode_implements_history String.toLower (by decide +kernel) 2 300 flashTimeouts).1, modeOf,
    if_neg, if_pos]
  · show 2 < _
    decide +kernel
  · rintro (hopenai | ⟨model, hne, hdown⟩)
    · revert hopenai
      show ¬2 < _
      decide +kernel
    · have hmodel : FLASH ≠ model := hne.symm
      have hevents : flashTimeouts.filterMap HealthStep.event?
          = [flashTimeout, flashTimeout, flashTimeout] := rfl
      rw [hevents] at hdown
      simp [ModelDown, since, HealthEvent.recovers, HealthEvent.isOutageOf, flashTimeout,
        hmodel] at hdown

end Scenario

end KairosRisk
