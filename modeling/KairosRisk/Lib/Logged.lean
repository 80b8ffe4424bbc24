/-!
# Computations that log their calls

A computation returns or raises, and on its way it calls the world: its log
lists the calls in order, up to the one that raised. A call is made when
everything before it returned (`mem_log_bind`), and what cleans up is called
whatever became of the rest (`ensure`).
-/

namespace PyLib

/-- The calls made, and what came of them. -/
structure Logged (κ ε α : Type) where
  log : List κ
  result : Except ε α

namespace Logged

variable {κ ε α β : Type}

/-- One step and, when it returned, the rest. -/
def bind (x : Logged κ ε α) (f : α → Logged κ ε β) : Logged κ ε β :=
  match x.result with
  | .error e => ⟨x.log, .error e⟩
  | .ok a => ⟨x.log ++ (f a).log, (f a).result⟩

instance : Monad (Logged κ ε) where
  pure a := ⟨[], .ok a⟩
  bind := bind

/-- A call, and the answer. -/
def call (c : κ) (reply : Except ε α) : Logged κ ε α := ⟨[c], reply⟩

/-- A computation without calls. -/
def quiet (x : Except ε α) : Logged κ ε α := ⟨[], x⟩

/-- `try: body finally: cleanup`; what the cleanup raises is raised instead. -/
def ensure (body : Logged κ ε α) (cleanup : Logged κ ε Unit) : Logged κ ε α :=
  ⟨body.log ++ cleanup.log, cleanup.result.bind fun _ => body.result⟩

@[simp] theorem log_call (c : κ) (reply : Except ε α) : (call c reply).log = [c] := rfl

@[simp] theorem log_quiet (x : Except ε α) : (quiet x : Logged κ ε α).log = [] := rfl

/-- **A call is one of the first step, or one of the rest after it returned.** -/
theorem mem_log_bind {c : κ} {x : Logged κ ε α} {f : α → Logged κ ε β} :
    c ∈ (x >>= f).log ↔ c ∈ x.log ∨ ∃ a, x.result = .ok a ∧ c ∈ (f a).log := by
  show c ∈ (bind x f).log ↔ _
  unfold bind
  cases x.result with
  | error e => simp
  | ok a => simp

/-- Nothing is called by a step without calls, and the rest follows when it returns. -/
theorem mem_log_quiet {c : κ} {x : Except ε α} {f : α → Logged κ ε β} :
    c ∈ (quiet x >>= f).log ↔ ∃ a, x = .ok a ∧ c ∈ (f a).log := by
  rw [mem_log_bind, log_quiet]
  simp [quiet]

/-- What a first step called was called before the rest. -/
theorem log_bind_split (x : Logged κ ε α) (f : α → Logged κ ε β) :
    (x >>= f).log = x.log ∨ ∃ a, x.result = .ok a ∧ (x >>= f).log = x.log ++ (f a).log := by
  show (bind x f).log = x.log ∨ ∃ a, x.result = .ok a ∧ (bind x f).log = x.log ++ (f a).log
  unfold bind
  cases x.result with
  | error e => exact Or.inl rfl
  | ok a => exact Or.inr ⟨a, rfl, rfl⟩

/-- Steps without calls make none. -/
theorem log_bind_nil {x : Logged κ ε α} {f : α → Logged κ ε β} (hx : x.log = [])
    (hf : ∀ a, (f a).log = []) : (x >>= f).log = [] := by
  rcases log_bind_split x f with h | ⟨a, _, h⟩
  · exact h.trans hx
  · rw [h, hx, hf a]
    rfl

/-- Calls of a kind are as many as the steps make. -/
theorem countP_log_bind {p : κ → Bool} {m n : Nat} {x : Logged κ ε α} {f : α → Logged κ ε β}
    (hx : x.log.countP p ≤ m) (hf : ∀ a, x.result = .ok a → (f a).log.countP p ≤ n) :
    (x >>= f).log.countP p ≤ m + n := by
  show (bind x f).log.countP p ≤ m + n
  unfold bind
  cases hresult : x.result with
  | error e => exact Nat.le_trans hx (Nat.le_add_right m n)
  | ok a =>
    rw [List.countP_append]
    exact Nat.add_le_add hx (hf a hresult)

/-- What was returned came of a first step that returned. -/
theorem ok_of_bind {x : Logged κ ε α} {f : α → Logged κ ε β} {b : β}
    (h : (x >>= f).result = .ok b) : ∃ a, x.result = .ok a ∧ (f a).result = .ok b := by
  change (bind x f).result = .ok b at h
  unfold bind at h
  cases hx : x.result with
  | error e =>
    rw [hx] at h
    cases h
  | ok a =>
    rw [hx] at h
    exact ⟨a, rfl, h⟩

/-- What was returned past a cleanup, the body returned. -/
theorem ok_of_ensure {body : Logged κ ε α} {cleanup : Logged κ ε Unit} {a : α}
    (h : (body.ensure cleanup).result = .ok a) : body.result = .ok a := by
  change (cleanup.result.bind fun _ => body.result) = .ok a at h
  cases hcleanup : cleanup.result with
  | error e =>
    rw [hcleanup] at h
    cases h
  | ok _ =>
    rw [hcleanup] at h
    exact h

end Logged

end PyLib
