import KairosRisk.Lib.Run

/-!
# Monitors: a shared state and the waiters parked on it

A monitor is a state that operations change one at a time, and a condition
variable on which waiters park until their own condition holds. An operation
that notifies empties the set of parked waiters; each of them looks again, and
parks again unless it is ready. A waiter may also leave because its deadline
passed.

No wakeup is lost when every operation that makes some waiter ready notifies:
then nobody is ever parked who could go on (`parked_not_ready`).
-/

namespace PyLib

variable {σ α ω : Type}

/-- The shared state, and who waits for it to change. -/
structure Monitor (σ ω : Type) where
  shared : σ
  parked : List ω

/-- What happens with the lock held. -/
inductive MonitorAction (α ω : Type) where
  /-- An operation runs from start to end. -/
  | operate (a : α)
  /-- A waiter looks at its condition. -/
  | wait (w : ω) (deadlinePassed : Bool)
  /-- A parked waiter times out. -/
  | leave (i : Nat)

namespace Monitor

variable (step : σ → α → σ) (notifies : σ → α → Bool) (ready : σ → ω → Bool)

/-- One action. -/
def act (m : Monitor σ ω) : MonitorAction α ω → Monitor σ ω
  | .operate a =>
    { shared := step m.shared a, parked := if notifies m.shared a then [] else m.parked }
  | .wait w deadlinePassed =>
    if ready m.shared w || deadlinePassed then m else { m with parked := w :: m.parked }
  | .leave i => { m with parked := m.parked.eraseIdx i }

/-- Nobody is parked who could go on. -/
def Quiet (m : Monitor σ ω) : Prop := ∀ w ∈ m.parked, ready m.shared w = false

variable {step notifies ready}

/-- One action leaves nobody parked who could go on. -/
theorem quiet_act (hnotifies : ∀ s a w, ready s w = false → ready (step s a) w = true →
      notifies s a = true) (m : Monitor σ ω) (a : MonitorAction α ω) (hm : m.Quiet ready) :
    (m.act step notifies ready a).Quiet ready := by
  intro w hw
  cases a with
  | operate a =>
    unfold act at hw ⊢
    dsimp only at hw ⊢
    by_cases hn : notifies m.shared a = true
    · rw [if_pos hn] at hw
      exact absurd hw List.not_mem_nil
    · rw [if_neg hn] at hw
      cases hr : ready (step m.shared a) w with
      | false => rfl
      | true => exact absurd (hnotifies m.shared a w (hm w hw) hr) hn
  | wait v deadlinePassed =>
    unfold act at hw ⊢
    dsimp only at hw ⊢
    split at hw
    next hgoes =>
      rw [if_pos hgoes]
      exact hm w hw
    next hparks =>
      rw [if_neg hparks]
      rcases List.mem_cons.mp hw with rfl | hw
      · simp only [Bool.or_eq_true, not_or, Bool.not_eq_true] at hparks
        exact hparks.1
      · exact hm w hw
  | leave i => exact hm w (List.mem_of_mem_eraseIdx hw)

/-- **No lost wakeup**, for any run of a monitor in which every operation that
makes a waiter ready notifies. -/
theorem parked_not_ready (hnotifies : ∀ s a w, ready s w = false → ready (step s a) w = true →
      notifies s a = true) (as : List (MonitorAction α ω)) {m : Monitor σ ω} (hm : m.Quiet ready) :
    (run (act step notifies ready) m as).Quiet ready :=
  run_invariant (quiet_act hnotifies) as hm

end Monitor

end PyLib
