/-!
# Runs of a deterministic machine

A machine is a total step function `σ → α → σ`; a run folds it over a list of
actions. The rules here package the inductions that safety arguments need: an
invariant of every step holds after every run (`run_invariant`, and
`run_invariant_of` where only some actions are allowed), a relation between the
history and the state that every step extends holds of the whole history
(`run_history`), and whatever was true and is true no more was lost at one
particular step (`lost_at`). What such a relation says of a history is often
how much of something came since the last of something else: `since` counts it.

Where one machine does what another does, step for step and up to a view of
its states, `Simulates` says so and `Simulates.run` carries it to whole runs.
A view that only some actions move is a machine over those (`run_stepOn`).
-/

namespace PyLib

variable {σ α : Type} {step : σ → α → σ}

/-- The state after the actions `as`. -/
def run (step : σ → α → σ) (s : σ) (as : List α) : σ := as.foldl step s

@[simp] theorem run_nil (s : σ) : run step s [] = s := rfl

@[simp] theorem run_cons (s : σ) (a : α) (as : List α) :
    run step s (a :: as) = run step (step s a) as := rfl

theorem run_append (s : σ) (as bs : List α) :
    run step s (as ++ bs) = run step (run step s as) bs :=
  List.foldl_append ..

theorem run_snoc (s : σ) (as : List α) (a : α) :
    run step s (as ++ [a]) = step (run step s as) a := by
  rw [run_append, run_cons, run_nil]

/-- A property every step keeps, by an action that is allowed, survives every
run of such actions. -/
theorem run_invariant_of {Inv : σ → Prop} {Allowed : α → Prop}
    (hstep : ∀ s a, Allowed a → Inv s → Inv (step s a)) :
    ∀ (as : List α) {s : σ}, (∀ a ∈ as, Allowed a) → Inv s → Inv (run step s as)
  | [], _, _, h => h
  | a :: as, _, hall, h =>
    run_invariant_of hstep as (fun b hb => hall b (List.mem_cons_of_mem _ hb))
      (hstep _ a (hall a List.mem_cons_self) h)

/-- A property every step keeps survives every run. -/
theorem run_invariant {Inv : σ → Prop} (hstep : ∀ s a, Inv s → Inv (step s a)) (as : List α)
    {s : σ} (h : Inv s) : Inv (run step s as) :=
  run_invariant_of (fun s a _ => hstep s a) as (fun _ _ => trivial) h

/-- A relation between the actions taken so far and the state, extended by
every step, relates the whole history to the final state. -/
theorem run_history {P : List α → σ → Prop}
    (hstep : ∀ h s a, P h s → P (h ++ [a]) (step s a)) :
    ∀ (as h : List α) {s : σ}, P h s → P (h ++ as) (run step s as)
  | [], h, _, hp => by rw [List.append_nil]; exact hp
  | a :: as, h, s, hp => by
    rw [List.append_cons, run_cons]
    exact run_history hstep as (h ++ [a]) (hstep h s a hp)

/-- **Nothing is lost between steps**: a property that holds at the start of a
run and fails at its end was taken away by one step of it. -/
theorem lost_at {P : σ → Prop} : ∀ (as : List α) {s : σ}, P s → ¬P (run step s as) →
    ∃ before a after, as = before ++ a :: after ∧
      P (run step s before) ∧ ¬P (step (run step s before) a)
  | [], _, h, hn => absurd h hn
  | a :: as, s, h, hn => by
    by_cases ha : P (step s a)
    · obtain ⟨before, b, after, he, hp, hnp⟩ := lost_at as ha hn
      exact ⟨a :: before, b, after, by rw [he]; rfl, hp, hnp⟩
    · exact ⟨[], a, as, rfl, h, ha⟩

/-- How many actions `p` holds of came after the last one `q` holds of. -/
def since (q p : α → Bool) (as : List α) : Nat :=
  (as.reverse.takeWhile fun a => !q a).countP p

theorem since_snoc_of_mem {q p : α → Bool} {a : α} (h : q a = true) (as : List α) :
    since q p (as ++ [a]) = 0 := by
  simp [since, h]

theorem since_snoc_of_not {q p : α → Bool} {a : α} (h : q a = false) (as : List α) :
    since q p (as ++ [a]) = since q p as + if p a = true then 1 else 0 := by
  simp [since, h, List.countP_cons]

/-- The states a machine started in `s` can be in. -/
def Reachable (step : σ → α → σ) (s t : σ) : Prop := ∃ as : List α, run step s as = t

theorem Reachable.refl (s : σ) : Reachable step s s := ⟨[], rfl⟩

theorem Reachable.snoc {s t : σ} (h : Reachable step s t) (a : α) :
    Reachable step s (step t a) := by
  obtain ⟨as, rfl⟩ := h
  exact ⟨as ++ [a], run_snoc s as a⟩

/-- What holds initially and is kept by every step holds of every reachable state. -/
theorem Reachable.invariant {Inv : σ → Prop} {s t : σ} (h : Reachable step s t) (h0 : Inv s)
    (hstep : ∀ s a, Inv s → Inv (step s a)) : Inv t := by
  obtain ⟨as, rfl⟩ := h
  exact run_invariant hstep as h0

/-- The step of a machine that only the actions `f` reads a message from move. -/
def stepOn {τ μ : Type} (f : α → Option μ) (step : τ → μ → τ) (t : τ) (a : α) : τ :=
  match f a with
  | none => t
  | some m => step t m

/-- It goes by the messages alone, whatever else comes between them. -/
theorem run_stepOn {τ μ : Type} (f : α → Option μ) (step : τ → μ → τ) (as : List α) (t : τ) :
    run (stepOn f step) t as = run step t (as.filterMap f) := by
  unfold run
  rw [List.foldl_filterMap]
  congr 1
  funext t a
  unfold stepOn
  cases f a <;> rfl

/-! ## Simulation -/

section Simulation

variable {τ : Type} {step' : τ → α → τ} {view : σ → τ} {Inv : σ → Prop} {Allowed : α → Prop}

/-- From the states of an invariant and by the actions allowed, a step of the
first machine is, as seen through `view`, a step of the second, and keeps the
invariant. -/
structure Simulates (step : σ → α → σ) (step' : τ → α → τ) (view : σ → τ) (Inv : σ → Prop)
    (Allowed : α → Prop) : Prop where
  keeps : ∀ s a, Allowed a → Inv s → Inv (step s a)
  commutes : ∀ s a, Allowed a → Inv s → view (step s a) = step' (view s) a

/-- **A run of the first machine is a run of the second.** -/
theorem Simulates.run (h : Simulates step step' view Inv Allowed) (as : List α) {s : σ}
    (hs : Inv s) (hall : ∀ a ∈ as, Allowed a) :
    view (PyLib.run step s as) = PyLib.run step' (view s) as := by
  induction as generalizing s with
  | nil => rfl
  | cons a as ih =>
    have ha := hall a List.mem_cons_self
    rw [run_cons, run_cons, ← h.commutes s a ha hs]
    exact ih (h.keeps s a ha hs) fun b hb => hall b (List.mem_cons_of_mem _ hb)

end Simulation

end PyLib
