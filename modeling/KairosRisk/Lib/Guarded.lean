import KairosRisk.Lib.Run

/-!
# Runs of a machine with guards

Where not every action is possible in every state, the step of a machine is
partial: `σ → α → Option σ`, with `none` for an action that cannot happen. A
run follows a list of actions for as long as each is possible. The rules are
those of a total machine: a relation between the actions taken and the state,
extended by every possible step, holds of the whole run (`follow_history`).

A part of the state that some of the actions move by a total step of its own,
and the others leave alone, is a machine by itself: where it stands after a run
is said by those actions alone (`follow_part`).
-/

namespace PyLib

variable {σ α : Type} {step : σ → α → Option σ}

/-- The state after the actions `as`, each of which was possible. -/
def follow (step : σ → α → Option σ) (s : σ) (as : List α) : Option σ := as.foldlM step s

theorem follow_cons {s u : σ} {a : α} {as : List α} :
    follow step s (a :: as) = some u ↔ ∃ t, step s a = some t ∧ follow step t as = some u := by
  unfold follow
  rw [List.foldlM_cons]
  exact Option.bind_eq_some_iff

theorem follow_append {s u : σ} {as bs : List α} :
    follow step s (as ++ bs) = some u ↔
      ∃ t, follow step s as = some t ∧ follow step t bs = some u := by
  unfold follow
  rw [List.foldlM_append]
  exact Option.bind_eq_some_iff

theorem follow_snoc {s u : σ} {as : List α} {a : α} :
    follow step s (as ++ [a]) = some u ↔ ∃ t, follow step s as = some t ∧ step t a = some u := by
  have hlast : ∀ t, follow step t [a] = step t a := by
    intro t
    show (step t a).bind some = step t a
    cases step t a <;> rfl
  rw [follow_append]
  simp only [hlast]

/-- A relation between the actions taken so far and the state, extended by
every possible step, relates all of them to the state they lead to. -/
theorem follow_history {P : List α → σ → Prop}
    (hstep : ∀ done s a t, P done s → step s a = some t → P (done ++ [a]) t) :
    ∀ (as done : List α) {s t : σ}, P done s → follow step s as = some t → P (done ++ as) t
  | [], done, s, t, hp, h => by
    cases h
    rw [List.append_nil]
    exact hp
  | a :: as, done, s, t, hp, h => by
    obtain ⟨u, hu, h⟩ := follow_cons.mp h
    rw [List.append_cons]
    exact follow_history hstep as (done ++ [a]) (hstep done s a u hp hu) h

/-- A part of the state that `f` reads the moves of is where those moves leave it. -/
theorem follow_part {τ μ : Type} {part : σ → τ} {f : α → Option μ} {move : τ → μ → τ}
    (hpart : ∀ s a t, step s a = some t → part t = stepOn f move (part s) a) {as : List α} {s t : σ}
    (h : follow step s as = some t) : part t = run move (part s) (as.filterMap f) := by
  rw [← run_stepOn]
  have hstep : ∀ (done : List α) (u : σ) (a : α) (v : σ),
      part u = run (stepOn f move) (part s) done → step u a = some v →
      part v = run (stepOn f move) (part s) (done ++ [a]) := by
    intro done u a v hu hv
    rw [run_snoc, ← hu]
    exact hpart u a v hv
  exact follow_history hstep as [] rfl h

end PyLib
