import Mathlib.Data.List.Perm.Basic

/-!
# Batches

`List.mapM` in `Except` is a loop that collects a result for each item and stops
at the first exception. Results come in the order of the items, and an item's
result does not depend on where in the batch it stands.
-/

namespace PyLib

variable {ε α β : Type} {f : α → Except ε β}

/-- A batch that was finished has the result of each item. -/
theorem mapM_ok_iff : ∀ {items : List α} {results : List β},
    items.mapM f = .ok results ↔ List.Forall₂ (fun a b => f a = .ok b) items results
  | [], results => by
    rw [List.mapM_nil, List.forall₂_nil_left_iff]
    exact ⟨fun h => (Except.ok.inj h).symm, fun h => congrArg _ h.symm⟩
  | a :: items, results => by
    rw [List.mapM_cons, List.forall₂_cons_left_iff]
    constructor
    · intro h
      cases ha : f a with
      | error e =>
        rw [ha] at h
        cases h
      | ok b =>
        cases hrest : items.mapM f with
        | error e =>
          rw [ha, hrest] at h
          cases h
        | ok bs =>
          rw [ha, hrest] at h
          cases h
          exact ⟨b, bs, rfl, mapM_ok_iff.mp hrest, rfl⟩
    · rintro ⟨b, bs, ha, hrest, rfl⟩
      rw [ha, mapM_ok_iff.mpr hrest]
      rfl

/-- Each result is the result of an item. -/
theorem exists_of_mem_results {items : List α} {results : List β} {b : β}
    (h : items.mapM f = .ok results) (hb : b ∈ results) : ∃ a ∈ items, f a = .ok b := by
  have hresults := mapM_ok_iff.mp h
  clear h
  induction hresults with
  | nil => cases hb
  | cons ha _ ih =>
    rcases List.mem_cons.mp hb with rfl | hb
    · exact ⟨_, List.mem_cons_self, ha⟩
    · obtain ⟨a, hmem, ha⟩ := ih hb
      exact ⟨a, List.mem_cons_of_mem _ hmem, ha⟩

/-- A batch that was not finished stopped at one of its items. -/
theorem mapM_error {e : ε} : ∀ {items : List α}, items.mapM f = .error e →
    ∃ a ∈ items, f a = .error e
  | [], h => nomatch h
  | a :: items, h => by
    rw [List.mapM_cons] at h
    cases ha : f a with
    | error e' =>
      rw [ha] at h
      cases h
      exact ⟨a, List.mem_cons_self, ha⟩
    | ok b =>
      cases hrest : items.mapM f with
      | error e' =>
        rw [ha, hrest] at h
        cases h
        obtain ⟨a', hmem, ha'⟩ := mapM_error hrest
        exact ⟨a', List.mem_cons_of_mem a hmem, ha'⟩
      | ok bs =>
        rw [ha, hrest] at h
        cases h

/-- Another order of the items gives the same results in that order. -/
theorem mapM_perm {items items' : List α} {results : List β} (h : items.mapM f = .ok results)
    (hperm : items'.Perm items) :
    ∃ results', items'.mapM f = .ok results' ∧ results'.Perm results := by
  obtain ⟨results', hresults, hsame⟩ := List.perm_comp_forall₂ hperm (mapM_ok_iff.mp h)
  exact ⟨results', mapM_ok_iff.mpr hresults, hsame⟩

end PyLib
