/-!
# Computations that agree

Two computations agree when both return, with related results, or both raise,
with related errors. Agreement goes through a pair of programs step by step: the
first steps agree, and whatever they return, so do the rests.
-/

namespace PyLib

variable {ε α α' β β' : Type}

/-- Both return related results or both raise related errors. -/
inductive Agree (E : ε → ε → Prop) (R : α → α' → Prop) : Except ε α → Except ε α' → Prop
  | ok {a : α} {a' : α'} (h : R a a') : Agree E R (.ok a) (.ok a')
  | error {e e' : ε} (h : E e e') : Agree E R (.error e) (.error e')

namespace Agree

variable {E : ε → ε → Prop} {R : α → α' → Prop} {S : β → β' → Prop} {x : Except ε α}
  {y : Except ε α'}

/-- A step and what follows it. -/
theorem bind {f : α → Except ε β} {g : α' → Except ε β'} (h : Agree E R x y)
    (hrest : ∀ a a', R a a' → Agree E S (f a) (g a')) : Agree E S (x >>= f) (y >>= g) := by
  cases h with
  | ok h => exact hrest _ _ h
  | error h => exact .error h

/-- One computation done twice. -/
theorem of_eq {x y : Except ε α} (hE : ∀ e, E e e) (h : x = y) : Agree E Eq x y := by
  subst h
  cases x with
  | ok a => exact .ok rfl
  | error e => exact .error (hE e)

theorem mono {R' : α → α' → Prop} (h : Agree E R x y) (hR : ∀ a a', R a a' → R' a a') :
    Agree E R' x y := by
  cases h with
  | ok h => exact .ok (hR _ _ h)
  | error h => exact .error h

/-- What one of them returned, the other returned alike. -/
theorem ok_of_ok {a : α} (h : Agree E R x y) (hx : x = .ok a) : ∃ a', y = .ok a' ∧ R a a' := by
  subst hx
  cases h with
  | ok h => exact ⟨_, rfl, h⟩

end Agree

end PyLib
