import Mathlib.Data.List.Chain

/-!
# Announcing changes

An announcer is shown values over time and tells the world when one differs
from the last it told. Telling takes its time and may fail: the last value told
moves when the message is out, not when it is sent on its way, so a failure is
made up for by the next value that differs from it.

`Faithful` is what holds of it at any time: what was told never repeats itself,
and its last entry, or the value everyone assumed at the start, is what the
announcer compares with. What it tells is what it was shown (`observe_spec`),
and once the message is out that is what it told last (`finish_spec`).
-/

namespace PyLib

/-- What an announcer remembers: the last value told, the message on its way,
and, for the record, the values told. -/
structure Announcer (β : Type) where
  last : β
  sending : Option β
  told : List β

namespace Announcer

variable {β : Type} [DecidableEq β]

/-- An announcer that has told nothing, where everyone assumes `b`. -/
def start (b : β) : Announcer β where
  last := b
  sending := none
  told := []

/-- A value is shown to an announcer that is not telling one: it tells it if it
is another than the last. -/
def observe (s : Announcer β) (b : β) : Option (Announcer β) :=
  match s.sending with
  | some _ => none
  | none => some (if b = s.last then s else { s with sending := some b })

/-- The message on its way arrives, or fails. -/
def finish (s : Announcer β) (delivered : Bool) : Option (Announcer β) :=
  match s.sending with
  | none => none
  | some b =>
    some (if delivered then { last := b, sending := none, told := s.told ++ [b] }
      else { s with sending := none })

/-- Nothing told repeats what was told before it, and the last of it, after what
was assumed at the start, is the value compared with. -/
structure Faithful (b : β) (s : Announcer β) : Prop where
  changes : (b :: s.told).IsChain (· ≠ ·)
  last : (b :: s.told).getLast? = some s.last
  sending : ∀ c, s.sending = some c → c ≠ s.last

omit [DecidableEq β] in
theorem faithful_start (b : β) : Faithful b (start b) where
  changes := List.isChain_singleton b
  last := rfl
  sending := nofun

theorem Faithful.observe {b c : β} {s t : Announcer β} (h : Faithful b s)
    (ht : s.observe c = some t) : Faithful b t := by
  unfold Announcer.observe at ht
  split at ht
  next => cases ht
  next hidle =>
    cases ht
    split
    next => exact h
    next hne =>
      refine ⟨h.changes, h.last, ?_⟩
      intro d hd
      cases hd
      exact hne

omit [DecidableEq β] in
theorem Faithful.finish {b : β} {delivered : Bool} {s t : Announcer β} (h : Faithful b s)
    (ht : s.finish delivered = some t) : Faithful b t := by
  unfold Announcer.finish at ht
  split at ht
  next => cases ht
  next c hsending =>
    cases ht
    cases delivered with
    | false => exact ⟨h.changes, h.last, nofun⟩
    | true =>
      refine ⟨?_, ?_, nofun⟩
      · show ((b :: s.told) ++ [c]).IsChain (· ≠ ·)
        refine h.changes.append (List.isChain_singleton c) ?_
        intro x hx y hy
        rw [h.last] at hx
        cases hx
        cases hy
        exact (h.sending c hsending).symm
      · show ((b :: s.told) ++ [c]).getLast? = some c
        rw [List.getLast?_append]
        rfl

/-- Shown a value, an announcer has told it last, or sends it on its way. -/
theorem observe_spec {s t : Announcer β} {b : β} (ht : s.observe b = some t) :
    s.sending = none ∧ t.told = s.told ∧
      (t.sending = none ∧ t.last = b ∨ t.sending = some b) := by
  unfold observe at ht
  split at ht
  next => cases ht
  next hidle =>
    cases ht
    refine ⟨hidle, ?_⟩
    split
    next heq => exact ⟨rfl, Or.inl ⟨hidle, heq.symm⟩⟩
    next => exact ⟨rfl, Or.inr rfl⟩

omit [DecidableEq β] in
/-- A message is one that was on its way, and afterwards none is. -/
theorem finish_spec {s t : Announcer β} {delivered : Bool} (ht : s.finish delivered = some t) :
    ∃ b, s.sending = some b ∧ t.sending = none ∧
      (delivered = true → t.last = b ∧ t.told = s.told ++ [b]) ∧
      (delivered = false → t.told = s.told) := by
  unfold finish at ht
  split at ht
  next => cases ht
  next b hsending =>
    cases ht
    cases delivered
    · exact ⟨b, hsending, rfl, nofun, fun _ => rfl⟩
    · exact ⟨b, hsending, rfl, fun _ => ⟨rfl, rfl⟩, nofun⟩

end Announcer

end PyLib
