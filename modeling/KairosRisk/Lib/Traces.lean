import KairosRisk.Lib.Run

/-!
# Histories that every channel sees alike

Actions use channels, and a channel sees, of a history, the actions that use it.
Two actions are independent when they share no channel. Where every action uses
some channel, two histories look alike on every channel exactly when one is the
other with independent neighbours swapped, again and again (`sameViews_iff`).

A machine that answers its actions, and to which independent actions do not
matter (`Commutes`), answers each channel alike in all of these histories
(`Commutes.answers`).
-/

namespace PyLib

variable {κ α : Type} {uses : κ → α → Bool}

/-- Every channel sees the same. -/
def SameViews (uses : κ → α → Bool) (l l' : List α) : Prop :=
  ∀ k, l.filter (uses k) = l'.filter (uses k)

/-- The two share no channel. -/
def Independent (uses : κ → α → Bool) (a b : α) : Prop :=
  ∀ k, uses k a = true → uses k b = false

/-- The second is the first with independent neighbours swapped. -/
inductive Interleaves (uses : κ → α → Bool) : List α → List α → Prop
  | refl (l : List α) : Interleaves uses l l
  | cons (a : α) {l l' : List α} (h : Interleaves uses l l') : Interleaves uses (a :: l) (a :: l')
  | swap {a b : α} (h : Independent uses a b) (l : List α) :
      Interleaves uses (a :: b :: l) (b :: a :: l)
  | trans {l l' l'' : List α} (h : Interleaves uses l l') (h' : Interleaves uses l' l'') :
      Interleaves uses l l''

theorem Independent.symm {a b : α} (h : Independent uses a b) : Independent uses b a := by
  intro k hb
  cases ha : uses k a with
  | false => rfl
  | true =>
    have hnot := h k ha
    rw [hb] at hnot
    cases hnot

theorem Interleaves.symm {l l' : List α} (h : Interleaves uses l l') : Interleaves uses l' l := by
  induction h with
  | refl l => exact .refl l
  | cons a _ ih => exact .cons a ih
  | swap hab l => exact .swap hab.symm l
  | trans _ _ ih ih' => exact .trans ih' ih

theorem Interleaves.sameViews {l l' : List α} (h : Interleaves uses l l') :
    SameViews uses l l' := by
  intro k
  induction h with
  | refl => rfl
  | cons a _ ih => rw [List.filter_cons, List.filter_cons, ih]
  | @swap a b hab l =>
    cases ha : uses k a with
    | false => simp only [List.filter_cons, ha, Bool.false_eq_true, if_false]
    | true => simp only [List.filter_cons, hab k ha, Bool.false_eq_true, if_false]
  | trans _ _ ih ih' => exact ih.trans ih'

/-- An action goes to the front past actions it is independent of. -/
theorem Interleaves.front {a : α} : ∀ {l₁ : List α} (l₂ : List α),
    (∀ b ∈ l₁, Independent uses b a) → Interleaves uses (l₁ ++ a :: l₂) (a :: (l₁ ++ l₂))
  | [], _, _ => .refl _
  | b :: l₁, l₂, h => by
    obtain ⟨hb, hrest⟩ := List.forall_mem_cons.mp h
    exact .trans (.cons b (front l₂ hrest)) (.swap hb _)

/-- Where a history starts, another that looks alike has the same action, behind
actions it is independent of; without it the two look alike again. -/
theorem SameViews.head {a : α} {l l' : List α} (h : SameViews uses (a :: l) l')
    (hused : ∃ k, uses k a = true) :
    ∃ l₁ l₂, l' = l₁ ++ a :: l₂ ∧ (∀ b ∈ l₁, Independent uses b a) ∧
      SameViews uses l (l₁ ++ l₂) := by
  obtain ⟨k, hk⟩ := hused
  have hview := h k
  rw [List.filter_cons_of_pos hk] at hview
  obtain ⟨l₁, l₂, rfl, hbefore, _, _⟩ := List.filter_eq_cons_iff.mp hview.symm
  -- a channel of the action sees nothing before it: what it saw first would be the action
  have hnone : ∀ j, uses j a = true → l₁.filter (uses j) = [] := by
    intro j hj
    cases hseen : l₁.filter (uses j) with
    | nil => rfl
    | cons b rest =>
      exfalso
      have hfirst := h j
      rw [List.filter_cons_of_pos hj, List.filter_append, hseen] at hfirst
      have hab : a = b := List.head_eq_of_cons_eq hfirst
      have hb : b ∈ l₁.filter (uses j) := by
        rw [hseen]
        exact List.mem_cons_self
      exact hbefore a (hab ▸ (List.mem_filter.mp hb).1) hk
  refine ⟨l₁, l₂, rfl, ?_, ?_⟩
  · intro b hb
    refine Independent.symm fun j hj => ?_
    have hnot := List.filter_eq_nil_iff.mp (hnone j hj) b hb
    exact Bool.eq_false_iff.mpr hnot
  · intro j
    have hsame := h j
    rw [List.filter_append] at hsame ⊢
    cases hj : uses j a with
    | true =>
      rw [List.filter_cons_of_pos hj, List.filter_cons_of_pos hj, hnone j hj] at hsame
      rw [hnone j hj]
      exact List.tail_eq_of_cons_eq hsame
    | false =>
      rw [List.filter_cons_of_neg (Bool.eq_false_iff.mp hj),
        List.filter_cons_of_neg (Bool.eq_false_iff.mp hj)] at hsame
      exact hsame

/-- **Histories that every channel sees alike** are reorderings of each other by
swaps of independent neighbours, and no others are. -/
theorem sameViews_iff (hused : ∀ a, ∃ k : κ, uses k a = true) {l l' : List α} :
    SameViews uses l l' ↔ Interleaves uses l l' := by
  constructor
  · intro h
    induction l generalizing l' with
    | nil =>
      have hnil : l' = [] := by
        cases l' with
        | nil => rfl
        | cons b l' =>
          obtain ⟨k, hk⟩ := hused b
          have hview := h k
          rw [List.filter_cons_of_pos hk] at hview
          cases hview
      rw [hnil]
      exact .refl []
    | cons a l ih =>
      obtain ⟨l₁, l₂, rfl, hbefore, hrest⟩ := h.head (hused a)
      exact .trans (.cons a (ih hrest)) (Interleaves.front l₂ hbefore).symm
  · exact Interleaves.sameViews

/-! ## Machines that answer -/

section Machine

variable {σ ο : Type} {act : σ → α → ο × σ} {R : σ → σ → Prop}

/-- The actions with their answers. -/
def history (act : σ → α → ο × σ) : σ → List α → List (α × ο)
  | _, [] => []
  | s, a :: as => (a, (act s a).1) :: history act (act s a).2 as

/-- Independent actions do not matter to each other's answers, nor their order to
the state, up to a relation between states that no answers tell apart. -/
structure Commutes (uses : κ → α → Bool) (act : σ → α → ο × σ) (R : σ → σ → Prop) : Prop where
  equivalence : Equivalence R
  answer : ∀ {s s'} a, R s s' → (act s a).1 = (act s' a).1
  keeps : ∀ {s s'} a, R s s' → R (act s a).2 (act s' a).2
  unmoved : ∀ s {a b}, Independent uses a b → (act (act s b).2 a).1 = (act s a).1
  swap : ∀ s {a b}, Independent uses a b → R (act (act s a).2 b).2 (act (act s b).2 a).2

/-- Related states answer alike, and stay related. -/
theorem Commutes.congr (h : Commutes uses act R) : ∀ (l : List α) {s s' : σ}, R s s' →
    history act s l = history act s' l ∧
      R (run (fun s a => (act s a).2) s l) (run (fun s a => (act s a).2) s' l)
  | [], _, _, hs => ⟨rfl, hs⟩
  | a :: l, _, _, hs => by
    obtain ⟨hhistory, hstate⟩ := h.congr l (h.keeps a hs)
    refine ⟨?_, hstate⟩
    unfold history
    rw [h.answer a hs, hhistory]

/-- Swaps change no channel's answers. -/
theorem Commutes.interleaves (h : Commutes uses act R) {l l' : List α}
    (hl : Interleaves uses l l') : ∀ s : σ,
    R (run (fun s a => (act s a).2) s l) (run (fun s a => (act s a).2) s l') ∧
      SameViews (fun k x => uses k x.1) (history act s l) (history act s l') := by
  induction hl with
  | refl l => exact fun s => ⟨h.equivalence.refl _, fun _ => rfl⟩
  | cons a _ ih =>
    intro s
    obtain ⟨hstate, hviews⟩ := ih (act s a).2
    refine ⟨hstate, fun k => ?_⟩
    unfold history
    rw [List.filter_cons, List.filter_cons, hviews k]
  | @swap a b hab l =>
    intro s
    obtain ⟨hhistory, hstate⟩ := h.congr l (h.swap s hab)
    refine ⟨hstate, ?_⟩
    have hswapped : Interleaves (fun k (x : α × ο) => uses k x.1)
        (history act s (a :: b :: l)) (history act s (b :: a :: l)) := by
      unfold history history
      rw [h.unmoved s hab, h.unmoved s hab.symm, hhistory]
      have hpair : Independent (fun k (x : α × ο) => uses k x.1) (a, (act s a).1)
          (b, (act s b).1) := hab
      exact .swap hpair _
    exact hswapped.sameViews
  | trans _ _ ih ih' =>
    intro s
    exact ⟨h.equivalence.trans (ih s).1 (ih' s).1, fun k => ((ih s).2 k).trans ((ih' s).2 k)⟩

/-- **Each channel is answered alike in histories that every channel sees alike**,
and what they leave no answers tell apart. -/
theorem Commutes.answers (h : Commutes uses act R) (hused : ∀ a, ∃ k : κ, uses k a = true)
    {l l' : List α} (hl : SameViews uses l l') (s : σ) :
    R (run (fun s a => (act s a).2) s l) (run (fun s a => (act s a).2) s l') ∧
      SameViews (fun k x => uses k x.1) (history act s l) (history act s l') :=
  h.interleaves ((sameViews_iff hused).mp hl) s

end Machine

end PyLib
