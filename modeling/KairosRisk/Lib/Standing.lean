import KairosRisk.Lib.Feed

/-!
# What stands in a feed with withdrawals

Next to the messages of a converging feed something may arrive that is no
message and takes away what is held: a payload that cannot be read, or one that
is refused before its version is looked at. `arrive` is the feed with both.

Such a feed is no function of the set of what arrived: the same message before
a withdrawal is lost and after it is not. What it holds is still said by the
history alone. `Stands` says it, and `sumsUp_run` is the whole story: the message
held is the one that was newer than everything before it and that nothing since
has withdrawn or contradicted.
-/

namespace PyLib

namespace Feed

variable {ν μ κ : Type} [LinearOrder ν] (ver : μ → ν) (valid : μ → Bool) (content : μ → κ)

/-- One arrival: a message, or what withdraws the one held. -/
def arrive [DecidableEq κ] (s : Feed ν μ) : Option μ → Feed ν μ
  | some m => converge ver valid content s m
  | none => { s with held := none }

/-- The messages among what arrived. -/
def messages (as : List (Option μ)) : List μ := as.filterMap id

/-- What may arrive after `m` without harm to it: an older message, or one at
its version that says the same. -/
def Harmless (m : μ) (a : Option μ) : Prop :=
  ∃ k, a = some k ∧ (ver k < ver m ∨ ver k = ver m ∧ valid k = true ∧ content k = content m)

/-- The message was newer than everything before it, and nothing since has
withdrawn or contradicted it. -/
def Stands (as : List (Option μ)) (m : μ) : Prop :=
  ∃ before after, as = before ++ some m :: after ∧ valid m = true ∧
    (∀ k ∈ messages before, ver k < ver m) ∧ ∀ a ∈ after, Harmless ver valid content m a

/-- What the arrivals `as` leave. -/
structure SumsUp (as : List (Option μ)) (s : Feed ν μ) : Prop where
  start : s.version = none → messages as = []
  version : ∀ t, s.version = some t → Latest ver (messages as) t
  held : ∀ m, s.held = some m ↔ Stands ver valid content as m

variable {ver valid content}

theorem mem_messages {as : List (Option μ)} {m : μ} : m ∈ messages as ↔ some m ∈ as := by
  simp [messages]

theorem messages_snoc (as : List (Option μ)) (m : μ) :
    messages (as ++ [some m]) = messages as ++ [m] := by
  simp [messages]

/-- What stands after one arrival more is the arrival itself, or what stood
before when the arrival does it no harm. -/
theorem stands_snoc {as : List (Option μ)} {a : Option μ} {m : μ} :
    Stands ver valid content (as ++ [a]) m ↔
      a = some m ∧ valid m = true ∧ (∀ k ∈ messages as, ver k < ver m) ∨
      Stands ver valid content as m ∧ Harmless ver valid content m a := by
  constructor
  · intro h
    obtain ⟨before, after, hsplit, hvalid, hbefore, hafter⟩ := h
    rcases List.eq_nil_or_concat after with rfl | ⟨rest, last, rfl⟩
    · obtain ⟨rfl, hlast⟩ := List.append_inj' hsplit rfl
      cases hlast
      exact Or.inl ⟨rfl, hvalid, hbefore⟩
    · rw [List.concat_eq_append] at hsplit hafter
      rw [← List.cons_append, ← List.append_assoc] at hsplit
      obtain ⟨rfl, hlast⟩ := List.append_inj' hsplit rfl
      cases hlast
      refine Or.inr ⟨⟨before, rest, rfl, hvalid, hbefore, ?_⟩, ?_⟩
      · exact fun b hb => hafter b (List.mem_append_left _ hb)
      · exact hafter _ (List.mem_append_right _ List.mem_cons_self)
  · intro h
    rcases h with
      ⟨rfl, hvalid, hbefore⟩ | ⟨⟨before, after, rfl, hvalid, hbefore, hafter⟩, hharmless⟩
    · exact ⟨as, [], rfl, hvalid, hbefore, fun b hb => absurd hb List.not_mem_nil⟩
    · refine ⟨before, after ++ [a], by simp, hvalid, hbefore, ?_⟩
      intro b hb
      rcases List.mem_append.mp hb with hb | hb
      · exact hafter b hb
      · rw [List.mem_singleton.mp hb]
        exact hharmless

/-- What stands is at the largest version that arrived. -/
theorem Stands.latest {as : List (Option μ)} {m : μ} (h : Stands ver valid content as m) :
    Latest ver (messages as) (ver m) := by
  obtain ⟨before, after, rfl, -, hbefore, hafter⟩ := h
  refine ⟨⟨m, mem_messages.mpr (List.mem_append_right _ List.mem_cons_self), rfl⟩, ?_⟩
  intro k hk
  rw [mem_messages, List.mem_append, List.mem_cons] at hk
  rcases hk with hk | hk | hk
  · exact le_of_lt (hbefore k (mem_messages.mpr hk))
  · cases hk
    exact le_refl _
  · obtain ⟨k', hk', hle⟩ := hafter _ hk
    cases hk'
    exact hle.elim le_of_lt fun h => le_of_eq h.1

/-- A message newer than everything that arrived decides alone. -/
theorem sumsUp_newer {as : List (Option μ)} {m : μ} (hnewer : ∀ k ∈ messages as, ver k < ver m) :
    SumsUp ver valid content (as ++ [some m])
      ⟨some (ver m), if valid m = true then some m else none⟩ := by
  constructor
  case start => exact nofun
  case version =>
    intro t ht
    cases ht
    rw [messages_snoc]
    refine ⟨⟨m, List.mem_append_right _ List.mem_cons_self, rfl⟩, ?_⟩
    intro k hk
    rcases List.mem_append.mp hk with hk | hk
    · exact le_of_lt (hnewer k hk)
    · rw [List.mem_singleton.mp hk]
  case held =>
    intro k
    rw [stands_snoc]
    constructor
    · intro h
      dsimp only at h
      split at h
      next hvalid =>
        cases h
        exact Or.inl ⟨rfl, hvalid, hnewer⟩
      next => cases h
    · rintro (⟨hk, hvalid, -⟩ | ⟨hstands, m', hm', hle⟩)
      · cases hk
        exact if_pos hvalid
      · -- what stood before is older than the message, which does it harm
        cases hm'
        obtain ⟨⟨k', hk', hver⟩, -⟩ := hstands.latest
        have hlt := hnewer k' hk'
        rw [hver] at hlt
        rcases hle with hle | ⟨heq, -⟩
        · exact absurd (lt_trans hlt hle) (lt_irrefl _)
        · exact absurd heq (ne_of_gt hlt)

/-- A withdrawal leaves the version, and nothing held. -/
theorem SumsUp.withdraw {as : List (Option μ)} {s : Feed ν μ} (h : SumsUp ver valid content as s) :
    SumsUp ver valid content (as ++ [none]) { s with held := none } := by
  have hmessages : messages (as ++ [none]) = messages as := by simp [messages]
  constructor
  case start =>
    rw [hmessages]
    exact h.start
  case version =>
    rw [hmessages]
    exact h.version
  case held =>
    intro m
    rw [stands_snoc]
    constructor
    · exact nofun
    · rintro (⟨hm, -⟩ | ⟨-, k, hk, -⟩)
      · cases hm
      · cases hk

/-- A message no newer than what has arrived holds what did it no harm. -/
theorem SumsUp.notNewer {as : List (Option μ)} {s : Feed ν μ} (h : SumsUp ver valid content as s)
    {m : μ} {w : ν} (hw : s.version = some w) (hm : ver m ≤ w) {held : Option μ}
    (hheld : ∀ k, held = some k ↔ s.held = some k ∧ Harmless ver valid content k (some m)) :
    SumsUp ver valid content (as ++ [some m]) { s with held := held } := by
  have hlatest := h.version w hw
  constructor
  case start => exact fun hnone => absurd (hw.symm.trans hnone) nofun
  case version =>
    intro t ht
    cases hw.symm.trans ht
    rw [messages_snoc]
    exact hlatest.snoc hm
  case held =>
    intro k
    rw [hheld k, h.held k, stands_snoc]
    constructor
    · exact Or.inr
    · rintro (⟨hk, -, hnewer⟩ | hstood)
      · cases hk
        obtain ⟨⟨k', hk', hver⟩, -⟩ := hlatest
        have hlt := hnewer k' hk'
        rw [hver] at hlt
        exact absurd hm (not_le.mpr hlt)
      · exact hstood

variable [DecidableEq κ]

/-- **One arrival**: the feed goes on summing up what arrived. -/
theorem SumsUp.arrive {as : List (Option μ)} {s : Feed ν μ} (h : SumsUp ver valid content as s)
    (a : Option μ) : SumsUp ver valid content (as ++ [a]) (s.arrive ver valid content a) := by
  cases a with
  | none => exact h.withdraw
  | some m =>
    show SumsUp ver valid content (as ++ [some m]) (converge ver valid content s m)
    unfold converge
    split
    next hs =>
      refine sumsUp_newer ?_
      intro k hk
      rw [h.start hs] at hk
      exact absurd hk List.not_mem_nil
    next w hs =>
      -- what is held is at the version
      have hheldver : ∀ k, s.held = some k → ver k = w := by
        intro k hk
        exact ((h.held k).mp hk).latest.unique (h.version w hs)
      split
      next hlt =>
        refine h.notNewer hs (le_of_lt hlt) ?_
        intro k
        constructor
        · intro hk
          refine ⟨hk, m, rfl, Or.inl ?_⟩
          rw [hheldver k hk]
          exact hlt
        · exact fun hk => hk.1
      next hnlt =>
        split
        next heq =>
          refine h.notNewer hs (le_of_eq heq) ?_
          intro k
          rw [Option.filter_eq_some_iff]
          constructor
          · rintro ⟨hk, hkeep⟩
            rw [Bool.and_eq_true, decide_eq_true_eq] at hkeep
            exact ⟨hk, m, rfl, Or.inr ⟨heq.trans (hheldver k hk).symm, hkeep⟩⟩
          · rintro ⟨hk, m', hm', hle⟩
            cases hm'
            refine ⟨hk, ?_⟩
            rw [hheldver k hk, heq] at hle
            rcases hle with hlt | ⟨-, hkeep⟩
            · exact absurd hlt (lt_irrefl w)
            · rw [Bool.and_eq_true, decide_eq_true_eq]
              exact hkeep
        next hne =>
          refine sumsUp_newer ?_
          intro k hk
          exact lt_of_le_of_lt ((h.version w hs).2 k hk)
            (lt_of_le_of_ne (not_lt.mp hnlt) (Ne.symm hne))

/-- **A run sums up what arrived**: in particular, what is held is what stands. -/
theorem sumsUp_run (as : List (Option μ)) :
    SumsUp ver valid content as (run (Feed.arrive ver valid content) ⟨none, none⟩ as) := by
  have hstart : SumsUp ver valid content [] ⟨none, none⟩ := by
    refine ⟨fun _ => rfl, nofun, ?_⟩
    intro k
    constructor
    · exact nofun
    · rintro ⟨before, after, hsplit, -⟩
      exact absurd hsplit (by simp)
  exact run_history (fun _ _ a h => h.arrive a) as [] hstart

end Feed

end PyLib
