import KairosRisk.Lib.Run
import Mathlib.Order.Defs.LinearOrder
import Mathlib.Order.Lattice

/-!
# Versioned feeds with poison

A consumer of a feed of versioned values that may arrive late, twice or in
conflict keeps two things: the newest version it has seen and, when it trusts
one, the value at that version. An older delivery is ignored; a second,
different value at the newest version *poisons* it, and a newer delivery
either becomes the value or poisons its own version when it is refused. The
trusted value may also be withdrawn without a delivery.

`Moves` is that behaviour as a relation, over any linear order of versions
and any values, so that an implementation with its own reasons to refuse or
withdraw refines it by giving one constructor for each of its branches. What
follows from the relation alone is stated for whole runs: the version is the
largest one delivered (`Run.version_eq`), and a poisoned feed holds nothing
until something strictly newer arrives (`Run.poisoned`).

A feed whose refusals depend on the message alone converges. `converge` is its
step, and `converged` says what any run of it leaves: the largest version, and
a value exactly when every message delivered at that version is valid and all
of them have the same content (`held_isSome_iff`). Order and repetition do not
matter (`converged_congr`).
-/

namespace PyLib

variable {ν π : Type} [LinearOrder ν]

/-- What the consumer of a feed remembers. -/
structure Feed (ν π : Type) where
  version : Option ν
  held : Option π

namespace Feed

/-- The version after a delivery of `v`. -/
def raise (o : Option ν) (v : ν) : Option ν :=
  match o with
  | none => some v
  | some w => some (max w v)

/-- One step of a feed; the label is the version delivered, if any was. -/
inductive Moves : Feed ν π → Option ν → Feed ν π → Prop
  /-- Nothing arrived and nothing changed. -/
  | idle (s : Feed ν π) : Moves s none s
  /-- The trusted value is withdrawn. -/
  | withdraw (s : Feed ν π) : Moves s none { s with held := none }
  /-- An older version is ignored. -/
  | stale {s : Feed ν π} {w v : ν} (hw : s.version = some w) (hv : v < w) : Moves s (some v) s
  /-- The same value at the newest version is a duplicate. -/
  | duplicate {s : Feed ν π} {v : ν} (hv : s.version = some v) : Moves s (some v) s
  /-- Another value at the newest version poisons it. -/
  | conflict {s : Feed ν π} {v : ν} (hv : s.version = some v) :
      Moves s (some v) { s with held := none }
  /-- A newer version is adopted. -/
  | adopt {s : Feed ν π} {v : ν} (p : π) (hv : ∀ w, s.version = some w → w < v) :
      Moves s (some v) ⟨some v, some p⟩
  /-- A newer version is refused, and poisoned. -/
  | refuse {s : Feed ν π} {v : ν} (hv : ∀ w, s.version = some w → w < v) :
      Moves s (some v) ⟨some v, none⟩

/-- A delivery raises the version to the larger of the two. -/
theorem Moves.version_some {s s' : Feed ν π} {v : ν} (h : Moves s (some v) s') :
    s'.version = raise s.version v := by
  have newer : (∀ w, s.version = some w → w < v) → some v = raise s.version v := by
    intro hv
    cases hs : s.version with
    | none => rfl
    | some w =>
      show some v = some (max w v)
      rw [max_eq_right (le_of_lt (hv w hs))]
  cases h with
  | stale hw hv =>
    rw [hw]
    show some _ = some (max _ _)
    rw [max_eq_left (le_of_lt hv)]
  | duplicate hv =>
    rw [hv]
    show some _ = some (max _ _)
    rw [max_self]
  | conflict hv =>
    show s.version = _
    rw [hv]
    show some _ = some (max _ _)
    rw [max_self]
  | adopt p hv => exact newer hv
  | refuse hv => exact newer hv

/-- Without a delivery the version stays. -/
theorem Moves.version_none {s s' : Feed ν π} (h : Moves s none s') : s'.version = s.version := by
  cases h <;> rfl

/-- A feed that holds nothing at version `v` comes to hold something only by a
delivery newer than `v`. -/
theorem Moves.held_none {s s' : Feed ν π} {o : Option ν} {v : ν} (h : Moves s o s')
    (hv : s.version = some v) (hs : s.held = none) (ho : ∀ w, o = some w → w ≤ v) :
    s'.version = some v ∧ s'.held = none := by
  cases h with
  | idle => exact ⟨hv, hs⟩
  | withdraw => exact ⟨hv, rfl⟩
  | stale => exact ⟨hv, hs⟩
  | duplicate => exact ⟨hv, hs⟩
  | conflict => exact ⟨hv, rfl⟩
  | adopt p hw => exact absurd (hw v hv) (not_lt.mpr (ho _ rfl))
  | refuse hw => exact absurd (hw v hv) (not_lt.mpr (ho _ rfl))

/-- A finite run of a feed and the versions delivered along it. -/
inductive Run : Feed ν π → List ν → Feed ν π → Prop
  | nil (s : Feed ν π) : Run s [] s
  | silent {s t u : Feed ν π} {vs : List ν} (h : Run s vs t) (m : Moves t none u) : Run s vs u
  | deliver {s t u : Feed ν π} {vs : List ν} {v : ν} (h : Run s vs t) (m : Moves t (some v) u) :
      Run s (vs ++ [v]) u

/-- **The version is the largest one delivered.** -/
theorem Run.version_eq {s t : Feed ν π} {vs : List ν} (h : Run s vs t) :
    t.version = vs.foldl raise s.version := by
  induction h with
  | nil => rfl
  | silent _ m ih => rw [m.version_none, ih]
  | deliver _ m ih => rw [m.version_some, ih, List.foldl_append, List.foldl_cons, List.foldl_nil]

/-- **Poison lasts until something strictly newer**: a feed that holds nothing
at version `v` still holds nothing after any run that delivers no version
above `v`. -/
theorem Run.poisoned {s t : Feed ν π} {vs : List ν} {v : ν} (h : Run s vs t)
    (hv : s.version = some v) (hs : s.held = none) (hvs : ∀ w ∈ vs, w ≤ v) :
    t.version = some v ∧ t.held = none := by
  induction h with
  | nil => exact ⟨hv, hs⟩
  | silent _ m ih =>
    obtain ⟨h1, h2⟩ := ih hvs
    exact m.held_none h1 h2 (fun w hw => absurd hw (by simp))
  | deliver _ m ih =>
    obtain ⟨h1, h2⟩ := ih (fun w hw => hvs w (List.mem_append_left _ hw))
    refine m.held_none h1 h2 (fun w hw => hvs w (List.mem_append_right _ ?_))
    rw [Option.some.inj hw]
    exact List.mem_singleton.mpr rfl

/-- The fold of `raise` over deliveries is the largest of them. -/
theorem foldl_raise_none : ∀ vs : List ν, vs.foldl raise none = vs.max?
  | [] => rfl
  | v :: vs => by
    have go : ∀ (vs : List ν) (u : ν), vs.foldl raise (some u) = some (vs.foldl max u) := by
      intro vs
      induction vs with
      | nil => exact fun _ => rfl
      | cons x vs ih => exact fun u => ih (max u x)
    rw [List.max?_cons']
    exact go vs v

/-! ## Convergence -/

section Converge

variable {μ κ : Type} (ver : μ → ν) (valid : μ → Bool) (content : μ → κ)

/-- A delivery to a feed that judges a message by itself: an older one is
ignored, a newer one replaces what is held, and at the same version only a
valid message with the content held leaves it in place. -/
def converge [DecidableEq κ] (s : Feed ν μ) (m : μ) : Feed ν μ :=
  match s.version with
  | none => ⟨some (ver m), if valid m = true then some m else none⟩
  | some w =>
    if ver m < w then s
    else if ver m = w then
      { s with held := s.held.filter fun h => valid m && decide (content m = content h) }
    else ⟨some (ver m), if valid m = true then some m else none⟩

/-- `t` is the largest version delivered. -/
def Latest (ms : List μ) (t : ν) : Prop := (∃ m ∈ ms, ver m = t) ∧ ∀ m ∈ ms, ver m ≤ t

/-- Every message at the largest version is valid, and all of them agree. -/
def Settled (ms : List μ) : Prop :=
  ∃ t, Latest ver ms t ∧ (∀ m ∈ ms, ver m = t → valid m = true) ∧
    ∀ m ∈ ms, ver m = t → ∀ m' ∈ ms, ver m' = t → content m = content m'

/-- What the deliveries `ms` leave. -/
structure Converged (ms : List μ) (s : Feed ν μ) : Prop where
  start : s.version = none → ms = []
  version : ∀ t, s.version = some t → Latest ver ms t
  held : ∀ h, s.held = some h → h ∈ ms ∧ s.version = some (ver h) ∧
    ∀ m ∈ ms, ver m = ver h → valid m = true ∧ content m = content h
  empty : s.held = none → ¬Settled ver valid content ms

variable {ver valid content}

theorem Latest.unique {ms : List μ} {t u : ν} (ht : Latest ver ms t) (hu : Latest ver ms u) :
    t = u := by
  obtain ⟨⟨m, hm, rfl⟩, htop⟩ := ht
  obtain ⟨⟨k, hk, rfl⟩, hutop⟩ := hu
  exact le_antisymm (hutop m hm) (htop k hk)

/-- A delivery is a move of the feed. -/
theorem converge_moves [DecidableEq κ] (s : Feed ν μ) (m : μ) :
    Moves s (some (ver m)) (converge ver valid content s m) := by
  unfold converge
  split
  next hs =>
    have hnewer : ∀ w, s.version = some w → w < ver m := by
      intro w hw
      rw [hs] at hw
      cases hw
    split
    · exact Moves.adopt m hnewer
    · exact Moves.refuse hnewer
  next w hs =>
    split
    next hlt => exact Moves.stale hs hlt
    next hnlt =>
      split
      next heq =>
        -- the same version: the message is a duplicate or a conflict
        rw [← heq] at hs
        cases hh : s.held with
        | none =>
          have hsame : { s with held := (none : Option μ) } = s := by
            cases s
            cases hh
            rfl
          rw [Option.filter_none, hsame]
          exact Moves.duplicate hs
        | some h =>
          rw [Option.filter_some]
          split
          · have hsame : { s with held := some h } = s := by
              cases s
              cases hh
              rfl
            rw [hsame]
            exact Moves.duplicate hs
          · exact Moves.conflict hs
      next hne =>
        have hnewer : ∀ u, s.version = some u → u < ver m := by
          intro u hu
          rw [hs] at hu
          cases hu
          exact lt_of_le_of_ne (not_lt.mp hnlt) (fun he => hne he.symm)
        split
        · exact Moves.adopt m hnewer
        · exact Moves.refuse hnewer

/-- A valid message newer than the recorded version is held. -/
theorem converge_held_of_newer [DecidableEq κ] {s : Feed ν μ} {m : μ} (hvalid : valid m = true)
    (hnewer : ∀ w, s.version = some w → w < ver m) :
    (converge ver valid content s m).held = some m := by
  unfold converge
  cases hs : s.version with
  | none =>
    show (if valid m = true then some m else none) = some m
    rw [if_pos hvalid]
  | some w =>
    have hlt := hnewer w hs
    dsimp only
    rw [if_neg (not_lt.mpr (le_of_lt hlt)), if_neg (ne_of_gt hlt), if_pos hvalid]

/-- What a delivery leaves held is what was, or the message itself, valid. -/
theorem converge_held [DecidableEq κ] {s : Feed ν μ} {m h : μ}
    (hh : (converge ver valid content s m).held = some h) :
    s.held = some h ∨ h = m ∧ valid m = true := by
  have hfresh : (if valid m = true then some m else none) = some h → h = m ∧ valid m = true := by
    intro hf
    split at hf
    next hvalid => exact ⟨(Option.some.inj hf).symm, hvalid⟩
    next => cases hf
  unfold converge at hh
  split at hh
  · exact Or.inr (hfresh hh)
  · split at hh
    · exact Or.inl hh
    · split at hh
      · exact Or.inl (Option.filter_eq_some_iff.mp hh).1
      · exact Or.inr (hfresh hh)

/-- An invalid message, and one that is not newer, leaves what is held or nothing. -/
theorem converge_not_adopted [DecidableEq κ] {s : Feed ν μ} {m : μ}
    (h : valid m = false ∨ ∃ w, s.version = some w ∧ ver m ≤ w) :
    (converge ver valid content s m).held = s.held ∨
    (converge ver valid content s m).held = none := by
  cases hheld : (converge ver valid content s m).held with
  | none => exact Or.inr rfl
  | some k =>
    left
    rcases converge_held hheld with hk | ⟨rfl, hvalid⟩
    · exact hk.symm
    · obtain ⟨w, hw, hle⟩ := h.resolve_left (by rw [hvalid]; nofun)
      -- it is what was held already, since nothing not newer is adopted
      unfold converge at hheld
      rw [hw] at hheld
      dsimp only at hheld
      split at hheld
      · exact hheld.symm
      · next hnlt =>
        rw [if_pos (le_antisymm hle (not_lt.mp hnlt))] at hheld
        exact (Option.filter_eq_some_iff.mp hheld).1.symm

/-- The largest version stays the largest when a message at it or below it
is delivered. -/
theorem Latest.snoc {ms : List μ} {m : μ} {w : ν} (h : Latest ver ms w) (hm : ver m ≤ w) :
    Latest ver (ms ++ [m]) w := by
  obtain ⟨⟨k, hk, hkw⟩, htop⟩ := h
  refine ⟨⟨k, List.mem_append_left _ hk, hkw⟩, ?_⟩
  intro m' hm'
  rcases List.mem_append.mp hm' with h | h
  · exact htop m' h
  · rw [List.mem_singleton.mp h]
    exact hm

/-- What settles at the same version with one message more was settled without it. -/
theorem Settled.of_snoc {ms : List μ} {m : μ} {w : ν} (hw : Latest ver ms w)
    (hw' : Latest ver (ms ++ [m]) w) (h : Settled ver valid content (ms ++ [m])) :
    Settled ver valid content ms := by
  obtain ⟨t, ht, hvalid, hsame⟩ := h
  cases ht.unique hw'
  refine ⟨w, hw, ?_, ?_⟩
  · exact fun k hk => hvalid k (List.mem_append_left _ hk)
  · intro k hk hkw k' hk'
    exact hsame k (List.mem_append_left _ hk) hkw k' (List.mem_append_left _ hk')

/-- A message newer than all before it decides alone. -/
theorem converged_newer {ms : List μ} {m : μ} (hnewer : ∀ k ∈ ms, ver k < ver m) :
    Converged ver valid content (ms ++ [m])
      ⟨some (ver m), if valid m = true then some m else none⟩ := by
  have hmem : m ∈ ms ++ [m] := List.mem_append_right _ (List.mem_singleton.mpr rfl)
  -- nothing else was delivered at its version
  have honly : ∀ k ∈ ms ++ [m], ver k = ver m → k = m := by
    intro k hk hkm
    rcases List.mem_append.mp hk with h | h
    · exact absurd hkm (ne_of_lt (hnewer k h))
    · exact List.mem_singleton.mp h
  have hlatest : Latest ver (ms ++ [m]) (ver m) := by
    refine ⟨⟨m, hmem, rfl⟩, ?_⟩
    intro k hk
    rcases List.mem_append.mp hk with h | h
    · exact le_of_lt (hnewer k h)
    · rw [List.mem_singleton.mp h]
  constructor
  case start => exact nofun
  case version =>
    intro t ht
    cases ht
    exact hlatest
  case held =>
    intro h hh
    dsimp only at hh ⊢
    split at hh
    next hvalid =>
      cases hh
      refine ⟨hmem, rfl, ?_⟩
      intro k hk hkm
      rw [honly k hk hkm]
      exact ⟨hvalid, rfl⟩
    next => cases hh
  case empty =>
    intro hh
    dsimp only at hh
    split at hh
    next => cases hh
    next hinvalid =>
      rintro ⟨t, ht, hvalid, -⟩
      cases ht.unique hlatest
      exact hinvalid (hvalid m hmem rfl)

/-- **One delivery**: the feed goes on summing up what was delivered. -/
theorem converged_step [DecidableEq κ] {ms : List μ} {s : Feed ν μ}
    (h : Converged ver valid content ms s) (m : μ) :
    Converged ver valid content (ms ++ [m]) (converge ver valid content s m) := by
  have hmem : m ∈ ms ++ [m] := List.mem_append_right _ (List.mem_singleton.mpr rfl)
  unfold converge
  split
  next hs =>
    refine converged_newer ?_
    intro k hk
    rw [h.start hs] at hk
    exact absurd hk List.not_mem_nil
  next w hs =>
    have hlatest := h.version w hs
    have hstarted : s.version = none → ms ++ [m] = [] :=
      fun hn => absurd (hs.symm.trans hn) nofun
    -- the version stays the greatest one delivered
    have hversion : ver m ≤ w → ∀ t, s.version = some t → Latest ver (ms ++ [m]) t := by
      intro hle t ht
      cases hs.symm.trans ht
      exact hlatest.snoc hle
    split
    next hlt =>
      -- too old to be looked at
      have hlatest' := hlatest.snoc (le_of_lt hlt)
      constructor
      case start => exact hstarted
      case version => exact hversion (le_of_lt hlt)
      case held =>
        intro k hk
        obtain ⟨hin, hver, hall⟩ := h.held k hk
        refine ⟨List.mem_append_left _ hin, hver, ?_⟩
        intro m' hm' hm'k
        rcases List.mem_append.mp hm' with h' | h'
        · exact hall m' h' hm'k
        · cases hs.symm.trans hver
          rw [List.mem_singleton.mp h'] at hm'k
          exact absurd hm'k (ne_of_lt hlt)
      case empty => exact fun hn hsettled => h.empty hn (hsettled.of_snoc hlatest hlatest')
    next hnlt =>
      split
      next heq =>
        have hlatest' := hlatest.snoc (le_of_eq heq)
        constructor
        case start => exact hstarted
        case version => exact hversion (le_of_eq heq)
        case held =>
          intro k hk
          obtain ⟨hk, hkeep⟩ := Option.filter_eq_some_iff.mp hk
          rw [Bool.and_eq_true, decide_eq_true_eq] at hkeep
          obtain ⟨hin, hver, hall⟩ := h.held k hk
          refine ⟨List.mem_append_left _ hin, hver, ?_⟩
          intro m' hm' hm'k
          rcases List.mem_append.mp hm' with h' | h'
          · exact hall m' h' hm'k
          · rw [List.mem_singleton.mp h']
            exact hkeep
        case empty =>
          intro hn hsettled
          cases hheld : s.held with
          | none => exact h.empty hheld (hsettled.of_snoc hlatest hlatest')
          | some k =>
            -- the held message and the new one are both at the largest version
            obtain ⟨hin, hver, -⟩ := h.held k hheld
            cases hs.symm.trans hver
            obtain ⟨t, ht, hvalid, hsame⟩ := hsettled
            cases ht.unique hlatest'
            have hkeep := hsame m hmem heq k (List.mem_append_left _ hin) rfl
            dsimp only at hn
            rw [hheld, Option.filter_some, hvalid m hmem heq, hkeep] at hn
            simp at hn
      next hne =>
        refine converged_newer ?_
        intro k hk
        exact lt_of_le_of_lt (hlatest.2 k hk) (lt_of_le_of_ne (not_lt.mp hnlt) (Ne.symm hne))

/-- **What a run leaves.** -/
theorem converged [DecidableEq κ] (ms : List μ) :
    Converged ver valid content ms (run (converge ver valid content) ⟨none, none⟩ ms) := by
  have hstep : ∀ (done : List μ) (s : Feed ν μ) (m : μ), Converged ver valid content done s →
      Converged ver valid content (done ++ [m]) (converge ver valid content s m) :=
    fun _ _ m h => converged_step h m
  refine run_history hstep ms [] ?_
  exact { start := fun _ => rfl, version := nofun, held := nofun,
          empty := fun _ ⟨_, ⟨⟨_, hm, _⟩, _⟩, _⟩ => absurd hm List.not_mem_nil }

theorem converge_run [DecidableEq κ] (ms : List μ) (s : Feed ν μ) :
    Run s (ms.map ver) (run (converge ver valid content) s ms) := by
  have hstep : ∀ (done : List μ) (t : Feed ν μ) (m : μ), Run s (done.map ver) t →
      Run s ((done ++ [m]).map ver) (converge ver valid content t m) := by
    intro done t m h
    rw [List.map_append]
    exact h.deliver (converge_moves t m)
  exact run_history hstep ms [] (Run.nil s)

/-- **Poison lasts**: deliveries that are not newer bring nothing back. -/
theorem converge_poisoned [DecidableEq κ] {s : Feed ν μ} {v : ν} (hv : s.version = some v)
    (hs : s.held = none) {ms : List μ} (hms : ∀ m ∈ ms, ver m ≤ v) :
    (run (converge ver valid content) s ms).held = none := by
  refine ((converge_run ms s).poisoned hv hs ?_).2
  intro w hw
  obtain ⟨m, hm, rfl⟩ := List.mem_map.mp hw
  exact hms m hm

section Final

variable {ms ms' : List μ} {s s' : Feed ν μ}

/-- The version is the largest one delivered. -/
theorem Converged.version_iff (h : Converged ver valid content ms s) (t : ν) :
    s.version = some t ↔ Latest ver ms t := by
  constructor
  · exact h.version t
  · intro ht
    cases hs : s.version with
    | none =>
      obtain ⟨⟨m, hm, -⟩, -⟩ := ht
      rw [h.start hs] at hm
      exact absurd hm List.not_mem_nil
    | some w => rw [(h.version w hs).unique ht]

/-- **Something is held exactly when the largest version is settled.** -/
theorem Converged.held_isSome_iff (h : Converged ver valid content ms s) :
    s.held.isSome = true ↔ Settled ver valid content ms := by
  constructor
  · intro hh
    obtain ⟨k, hk⟩ := Option.isSome_iff_exists.mp hh
    obtain ⟨-, hver, hall⟩ := h.held k hk
    refine ⟨ver k, h.version _ hver, fun m hm hmk => (hall m hm hmk).1, ?_⟩
    intro m hm hmk m' hm' hmk'
    rw [(hall m hm hmk).2, (hall m' hm' hmk').2]
  · intro hsettled
    cases hh : s.held with
    | none => exact absurd hsettled (h.empty hh)
    | some k => rfl

/-- Where the content tells two messages apart, what is held is the message at
the largest version that every other one there agrees with. -/
theorem Converged.held_iff (h : Converged ver valid content ms s)
    (hinj : ∀ m ∈ ms, ∀ m' ∈ ms, content m = content m' → m = m') (m : μ) :
    s.held = some m ↔ m ∈ ms ∧ (∀ m' ∈ ms, ver m' ≤ ver m) ∧
      ∀ m' ∈ ms, ver m' = ver m → valid m' = true ∧ content m' = content m := by
  constructor
  · intro hm
    obtain ⟨hin, hver, hall⟩ := h.held m hm
    exact ⟨hin, (h.version _ hver).2, hall⟩
  · rintro ⟨hin, htop, hall⟩
    have hsettled : Settled ver valid content ms := by
      refine ⟨ver m, ⟨⟨m, hin, rfl⟩, htop⟩, fun k hk hkm => (hall k hk hkm).1, ?_⟩
      intro k hk hkm k' hk' hkm'
      rw [(hall k hk hkm).2, (hall k' hk' hkm').2]
    obtain ⟨k, hk⟩ := Option.isSome_iff_exists.mp (h.held_isSome_iff.mpr hsettled)
    obtain ⟨hkin, hkver, -⟩ := h.held k hk
    have hsame : ver k = ver m := (h.version _ hkver).unique ⟨⟨m, hin, rfl⟩, htop⟩
    rw [hk, hinj k hkin m hin (hall k hkin hsame).2]

/-- **Order and repetition do not matter.** -/
theorem Converged.congr (h : Converged ver valid content ms s)
    (h' : Converged ver valid content ms' s') (hset : ∀ m, m ∈ ms ↔ m ∈ ms') :
    s.version = s'.version ∧ s.held.map content = s'.held.map content := by
  have hlatest : ∀ t, Latest ver ms t ↔ Latest ver ms' t := by
    intro t
    simp only [Latest, hset]
  have hversion : s.version = s'.version := by
    apply Option.ext
    intro t
    rw [h.version_iff, h'.version_iff, hlatest]
  refine ⟨hversion, ?_⟩
  have hsettled : Settled ver valid content ms ↔ Settled ver valid content ms' := by
    simp only [Settled, hset, hlatest]
  -- both hold something or neither does, and then of the same content
  have hsome := (h.held_isSome_iff.trans hsettled).trans h'.held_isSome_iff.symm
  cases hk : s.held with
  | none =>
    cases hk' : s'.held with
    | none => rfl
    | some k' =>
      rw [hk, hk'] at hsome
      exact absurd (hsome.mpr rfl) nofun
  | some k =>
    cases hk' : s'.held with
    | none =>
      rw [hk, hk'] at hsome
      exact absurd (hsome.mp rfl) nofun
    | some k' =>
      obtain ⟨hin, hver, -⟩ := h.held k hk
      obtain ⟨-, hver', hall'⟩ := h'.held k' hk'
      rw [hversion, hver'] at hver
      exact congrArg some (hall' k ((hset k).mp hin) (Option.some.inj hver).symm).2

end Final

/-! A consumer that simulates a converging feed converges as it does. -/

section Consumer

variable [DecidableEq κ] {σ : Type} {step : σ → μ → σ} {view : σ → Feed ν μ} {Inv : σ → Prop}
  {Allowed : μ → Prop} (h : Simulates step (converge ver valid content) view Inv Allowed)

include h

/-- What deliveries to a consumer that has received nothing leave. -/
theorem converged_of_simulates {s : σ} (hs : Inv s) (hstart : view s = ⟨none, none⟩) {ms : List μ}
    (hms : ∀ m ∈ ms, Allowed m) : Converged ver valid content ms (view (PyLib.run step s ms)) := by
  rw [h.run ms hs hms, hstart]
  exact converged ms

/-- A consumer that holds nothing comes to hold nothing from what is not newer. -/
theorem poisoned_of_simulates {s : σ} {v : ν} (hs : Inv s) (hv : (view s).version = some v)
    (hnone : (view s).held = none) {ms : List μ} (hms : ∀ m ∈ ms, Allowed m ∧ ver m ≤ v) :
    (view (PyLib.run step s ms)).held = none := by
  rw [h.run ms hs fun m hm => (hms m hm).1]
  exact converge_poisoned hv hnone fun m hm => (hms m hm).2

end Consumer

end Converge

end Feed

end PyLib
