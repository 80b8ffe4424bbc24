/-!
# Insertion-ordered dictionaries with bounded retention

Python's `dict` and `collections.OrderedDict` remember the order in which
their keys were first written, and a bounded cache built on one evicts from
the old end. `OrderedDict κ ν` is that value: the items in order, with the
distinctness of the keys as a field, so that no operation below can build a
dictionary that holds one key twice.

The second half is the eviction loop such a cache runs: while the dictionary
is over its bound, drop the first key that is not *retained*, and stop when
every key is. `trim` is the loop itself; `trim_items` says what it computes
(the first `size - bound` unretained items go), and the lemmas after it are
the facts a client needs: what survives, what an eviction tells about the
dictionary before it, how large the result can be, and how many newer keys one
that is not retained can have beside it (`Behind.trim`).
-/

namespace PyLib

variable {κ ν : Type}

/-- A `dict`: its items in insertion order, no key twice. -/
structure OrderedDict (κ ν : Type) where
  items : List (κ × ν)
  nodup : (items.map Prod.fst).Nodup

namespace OrderedDict

/-- The keys, oldest first. -/
def keys (m : OrderedDict κ ν) : List κ := m.items.map Prod.fst

/-- The values, in the order of their keys. -/
def values (m : OrderedDict κ ν) : List ν := m.items.map Prod.snd

/-- `len(m)`. -/
def size (m : OrderedDict κ ν) : Nat := m.items.length

/-- `{}`. -/
def empty : OrderedDict κ ν := ⟨[], List.nodup_nil⟩

/-- `m` without the keys `drop` holds of. -/
def removeAll (m : OrderedDict κ ν) (drop : κ → Bool) : OrderedDict κ ν :=
  ⟨m.items.filter fun p => !drop p.1, m.nodup.sublist (List.filter_sublist.map Prod.fst)⟩

theorem mem_items_removeAll {m : OrderedDict κ ν} {drop : κ → Bool} {p : κ × ν} :
    p ∈ (m.removeAll drop).items ↔ p ∈ m.items ∧ drop p.1 = false := by
  simp [removeAll]

variable [DecidableEq κ]

/-! ## Lookup -/

/-- The value a list of items holds under `k`. -/
def find (k : κ) : List (κ × ν) → Option ν
  | [] => none
  | (k', v) :: rest => if k' = k then some v else find k rest

/-- `m.get(k)`. -/
def get? (m : OrderedDict κ ν) (k : κ) : Option ν := find k m.items

/-- `k in m`. -/
def contains (m : OrderedDict κ ν) (k : κ) : Bool := (m.get? k).isSome

theorem find_isSome {k : κ} : ∀ {l : List (κ × ν)}, (find k l).isSome ↔ k ∈ l.map Prod.fst
  | [] => by simp [find]
  | (k', v) :: rest => by
    rw [find, List.map_cons, List.mem_cons]
    by_cases h : k' = k
    · simp [h]
    · rw [if_neg h, find_isSome (l := rest)]
      constructor
      · exact Or.inr
      · rintro (he | hm)
        · exact absurd he.symm h
        · exact hm

theorem find_mem {k : κ} {v : ν} : ∀ {l : List (κ × ν)}, find k l = some v → (k, v) ∈ l
  | [], h => by simp [find] at h
  | (k', w) :: rest, h => by
    rw [find] at h
    split at h
    next he =>
      cases h
      rw [← he]
      exact List.mem_cons_self ..
    next => exact List.mem_cons_of_mem _ (find_mem h)

/-- With distinct keys an item of the list is what lookup finds. -/
theorem find_of_mem {k : κ} {v : ν} :
    ∀ {l : List (κ × ν)}, (l.map Prod.fst).Nodup → (k, v) ∈ l → find k l = some v
  | [], _, h => absurd h (by simp)
  | (k', w) :: rest, hn, h => by
    rw [List.map_cons, List.nodup_cons] at hn
    rw [find]
    rcases List.mem_cons.mp h with he | hm
    · cases he
      rw [if_pos rfl]
    · have hk : k ∈ rest.map Prod.fst := List.mem_map.mpr ⟨(k, v), hm, rfl⟩
      have hne : k' ≠ k := by
        rintro rfl
        exact hn.1 hk
      rw [if_neg hne]
      exact find_of_mem hn.2 hm

/-- With distinct keys the order of the items does not matter to lookup. -/
theorem find_perm {k : κ} {l l' : List (κ × ν)} (hn : (l.map Prod.fst).Nodup) (h : l.Perm l') :
    find k l = find k l' := by
  have hn' : (l'.map Prod.fst).Nodup := ((h.map Prod.fst).nodup_iff).mp hn
  apply Option.ext
  intro v
  constructor
  · intro hv
    exact find_of_mem hn' (h.mem_iff.mp (find_mem hv))
  · intro hv
    exact find_of_mem hn (h.mem_iff.mpr (find_mem hv))

/-- `next((v for k', v in pairs if k' == k), None)` is lookup. -/
theorem lookup_eq_find [BEq κ] [LawfulBEq κ] {k : κ} : ∀ l : List (κ × ν), l.lookup k = find k l
  | [] => rfl
  | (k', v) :: l => by
    rw [List.lookup_cons, find]
    by_cases h : k' = k
    · rw [if_pos h, h, beq_self_eq_true]
    · rw [if_neg h, beq_false_of_ne (Ne.symm h)]
      exact lookup_eq_find l

theorem get?_eq_some {m : OrderedDict κ ν} {k : κ} {v : ν} :
    m.get? k = some v ↔ (k, v) ∈ m.items :=
  ⟨find_mem, find_of_mem m.nodup⟩

theorem get?_isSome {m : OrderedDict κ ν} {k : κ} : (m.get? k).isSome ↔ k ∈ m.keys :=
  find_isSome

theorem get?_eq_none {m : OrderedDict κ ν} {k : κ} : m.get? k = none ↔ k ∉ m.keys := by
  rw [← get?_isSome]
  cases m.get? k <;> simp

theorem contains_iff {m : OrderedDict κ ν} {k : κ} : m.contains k = true ↔ k ∈ m.keys :=
  get?_isSome

theorem mem_values {m : OrderedDict κ ν} {v : ν} : v ∈ m.values ↔ ∃ k, m.get? k = some v := by
  rw [values, List.mem_map]
  constructor
  · rintro ⟨⟨k, w⟩, hm, rfl⟩
    exact ⟨k, get?_eq_some.mpr hm⟩
  · rintro ⟨k, hk⟩
    exact ⟨(k, v), get?_eq_some.mp hk, rfl⟩

@[simp] theorem get?_empty (k : κ) : (empty : OrderedDict κ ν).get? k = none := rfl

/-! ## `m[k] = v` -/

/-- Write `v` under `k`: in place when `k` is held, at the end when it is new. -/
def setItems (k : κ) (v : ν) : List (κ × ν) → List (κ × ν)
  | [] => [(k, v)]
  | (k', w) :: rest => if k' = k then (k, v) :: rest else (k', w) :: setItems k v rest

/-- A write keeps the keys when `k` is held and appends it otherwise. -/
theorem setItems_keys (k : κ) (v : ν) : ∀ l : List (κ × ν),
    (setItems k v l).map Prod.fst
      = if k ∈ l.map Prod.fst then l.map Prod.fst else l.map Prod.fst ++ [k]
  | [] => rfl
  | (k', w) :: rest => by
    rw [setItems]
    by_cases h : k' = k
    · simp [h]
    · rw [if_neg h, List.map_cons, setItems_keys k v rest]
      by_cases hm : k ∈ rest.map Prod.fst
      · simp only [List.map_cons, List.mem_cons, if_pos hm, if_pos (Or.inr hm)]
      · have hm' : ¬(k = k' ∨ k ∈ rest.map Prod.fst) := by
          rintro (he | hr)
          · exact h he.symm
          · exact hm hr
        simp only [List.map_cons, List.mem_cons, if_neg hm, if_neg hm', List.cons_append]

theorem setItems_nodup (k : κ) (v : ν) {l : List (κ × ν)} (h : (l.map Prod.fst).Nodup) :
    ((setItems k v l).map Prod.fst).Nodup := by
  rw [setItems_keys]
  split
  next => exact h
  next hm =>
    rw [List.nodup_append]
    refine ⟨h, by simp, ?_⟩
    intro a ha b hb he
    rw [List.mem_singleton] at hb
    exact hm (hb ▸ he ▸ ha)

/-- `m[k] = v`. -/
def set (m : OrderedDict κ ν) (k : κ) (v : ν) : OrderedDict κ ν :=
  ⟨setItems k v m.items, setItems_nodup k v m.nodup⟩

theorem find_setItems (k : κ) (v : ν) (k' : κ) : ∀ l : List (κ × ν),
    find k' (setItems k v l) = if k = k' then some v else find k' l
  | [] => rfl
  | (j, w) :: rest => by
    rw [setItems]
    by_cases h : j = k
    · subst h
      rw [if_pos rfl, find, find]
      split <;> rfl
    · rw [if_neg h, find, find, find_setItems k v k' rest]
      by_cases hj : j = k'
      · rw [if_pos hj, if_pos hj, if_neg (fun he => h (hj.trans he.symm))]
      · rw [if_neg hj, if_neg hj]

theorem get?_set (m : OrderedDict κ ν) (k : κ) (v : ν) (k' : κ) :
    (m.set k v).get? k' = if k = k' then some v else m.get? k' :=
  find_setItems k v k' m.items

@[simp] theorem get?_set_self (m : OrderedDict κ ν) (k : κ) (v : ν) :
    (m.set k v).get? k = some v := by
  rw [get?_set, if_pos rfl]

theorem get?_set_ne (m : OrderedDict κ ν) {k k' : κ} (v : ν) (h : k ≠ k') :
    (m.set k v).get? k' = m.get? k' := by
  rw [get?_set, if_neg h]

/-- Writing a new key appends its item. -/
theorem set_items_of_new {m : OrderedDict κ ν} {k : κ} {v : ν} (h : k ∉ m.keys) :
    (m.set k v).items = m.items ++ [(k, v)] := by
  have go : ∀ l : List (κ × ν), k ∉ l.map Prod.fst → setItems k v l = l ++ [(k, v)] := by
    intro l
    induction l with
    | nil => intro _; rfl
    | cons p l ih =>
      intro hk
      rw [List.map_cons, List.mem_cons, not_or] at hk
      rw [setItems, if_neg (fun he => hk.1 he.symm), ih hk.2]
      rfl
  exact go m.items h

theorem size_set_new {m : OrderedDict κ ν} {k : κ} {v : ν} (h : k ∉ m.keys) :
    (m.set k v).size = m.size + 1 := by
  rw [size, set_items_of_new h, List.length_append]
  rfl

/-- Writing new keys one after another appends their items. -/
theorem foldl_set_items : ∀ (pairs : List (κ × ν)) (m : OrderedDict κ ν),
    (m.keys ++ pairs.map Prod.fst).Nodup →
    (pairs.foldl (fun m p => m.set p.1 p.2) m).items = m.items ++ pairs
  | [], m, _ => (List.append_nil _).symm
  | p :: pairs, m, h => by
    have hnew : p.1 ∉ m.keys := by
      intro hm
      exact (List.nodup_append.mp h).2.2 p.1 hm p.1 List.mem_cons_self rfl
    have hitems := set_items_of_new (v := p.2) hnew
    have hkeys : (m.set p.1 p.2).keys = m.keys ++ [p.1] := by
      rw [keys, hitems, List.map_append]
      rfl
    have hrest : ((m.set p.1 p.2).keys ++ pairs.map Prod.fst).Nodup := by
      rw [hkeys, List.append_assoc]
      exact h
    rw [List.foldl_cons, foldl_set_items pairs _ hrest, hitems, List.append_assoc]
    rfl

/-- Every value replaced, in place. -/
def mapValues (m : OrderedDict κ ν) (f : κ → ν → ν) : OrderedDict κ ν :=
  ⟨m.items.map fun p => (p.1, f p.1 p.2), by
    rw [List.map_map]
    exact m.nodup⟩

theorem find_map (f : κ → ν → ν) (k : κ) : ∀ l : List (κ × ν),
    find k (l.map fun p => (p.1, f p.1 p.2)) = (find k l).map (f k)
  | [] => rfl
  | (j, w) :: rest => by
    rw [List.map_cons, find, find]
    by_cases h : j = k
    · rw [if_pos h, if_pos h, h]
      rfl
    · rw [if_neg h, if_neg h]
      exact find_map f k rest

theorem get?_mapValues (m : OrderedDict κ ν) (f : κ → ν → ν) (k : κ) :
    (m.mapValues f).get? k = (m.get? k).map (f k) :=
  find_map f k m.items

/-! ## `m.pop(k)` and `m.move_to_end(k)` -/

/-- `m.pop(k, None)`. -/
def pop (m : OrderedDict κ ν) (k : κ) : OrderedDict κ ν := m.removeAll fun k' => k' = k

theorem get?_removeAll {m : OrderedDict κ ν} {drop : κ → Bool} {k : κ} {v : ν} :
    (m.removeAll drop).get? k = some v ↔ m.get? k = some v ∧ drop k = false := by
  rw [get?_eq_some, get?_eq_some, mem_items_removeAll]

@[simp] theorem get?_pop_self (m : OrderedDict κ ν) (k : κ) : (m.pop k).get? k = none := by
  rw [get?_eq_none]
  intro hk
  obtain ⟨v, hv⟩ := Option.isSome_iff_exists.mp (get?_isSome.mpr hk)
  have hkept := (get?_removeAll.mp hv).2
  simp at hkept

theorem get?_pop_ne (m : OrderedDict κ ν) {k k' : κ} (h : k ≠ k') :
    (m.pop k).get? k' = m.get? k' := by
  apply Option.ext
  intro v
  rw [pop, get?_removeAll, decide_eq_false (fun he => h he.symm)]
  simp

/-- `m.move_to_end(k)`: the held item becomes the newest. -/
def moveToEnd (m : OrderedDict κ ν) (k : κ) : OrderedDict κ ν :=
  match m.get? k with
  | none => m
  | some v => (m.pop k).set k v

/-- Moving a key to the end changes no lookup. -/
theorem get?_moveToEnd (m : OrderedDict κ ν) (k k' : κ) :
    (m.moveToEnd k).get? k' = m.get? k' := by
  rw [moveToEnd]
  split
  next => rfl
  next v hv =>
    rw [get?_set]
    split
    next he => rw [← he, hv]
    next hne => exact get?_pop_ne m hne

/-! ## The eviction loop -/

/-- The loop `while len(m) > bound: drop the first key not retained`, which
stops early when every key is retained. Each pass drops one key, so
`m.size` passes are enough. -/
def trimLoop (retained : κ → Bool) (bound : Nat) : Nat → OrderedDict κ ν → OrderedDict κ ν
  | 0, m => m
  | fuel + 1, m =>
    if bound < m.size then
      match m.keys.find? fun k => !retained k with
      | none => m
      | some k => trimLoop retained bound fuel (m.pop k)
    else m

/-- The eviction loop run to its end. -/
def trim (retained : κ → Bool) (bound : Nat) (m : OrderedDict κ ν) : OrderedDict κ ν :=
  trimLoop retained bound m.size m

/-- `n` times: drop the first element `p` holds of. -/
def dropFirst {α : Type} (p : α → Bool) : Nat → List α → List α
  | 0, l => l
  | n + 1, l => dropFirst p n (l.eraseP p)

theorem dropFirst_of_all_not {α : Type} {p : α → Bool} :
    ∀ (n : Nat) {l : List α}, (∀ x ∈ l, p x = false) → dropFirst p n l = l
  | 0, _, _ => rfl
  | n + 1, l, h => by
    rw [dropFirst, List.eraseP_of_forall_not (fun x hx => by rw [h x hx]; exact Bool.false_ne_true)]
    exact dropFirst_of_all_not n h

theorem dropFirst_sublist {α : Type} (p : α → Bool) :
    ∀ (n : Nat) (l : List α), (dropFirst p n l).Sublist l
  | 0, l => List.Sublist.refl l
  | n + 1, l => (dropFirst_sublist p n (l.eraseP p)).trans List.eraseP_sublist

/-- What `p` does not hold of is never dropped. -/
theorem mem_dropFirst_of_not {α : Type} {p : α → Bool} {x : α} (hx : p x = false) :
    ∀ (n : Nat) {l : List α}, x ∈ l → x ∈ dropFirst p n l
  | 0, _, h => h
  | n + 1, l, h =>
    mem_dropFirst_of_not hx n
      ((List.mem_eraseP_of_neg (by rw [hx]; exact Bool.false_ne_true)).mpr h)

theorem countP_eraseP {α : Type} {p : α → Bool} {x : α} {l : List α} (hx : x ∈ l)
    (hp : p x = true) : (l.eraseP p).countP p + 1 = l.countP p := by
  obtain ⟨y, l₁, l₂, hl₁, hy, hl, he⟩ := List.exists_of_eraseP hx hp
  rw [he, hl, List.countP_append, List.countP_append, List.countP_cons_of_pos hy,
    List.countP_eq_zero.mpr hl₁]
  omega

/-- Once the quota covers every element `p` holds of, none is left. -/
theorem not_of_mem_dropFirst {α : Type} {p : α → Bool} {x : α} :
    ∀ (n : Nat) {l : List α}, l.countP p ≤ n → x ∈ dropFirst p n l → p x = false
  | 0, l, hn, hx => by
    have := List.countP_eq_zero.mp (Nat.le_zero.mp hn) x hx
    simpa using this
  | n + 1, l, hn, hx => by
    by_cases h : ∃ y ∈ l, p y = true
    · obtain ⟨y, hy, hp⟩ := h
      have := countP_eraseP hy hp
      exact not_of_mem_dropFirst n (by omega) hx
    · have hall : ∀ y ∈ l, p y = false := fun y hy => by
        cases hp : p y with
        | false => rfl
        | true => exact absurd ⟨y, hy, hp⟩ h
      rw [dropFirst_of_all_not _ hall] at hx
      exact hall x hx

theorem length_dropFirst {α : Type} (p : α → Bool) :
    ∀ (n : Nat) (l : List α), (dropFirst p n l).length = l.length - min n (l.countP p)
  | 0, l => by simp [dropFirst]
  | n + 1, l => by
    rw [dropFirst, length_dropFirst p n]
    by_cases h : ∃ x ∈ l, p x = true
    · obtain ⟨x, hx, hp⟩ := h
      have hcount := countP_eraseP hx hp
      rw [List.length_eraseP_of_mem hx hp]
      omega
    · have hall : ∀ x ∈ l, ¬p x = true := fun x hx hp => h ⟨x, hx, hp⟩
      rw [List.eraseP_of_forall_not hall, List.countP_eq_zero.mpr hall]
      omega

/-- What the front of a list cannot give, the quota takes from the rest. -/
theorem dropFirst_append {α : Type} {p : α → Bool} :
    ∀ (n : Nat) (l₁ l₂ : List α),
      dropFirst p n (l₁ ++ l₂) = dropFirst p n l₁ ++ dropFirst p (n - l₁.countP p) l₂
  | 0, l₁, l₂ => by rw [Nat.zero_sub]; rfl
  | n + 1, l₁, l₂ => by
    rw [dropFirst]
    by_cases h : ∃ x ∈ l₁, p x = true
    · obtain ⟨x, hx, hp⟩ := h
      have hcount := countP_eraseP hx hp
      rw [List.eraseP_append_left hp _ hx, dropFirst_append n,
        show n - (l₁.eraseP p).countP p = n + 1 - l₁.countP p from by omega, dropFirst]
    · have hall : ∀ x ∈ l₁, ¬p x = true := fun x hx hp => h ⟨x, hx, hp⟩
      have hnone : ∀ x ∈ l₁, p x = false := fun x hx => by simpa using hall x hx
      rw [List.eraseP_append_right _ hall, dropFirst_append n, List.countP_eq_zero.mpr hall,
        dropFirst_of_all_not n hnone, dropFirst_of_all_not (n + 1) hnone]
      rfl

/-- An element `p` holds of survives when the elements before it fill the quota. -/
theorem mem_dropFirst_mid {α : Type} {p : α → Bool} {x : α} (hx : p x = true) {n : Nat}
    {l₁ l₂ : List α} (h₁ : x ∉ l₁) (h₂ : x ∉ l₂) :
    x ∈ dropFirst p n (l₁ ++ x :: l₂) ↔ n ≤ l₁.countP p := by
  rw [dropFirst_append, List.mem_append]
  cases hq : n - l₁.countP p with
  | zero =>
    have hle : n ≤ l₁.countP p := by omega
    simp only [hle, iff_true]
    exact Or.inr List.mem_cons_self
  | succ m =>
    have hlt : ¬n ≤ l₁.countP p := by omega
    simp only [hlt, iff_false, not_or]
    refine ⟨fun h => h₁ ((dropFirst_sublist p n l₁).subset h), fun h => h₂ ?_⟩
    rw [dropFirst, List.eraseP_cons_of_pos hx] at h
    exact (dropFirst_sublist p m l₂).subset h

/-- Popping the first key that is not retained drops the first such item. -/
theorem pop_items_of_find {retained : κ → Bool} {m : OrderedDict κ ν} {k : κ}
    (h : (m.keys.find? fun j => !retained j) = some k) :
    (m.pop k).items = m.items.eraseP fun p => !retained p.1 := by
  have go : ∀ l : List (κ × ν), (l.map Prod.fst).Nodup →
      (l.map Prod.fst).find? (fun j => !retained j) = some k →
      l.filter (fun p => !decide (p.1 = k)) = l.eraseP fun p => !retained p.1 := by
    intro l
    induction l with
    | nil => intro _ hf; simp at hf
    | cons q l ih =>
      intro hn hf
      rw [List.map_cons, List.nodup_cons] at hn
      rw [List.map_cons, List.find?_cons] at hf
      cases hr : retained q.1 with
      | false =>
        rw [hr] at hf
        cases hf
        have hall : ∀ p ∈ l, (!decide (p.1 = q.1)) = true := by
          intro p hp
          have hne : p.1 ≠ q.1 := fun he => hn.1 (he ▸ List.mem_map.mpr ⟨p, hp, rfl⟩)
          simp [hne]
        rw [List.eraseP_cons_of_pos (by simp [hr]), List.filter_cons_of_neg (by simp),
          List.filter_eq_self.mpr hall]
      | true =>
        rw [hr] at hf
        have hk : k ∈ l.map Prod.fst := List.mem_of_find?_eq_some hf
        have hne : q.1 ≠ k := fun he => hn.1 (he ▸ hk)
        rw [List.eraseP_cons_of_neg (by simp [hr]), List.filter_cons_of_pos (by simp [hne]),
          ih hn.2 hf]
  exact go m.items m.nodup h

/-- **What the eviction loop computes**: the first `size - bound` items that
are not retained go, everything else stays in order. -/
theorem trim_items (retained : κ → Bool) (bound : Nat) (m : OrderedDict κ ν) :
    (trim retained bound m).items
      = dropFirst (fun p => !retained p.1) (m.size - bound) m.items := by
  have go : ∀ (fuel : Nat) (m : OrderedDict κ ν), m.size - bound ≤ fuel →
      (trimLoop retained bound fuel m).items
        = dropFirst (fun p => !retained p.1) (m.size - bound) m.items := by
    intro fuel
    induction fuel with
    | zero =>
      intro m hm
      rw [show m.size - bound = 0 from by omega]
      rfl
    | succ fuel ih =>
      intro m hm
      rw [trimLoop]
      split
      next hlt =>
        split
        next hf =>
          rw [dropFirst_of_all_not]
          intro p hp
          have := List.find?_eq_none.mp hf p.1 (List.mem_map.mpr ⟨p, hp, rfl⟩)
          simpa using this
        next k hf =>
          have hpop := pop_items_of_find hf
          obtain ⟨p, hp, hpk⟩ := List.mem_map.mp (List.mem_of_find?_eq_some hf)
          have hunret : (!retained p.1) = true := by
            have := List.find?_some hf
            rw [hpk]
            exact this
          have hsz : (m.pop k).size = m.size - 1 := by
            rw [size, hpop, List.length_eraseP_of_mem hp hunret]
            rfl
          rw [ih (m.pop k) (by omega), hpop, hsz,
            show m.size - bound = (m.size - 1 - bound) + 1 from by omega, dropFirst]
      next hge =>
        rw [show m.size - bound = 0 from by omega]
        rfl
  exact go m.size m (Nat.sub_le _ _)

/-- Eviction adds and changes nothing. -/
theorem get?_of_trim {retained : κ → Bool} {bound : Nat} {m : OrderedDict κ ν} {k : κ} {v : ν}
    (h : (trim retained bound m).get? k = some v) : m.get? k = some v := by
  rw [get?_eq_some] at h ⊢
  rw [trim_items] at h
  exact (dropFirst_sublist _ _ _).subset h

/-- A retained key keeps its value. -/
theorem get?_trim_of_retained {retained : κ → Bool} {bound : Nat} {m : OrderedDict κ ν} {k : κ}
    {v : ν} (hr : retained k = true) (h : m.get? k = some v) :
    (trim retained bound m).get? k = some v := by
  rw [get?_eq_some] at h ⊢
  rw [trim_items]
  exact mem_dropFirst_of_not (by simp [hr]) _ h

/-- A dictionary within its bound is left alone. -/
theorem trim_of_le {retained : κ → Bool} {bound : Nat} {m : OrderedDict κ ν} (h : m.size ≤ bound) :
    (trim retained bound m).items = m.items := by
  rw [trim_items, show m.size - bound = 0 from by omega]
  rfl

/-- **What an eviction tells**: the key was not retained and the dictionary
was over its bound. -/
theorem evicted {retained : κ → Bool} {bound : Nat} {m : OrderedDict κ ν} {k : κ}
    (hk : k ∈ m.keys) (h : k ∉ (trim retained bound m).keys) :
    retained k = false ∧ bound < m.size := by
  constructor
  · cases hr : retained k with
    | false => rfl
    | true =>
      obtain ⟨v, hv⟩ := Option.isSome_iff_exists.mp (get?_isSome.mpr hk)
      exact absurd (get?_isSome.mp (by rw [get?_trim_of_retained hr hv]; rfl)) h
  · apply Nat.lt_of_not_le
    intro hle
    rw [keys, trim_of_le hle] at h
    exact h hk

/-- **When a new key survives its own eviction loop**: it is retained, or the
older unretained keys are enough to bring the dictionary back to its bound. -/
theorem mem_trim_set_new {retained : κ → Bool} {bound : Nat} {m : OrderedDict κ ν} {k : κ} {v : ν}
    (hk : k ∉ m.keys) :
    (trim retained bound (m.set k v)).get? k = some v
      ↔ retained k = true ∨ m.size + 1 ≤ bound + m.keys.countP fun j => !retained j := by
  cases hr : retained k with
  | true =>
    simp only [true_or, iff_true]
    exact get?_trim_of_retained hr (get?_set_self m k v)
  | false =>
    have hnew : (k, v) ∉ m.items := fun hm => hk (List.mem_map.mpr ⟨(k, v), hm, rfl⟩)
    rw [get?_eq_some, trim_items, size_set_new hk, set_items_of_new hk,
      mem_dropFirst_mid (by simp [hr]) hnew List.not_mem_nil, keys, List.countP_map]
    simp only [Bool.false_eq_true, false_or]
    have : m.items.countP ((fun j => !retained j) ∘ Prod.fst)
        = m.items.countP fun p => !retained p.1 := rfl
    omega

/-- After eviction the dictionary is within its bound or holds retained keys only. -/
theorem trim_bounded (retained : κ → Bool) (bound : Nat) (m : OrderedDict κ ν) :
    (trim retained bound m).size ≤ bound ∨
      ∀ k ∈ (trim retained bound m).keys, retained k = true := by
  rcases Nat.le_total (m.size - bound) (m.items.countP fun p => !retained p.1) with h | h
  · left
    rw [size, trim_items, length_dropFirst, Nat.min_eq_left h]
    simp only [size] at h ⊢
    omega
  · right
    intro k hk
    obtain ⟨p, hp, rfl⟩ := List.mem_map.mp hk
    rw [trim_items] at hp
    have := not_of_mem_dropFirst _ h hp
    simpa using this

/-! ## How large a dictionary is -/

omit [DecidableEq κ] in
/-- A dictionary has no more keys than a list they are all on. -/
theorem size_le_of_keys {m : OrderedDict κ ν} {l : List κ} (h : ∀ k ∈ m.keys, k ∈ l) :
    m.size ≤ l.length := by
  have hlength : m.keys.length ≤ l.length := m.nodup.length_le_of_subset h
  rw [keys, List.length_map] at hlength
  exact hlength

/-- Nor has it more than a list its values are on under a name that tells its
keys apart. -/
theorem size_le_of_values {β : Type} {m : OrderedDict κ ν} {name : ν → β} {l : List β}
    (hmem : ∀ k v, m.get? k = some v → name v ∈ l)
    (hname : ∀ k k' v v', m.get? k = some v → m.get? k' = some v' → name v = name v' → k = k') :
    m.size ≤ l.length := by
  have hitem : ∀ q ∈ m.items, m.get? q.1 = some q.2 := fun q hq => get?_eq_some.mpr hq
  have hnodup : (m.items.map fun q => name q.2).Nodup := by
    rw [List.nodup_iff_pairwise_ne, List.pairwise_map]
    have hkeys : m.items.Pairwise fun q q' => q.1 ≠ q'.1 := List.pairwise_map.mp m.nodup
    refine hkeys.imp_of_mem ?_
    intro q q' hq hq' hne hsame
    exact hne (hname q.1 q'.1 q.2 q'.2 (hitem q hq) (hitem q' hq') hsame)
  have hsubset : (m.items.map fun q => name q.2) ⊆ l := by
    intro b hb
    obtain ⟨q, hq, rfl⟩ := List.mem_map.mp hb
    exact hmem q.1 q.2 (hitem q hq)
  have hlength := hnodup.length_le_of_subset hsubset
  rw [List.length_map] at hlength
  exact hlength

/-- Eviction leaves the bound, or what a list of the retained keys allows. -/
theorem size_trim_le {retained : κ → Bool} {bound : Nat} {m : OrderedDict κ ν} {l : List κ}
    (h : ∀ k, retained k = true → k ∈ l) : (trim retained bound m).size ≤ max bound l.length := by
  rcases trim_bounded retained bound m with hsize | hall
  · exact Nat.le_trans hsize (Nat.le_max_left ..)
  · exact Nat.le_trans (size_le_of_keys fun k hk => h k (hall k hk)) (Nat.le_max_right ..)

/-- A dictionary that holds no key another lacks is no larger. -/
theorem size_le_of_lookup {ν' : Type} {m : OrderedDict κ ν} {m' : OrderedDict κ ν'}
    (h : ∀ k, (m.get? k).isSome = true → (m'.get? k).isSome = true) : m.size ≤ m'.size := by
  have hkeys : m.size ≤ m'.keys.length :=
    size_le_of_keys fun k hk => get?_isSome.mp (h k (get?_isSome.mpr hk))
  rw [keys, List.length_map] at hkeys
  exact hkeys

/-! ## How long a key stays -/

/-- The dictionary holds `k`, and at least `n` keys newer than it. -/
def Behind (m : OrderedDict κ ν) (k : κ) (n : Nat) : Prop :=
  ∃ older v newer, m.items = older ++ (k, v) :: newer ∧ n ≤ newer.length

omit [DecidableEq κ] in
theorem behind_zero {m : OrderedDict κ ν} {k : κ} (h : k ∈ m.keys) : m.Behind k 0 := by
  obtain ⟨p, hp, rfl⟩ := List.mem_map.mp h
  obtain ⟨older, newer, he⟩ := List.append_of_mem hp
  exact ⟨older, p.2, newer, he, Nat.zero_le _⟩

omit [DecidableEq κ] in
theorem Behind.lt_size {m : OrderedDict κ ν} {k : κ} {n : Nat} (h : m.Behind k n) : n < m.size := by
  obtain ⟨older, v, newer, he, hn⟩ := h
  rw [size, he, List.length_append, List.length_cons]
  omega

theorem size_moveToEnd (m : OrderedDict κ ν) (k : κ) : (m.moveToEnd k).size = m.size := by
  apply Nat.le_antisymm
  · exact size_le_of_lookup fun j hj => by rwa [get?_moveToEnd] at hj
  · exact size_le_of_lookup fun j hj => by rwa [get?_moveToEnd]

/-- A new key is newer than every other. -/
theorem Behind.set_new {m : OrderedDict κ ν} {k j : κ} {w : ν} {n : Nat} (h : m.Behind k n)
    (hj : j ∉ m.keys) : (m.set j w).Behind k (n + 1) := by
  obtain ⟨older, v, newer, he, hn⟩ := h
  refine ⟨older, v, newer ++ [(j, w)], ?_, ?_⟩
  · rw [set_items_of_new hj, he, List.append_assoc]
    rfl
  · rw [List.length_append]
    exact Nat.add_le_add_right hn 1

/-- Of a list with distinct keys, at most one item is under `j`. -/
theorem length_le_filter_ne (j : κ) : ∀ {l : List (κ × ν)}, (l.map Prod.fst).Nodup →
    l.length ≤ (l.filter fun p => !decide (p.1 = j)).length + 1
  | [], _ => Nat.zero_le _
  | (i, w) :: l, h => by
    rw [List.map_cons, List.nodup_cons] at h
    by_cases hi : i = j
    · have hall : ∀ p ∈ l, (!decide (p.1 = j)) = true := by
        intro p hp
        have hne : p.1 ≠ j := fun he => h.1 (hi ▸ he ▸ List.mem_map.mpr ⟨p, hp, rfl⟩)
        simp [hne]
      have hrest : (((i, w) :: l).filter fun p => !decide (p.1 = j)) = l := by
        rw [List.filter_cons_of_neg (by simp [hi]), List.filter_eq_self.mpr hall]
      exact Nat.le_of_eq (congrArg (·.length + 1) hrest.symm)
    · rw [List.filter_cons_of_pos (by simp [hi]), List.length_cons, List.length_cons]
      exact Nat.succ_le_succ (length_le_filter_ne j h.2)

/-- Moving another key to the end makes it newer, if it was not. -/
theorem Behind.moveToEnd {m : OrderedDict κ ν} {k j : κ} {n : Nat} (h : m.Behind k n)
    (hne : k ≠ j) : (m.moveToEnd j).Behind k n := by
  rw [OrderedDict.moveToEnd]
  split
  next => exact h
  next w hw =>
    obtain ⟨older, v, newer, he, hn⟩ := h
    have hpop : (m.pop j).items = older.filter (fun p => !decide (p.1 = j))
        ++ (k, v) :: newer.filter fun p => !decide (p.1 = j) := by
      show m.items.filter (fun p => !decide (p.1 = j)) = _
      rw [he, List.filter_append, List.filter_cons_of_pos (by simp [hne])]
    have hnew : j ∉ (m.pop j).keys := get?_eq_none.mp (get?_pop_self m j)
    refine ⟨older.filter fun p => !decide (p.1 = j), v,
      newer.filter (fun p => !decide (p.1 = j)) ++ [(j, w)], ?_, ?_⟩
    · rw [set_items_of_new hnew, hpop, List.append_assoc]
      rfl
    · -- distinct keys: the move takes at most one of the newer ones
      have hnodup : (newer.map Prod.fst).Nodup := by
        have hall := m.nodup
        rw [he, List.map_append, List.map_cons] at hall
        exact (List.nodup_cons.mp (List.nodup_append.mp hall).2.1).2
      have hone := length_le_filter_ne j hnodup
      rw [List.length_append, List.length_singleton]
      omega

/-- **A key that survives eviction unretained** keeps every newer one beside it,
and the dictionary is back at its bound. -/
theorem Behind.trim {retained : κ → Bool} {bound : Nat} {m : OrderedDict κ ν} {k : κ} {n : Nat}
    (h : m.Behind k n) (hr : retained k = false) (hk : k ∈ (trim retained bound m).keys) :
    (OrderedDict.trim retained bound m).Behind k n ∧
      (OrderedDict.trim retained bound m).size ≤ bound := by
  obtain ⟨older, v, newer, he, hn⟩ := h
  obtain ⟨w, hw⟩ := Option.isSome_iff_exists.mp (get?_isSome.mpr hk)
  have hv : m.get? k = some v :=
    get?_eq_some.mpr (he ▸ List.mem_append_right _ List.mem_cons_self)
  have hwv : w = v := Option.some.inj ((get?_of_trim hw).symm.trans hv)
  have hmem := get?_eq_some.mp hw
  rw [hwv, trim_items, he] at hmem
  have hkeys : (k, v) ∉ older ∧ (k, v) ∉ newer := by
    have hall := m.nodup
    rw [he, List.map_append, List.map_cons, List.nodup_append] at hall
    refine ⟨fun hm => ?_, fun hm => ?_⟩
    · exact hall.2.2 k (List.mem_map.mpr ⟨_, hm, rfl⟩) k List.mem_cons_self rfl
    · exact (List.nodup_cons.mp hall.2.1).1 (List.mem_map.mpr ⟨_, hm, rfl⟩)
  have hquota := (mem_dropFirst_mid (by simp [hr]) hkeys.1 hkeys.2).mp hmem
  constructor
  · refine ⟨dropFirst (fun p => !retained p.1) (m.size - bound) older, v, newer, ?_, hn⟩
    rw [trim_items, he, dropFirst_append, Nat.sub_eq_zero_of_le hquota]
    rfl
  · have hcount : m.size - bound ≤ m.items.countP fun p => !retained p.1 := by
      rw [he, List.countP_append]
      omega
    rw [size, trim_items, length_dropFirst, Nat.min_eq_left hcount]
    simp only [size]
    omega

end OrderedDict

end PyLib
