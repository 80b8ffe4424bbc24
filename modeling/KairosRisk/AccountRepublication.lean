import KairosRisk.AccountFeed
import KairosRisk.Lib.Run

/-!
# The same account, published again

A snapshot at the version in force withdraws the authority when it says
something else about the account, and its message metadata is left out of the
comparison. It is left out at the top level only: a position is a message too,
and its own metadata is compared with its facts. So a re-emission under new
message ids is harmless while the account has no positions, or while these are
passed on as they were, and revokes the authority otherwise.

`republication_keeps_iff` says so for whatever was delivered before.
-/

namespace KairosRisk

open PyLib

variable {F : Type}

/-! ## Facts and metadata -/

/-- The message metadata of a position. -/
structure MessageMetadata where
  messageId : String
  producedAt : DateTime
  correlationId : Option String
  causationId : Option String
  deriving DecidableEq

def PositionSnapshot.metadata (p : PositionSnapshot F) : MessageMetadata where
  messageId := p.messageId
  producedAt := p.producedAt
  correlationId := p.correlationId
  causationId := p.causationId

/-- A position without its message metadata. -/
def PositionSnapshot.facts (p : PositionSnapshot F) : PositionSnapshot F :=
  { p with messageId := "", producedAt := ⟨true, 0⟩, correlationId := none, causationId := none }

/-- What a snapshot says about the account. -/
def AccountSnapshot.facts (s : AccountSnapshot F) : AccountPayload F :=
  { s.toAccountPayload with positions := s.positions.map PositionSnapshot.facts }

/-- The message metadata inside a snapshot. -/
def AccountSnapshot.positionMetadata (s : AccountSnapshot F) : List MessageMetadata :=
  s.positions.map PositionSnapshot.metadata

theorem PositionSnapshot.eq_of_facts {p q : PositionSnapshot F} (hfacts : p.facts = q.facts)
    (hmetadata : p.metadata = q.metadata) : p = q := by
  cases p
  cases q
  simp_all [facts, metadata]

theorem positions_eq_of_facts : ∀ {ps qs : List (PositionSnapshot F)},
    ps.map PositionSnapshot.facts = qs.map PositionSnapshot.facts →
    ps.map PositionSnapshot.metadata = qs.map PositionSnapshot.metadata → ps = qs
  | [], [], _, _ => rfl
  | [], _ :: _, h, _ => nomatch h
  | _ :: _, [], h, _ => nomatch h
  | p :: ps, q :: qs, hfacts, hmetadata => by
    rw [List.map_cons, List.map_cons, List.cons.injEq] at hfacts hmetadata
    rw [PositionSnapshot.eq_of_facts hfacts.1 hmetadata.1,
      positions_eq_of_facts hfacts.2 hmetadata.2]

/-- What is compared of two snapshots is their facts and the metadata inside them. -/
theorem payload_eq_iff {s t : AccountSnapshot F} : s.toAccountPayload = t.toAccountPayload ↔
    s.facts = t.facts ∧ s.positionMetadata = t.positionMetadata := by
  constructor
  · intro h
    unfold AccountSnapshot.facts AccountSnapshot.positionMetadata
    rw [h]
    exact ⟨rfl, rfl⟩
  · intro h
    obtain ⟨hfacts, hmetadata⟩ := h
    have hpositions : s.positions = t.positions :=
      positions_eq_of_facts (congrArg AccountPayload.positions hfacts) hmetadata
    unfold AccountSnapshot.facts at hfacts
    rw [hpositions] at hfacts
    cases hs : s.toAccountPayload
    cases ht : t.toAccountPayload
    simp_all

/-- Snapshots with the same facts have the same times. -/
theorem aware_of_facts {s t : AccountSnapshot F} (h : s.facts = t.facts) (ht : t.aware = true) :
    s.aware = true := by
  have hcaptured : s.facts.capturedAt = t.facts.capturedAt := by rw [h]
  have htimes : s.facts.positions.all (fun p => p.capturedAt.aware)
      = t.facts.positions.all (fun p => p.capturedAt.aware) := by rw [h]
  unfold AccountSnapshot.facts at hcaptured htimes
  dsimp only at hcaptured htimes
  rw [List.all_map, List.all_map] at htimes
  unfold AccountSnapshot.aware at ht ⊢
  rw [hcaptured, ← ht]
  exact congrArg _ htimes

/-! ## What is in force -/

namespace LegacyAccount

variable [PyFloat F] [DecidableEq F]

/-- A snapshot with a naive time is not looked into. -/
theorem handleAccount_of_not_aware (s : LegacyAccount F) {snapshot : AccountSnapshot F}
    (h : snapshot.aware = false) : ∃ e, s.handleAccount snapshot = (.error e, s) := by
  unfold handleAccount
  split
  · exact ⟨_, rfl⟩
  next hcaptured =>
    split
    · exact ⟨_, rfl⟩
    next hpositions =>
      -- then all of its times are aware
      rw [Bool.not_eq_true', Bool.not_eq_false] at hcaptured
      rw [Bool.not_eq_true, List.any_eq_false] at hpositions
      unfold AccountSnapshot.aware at h
      rw [hcaptured, Bool.true_and, List.all_eq_false] at h
      obtain ⟨p, hp, hnaive⟩ := h
      exact absurd (by simpa using hnaive) (hpositions p hp)

theorem handleAccount_of_aware (s : LegacyAccount F) {snapshot : AccountSnapshot F}
    (h : snapshot.aware = true) : s.handleAccount snapshot =
      match s.latestAccountCapturedAt with
      | none => s.newVersion snapshot
      | some latest =>
        if snapshot.capturedAt.us < latest.us then (.ok (), s)
        else if snapshot.capturedAt.us = latest.us then (.ok (), s.sameVersion snapshot)
        else s.newVersion snapshot := by
  unfold AccountSnapshot.aware at h
  rw [Bool.and_eq_true] at h
  have hpositions : (snapshot.positions.any fun p => !p.capturedAt.aware) = false := by
    rw [List.any_eq_false]
    intro p hp
    rw [List.all_eq_true.mp h.2 p hp]
    exact Bool.false_ne_true
  unfold handleAccount
  rw [h.1, hpositions]
  rfl

theorem consumeAccount_of_ok {s s' : LegacyAccount F} {snapshot : AccountSnapshot F}
    (h : s.handleAccount snapshot = (.ok (), s')) : s.consumeAccount snapshot = s' := by
  rw [consumeAccount, h]

/-- The consumer withdraws the authority when the handler raises. -/
theorem consumeAccount_of_error {s s' : LegacyAccount F} {snapshot : AccountSnapshot F}
    {e : PyError} (h : s.handleAccount snapshot = (.error e, s')) :
    s.consumeAccount snapshot = { s' with accountSnapshot := none } := by
  rw [consumeAccount, h]

theorem sameVersion_cases (s : LegacyAccount F) (snapshot : AccountSnapshot F) :
    s.sameVersion snapshot = s ∨ (s.sameVersion snapshot).accountSnapshot = none := by
  unfold sameVersion
  split
  · exact Or.inl rfl
  · split
    · exact Or.inr rfl
    · split
      · exact Or.inr rfl
      · exact Or.inl rfl

/-- A newer version is the authority if it can be, and raises or poisons otherwise. -/
theorem newVersion_cases (s : LegacyAccount F) (snapshot : AccountSnapshot F) :
    (∃ e, (s.newVersion snapshot).1 = .error e) ∨ (s.newVersion snapshot).2.accountSnapshot = none ∨
      snapshot.reconciled = true ∧ (s.newVersion snapshot).2.accountSnapshot = some snapshot ∧
        (s.newVersion snapshot).2.latestAccountCapturedAt = some snapshot.capturedAt := by
  unfold newVersion
  split
  · exact Or.inr (Or.inl rfl)
  next hreconciled =>
    split
    · exact Or.inl ⟨_, rfl⟩
    · split
      · exact Or.inr (Or.inr ⟨by simpa using hreconciled, rfl, rfl⟩)
      · exact Or.inl ⟨_, rfl⟩
      · exact Or.inl ⟨_, rfl⟩
      · exact Or.inl ⟨_, rfl⟩

/-- What a delivery can do: nothing, withdraw the authority, or make the
delivered snapshot the authority of its version. -/
theorem consumeAccount_cases (s : LegacyAccount F) (snapshot : AccountSnapshot F) :
    s.consumeAccount snapshot = s ∨ (s.consumeAccount snapshot).accountSnapshot = none ∨
      snapshot.aware = true ∧ snapshot.reconciled = true ∧
        (s.consumeAccount snapshot).accountSnapshot = some snapshot ∧
        (s.consumeAccount snapshot).latestAccountCapturedAt = some snapshot.capturedAt := by
  have hnew := s.newVersion_cases snapshot
  by_cases haware : snapshot.aware = true
  · have hhandled := s.handleAccount_of_aware haware
    -- a newer version, with the consumer around it
    have hconsumed : s.handleAccount snapshot = s.newVersion snapshot →
        s.consumeAccount snapshot = s ∨ (s.consumeAccount snapshot).accountSnapshot = none ∨
          snapshot.aware = true ∧ snapshot.reconciled = true ∧
            (s.consumeAccount snapshot).accountSnapshot = some snapshot ∧
            (s.consumeAccount snapshot).latestAccountCapturedAt = some snapshot.capturedAt := by
      intro hversion
      rcases hresult : s.newVersion snapshot with ⟨result, s'⟩
      rw [hresult] at hnew hversion
      cases result with
      | error e =>
        rw [consumeAccount_of_error hversion]
        exact Or.inr (Or.inl rfl)
      | ok _ =>
        rw [consumeAccount_of_ok hversion]
        rcases hnew with ⟨e, he⟩ | hnone | hadopted
        · cases he
        · exact Or.inr (Or.inl hnone)
        · exact Or.inr (Or.inr ⟨haware, hadopted⟩)
    cases hlatest : s.latestAccountCapturedAt with
    | none =>
      rw [hlatest] at hhandled
      exact hconsumed hhandled
    | some latest =>
      rw [hlatest] at hhandled
      dsimp only at hhandled
      by_cases hlt : snapshot.capturedAt.us < latest.us
      · rw [if_pos hlt] at hhandled
        exact Or.inl (consumeAccount_of_ok hhandled)
      · rw [if_neg hlt] at hhandled
        by_cases heq : snapshot.capturedAt.us = latest.us
        · rw [if_pos heq] at hhandled
          rw [consumeAccount_of_ok hhandled]
          rcases s.sameVersion_cases snapshot with hsame | hnone
          · exact Or.inl hsame
          · exact Or.inr (Or.inl hnone)
        · rw [if_neg heq] at hhandled
          exact hconsumed hhandled
  · rw [Bool.not_eq_true] at haware
    obtain ⟨e, he⟩ := s.handleAccount_of_not_aware haware
    rw [consumeAccount_of_error he]
    exact Or.inr (Or.inl rfl)

/-- A snapshot in force is one of the recorded version that was reconciled and aware. -/
def InForce (s : LegacyAccount F) : Prop := ∀ held, s.accountSnapshot = some held →
  s.latestAccountCapturedAt = some held.capturedAt ∧ held.aware = true ∧ held.reconciled = true

theorem InForce.consumeAccount {s : LegacyAccount F} (hs : s.InForce)
    (snapshot : AccountSnapshot F) :
    (s.consumeAccount snapshot).InForce := by
  intro held hheld
  rcases s.consumeAccount_cases snapshot with hsame | hnone | ⟨haware, hreconciled,
    hadopted, hlatest⟩
  · rw [hsame] at hheld ⊢
    exact hs held hheld
  · rw [hnone] at hheld
    cases hheld
  · rw [hadopted] at hheld
    cases hheld
    exact ⟨hlatest, haware, hreconciled⟩

/-- **Whatever was delivered.** -/
theorem run_inForce (account : AccountState F) (ms : List (AccountSnapshot F)) :
    (run consumeAccount (init account) ms).InForce := by
  have hstart : (init account).InForce := by
    intro held hheld
    cases hheld
  exact run_invariant (fun _ snapshot hs => hs.consumeAccount snapshot) ms hstart

/-- A snapshot of the version in force, when its times are aware. -/
theorem handleAccount_republished {s : LegacyAccount F} {held snapshot : AccountSnapshot F}
    (hs : s.InForce) (hheld : s.accountSnapshot = some held)
    (hcaptured : snapshot.capturedAt = held.capturedAt) (haware : snapshot.aware = true) :
    s.handleAccount snapshot = (.ok (), s.sameVersion snapshot) := by
  rw [s.handleAccount_of_aware haware, (hs held hheld).1, hcaptured]
  dsimp only
  rw [if_neg (Int.lt_irrefl _), if_pos rfl]

/-- A reconciled snapshot of the version in force leaves it in force when it
compares equal, and withdraws it otherwise. -/
theorem sameVersion_reconciled {s : LegacyAccount F} {held snapshot : AccountSnapshot F}
    (hheld : s.accountSnapshot = some held) (hreconciled : snapshot.reconciled = true) :
    s.sameVersion snapshot = if snapshot.toAccountPayload = held.toAccountPayload then s
      else { s with accountSnapshot := none } := by
  unfold sameVersion
  rw [hheld, hreconciled]
  by_cases hsame : snapshot.toAccountPayload = held.toAccountPayload
  · simp [hsame]
  · simp [hsame]

end LegacyAccount

open LegacyAccount

variable [PyFloat F] [DecidableEq F]

/-- A re-emission of what is in force leaves it in force, and another account
of the same version revokes it: by the handler, or where that raises over a
naive time by its consumer. -/
structure RevokedByFactsOnly (s : LegacyAccount F) (held snapshot : AccountSnapshot F) : Prop where
  kept : snapshot.facts = held.facts → s.handleAccount snapshot = (.ok (), s)
  revoked : snapshot.facts ≠ held.facts → (s.consumeAccount snapshot).accountSnapshot = none ∧
    (snapshot.aware = true → (s.handleAccount snapshot).2.accountSnapshot = none)

/-- **Republication is harmless except for the metadata inside.** Whatever was
delivered before, a reconciled snapshot of the version in force revokes it by
its facts only, unless it repeats the facts with other metadata of a position. -/
theorem republication_keeps_iff (account : AccountState F) (ms : List (AccountSnapshot F))
    (held snapshot : AccountSnapshot F)
    (hheld : (run consumeAccount (init account) ms).accountSnapshot = some held)
    (hreconciled : snapshot.reconciled = true) (hcaptured : snapshot.capturedAt = held.capturedAt) :
    RevokedByFactsOnly (run consumeAccount (init account) ms) held snapshot ↔
      snapshot.facts ≠ held.facts ∨ snapshot.positionMetadata = held.positionMetadata := by
  have hforce := run_inForce account ms
  generalize run consumeAccount (init account) ms = s at hheld hforce ⊢
  have hsameVersion := sameVersion_reconciled hheld hreconciled
  constructor
  · intro h
    by_cases hfacts : snapshot.facts = held.facts
    · have haware := aware_of_facts hfacts (hforce held hheld).2.1
      have hkept := h.kept hfacts
      rw [handleAccount_republished hforce hheld hcaptured haware, Prod.mk.injEq] at hkept
      by_cases hpayload : snapshot.toAccountPayload = held.toAccountPayload
      · exact Or.inr (payload_eq_iff.mp hpayload).2
      · -- compared unequal, it would have been revoked
        rw [hsameVersion, if_neg hpayload] at hkept
        rw [← hkept.2] at hheld
        cases hheld
    · exact Or.inl hfacts
  · intro h
    constructor
    · intro hfacts
      have haware := aware_of_facts hfacts (hforce held hheld).2.1
      have hmetadata := h.resolve_left (not_not_intro hfacts)
      rw [handleAccount_republished hforce hheld hcaptured haware, hsameVersion,
        if_pos (payload_eq_iff.mpr ⟨hfacts, hmetadata⟩)]
    · intro hfacts
      have hpayload : snapshot.toAccountPayload ≠ held.toAccountPayload :=
        fun heq => hfacts (payload_eq_iff.mp heq).1
      have hrevoked : snapshot.aware = true →
          s.handleAccount snapshot = (.ok (), { s with accountSnapshot := none }) := by
        intro haware
        rw [handleAccount_republished hforce hheld hcaptured haware, hsameVersion, if_neg hpayload]
      refine ⟨?_, ?_⟩
      · by_cases haware : snapshot.aware = true
        · rw [consumeAccount_of_ok (hrevoked haware)]
        · rw [Bool.not_eq_true] at haware
          obtain ⟨e, he⟩ := s.handleAccount_of_not_aware haware
          rw [consumeAccount_of_error he]
      · intro haware
        rw [hrevoked haware]

namespace Scenario

/-- A position as the execution engine publishes it, under a message id. -/
def heldPosition (messageId : String) : PositionSnapshot Rat where
  messageId := messageId
  source := "kairos-execution-engine"
  schemaVersion := "1.0"
  producedAt := ⟨true, 2⟩
  correlationId := none
  causationId := none
  exchange := "evedex"
  accountId := "primary"
  symbol := "BTCUSDT"
  signedQuantity := 2 / 10
  entryPrice := some 50000
  markPrice := some 50100
  leverage := 2
  liquidationPrice := none
  unrealizedPnlUsd := 20
  protectiveStopOrderId := some "stop-1"
  capturedAt := ⟨true, 2⟩

/-- A snapshot with that position, under a message id of its own. -/
def publishedAs (messageId positionMessageId : String) : AccountSnapshot Rat :=
  { snapshotAt 2 10000 true with
    messageId := messageId
    positions := [heldPosition positionMessageId]
    reconciliationDetail := "published as " ++ messageId }

/-- Published again with the position passed on as it was. -/
theorem reemission_kept :
    RevokedByFactsOnly (run consumeAccount (init startAccount) [publishedAs "a" "p"])
      (publishedAs "a" "p") (publishedAs "b" "p") :=
  (republication_keeps_iff startAccount [publishedAs "a" "p"] (publishedAs "a" "p")
    (publishedAs "b" "p") (by decide +kernel) rfl rfl).mpr (Or.inr rfl)

/-- Published again with a new message id for the position: the facts are the
same, and the authority is gone. -/
theorem nested_metadata_revokes :
    (run consumeAccount (init startAccount) [publishedAs "a" "p"]).accountSnapshot
      = some (publishedAs "a" "p") ∧
    (publishedAs "b" "q").reconciled = true ∧
    (publishedAs "b" "q").capturedAt = (publishedAs "a" "p").capturedAt ∧
    (publishedAs "b" "q").facts = (publishedAs "a" "p").facts ∧
    ((run consumeAccount (init startAccount) [publishedAs "a" "p"]).handleAccount
      (publishedAs "b" "q")).2.accountSnapshot = none :=
  ⟨by decide +kernel, rfl, rfl, rfl, by decide +kernel⟩

end Scenario

end KairosRisk
