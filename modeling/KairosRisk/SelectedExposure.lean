import KairosRisk.Commands
import KairosRisk.Lib.FloatGrid

/-!
# Reading an accepted account again

A snapshot in force was read once, for no symbol: its gross exposure leaves out
what cannot be valued and says so. A command reads it again for its own symbol,
and values that one position by a rule of its own, which asks for a finite
price but not for a finite quantity, nor for a finite value, nor, at quantity
zero, for a finite price.

A position is `Usable` when none of that can be missed;
`every_symbol_usable_iff` says that the snapshot can be read for every symbol
exactly when all its positions are. The arithmetic is that of floats, of which
only the order's laws are used.
-/

namespace KairosRisk

open PyLib

variable {F : Type} [PyFloat F] [DecidableEq F]

/-! ## What is read for a symbol -/

namespace AccountState

/-- The quantity of the selected position. -/
def selectedQty (selected : Option (PositionSnapshot F)) : F :=
  (selected.map fun p => p.signedQuantity).getD (PyFloat.lit 0)

/-- Its price. -/
def selectedPrice (selected : Option (PositionSnapshot F)) : Option F :=
  selected.bind fun p => orPrice p.markPrice p.entryPrice

/-- Whether its value counts as known. -/
def selectedNotionalKnown (selected : Option (PositionSnapshot F)) : Bool :=
  selected.isNone || decide (selectedQty selected = PyFloat.lit 0)
    || (PyFloat.isFinite (selectedQty selected) && (selectedPrice selected).any PyFloat.isFinite)

/-- Its value. -/
def selectedNotional (selected : Option (PositionSnapshot F)) : F :=
  match selectedPrice selected with
  | some price =>
    if selectedNotionalKnown selected then PyFloat.abs (selectedQty selected) * price
    else PyFloat.lit 0
  | none => PyFloat.lit 0

/-- The exposure of all positions, and whether it is known. -/
def exposure (snapshot : AccountSnapshot F) : F × Bool :=
  snapshot.positions.foldl addExposure (PyFloat.lit 0, true)

/-- The position of a symbol. -/
def select (snapshot : AccountSnapshot F) (symbol : Option String) : Option (PositionSnapshot F) :=
  snapshot.positions.find? fun p => some p.symbol = symbol

/-- The fields that a snapshot gives with a selected position. -/
def fieldsOf (snapshot : AccountSnapshot F) (selected : Option (PositionSnapshot F)) :
    AccountStateFields F where
  equityUsd := snapshot.equityUsd
  peakEquityUsd := snapshot.peakEquityUsd
  dailyPnlPct := snapshot.dailyPnlPct
  grossExposureUsd := (exposure snapshot).1
  grossExposureKnown := (exposure snapshot).2
  openPositionQty := selectedQty selected
  openPositionNotionalUsd := selectedNotional selected
  openPositionNotionalKnown := selectedNotionalKnown selected
  reconciled := snapshot.reconciled

variable {snapshot : AccountSnapshot F} {symbol : Option String} {state : AccountState F}

omit [DecidableEq F] in
theorem make_ok_iff {x : AccountStateFields F} : AccountState.make x = .ok state ↔
    x.inBounds = true ∧ x.validateAccountInvariants = .ok () ∧ state.toAccountStateFields = x := by
  unfold make
  constructor
  · intro h
    split at h
    next hbounds =>
      split at h
      next hinvariants =>
        cases h
        exact ⟨hbounds, hinvariants, rfl⟩
      next => cases h
    next => cases h
  · intro h
    obtain ⟨hbounds, hinvariants, rfl⟩ := h
    rw [dif_pos hbounds]
    split
    next => rfl
    next e he =>
      rw [hinvariants] at he
      cases he

/-- What it takes to read a snapshot. -/
theorem fromSnapshot_ok_iff : AccountState.fromSnapshot snapshot symbol = .ok state ↔
    (snapshot.positions.map fun p => p.symbol).Nodup ∧
    (fieldsOf snapshot (select snapshot symbol)).inBounds = true ∧
    (fieldsOf snapshot (select snapshot symbol)).validateAccountInvariants = .ok () ∧
    state.toAccountStateFields = fieldsOf snapshot (select snapshot symbol) := by
  rw [← make_ok_iff]
  unfold fromSnapshot
  rw [raiseIf_bind_ok_iff, Bool.not_eq_false', decide_eq_true_eq]
  rfl

omit [DecidableEq F] in
theorem validateAccountInvariants_ok_iff {x : AccountStateFields F} :
    x.validateAccountInvariants = .ok () ↔ ¬x.peakEquityUsd < x.equityUsd ∧
      ¬(x.grossExposureKnown = true ∧ x.openPositionNotionalKnown = true ∧
        x.grossExposureUsd < x.openPositionNotionalUsd) := by
  unfold AccountStateFields.validateAccountInvariants
  rw [raiseIf_bind_ok_iff, decide_eq_false_iff_not, raiseIf_ok_iff]
  simp

/-- What is read of a position passes the model's checks. -/
structure SelectedFits (snapshot : AccountSnapshot F) (selected : Option (PositionSnapshot F)) :
    Prop where
  qty : PyFloat.isFinite (selectedQty selected) = true
  notional : PyFloat.isFinite (selectedNotional selected) = true
  nonneg : PyFloat.lit 0 ≤ selectedNotional selected
  covered : ¬((exposure snapshot).2 = true ∧ selectedNotionalKnown selected = true ∧
    (exposure snapshot).1 < selectedNotional selected)

/-- A reading that has the account's own figures. -/
structure SameAccount (state base : AccountState F) : Prop where
  equity : state.equityUsd = base.equityUsd
  peak : state.peakEquityUsd = base.peakEquityUsd
  gross : state.grossExposureUsd = base.grossExposureUsd
  known : state.grossExposureKnown = base.grossExposureKnown

omit [PyFloat F] [DecidableEq F] in
theorem select_none (snapshot : AccountSnapshot F) : select snapshot none = none := by
  unfold select
  rw [List.find?_eq_none]
  intro p _
  simp

/-- Of an accepted snapshot, only the position can stop the reading for a symbol. -/
theorem read_ok_iff {base : AccountState F}
    (hbase : AccountState.fromSnapshot snapshot none = .ok base) :
    (∃ state, AccountState.fromSnapshot snapshot symbol = .ok state ∧ SameAccount state base) ↔
      SelectedFits snapshot (select snapshot symbol) := by
  rw [fromSnapshot_ok_iff, select_none] at hbase
  obtain ⟨hnodup, hbounds, hinvariants, hfields⟩ := hbase
  simp only [fieldsOf, AccountStateFields.inBounds, Bool.and_eq_true] at hbounds
  rw [validateAccountInvariants_ok_iff] at hinvariants
  constructor
  · intro h
    obtain ⟨state, hread, _⟩ := h
    rw [fromSnapshot_ok_iff, validateAccountInvariants_ok_iff] at hread
    obtain ⟨_, hread, hcovered, _⟩ := hread
    simp only [fieldsOf, AccountStateFields.inBounds, Bool.and_eq_true] at hread
    exact ⟨hread.1.1.2, hread.1.2, of_decide_eq_true hread.2, hcovered.2⟩
  · intro h
    have hselected : (fieldsOf snapshot (select snapshot symbol)).inBounds = true := by
      simp only [fieldsOf, AccountStateFields.inBounds, Bool.and_eq_true]
      exact ⟨⟨⟨hbounds.1.1.1, h.qty⟩, h.notional⟩, decide_eq_true h.nonneg⟩
    have hcovered :
        (fieldsOf snapshot (select snapshot symbol)).validateAccountInvariants = .ok () :=
      validateAccountInvariants_ok_iff.mpr ⟨hinvariants.1, h.covered⟩
    refine ⟨⟨fieldsOf snapshot (select snapshot symbol), hselected, hcovered⟩, ?_, ?_⟩
    · exact fromSnapshot_ok_iff.mpr ⟨hnodup, hselected, hcovered, rfl⟩
    · constructor <;> rw [hfields] <;> rfl

end AccountState

/-! ## Usable positions -/

/-- A position that can be read for its symbol. -/
structure Usable (p : PositionSnapshot F) : Prop where
  finite : PyFloat.isFinite p.signedQuantity = true
  flat : ∀ price, orPrice p.markPrice p.entryPrice = some price →
    p.signedQuantity = PyFloat.lit 0 → PyFloat.isFinite price = true
  valued : ∀ price, orPrice p.markPrice p.entryPrice = some price →
    p.signedQuantity ≠ PyFloat.lit 0 → PyFloat.isFinite price = true →
    PyFloat.isFinite (PyFloat.abs p.signedQuantity * price) = true ∧
      PyFloat.lit 0 ≤ PyFloat.abs p.signedQuantity * price

instance (p : PositionSnapshot F) : Decidable (Usable p) :=
  decidable_of_iff (PyFloat.isFinite p.signedQuantity = true ∧
    ∀ price ∈ orPrice p.markPrice p.entryPrice,
      (p.signedQuantity = PyFloat.lit 0 → PyFloat.isFinite price = true) ∧
      (p.signedQuantity ≠ PyFloat.lit 0 → PyFloat.isFinite price = true →
        PyFloat.isFinite (PyFloat.abs p.signedQuantity * price) = true ∧
          PyFloat.lit 0 ≤ PyFloat.abs p.signedQuantity * price))
    ⟨fun h => ⟨h.1, fun price hprice => (h.2 price hprice).1,
      fun price hprice => (h.2 price hprice).2⟩,
      fun h => ⟨h.finite, fun price hprice => ⟨h.flat price hprice, h.valued price hprice⟩⟩⟩

section Exposure

variable [LawfulOrder F] {p : PositionSnapshot F} {total : F × Bool}

/-- A usable position adds to the exposure. -/
theorem le_addExposure (hp : Usable p) (htotal : PyFloat.lit 0 ≤ total.1) :
    total.1 ≤ (addExposure total p).1 := by
  have hself := LawfulOrder.le_self htotal
  unfold addExposure
  split
  · exact hself
  · split
    · exact hself
    next hqty =>
      split
      · exact hself
      next price hprice =>
        dsimp only
        split
        · exact hself
        next hfinite =>
          split
          · exact hself
          · exact LawfulOrder.le_add_right htotal
              (hp.valued price hprice hqty (by simpa using hfinite)).2

theorem le_exposure : ∀ (ps : List (PositionSnapshot F)) (total : F × Bool),
    (∀ p ∈ ps, Usable p) → PyFloat.lit 0 ≤ total.1 → total.1 ≤ (ps.foldl addExposure total).1
  | [], _, _, htotal => LawfulOrder.le_self htotal
  | p :: ps, total, hps, htotal => by
    have hstep := le_addExposure (hps p List.mem_cons_self) htotal
    have hrest :=
      le_exposure ps (addExposure total p) (fun q hq => hps q (List.mem_cons_of_mem _ hq))
        (LawfulOrder.le_trans htotal hstep)
    exact LawfulOrder.le_trans hstep hrest

/-- **The exposure covers every position it values.** -/
theorem value_le_exposure {price : F} (hprice : orPrice p.markPrice p.entryPrice = some price)
    (hqty : p.signedQuantity ≠ PyFloat.lit 0) (hfinite : PyFloat.isFinite price = true) :
    ∀ (ps : List (PositionSnapshot F)) (total : F × Bool), (∀ p ∈ ps, Usable p) → p ∈ ps →
      PyFloat.lit 0 ≤ total.1 →
      PyFloat.abs p.signedQuantity * price ≤ (ps.foldl addExposure total).1
  | [], _, _, hmem, _ => absurd hmem List.not_mem_nil
  | q :: ps, total, hps, hmem, htotal => by
    have hstep := LawfulOrder.le_trans htotal (le_addExposure (hps q List.mem_cons_self) htotal)
    have hps' : ∀ r ∈ ps, Usable r := fun r hr => hps r (List.mem_cons_of_mem _ hr)
    rcases List.mem_cons.mp hmem with rfl | hmem
    · have hp := hps p List.mem_cons_self
      obtain ⟨hvalue, hnonneg⟩ := hp.valued price hprice hqty hfinite
      -- it is added here, and what comes later only adds to it
      have hadded : (addExposure total p).1 = total.1 + PyFloat.abs p.signedQuantity * price := by
        unfold addExposure
        simp [hp.finite, hqty, hprice, hfinite, hvalue]
      have hle : PyFloat.abs p.signedQuantity * price ≤ (addExposure total p).1 := by
        rw [hadded]
        exact LawfulOrder.le_add_left htotal hnonneg
      exact LawfulOrder.le_trans hle (le_exposure ps _ hps' hstep)
    · exact value_le_exposure hprice hqty hfinite ps _ hps' hmem hstep

end Exposure

/-! ## Reading for every symbol -/

namespace AccountState

variable {snapshot : AccountSnapshot F} {p : PositionSnapshot F}

omit [PyFloat F] [DecidableEq F] in
/-- Where symbols are told apart, a position is the one of its symbol. -/
theorem find?_symbol : ∀ {ps : List (PositionSnapshot F)}, (ps.map fun p => p.symbol).Nodup →
    p ∈ ps → (ps.find? fun q => some q.symbol = some p.symbol) = some p
  | [], _, hp => absurd hp List.not_mem_nil
  | q :: ps, hnodup, hp => by
    rw [List.map_cons, List.nodup_cons] at hnodup
    by_cases hsame : q = p
    · rw [hsame]
      exact List.find?_cons_of_pos (by simp)
    · have hrest : p ∈ ps := (List.mem_cons.mp hp).resolve_left (Ne.symm hsame)
      have hother : q.symbol ≠ p.symbol := by
        intro hsymbol
        rw [hsymbol] at hnodup
        exact hnodup.1 (List.mem_map_of_mem hrest)
      rw [List.find?_cons_of_neg (by simpa using hother)]
      exact find?_symbol hnodup.2 hrest

theorem selectedNotional_some (price : F) (hprice : orPrice p.markPrice p.entryPrice = some price) :
    selectedNotional (some p) = if selectedNotionalKnown (some p) then
      PyFloat.abs p.signedQuantity * price else PyFloat.lit 0 := by
  have hselected : selectedPrice (some p) = some price := hprice
  unfold selectedNotional
  rw [hselected]
  rfl

/-- What is read of a position says that it is usable. -/
theorem SelectedFits.usable [LawfulOrder F] (h : SelectedFits snapshot (some p)) : Usable p := by
  refine ⟨h.qty, ?_, ?_⟩
  · intro price hprice hzero
    have hknown : selectedNotionalKnown (some p) = true := by
      simp [selectedNotionalKnown, selectedQty, hzero]
    have hfinite := h.notional
    rw [selectedNotional_some price hprice, if_pos hknown, hzero] at hfinite
    exact LawfulOrder.finite_of_zero_mul hfinite
  · intro price hprice _ hpriced
    have hknown : selectedNotionalKnown (some p) = true := by
      have hqty : PyFloat.isFinite p.signedQuantity = true := h.qty
      simp [selectedNotionalKnown, selectedQty, selectedPrice, hqty, hprice, hpriced]
    have hnotional := selectedNotional_some price hprice
    rw [if_pos hknown] at hnotional
    exact ⟨hnotional ▸ h.notional, hnotional ▸ h.nonneg⟩

variable [LawfulOrder F]

/-- Nothing selected, nothing to value. -/
theorem selectedFits_none (hgross : PyFloat.lit 0 ≤ (exposure snapshot).1) :
    SelectedFits snapshot none :=
  ⟨LawfulOrder.zero_finite, LawfulOrder.zero_finite, LawfulOrder.zero_le_zero,
    fun h => LawfulOrder.not_lt_of_le hgross h.2.2⟩

/-- A usable position among usable ones can be read. -/
theorem selectedFits_some (husable : ∀ q ∈ snapshot.positions, Usable q)
    (hp : p ∈ snapshot.positions)
    (hgross : PyFloat.lit 0 ≤ (exposure snapshot).1) : SelectedFits snapshot (some p) := by
  have hqty := (husable p hp).finite
  -- a position that is not valued counts as nothing
  have hunvalued : selectedNotional (some p) = PyFloat.lit 0 → SelectedFits snapshot (some p) := by
    intro hzero
    refine ⟨hqty, ?_, ?_, ?_⟩
    · rw [hzero]
      exact LawfulOrder.zero_finite
    · rw [hzero]
      exact LawfulOrder.zero_le_zero
    · rw [hzero]
      exact fun h => LawfulOrder.not_lt_of_le hgross h.2.2
  cases hprice : orPrice p.markPrice p.entryPrice with
  | none =>
    apply hunvalued
    have hselected : selectedPrice (some p) = none := hprice
    unfold selectedNotional
    rw [hselected]
  | some price =>
    have hnotional := selectedNotional_some price hprice
    by_cases hknown : selectedNotionalKnown (some p) = true
    · rw [if_pos hknown] at hnotional
      by_cases hflat : p.signedQuantity = PyFloat.lit 0
      · have hfinite := (husable p hp).flat price hprice hflat
        obtain ⟨hvalue, hnonneg, hle⟩ := LawfulOrder.zero_mul hfinite
        rw [hflat] at hnotional
        refine ⟨hqty, hnotional ▸ hvalue, hnotional ▸ hnonneg, ?_⟩
        rw [hnotional]
        exact fun h => LawfulOrder.not_lt_of_le (LawfulOrder.le_trans hle hgross) h.2.2
      · have hfinite : PyFloat.isFinite price = true := by
          have hselected : selectedPrice (some p) = some price := hprice
          have hheld : selectedQty (some p) ≠ PyFloat.lit 0 := hflat
          have hpriced : PyFloat.isFinite (selectedQty (some p)) = true ∧
              PyFloat.isFinite price = true := by
            simpa [selectedNotionalKnown, hheld, hselected] using hknown
          exact hpriced.2
        obtain ⟨hvalue, hnonneg⟩ := (husable p hp).valued price hprice hflat hfinite
        refine ⟨hqty, hnotional ▸ hvalue, hnotional ▸ hnonneg, ?_⟩
        rw [hnotional]
        have hcovered :=
          value_le_exposure hprice hflat hfinite snapshot.positions (PyFloat.lit 0, true)
          husable hp LawfulOrder.zero_le_zero
        exact fun h => LawfulOrder.not_lt_of_le hcovered h.2.2
    · rw [if_neg hknown] at hnotional
      exact hunvalued hnotional

end AccountState

/-- A snapshot that is read for every symbol with the account's own figures, and
with which every command is decided unless a contract rejects the decision. -/
structure UsableForEverySymbol (snapshot : AccountSnapshot F) (base : AccountState F) : Prop where
  read : ∀ symbol, ∃ state, AccountState.fromSnapshot snapshot (some symbol) = .ok state ∧
    AccountState.SameAccount state base
  decided :
      ∀ (s : LegacyService F) (command : TacticalCommand F) (turn : CommandTurn) (e : PyError),
    s.account.accountSnapshot = some snapshot → s.handleCommand command turn = .error e →
      e ∈ LegacyService.contractErrors

/-- **An accepted snapshot can be used for every symbol exactly when all its
positions are usable.** -/
theorem every_symbol_usable_iff [LawfulOrder F] {snapshot : AccountSnapshot F}
    {base : AccountState F} (hbase : AccountState.fromSnapshot snapshot none = .ok base) :
    UsableForEverySymbol snapshot base ↔ ∀ p ∈ snapshot.positions, Usable p := by
  have haccepted := AccountState.fromSnapshot_ok_iff.mp hbase
  obtain ⟨hnodup, hbounds, _⟩ := haccepted
  constructor
  · intro h p hp
    have hfits := (AccountState.read_ok_iff hbase).mp (h.read p.symbol)
    have hselect : AccountState.select snapshot (some p.symbol) = some p :=
      AccountState.find?_symbol hnodup hp
    rw [hselect] at hfits
    exact hfits.usable
  · intro husable
    have hgross : PyFloat.lit 0 ≤ (AccountState.exposure snapshot).1 :=
      le_exposure snapshot.positions (PyFloat.lit 0, true) husable LawfulOrder.zero_le_zero
    have hread : ∀ symbol, ∃ state, AccountState.fromSnapshot snapshot (some symbol) = .ok state ∧
        AccountState.SameAccount state base := by
      intro symbol
      rw [AccountState.read_ok_iff hbase]
      cases hselect : AccountState.select snapshot (some symbol) with
      | none => exact AccountState.selectedFits_none hgross
      | some p =>
        exact AccountState.selectedFits_some husable (List.mem_of_find?_eq_some hselect) hgross
    refine ⟨hread, ?_⟩
    intro s command turn e hheld herror
    rcases LegacyService.handleCommand_error herror with hcontract | hreading
    · exact hcontract
    · -- the account in force is read without an error
      obtain ⟨state, hstate, _⟩ := hread command.symbol
      unfold LegacyService.accountFor at hreading
      rw [hheld] at hreading
      dsimp only at hreading
      rw [hstate] at hreading
      cases hreading

namespace Scenario

open GridFloat

/-- Some binary64 floats with their spellings, up to one whose square overflows. -/
def wideFloats : List (Rat × Rat) :=
  [(0, 0),
    (5764607523034235 / 2305843009213693952, 25 / 10000),
    (5764607523034235 / 576460752303423488, 1 / 100),
    (5764607523034235 / 288230376151711744, 2 / 100),
    (1, 1),
    (3, 3),
    (5, 5),
    (10, 10),
    (30, 30),
    (60, 60),
    (100, 100),
    (1000, 1000),
    (10000, 10000),
    (93600, 93600),
    (250000, 250000),
    (2 ^ 600, 4149515568880993 * 10 ^ 165)]

def wideValue (x : Fin 16) : Rat := (wideFloats.getD x (0, 0)).1

def wideSpelling (x : Fin 16) : Rat := (wideFloats.getD x (0, 0)).2

/-- The format of these floats, with binary64's own overflow threshold. -/
def wideFormat : FloatGrid where
  size := 15
  value := wideValue
  value_strictMono x y := by
    revert x y
    decide +kernel
  zero := ⟨0, by decide⟩
  value_zero := rfl
  nearest := FloatGrid.closest wideValue
  nearest_le := FloatGrid.closest_le wideValue
  spell := wideSpelling
  spell_zero := rfl
  nearest_spell := by decide +kernel
  overflow := 2 ^ 1024 - 2 ^ 970
  spell_lt_overflow := by decide +kernel
  neg_overflow_lt_spell := by decide +kernel

/-- A float of the format. -/
abbrev Wide := GridFloat wideFormat

/-- A position of the account, marked at a price or not priced at all. -/
def positionAt (symbol : String) (quantity : Rat) (mark : Option Rat) : PositionSnapshot Wide where
  messageId := "position-1"
  source := "kairos-execution-engine"
  schemaVersion := "1.0"
  producedAt := ⟨true, 1⟩
  correlationId := none
  causationId := none
  exchange := "evedex"
  accountId := "primary"
  symbol := symbol
  signedQuantity := ofRat quantity
  entryPrice := none
  markPrice := mark.map ofRat
  leverage := ofRat 1
  liquidationPrice := none
  unrealizedPnlUsd := ofRat 0
  protectiveStopOrderId := none
  capturedAt := ⟨true, 1⟩

/-- A reconciled account of ten thousand with given positions. -/
def accountWith (positions : List (PositionSnapshot Wide)) : AccountSnapshot Wide where
  source := "kairos-execution-engine"
  schemaVersion := "1.0"
  exchange := "evedex"
  accountId := "primary"
  equityUsd := ofRat 10000
  availableBalanceUsd := ofRat 10000
  marginUsedUsd := ofRat 0
  peakEquityUsd := ofRat 10000
  dailyPnlPct := ofRat 0
  realizedPnlUsd := ofRat 0
  unrealizedPnlUsd := ofRat 0
  positions := positions
  openOrderIds := []
  capturedAt := ⟨true, 1⟩
  reconciled := true
  messageId := "snapshot-1"
  producedAt := ⟨true, 1⟩
  correlationId := none
  causationId := none
  reconciliationDetail := ""

/-- A priced position and one without a price: the exposure is unknown, and
every symbol can be read. -/
theorem unpriced_position_usable :
    UsableForEverySymbol
      (accountWith [positionAt "BTCUSDT" 1 (some 100), positionAt "ETHUSDT" 10 none])
      ((AccountState.fromSnapshot (accountWith [positionAt "BTCUSDT" 1 (some 100),
        positionAt "ETHUSDT" 10 none]) none).toOption.get (by decide +kernel)) :=
  (every_symbol_usable_iff (eq_ok_of_isSome (by decide +kernel))).mpr (by decide +kernel)

/-- The default limits. -/
def wideSettings : LegacyRiskSettings Wide where
  serviceName := "kairos-risk-manager"
  maxDailyDrawdownPct := ofRat 3
  strategicAllocationMaxAgeS := ofRat 93600
  paperStrategyAllowlist := []
  paperAccountId := "kairos-paper-dev-01"
  paperAccountSnapshotMaxAgeS := ofRat 30
  paperPerTradeRiskFraction := ofRat (25 / 10000)
  paperMaxTotalOpenRiskFraction := ofRat (1 / 100)
  paperMaxLeverage := ofRat 1
  paperMaxPositionNotionalUsd := ofRat 1000
  paperMinNotionalUsd := ofRat 5
  paperDecisionCacheSize := 10000
  paperRegimeMacroSource := "kairos-macro-strategist"
  hardLeverageLimit := ofRat 10
  safeLeverageCap := ofRat 5
  maxAllowedLeverage := ofRat 10
  perTradeRiskFraction := ofRat (2 / 100)
  maxPositionNotionalUsd := ofRat 250000
  minNotionalUsd := ofRat 5
  requireReconciledAccount := true
  accountSnapshotMaxAgeS := ofRat 60
  requireStrategicAllocation := true
  perTradeRiskFraction_pos := by decide +kernel
  perTradeRiskFraction_le := by decide +kernel
  totalOpenRiskFraction_pos := by decide +kernel
  totalOpenRiskFraction_le := by decide +kernel
  leverage_ge := by decide +kernel
  leverage_le := by decide +kernel
  decisionCacheSize_pos := RiskSettings.defaults.decisionCacheSize_pos
  hardLeverageLimit_pos := by decide +kernel
  safeLeverageCap_pos := by decide +kernel
  maxAllowedLeverage_pos := by decide +kernel
  dailyDrawdown_pos := by decide +kernel
  dailyDrawdown_le := by decide +kernel
  riskFraction_pos := by decide +kernel
  riskFraction_le := by decide +kernel
  maxPositionNotional_pos := by decide +kernel
  minNotional_pos := by decide +kernel
  snapshotMaxAge_pos := by decide +kernel
  allocationMaxAge_pos := by decide +kernel
  safe_le_allowed := by decide +kernel
  allowed_le_hard := by decide +kernel
  min_le_max := by decide +kernel
  finite := by decide +kernel

/-- The account a service starts with. -/
def wideStart : AccountState Wide where
  equityUsd := ofRat 10000
  peakEquityUsd := ofRat 10000
  dailyPnlPct := ofRat 0
  grossExposureUsd := ofRat 0
  grossExposureKnown := true
  openPositionQty := ofRat 0
  openPositionNotionalUsd := ofRat 0
  openPositionNotionalKnown := false
  reconciled := false
  in_bounds := by decide +kernel
  invariants := by decide +kernel

/-- A service that has received one account, with contracts that accept everything. -/
def serviceWith (snapshot : AccountSnapshot Wide) : LegacyService Wide where
  pipeline :=
    { core :=
        { general := fun _ => "", fixed2 := fun _ => "", grouped := fun _ => "", uuid5Url := id
          orderIntentValid := fun _ => true, validatedOrderValid := fun _ => true }
      settings := wideSettings }
  symbolAllowed _ := true
  account := (LegacyAccount.init wideStart).consumeAccount snapshot
  allocation := LegacyAllocation.init

/-- An exit. -/
def exitCommand : TacticalCommand Wide where
  messageId := "command-1"
  correlationId := none
  symbol := "BTCUSDT"
  reasonCode := .closePosition
  targetSide := .flat
  requestedLeverage := ofRat 1
  referencePrice := ofRat 100

/-- The account holds a position whose value overflows. -/
def hugeAccount : AccountSnapshot Wide :=
  accountWith [positionAt "BTCUSDT" (2 ^ 600) (some (2 ^ 600))]

/-- It is accepted and in force, and the exit of its position is not decided. -/
theorem huge_position_blocks_exit :
    (AccountState.fromSnapshot hugeAccount none).toBool = true ∧
    (serviceWith hugeAccount).account.accountSnapshot = some hugeAccount ∧
    (AccountState.fromSnapshot hugeAccount (some "BTCUSDT")).toBool = false ∧
    (serviceWith hugeAccount).handleCommand exitCommand ⟨⟨true, 1⟩, ⟨true, 1⟩, .normal⟩
      = .error (.valueError "validation error for AccountState") :=
  ⟨by decide +kernel, by decide +kernel, by decide +kernel, by decide +kernel⟩

end Scenario

end KairosRisk
