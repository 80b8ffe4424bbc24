import KairosRisk.PaperAdmission
import KairosRisk.RegimeBindings
import Mathlib.Data.List.Sort
import Mathlib.Data.String.Basic

/-!
# The strategy allowlist, as configured and as enforced

The allowlist is configured as texts `<strategy_id>@<revision>`. At startup the
texts are split to bind the regime policy to the strategies that may trade; at
run time an intent's id and revision are joined to look them up.

`allowlist_authority` says that the two agree: what was configured, what the
policy was bound to and what is ever approved are one set of pairs.
-/

namespace KairosRisk

open PyLib

/-! ## Texts in two parts -/

/-- `text.split(ch, maxsplit=1)` of a text with the character. -/
def splitOnce (ch : Char) (text : String) : String × String :=
  let before := text.toList.takeWhile fun c => c != ch
  (String.ofList before, String.ofList (text.toList.drop (before.length + 1)))

/-- What a text is split into, it was joined of. -/
theorem splitOnce_join {a b : String} (h : '@' ∉ a.toList) :
    splitOnce '@' (a ++ "@" ++ b) = (a, b) := by
  have hchars : (a ++ "@" ++ b).toList = a.toList ++ '@' :: b.toList := by simp
  have hbefore : (a.toList ++ '@' :: b.toList).takeWhile (fun c => c != '@') = a.toList := by
    rw [List.takeWhile_append_of_pos]
    · simp
    · intro c hc
      have hne : c ≠ '@' := fun heq => h (heq ▸ hc)
      simpa using hne
  rw [splitOnce, hchars, hbefore, List.drop_length_add_append]
  simp

/-- Joining the parts gives the text. -/
theorem join_splitOnce {text : String} (h : '@' ∈ text.toList) :
    (splitOnce '@' text).1 ++ "@" ++ (splitOnce '@' text).2 = text := by
  have hparts : ∀ cs : List Char, '@' ∈ cs →
      cs.takeWhile (fun c => c != '@')
        ++ '@' :: cs.drop ((cs.takeWhile fun c => c != '@').length + 1) = cs := by
    intro cs
    induction cs with
    | nil => intro hmem; cases hmem
    | cons c cs ih =>
      intro hmem
      by_cases hc : c = '@'
      · subst hc
        simp
      · have hrest : '@' ∈ cs := (List.mem_cons.mp hmem).resolve_left fun heq => hc heq.symm
        rw [List.takeWhile_cons_of_pos (by simpa using hc), List.length_cons, List.drop_succ_cons,
          List.cons_append, ih hrest]
  apply String.toList_injective
  have hjoined := hparts text.toList h
  simpa [splitOnce] using hjoined

/-! ## Sorting to one list -/

theorem pairwise_insertSorted (x : String) : ∀ {l : List String}, l.Pairwise (· ≤ ·) →
    (insertSorted (fun a b => decide (a ≤ b)) x l).Pairwise (· ≤ ·)
  | [], _ => List.pairwise_singleton _ x
  | y :: l, h => by
    obtain ⟨hy, hl⟩ := List.pairwise_cons.mp h
    rw [insertSorted]
    split
    next hxy =>
      have hxy : x ≤ y := of_decide_eq_true hxy
      refine List.pairwise_cons.mpr ⟨fun z hz => ?_, h⟩
      rcases List.mem_cons.mp hz with rfl | hz
      · exact hxy
      · exact le_trans hxy (hy z hz)
    next hxy =>
      have hyx : y ≤ x := (le_total x y).resolve_left fun hle => hxy (decide_eq_true hle)
      refine List.pairwise_cons.mpr ⟨fun z hz => ?_, pairwise_insertSorted x hl⟩
      rcases (mem_insertSorted _).mp hz with rfl | hz
      · exact hyx
      · exact hy z hz

theorem pairwise_sortedNames : ∀ l : List String, (sortedNames l).Pairwise (· ≤ ·)
  | [] => List.Pairwise.nil
  | x :: l => pairwise_insertSorted x (pairwise_sortedNames l)

/-- Names are sorted to one list, in whatever order they come. -/
theorem sortedNames_congr {l l' : List String} (h : l'.Perm l) : sortedNames l' = sortedNames l :=
  List.Perm.eq_of_pairwise' (pairwise_sortedNames l') (pairwise_sortedNames l)
    (((sorted_perm _ l').trans h).trans (sorted_perm _ l).symm)

/-! ## The configured entries -/

/-- One round of the loop of `validate_paper_strategy_allowlist`. -/
def checkEntry (item : String) : Except PyError Unit := do
  raiseIf (!isStripped item || item.toList.count '@' ≠ 1)
    "paper strategy allowlist entries must be normalized '<strategy_id>@<revision>'"
  let parts := splitOnce '@' item
  raiseIf (parts.1 = "" || parts.2 = "")
    "paper strategy allowlist entries require strategy_id and revision"

/-- `validate_paper_strategy_allowlist`. -/
def validatePaperStrategyAllowlist (value : List String) : Except PyError (List String) := do
  value.forM checkEntry
  raiseIf (value.length ≠ value.eraseDups.length) "paper strategy allowlist entries must be unique"
  return sortedNames value

theorem forM_ok_iff {α : Type} {f : α → Except PyError Unit} : ∀ {l : List α},
    l.forM f = .ok () ↔ ∀ a ∈ l, f a = .ok ()
  | [] => by
    simp only [List.not_mem_nil, false_implies, implies_true, iff_true]
    rfl
  | a :: l => by
    rw [List.forM_eq_forM, List.forM_cons, List.forall_mem_cons, ← forM_ok_iff (l := l)]
    cases f a with
    | error e =>
      constructor
      · intro h
        cases h
      · rintro ⟨h, _⟩
        cases h
    | ok _ => exact ⟨fun h => ⟨rfl, h⟩, fun h => h.2⟩

/-- The allowlist is the entries, each once and in order. -/
theorem validate_ok_iff {value allow : List String} :
    validatePaperStrategyAllowlist value = .ok allow ↔
      (∀ item ∈ value, checkEntry item = .ok ()) ∧ value.Nodup ∧ sortedNames value = allow := by
  unfold validatePaperStrategyAllowlist
  constructor
  · intro h
    obtain ⟨_, hentries, h⟩ := ok_of_bind h
    obtain ⟨hunique, h⟩ := ok_of_raiseIf_ne h
    exact ⟨forM_ok_iff.mp hentries, nodup_of_length_eraseDups value hunique.symm,
      Except.ok.inj h⟩
  · rintro ⟨hentries, hnodup, rfl⟩
    rw [forM_ok_iff.mpr hentries, ok_bind, raiseIf_bind]
    · rfl
    · rw [eraseDups_of_nodup hnodup]
      simp

/-- The order of the entries does not matter. -/
theorem validate_perm {value value' allow : List String}
    (h : validatePaperStrategyAllowlist value = .ok allow) (hperm : value'.Perm value) :
    validatePaperStrategyAllowlist value' = .ok allow := by
  obtain ⟨hentries, hnodup, rfl⟩ := validate_ok_iff.mp h
  exact validate_ok_iff.mpr ⟨fun item hitem => hentries item (hperm.subset hitem),
    hperm.nodup_iff.mpr hnodup, sortedNames_congr hperm⟩

/-- An entry has one "@". -/
theorem count_of_checkEntry {item : String} (h : checkEntry item = .ok ()) :
    item.toList.count '@' = 1 := by
  unfold checkEntry at h
  obtain ⟨hform, _⟩ := ok_of_raiseIf h
  simp only [Bool.or_eq_false_iff, decide_eq_false_iff_not, Decidable.not_not] at hform
  exact hform.2

/-- **An entry is its two parts**: what is looked up is what was configured. -/
theorem splitOnce_entry_iff {item strategyId revision : String} (h : checkEntry item = .ok ()) :
    splitOnce '@' item = (strategyId, revision) ↔ item = strategyId ++ "@" ++ revision := by
  have hcount := count_of_checkEntry h
  constructor
  · intro hsplit
    have hjoin := join_splitOnce (List.count_pos_iff.mp (by omega : 0 < item.toList.count '@'))
    rw [hsplit] at hjoin
    exact hjoin.symm
  · rintro rfl
    apply splitOnce_join
    intro hmem
    have hpos := List.count_pos_iff.mpr hmem
    simp only [String.toList_append, List.count_append] at hcount
    have hsep : List.count '@' "@".toList = 1 := by decide
    omega

/-! ## The policy bound at startup -/

inductive RegimePolicyProfile where
  | legacyV1
  | adaptiveResearchV1
  deriving DecidableEq

/-- The regime settings, which are read at startup only. -/
structure RegimeArtifacts where
  paperRegimePolicyProfile : RegimePolicyProfile
  paperRegimePolicyFile : Option String
  paperRegimePolicySha256 : Option String
  paperRegimeSourceSetSha256 : Option String

/-- What startup takes from outside: the file and the capability contract. -/
structure RegimeRelease (F : Type) where
  /-- `path.read_bytes()`. -/
  readBytes : String → Except PyError String
  /-- `RegimeCapabilityPolicyV1.model_validate_json`. -/
  modelValidateJson : String → Except PyError (RegimeCapabilityPolicyV1 F)
  /-- `validate_policy_binding`, which takes the set of strategies by its membership. -/
  validatePolicyBinding : RegimeCapabilityPolicyV1 F → String → String →
    (String × String → Bool) → Except PyError Unit

variable {F D : Type} [PyFloat F]

/-- The `allowed` that `load_regime_policy` collects. -/
def RiskSettings.allowedStrategyRevisions (settings : RiskSettings F) : List (String × String) :=
  (settings.paperStrategyAllowlist.map (splitOnce '@')).filter fun pair =>
    settings.paperStrategyAllowed pair.1 pair.2 && pair.1 != paperCanaryStrategyId

/-- `load_regime_policy`. -/
def RiskSettings.loadRegimePolicy (settings : RiskSettings F) (artifacts : RegimeArtifacts)
    (release : RegimeRelease F) : Except PyError (Option (RegimeCapabilityPolicyV1 F)) :=
  match artifacts.paperRegimePolicyProfile with
  | .legacyV1 => .ok none
  | .adaptiveResearchV1 =>
    match artifacts.paperRegimePolicyFile, artifacts.paperRegimePolicySha256,
        artifacts.paperRegimeSourceSetSha256 with
    | some file, some sha256, some sourceSet => do
      let bytes ← release.readBytes file
      let policy ← release.modelValidateJson bytes
      let allowed := settings.allowedStrategyRevisions
      release.validatePolicyBinding policy sha256 sourceSet fun pair => allowed.contains pair
      return some policy
    | _, _, _ => .error (.valueError
      "adaptive regime policy requires independently frozen file/hash/source set")

/-- `PaperRiskPipeline(settings)`. -/
def PaperRiskPipeline.load (core : KairosCore F) (settings : RiskSettings F)
    (artifacts : RegimeArtifacts) (release : RegimeRelease F) :
    Except PyError (PaperRiskPipeline F D) := do
  let regimePolicy ← settings.loadRegimePolicy artifacts release
  return { core, settings, regimePolicy }

/-- A loaded policy was bound to the strategies that may trade. -/
theorem loadRegimePolicy_some {settings : RiskSettings F} {artifacts : RegimeArtifacts}
    {release : RegimeRelease F} {policy : RegimeCapabilityPolicyV1 F}
    (h : settings.loadRegimePolicy artifacts release = .ok (some policy)) :
    ∃ sha256 sourceSet, artifacts.paperRegimePolicySha256 = some sha256 ∧
      artifacts.paperRegimeSourceSetSha256 = some sourceSet ∧
      release.validatePolicyBinding policy sha256 sourceSet
        (fun pair => settings.allowedStrategyRevisions.contains pair) = .ok () := by
  unfold RiskSettings.loadRegimePolicy at h
  split at h
  next => cases h
  next =>
    split at h
    next file sha256 sourceSet _ hsha hsource =>
      obtain ⟨bytes, _, h⟩ := ok_of_bind h
      obtain ⟨policy', _, h⟩ := ok_of_bind h
      obtain ⟨_, hbound, h⟩ := ok_of_bind h
      cases h
      exact ⟨sha256, sourceSet, hsha, hsource, hbound⟩
    next => cases h

/-! ## One set of strategies -/

/-- The run-time gate is membership in what was configured. -/
theorem paperStrategyAllowed_iff {settings : RiskSettings F} {value : List String}
    (hvalid : validatePaperStrategyAllowlist value = .ok settings.paperStrategyAllowlist)
    {strategyId revision : String} :
    settings.paperStrategyAllowed strategyId revision = true ↔
      strategyId ∉ rejectedPaperStrategyIds ∧
        ∃ item ∈ value, splitOnce '@' item = (strategyId, revision) := by
  obtain ⟨hentries, _, hsorted⟩ := validate_ok_iff.mp hvalid
  unfold RiskSettings.paperStrategyAllowed
  simp only [Bool.and_eq_true, Bool.not_eq_true', List.contains_eq_mem, decide_eq_true_eq,
    decide_eq_false_iff_not]
  refine and_congr Iff.rfl ?_
  rw [← hsorted]
  constructor
  · intro hmem
    have hitem := (mem_sorted _).mp hmem
    exact ⟨_, hitem, (splitOnce_entry_iff (hentries _ hitem)).mpr rfl⟩
  · rintro ⟨item, hitem, hsplit⟩
    rw [← (splitOnce_entry_iff (hentries _ hitem)).mp hsplit]
    exact (mem_sorted _).mpr hitem

/-- The set collected at startup is that of the gate, without the canary. -/
theorem mem_allowedStrategyRevisions {settings : RiskSettings F} {value : List String}
    (hvalid : validatePaperStrategyAllowlist value = .ok settings.paperStrategyAllowlist)
    {strategyId revision : String} :
    (strategyId, revision) ∈ settings.allowedStrategyRevisions ↔
      settings.paperStrategyAllowed strategyId revision = true ∧
        strategyId ≠ paperCanaryStrategyId := by
  unfold RiskSettings.allowedStrategyRevisions
  rw [List.mem_filter, Bool.and_eq_true, bne_iff_ne]
  refine ⟨fun h => h.2, fun h => ⟨?_, h⟩⟩
  obtain ⟨_, item, hitem, hsplit⟩ := (paperStrategyAllowed_iff hvalid).mp h.1
  obtain ⟨_, _, hsorted⟩ := validate_ok_iff.mp hvalid
  rw [← hsorted]
  exact List.mem_map.mpr ⟨item, (mem_sorted _).mpr hitem, hsplit⟩

variable [DecidableEq F] [PyDecimal D] [Spelling F D] in
/-- **The allowlist is one set of strategies**, in whatever order it is configured:
what is approved was configured, and the regime policy was bound at startup to
exactly what the run-time gate lets through, but for the canary. -/
theorem allowlist_authority (core : KairosCore F) (settings : RiskSettings F)
    (artifacts : RegimeArtifacts) (release : RegimeRelease F) (p : PaperRiskPipeline F D)
    (value : List String)
    (hvalid : validatePaperStrategyAllowlist value = .ok settings.paperStrategyAllowlist)
    (hload : PaperRiskPipeline.load core settings artifacts release = .ok p) :
    (∀ value' : List String, value'.Perm value →
      validatePaperStrategyAllowlist value' = .ok settings.paperStrategyAllowlist) ∧
    (∀ x d, p.evaluate x = .ok d → d.approved = true →
      x.review.intent.strategyId ∉ rejectedPaperStrategyIds ∧
        ∃ item ∈ value, splitOnce '@' item
          = (x.review.intent.strategyId, x.review.intent.strategyRevision)) ∧
    ∀ policy, p.regimePolicy = some policy →
      ∃ sha256 sourceSet allowed, artifacts.paperRegimePolicySha256 = some sha256 ∧
        artifacts.paperRegimeSourceSetSha256 = some sourceSet ∧
        release.validatePolicyBinding policy sha256 sourceSet allowed = .ok () ∧
        ∀ strategyId revision, allowed (strategyId, revision) = true ↔
          p.settings.paperStrategyAllowed strategyId revision = true ∧
            strategyId ≠ paperCanaryStrategyId := by
  unfold PaperRiskPipeline.load at hload
  obtain ⟨regimePolicy, hpolicy, hload⟩ := ok_of_bind hload
  cases hload
  refine ⟨fun value' hperm => validate_perm hvalid hperm, ?_, ?_⟩
  · intro x d h ha
    obtain ⟨quantity, hsize, _⟩ := PaperRiskPipeline.approved_sized h ha
    have hreview := (PaperRiskPipeline.gates_reasons_eq_nil
      (PaperRiskPipeline.size_no_reasons hsize)).2.1
    simp only [PaperRiskPipeline.reviewReasons, List.append_eq_nil_iff, reasonIf_eq_nil,
      Bool.not_eq_false'] at hreview
    exact (paperStrategyAllowed_iff hvalid).mp hreview.1.1.1.1.1.1.1.1.2
  · rintro policy rfl
    obtain ⟨sha256, sourceSet, hsha, hsource, hbound⟩ := loadRegimePolicy_some hpolicy
    refine ⟨sha256, sourceSet, _, hsha, hsource, hbound, fun strategyId revision => ?_⟩
    rw [List.contains_iff_mem]
    exact mem_allowedStrategyRevisions hvalid

/-! ## Two strategies, one of them the canary -/

namespace Scenario

/-- The adaptive profile, its artifacts frozen. -/
def frozen : RegimeArtifacts where
  paperRegimePolicyProfile := .adaptiveResearchV1
  paperRegimePolicyFile := some "regime-policy.json"
  paperRegimePolicySha256 := some regimePolicy.policySha256
  paperRegimeSourceSetSha256 := some "sources"

/-- A release whose policy names one strategy, and is bound where that may trade. -/
def research : RegimeRelease Rat where
  readBytes _ := .ok "policy"
  modelValidateJson _ := .ok regimePolicy
  validatePolicyBinding policy sha256 _ allowed :=
    raiseIf (policy.policySha256 ≠ sha256 || !allowed ("paper-test-strategy", "1"))
      "policy binding is invalid"

/-- The policy was bound to the strategy, and not to the canary. -/
theorem bound_without_canary : ∃ sha256 sourceSet allowed,
    research.validatePolicyBinding regimePolicy sha256 sourceSet allowed = .ok () ∧
      allowed ("paper-test-strategy", "1") = true ∧ ¬allowed ("technical-canary", "1") = true := by
  obtain ⟨_, _, hbound⟩ := allowlist_authority adaptiveMarket.core adaptiveMarket.settings frozen
    research adaptiveMarket ["technical-canary@1", "paper-test-strategy@1"] (by decide +kernel) rfl
  obtain ⟨sha256, sourceSet, allowed, _, _, hvalid, hallowed⟩ := hbound regimePolicy rfl
  refine ⟨sha256, sourceSet, allowed, hvalid, (hallowed _ _).mpr (by decide +kernel), fun h => ?_⟩
  exact ((hallowed _ _).mp h).2 rfl

end Scenario

end KairosRisk
