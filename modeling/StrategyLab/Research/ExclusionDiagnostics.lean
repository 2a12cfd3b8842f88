import StrategyLab.Research.DataQuality
import StrategyLab.Research.MultiSymbol
import StrategyLab.Lib.Dict
import StrategyLab.Lib.Sets
import Mathlib.Algebra.BigOperators.Group.List.Lemmas

/-! Exclusion diagnostics: why symbols were excluded, how many each reason took, and the funnel. -/

variable {item : ExclusionEvidence}

namespace StrategyLab

/-- What is known about a symbol, with its bars counted and the findings that block it. -/
structure ExclusionEvidence extends SymbolResearchEvidence where
  rows : Int
  blockingFindings : List DataQualityFinding

/-- The codes of findings with the categories of exclusions they belong to. -/
def exclusionCategoryQualityCodes : List (String × String) :=
  [("insufficient_lookback", "insufficient_bars"),
    ("duplicate_bars", "data_quality_failure"),
    ("invalid_ohlc", "data_quality_failure"),
    ("symbol_mismatch", "data_quality_failure"),
    ("negative_volume", "data_quality_failure"),
    ("timestamp_ordering", "data_quality_failure"),
    ("abnormal_volume", "data_quality_failure"),
    ("zero_volume", "stale_data")]

/-- The category of a code, if the table has it. -/
def exclusionCategory (code : String) : Option String :=
  exclusionCategoryQualityCodes.lookup code

/-- The code that marks an exception on the way to a dataset; it is no finding on quality. -/
def acquisitionExceptionFindingCode : String := "provider_failure"

/-- The texts that name a symbol which could not be resolved. -/
def resolutionTokens : List String :=
  ["symbol not found", "symbol resolution", "unresolved symbol", "unknown symbol", "no symbols"]

/-- The texts that name a fetch which failed. -/
def fetchTokens : List String :=
  ["realmarketdataunavailable", "connectionerror", "urlerror", "httperror", "no bars",
    "no usable bars", "fetch", "network", "connection"]

section Classification

variable (order : Py.SetOrder String) (casefold : String → String)

/-- Why a symbol failed before its dataset was looked at. -/
def classifyAcquisitionFailure (blockedReason : Option String) : String :=
  let reason := casefold (blockedReason.getD "")
  if reason = "" then "other"
  else if Py.contains reason "timeout" then "timeout"
  else if Py.contains reason "kis" ∧
      (Py.contains reason "mismatch" ∨ Py.contains reason "master") then "kis_master_mismatch"
  else if Py.contains reason "unsupported" then "unsupported_security"
  else if resolutionTokens.any (Py.contains reason) then "symbol_resolution_failure"
  else if fetchTokens.any (Py.contains reason) then "provider_fetch_failure"
  else "other"

/-- The codes of the findings on quality, as a set visits them. -/
def qualityCodes (item : ExclusionEvidence) : List String :=
  order.iterate
    ((item.blockingFindings.map (·.code)).filter (· ≠ acquisitionExceptionFindingCode))

/-- Why a symbol was excluded. -/
def classifyExclusionReason (item : ExclusionEvidence) : String :=
  if item.eligible then "eligible"
  else if qualityCodes order item = [] then
    classifyAcquisitionFailure casefold item.blockedReason
  else
    ((qualityCodes order item).findSome? exclusionCategory).getD "data_quality_failure"

/-- How many symbols a category took. -/
structure CategoryCount where
  category : String
  count : Nat
  deriving DecidableEq

/-- The number of symbols under each category. -/
abbrev CategoryTable := Table CategoryCount.category

/-- The number under a category, zero where there is none. -/
def CategoryTable.countOf (counts : CategoryTable) (category : String) : Nat :=
  (counts.find? category).elim 0 (·.count)

/-- Count one more symbol under a category. -/
def CategoryTable.add (counts : CategoryTable) (category : String) : CategoryTable :=
  counts.assign ⟨category, counts.countOf category + 1⟩

/-- The excluded symbols, counted by category. -/
structure ExclusionDiagnostics where
  totalExcluded : Nat
  byCategory : CategoryTable
  providerRelatedExcluded : Nat
  excludedSymbols : List String

/-- The categories that a provider is responsible for. -/
def providerCategories : List String :=
  ["provider_fetch_failure", "timeout", "kis_master_mismatch", "symbol_resolution_failure"]

/-- Count the excluded symbols of some evidence by category. -/
def exclusionDiagnostics (evidence : List ExclusionEvidence) : ExclusionDiagnostics :=
  let excluded := evidence.filter (!·.eligible)
  let byCategory := (excluded.map (classifyExclusionReason order casefold)).foldl
    CategoryTable.add Table.empty
  let provider := byCategory.rows.filter (·.category ∈ providerCategories)
  { totalExcluded := excluded.length
    byCategory
    providerRelatedExcluded := (provider.map (·.count)).sum
    excludedSymbols := excluded.map (·.symbol) }

/-- The categories of symbols that were not resolved. -/
def resolutionStageFailureCategories : List String :=
  ["symbol_resolution_failure", "kis_master_mismatch"]

/-- How many symbols got to each stage of a run. -/
structure AcquisitionFunnel where
  selected : Nat
  symbolResolved : Nat
  providerFetchStarted : Nat
  providerFetchSucceeded : Nat
  ohlcvReceived : Nat
  qualityChecked : Nat
  qualityPassed : Nat
  researchEligible : Nat
  strategyTested : Nat
  deriving DecidableEq

/-- The stages in their order. -/
def AcquisitionFunnel.stages (funnel : AcquisitionFunnel) : List Nat :=
  [funnel.selected, funnel.symbolResolved, funnel.providerFetchStarted,
    funnel.providerFetchSucceeded, funnel.ohlcvReceived, funnel.qualityChecked,
    funnel.qualityPassed, funnel.researchEligible, funnel.strategyTested]

/-- A symbol was excluded because it was not resolved. -/
def resolutionFailed (item : ExclusionEvidence) : Bool :=
  !item.eligible &&
    classifyExclusionReason order casefold item ∈ resolutionStageFailureCategories

/-- Count how far the symbols of some evidence got. -/
def acquisitionFunnel (evidence : List ExclusionEvidence) : AcquisitionFunnel :=
  let selected := evidence.length
  let fetched := evidence.countP (0 < ·.rows)
  let qualityPassed := evidence.countP (·.eligible)
  { selected
    -- The difference of the two numbers, but not below zero.
    symbolResolved := selected - evidence.countP (resolutionFailed order casefold)
    providerFetchStarted := selected
    providerFetchSucceeded := fetched
    ohlcvReceived := fetched
    qualityChecked := fetched
    qualityPassed
    researchEligible := qualityPassed
    strategyTested := evidence.countP fun item => item.eligible && item.backtestResult.isSome }

end Classification

/-- The symbols of each category are counted, and all counts together are the excluded symbols. -/
structure Partitions (order : Py.SetOrder String) (casefold : String → String)
    (evidence : List ExclusionEvidence) : Prop where
  each : ∀ category,
    (exclusionDiagnostics order casefold evidence).byCategory.countOf category =
      (evidence.filter (!·.eligible)).countP
        (classifyExclusionReason order casefold · = category)
  total : ((exclusionDiagnostics order casefold evidence).byCategory.rows.map (·.count)).sum =
    (evidence.filter (!·.eligible)).length

/-- No stage has more symbols than one before it. -/
def AcquisitionFunnel.Narrows (funnel : AcquisitionFunnel) : Prop :=
  funnel.stages.Pairwise fun earlier later => later ≤ earlier

/-- The category of a symbol is the same however its findings are listed and visited. -/
def OrderFree (casefold : String → String) (item : ExclusionEvidence) : Prop :=
  ∀ (order other : Py.SetOrder String) (listed : List DataQualityFinding),
    listed.Perm item.blockingFindings →
      classifyExclusionReason order casefold item =
        classifyExclusionReason other casefold { item with blockingFindings := listed }

/-- In whatever order sets are visited, the diagnostics partition the excluded symbols and the
funnel narrows, and no category depends on the order of findings. -/
structure DiagnosesExclusions (casefold : String → String) (evidence : List ExclusionEvidence) :
    Prop where
  partitions : ∀ order, Partitions order casefold evidence
  narrows : ∀ order, (acquisitionFunnel order casefold evidence).Narrows
  orderFree : ∀ item ∈ evidence, OrderFree casefold item

/-- A text, in small letters, names a failure to resolve a symbol. -/
def NamesResolutionFailure (reason : String) : Prop :=
  reason ≠ "" ∧ ¬Py.contains reason "timeout" ∧
    (Py.contains reason "kis" ∧ (Py.contains reason "mismatch" ∨ Py.contains reason "master") ∨
      ¬Py.contains reason "unsupported" ∧ resolutionTokens.any (Py.contains reason))

/-- Evidence in which no excluded symbol failed to be resolved, no more symbols are eligible than
have bars, and the findings on an excluded symbol all belong to one category. -/
structure Unambiguous (casefold : String → String) (evidence : List ExclusionEvidence) :
    Prop where
  resolved : ∀ item ∈ evidence, item.eligible = false →
    (∀ finding ∈ item.blockingFindings, finding.code = acquisitionExceptionFindingCode) →
    ¬NamesResolutionFailure (casefold (item.blockedReason.getD ""))
  fetched : evidence.countP (·.eligible) ≤ evidence.countP (0 < ·.rows)
  oneCategory : ∀ item ∈ evidence, item.eligible = false →
    ∀ first ∈ item.blockingFindings, ∀ second ∈ item.blockingFindings,
      ∀ one, exclusionCategory first.code = some one →
        ∀ other, exclusionCategory second.code = some other → one = other

section Counting

/-- After one more symbol of a category its number is one higher, and no other one changes. -/
theorem countOf_add (counts : CategoryTable) (added category : String) :
    (counts.add added).countOf category =
      counts.countOf category + if category = added then 1 else 0 := by
  rw [CategoryTable.add, CategoryTable.countOf, Table.find?_assign]
  by_cases same : category = added
  · subst same
    simp
  · simp [same, CategoryTable.countOf]

/-- Counting adds to each category the symbols that belong to it. -/
theorem countOf_foldl (categories : List String) (counts : CategoryTable) (category : String) :
    (categories.foldl CategoryTable.add counts).countOf category =
      counts.countOf category + categories.count category := by
  induction categories generalizing counts with
  | nil => simp
  | cons added rest ih =>
    rw [List.foldl_cons, ih, countOf_add, List.count_cons]
    -- The first symbol is counted on both sides exactly if it belongs to the category.
    by_cases same : category = added
    · subst same
      simp only [if_pos, beq_self_eq_true]
      omega
    · have apart : ¬added = category := fun equal => same equal.symm
      simp [same, apart]

/-- The categories that are counted are those of the symbols. -/
theorem keyList_foldl_add (categories : List String) (counts : CategoryTable) :
    (categories.foldl CategoryTable.add counts).keyList = Py.addKeys counts.keyList categories := by
  induction categories generalizing counts with
  | nil => rfl
  | cons added rest ih =>
    rw [List.foldl_cons, ih, CategoryTable.add, Table.keyList_assign, Py.addKeys_cons]
    rfl

/-- The counts of all categories add up to the number of symbols. -/
theorem sum_counts (categories : List String) :
    (((categories.foldl CategoryTable.add Table.empty).rows).map (·.count)).sum =
      categories.length := by
  rw [Table.sum_rows, keyList_foldl_add]
  have counted (category : String) :
      (((categories.foldl CategoryTable.add Table.empty).find? category).map (·.count)).getD 0 =
        categories.count category := by
    have found := countOf_foldl categories Table.empty category
    rw [CategoryTable.countOf] at found
    cases row : (categories.foldl CategoryTable.add Table.empty).find? category with
    | none => simpa [row, CategoryTable.countOf] using found
    | some counted => simpa [row, CategoryTable.countOf] using found
  simp only [counted]
  -- The keys are the categories, each once.
  have keys : (Py.addKeys (Table.empty : CategoryTable).keyList categories).Perm
      categories.dedup := by
    refine (List.perm_ext_iff_of_nodup (Py.nodup_addKeys List.nodup_nil _)
      (List.nodup_dedup _)).mpr ?_
    intro category
    simp [List.mem_dedup]
  rw [(keys.map _).sum_eq, List.sum_map_count_dedup_eq_length]

/-- The diagnostics partition the excluded symbols. -/
theorem exclusionDiagnostics_partitions (order : Py.SetOrder String) (casefold : String → String)
    (evidence : List ExclusionEvidence) : Partitions order casefold evidence := by
  constructor
  · intro category
    rw [exclusionDiagnostics, countOf_foldl, List.count_eq_countP, List.countP_map]
    simp only [CategoryTable.countOf, Table.find?_empty, Option.elim_none, Nat.zero_add]
    rfl
  · rw [exclusionDiagnostics, sum_counts, List.length_map]

end Counting

section Stages

variable {order : Py.SetOrder String} {casefold : String → String}

/-- A failure on the way to a dataset is one to resolve the symbol exactly if its text says so. -/
theorem acquisitionFailure_mem_iff {blockedReason : Option String} :
    classifyAcquisitionFailure casefold blockedReason ∈ resolutionStageFailureCategories ↔
      NamesResolutionFailure (casefold (blockedReason.getD "")) := by
  rw [classifyAcquisitionFailure, NamesResolutionFailure]
  generalize casefold (blockedReason.getD "") = reason
  -- The tests are made in this order, and each answers one case of the text.
  by_cases unnamed : reason = ""
  · simp [unnamed, resolutionStageFailureCategories]
  by_cases late : Py.contains reason "timeout" = true
  · simp [unnamed, late, resolutionStageFailureCategories]
  by_cases master : Py.contains reason "kis" = true ∧
      (Py.contains reason "mismatch" = true ∨ Py.contains reason "master" = true)
  · simp only [unnamed, late, master, resolutionStageFailureCategories]
    simp [unnamed]
  by_cases unsupported : Py.contains reason "unsupported" = true
  · simp only [unnamed, late, master, unsupported, resolutionStageFailureCategories]
    simp
  by_cases unresolved : resolutionTokens.any (Py.contains reason) = true
  · simp only [unnamed, late, master, unsupported, unresolved, resolutionStageFailureCategories]
    simp [unnamed]
  · simp only [unnamed, late, master, unsupported, unresolved, resolutionStageFailureCategories]
    by_cases fetch : fetchTokens.any (Py.contains reason) = true
    · simp [fetch]
    · simp [fetch]

/-- The categories of findings are none of a symbol that was not resolved. -/
theorem not_mem_of_exclusionCategory {code category : String}
    (known : exclusionCategory code = some category) :
    category ∉ resolutionStageFailureCategories := by
  have member : (code, category) ∈ exclusionCategoryQualityCodes := by
    obtain ⟨before, after, whole, -⟩ := List.lookup_eq_some_iff.mp known
    simp [whole]
  simp only [exclusionCategoryQualityCodes, List.mem_cons, Prod.mk.injEq, List.not_mem_nil,
    or_false] at member
  rcases member with ⟨-, rfl⟩ | ⟨-, rfl⟩ | ⟨-, rfl⟩ | ⟨-, rfl⟩ | ⟨-, rfl⟩ | ⟨-, rfl⟩ | ⟨-, rfl⟩ |
    ⟨-, rfl⟩
  all_goals simp [resolutionStageFailureCategories]

/-- A set of codes on quality is empty exactly if every finding marks an exception. -/
theorem qualityCodes_eq_nil {item : ExclusionEvidence} :
    qualityCodes order item = [] ↔
      ∀ finding ∈ item.blockingFindings, finding.code = acquisitionExceptionFindingCode := by
  simp [qualityCodes, List.filter_eq_nil_iff]

/-- A symbol counts as not resolved exactly if it is excluded, no finding is on its quality and the
reason names such a failure. -/
theorem resolutionFailed_iff :
    resolutionFailed order casefold item = true ↔
      item.eligible = false ∧
        (∀ finding ∈ item.blockingFindings, finding.code = acquisitionExceptionFindingCode) ∧
        NamesResolutionFailure (casefold (item.blockedReason.getD "")) := by
  rw [resolutionFailed, Bool.and_eq_true, Bool.not_eq_true', decide_eq_true_eq]
  refine and_congr_right fun excluded => ?_
  rw [classifyExclusionReason, if_neg (by simp [excluded]), ← @qualityCodes_eq_nil order item]
  by_cases empty : qualityCodes order item = []
  · rw [if_pos empty, acquisitionFailure_mem_iff]
    simp [empty]
  · -- A finding on quality gives one of the categories of findings.
    rw [if_neg empty]
    refine iff_of_false ?_ (by simp [empty])
    cases found : (qualityCodes order item).findSome? exclusionCategory with
    | none => simp [resolutionStageFailureCategories]
    | some category =>
      obtain ⟨code, -, known⟩ := List.exists_of_findSome?_eq_some found
      exact not_mem_of_exclusionCategory known

/-- The funnel narrows exactly if no symbol was not resolved and no more symbols are eligible than
have bars. -/
theorem narrows_iff {evidence : List ExclusionEvidence} :
    (acquisitionFunnel order casefold evidence).Narrows ↔
      evidence.countP (resolutionFailed order casefold) = 0 ∧
        evidence.countP (·.eligible) ≤ evidence.countP (0 < ·.rows) := by
  have failed := List.countP_le_length (p := resolutionFailed order casefold) (l := evidence)
  have fetched := List.countP_le_length (p := fun item : ExclusionEvidence => 0 < item.rows)
    (l := evidence)
  have tested : evidence.countP (fun item => item.eligible && item.backtestResult.isSome) ≤
      evidence.countP (·.eligible) := by
    refine List.countP_mono_left fun item _ both => ?_
    exact (Bool.and_eq_true _ _ ▸ both).1
  simp only [AcquisitionFunnel.Narrows, AcquisitionFunnel.stages, acquisitionFunnel,
    List.pairwise_cons, List.mem_cons, List.not_mem_nil, or_false, forall_eq_or_imp, forall_eq]
  constructor
  · intro narrows
    omega
  · intro narrows
    simp
    omega

end Stages

section Order

variable {casefold : String → String}

/-- The codes on quality are those of the findings, but for the mark of an exception. -/
theorem mem_qualityCodes {order : Py.SetOrder String} {code : String} :
    code ∈ qualityCodes order item ↔
      (∃ finding ∈ item.blockingFindings, finding.code = code) ∧
        code ≠ acquisitionExceptionFindingCode := by
  rw [qualityCodes, Py.SetOrder.mem_iterate, List.mem_filter, List.mem_map, decide_eq_true_eq]

/-- An eligible symbol has the same category in every order. -/
theorem orderFree_of_eligible (eligible : item.eligible = true) :
    OrderFree casefold item := by
  intro order other listed _
  rw [classifyExclusionReason, classifyExclusionReason, if_pos eligible, if_pos eligible]

/-- The category of an excluded symbol is the same in every order exactly if its findings that
have a category all have the same one. -/
theorem orderFree_iff (excluded : item.eligible = false) :
    OrderFree casefold item ↔
      ∀ first ∈ item.blockingFindings, ∀ second ∈ item.blockingFindings,
        ∀ one, exclusionCategory first.code = some one →
          ∀ other, exclusionCategory second.code = some other → one = other := by
  have classified (order : Py.SetOrder String) (item : ExclusionEvidence)
      (excluded : item.eligible = false) (some_ : qualityCodes order item ≠ []) :
      classifyExclusionReason order casefold item =
        ((qualityCodes order item).findSome? exclusionCategory).getD "data_quality_failure" := by
    rw [classifyExclusionReason, if_neg (by simp [excluded]), if_neg some_]
  constructor
  · intro free first member second there one known other also_
    -- Each of two findings can be the one that a set visits first.
    have leads (finding : DataQualityFinding) (member : finding ∈ item.blockingFindings)
        (category : String) (known : exclusionCategory finding.code = some category) :
        classifyExclusionReason (Py.SetOrder.visitFirst finding.code) casefold item =
          category := by
      have code : finding.code ∈ (item.blockingFindings.map (·.code)).filter
          (· ≠ acquisitionExceptionFindingCode) := by
        refine List.mem_filter.mpr ⟨List.mem_map_of_mem member, ?_⟩
        rw [decide_eq_true_eq]
        intro marks
        rw [marks] at known
        cases known
      have visited : qualityCodes (Py.SetOrder.visitFirst finding.code) item ≠ [] := by
        rw [qualityCodes, Py.SetOrder.iterate_visitFirst code]
        exact List.cons_ne_nil _ _
      rw [classified _ _ excluded visited, qualityCodes, Py.SetOrder.iterate_visitFirst code,
        List.findSome?_cons, known]
      rfl
    rw [← leads first member one known, ← leads second there other also_]
    exact free _ _ _ (List.Perm.refl _)
  · intro agree order other listed same
    have visits (code : String) : code ∈ qualityCodes order item ↔
        code ∈ qualityCodes other { item with blockingFindings := listed } := by
      simp only [mem_qualityCodes, same.mem_iff]
    by_cases empty : qualityCodes order item = []
    · have alsoEmpty : qualityCodes other { item with blockingFindings := listed } = [] := by
        rw [List.eq_nil_iff_forall_not_mem] at empty ⊢
        exact fun code member => empty code ((visits code).mpr member)
      rw [classifyExclusionReason, classifyExclusionReason, if_pos empty, if_pos alsoEmpty]
    · have alsoSome : qualityCodes other { item with blockingFindings := listed } ≠ [] := by
        intro alsoEmpty
        rw [List.eq_nil_iff_forall_not_mem] at alsoEmpty
        refine empty (List.eq_nil_iff_forall_not_mem.mpr ?_)
        exact fun code member => alsoEmpty code ((visits code).mp member)
      rw [classified order item excluded empty,
        classified other { item with blockingFindings := listed } excluded alsoSome]
      -- The same codes are visited, and what is read from them is one category.
      refine congrArg (Option.getD · _) (Py.findSome?_congr_of_agree visits ?_)
      intro first member second there one known two also_
      obtain ⟨⟨finding, found, rfl⟩, -⟩ := mem_qualityCodes.mp member
      obtain ⟨⟨another, alsoFound, rfl⟩, -⟩ := mem_qualityCodes.mp there
      exact agree finding found another alsoFound one known two also_

end Order

/-- The exclusions of some evidence are diagnosed as they should be, in whatever order sets are
visited, exactly if the evidence is unambiguous. -/
theorem diagnosesExclusions_iff (casefold : String → String) (evidence : List ExclusionEvidence) :
    DiagnosesExclusions casefold evidence ↔ Unambiguous casefold evidence := by
  constructor
  · intro diagnoses
    have narrow := narrows_iff.mp (diagnoses.narrows (.visitFirst ""))
    refine ⟨?_, narrow.2, ?_⟩
    · intro item member excluded marks names
      have none_ := List.countP_eq_zero.mp narrow.1 item member
      exact none_ (resolutionFailed_iff.mpr ⟨excluded, marks, names⟩)
    · intro item member excluded
      exact (orderFree_iff excluded).mp (diagnoses.orderFree item member)
  · intro unambiguous
    refine ⟨fun order => exclusionDiagnostics_partitions order casefold evidence, ?_, ?_⟩
    · intro order
      refine narrows_iff.mpr ⟨?_, unambiguous.fetched⟩
      rw [List.countP_eq_zero]
      intro item member failed
      obtain ⟨excluded, marks, names⟩ := resolutionFailed_iff.mp failed
      exact unambiguous.resolved item member excluded marks names
    · intro item member
      cases eligible : item.eligible with
      | true => exact orderFree_of_eligible eligible
      | false =>
        exact (orderFree_iff eligible).mpr (unambiguous.oneCategory item member eligible)

/-- An excluded symbol with a reason, a number of bars and some findings. -/
def excludedSymbol (symbol : String) (blockedReason : Option String) (rows : Int)
    (blockingFindings : List DataQualityFinding) : ExclusionEvidence where
  evidenceId := "evidence:" ++ symbol
  symbol
  eligible := false
  blockedReason
  source := "unknown"
  fixtureBacked := false
  metrics := none
  backtestResult := none
  rows
  blockingFindings

/-- A symbol with few bars that has stopped trading. -/
def shortAndStale : ExclusionEvidence :=
  excludedSymbol "082660" (some "blocking_data_quality") 20
    [⟨"insufficient_lookback", "error", "dataset has insufficient lookback"⟩,
      ⟨"zero_volume", "warning", "zero volume bar requires review: symbol=082660 date=2026-07-24"⟩]

/-- A symbol that no listing has. -/
def unlisted : ExclusionEvidence :=
  excludedSymbol "999999" (some "ValueError: symbol not found in KRX master") 0
    [⟨"provider_failure", "error", "symbol not found in KRX master"⟩]

/-- Texts in small letters, as far as they are in ASCII. -/
def asciiCasefold (text : String) : String := .ofList (text.toList.map Char.toLower)

/-- A symbol with few bars that has stopped trading is in one of two categories, by the order a set
is visited in, and the fetch of a symbol that was not resolved counts as started. -/
theorem exclusion_departures :
    classifyExclusionReason (.visitFirst "insufficient_lookback") asciiCasefold shortAndStale =
        "insufficient_bars" ∧
      classifyExclusionReason (.visitFirst "zero_volume") asciiCasefold shortAndStale =
        "stale_data" ∧
      acquisitionFunnel (.visitFirst "") asciiCasefold [unlisted] =
        ⟨1, 0, 1, 0, 0, 0, 0, 0, 0⟩ ∧
      ¬DiagnosesExclusions asciiCasefold [shortAndStale, unlisted] := by
  have early : classifyExclusionReason (.visitFirst "insufficient_lookback") asciiCasefold
      shortAndStale = "insufficient_bars" := by decide +kernel
  have late : classifyExclusionReason (.visitFirst "zero_volume") asciiCasefold shortAndStale =
      "stale_data" := by decide +kernel
  refine ⟨early, late, by decide +kernel, ?_⟩
  intro diagnoses
  have same := diagnoses.orderFree shortAndStale List.mem_cons_self
    (.visitFirst "insufficient_lookback") (.visitFirst "zero_volume")
    shortAndStale.blockingFindings (List.Perm.refl _)
  rw [early] at same
  exact absurd (same.trans late) (by decide)

end StrategyLab
