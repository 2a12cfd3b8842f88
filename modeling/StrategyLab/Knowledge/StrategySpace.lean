import StrategyLab.Knowledge.CandidatePlanner
import Mathlib.Data.Prod.Lex

/-! The next strategy family of a mission, once nothing more is expected of those it has tried. -/

namespace StrategyLab

/-- Templates in the order that learning prefers; equal ones stay as they are. -/
def rankTemplatesByLearning (templates : List StrategyFamilyTemplate)
    (familyPreferences : List (String × ℚ)) : List StrategyFamilyTemplate :=
  if familyPreferences = [] then templates
  else
    Py.sortedBy (fun template => -(familyPreferences.lookup template.family).getD 0) templates

/-- The first family that was not tried. -/
def nextUntriedFamily (existing : List StrategyCandidateRecord)
    (familyPreferences : List (String × ℚ)) : Option String :=
  ((rankTemplatesByLearning StrategyFamilies.strategyFamilyTemplates familyPreferences).find?
    fun template => template.family ∉ existing.map (·.strategyFamily)).map (·.family)

/-- What went wrong with one candidate. -/
def candidateFailureSignals (candidate : StrategyCandidateRecord) : List String :=
  (if candidate.status = .stagnant ∨ candidate.status = .rejected then
    ["candidate_" ++ candidate.status.text] else []) ++
  (someText candidate.rejectedReason).toList ++
  (if candidate.tradeCount < promotionMinTradeSample then ["insufficient_trade_sample"] else []) ++
  (if candidate.attemptedSymbols ≠ 0 ∧ !candidate.hasSufficientUniverseEvidence then
    ["cross_symbol_weakness"] else []) ++
  candidateRemainingBlockers candidate ++
  ((Py.sortedBy StageStatus.stage candidate.validationStageStatus.rows).filter
    fun stage => stage.status ∉ passLikeStageStatuses).map
      fun stage => stage.stage ++ "_" ++ stage.status

/-- What went wrong with the candidates of a mission. -/
def missionFailureSignals (existing : List StrategyCandidateRecord) : List String :=
  let signals := Py.fromkeys (existing.flatMap candidateFailureSignals)
  if signals = [] then ["base_family_space_exhausted"] else signals

/-- A whole number among the values of a template. -/
def wholeValue (values : List (String × Py.Value)) (key : String) (default : Int) : Int :=
  match values.lookup key with
  | some (.int value) => value
  | _ => default

/-- A fraction among the values of a template. -/
def fractionValue (values : List (String × Py.Value)) (key : String) (default : ℚ) : ℚ :=
  match values.lookup key with
  | some (.float value) => value
  | some (.int value) => value
  | _ => default

/-- Whether a value of a template is set. -/
def valueSet (values : List (String × Py.Value)) (key : String) : Bool :=
  (values.lookup key).any Py.Value.truthy

/-- How well a template answers to what went wrong. -/
def expansionScore (signalText : String) (template : StrategyFamilyTemplate) : Nat :=
  let lookback := wholeValue template.entry "breakout_lookback" 20
  let hasTrend := valueSet template.entry "close_gt_ma20" || valueSet template.entry "ma20_gt_ma60"
  let hasVolume := valueSet template.filters "volume_gte_ma20"
  let stop := |fractionValue template.exit "protective_stop_pct" (-5)|
  let named := fun signals : List String => signals.any (Py.contains signalText ·)
  (if named ["insufficient_trade_sample", "minimum_trade_sample"] && lookback ≤ 10 then 4 else 0) +
  (if named ["transaction_cost_stress", "cost_fragile"] then
    (if 30 ≤ lookback then 3 else 0) + (if hasTrend then 1 else 0) else 0) +
  (if named ["regime_validation", "walk_forward", "out_of_sample"] then
    (if hasTrend then 2 else 0) + (if hasVolume then 1 else 0) else 0) +
  (if named ["cross_symbol_weakness", "multi_symbol"] && hasVolume then 2 else 0) +
  (if 8 ≤ stop && named ["parameter_sensitivity", "mdd"] then 1 else 0)

/-- Templates in the order of their scores, and of their names where those are equal. -/
def rankExpansionTemplates (evidenceSignals : List String)
    (templates : List StrategyFamilyTemplate) : List StrategyFamilyTemplate :=
  let signalText := " ".intercalate evidenceSignals
  Py.sortedBy
    (fun template => toLex (-(expansionScore signalText template : Int), template.family)) templates

/-- Templates that are tried together, and the reason for it. -/
structure ExpansionPhase where
  reason : String
  ranked : List StrategyFamilyTemplate

/-- A template with the phase it is tried in. -/
structure ExpansionChoice where
  phase : ExpansionPhase
  template : StrategyFamilyTemplate

/-- The phases of an expansion; relative strength needs other symbols to compare with. -/
def expansionPhases (evidenceSignals : List String) (multiSymbolContextAvailable : Bool)
    (familyPreferences : List (String × ℚ)) : List ExpansionPhase :=
  let ordered := fun templates => rankTemplatesByLearning templates familyPreferences
  [⟨"strategy_family_space_exhausted", rankExpansionTemplates evidenceSignals
      StrategyFamilies.strategySpaceExpansionTemplates⟩,
    ⟨"strategy_family_space_exhausted", rankExpansionTemplates evidenceSignals
      StrategyFamilies.strategySpaceExpansionRound2Templates⟩,
    ⟨"strategy_paradigm_rotation", ordered StrategyFamilies.nonBreakoutStrategyFamilyTemplates⟩,
    ⟨"strategy_paradigm_rotation", ordered StrategyFamilies.regimeFilteredStrategyFamilyTemplates⟩,
    ⟨"structural_filter_hypothesis_expansion",
      ordered StrategyFamilies.structuralFilterStrategyFamilyTemplates⟩] ++
  if multiSymbolContextAvailable then
    [⟨"strategy_paradigm_rotation",
      ordered StrategyFamilies.relativeStrengthStrategyFamilyTemplates⟩]
  else []

/-- What came of an expansion. -/
structure StrategySpaceExpansion where
  reason : String
  candidate : Option StrategyCandidateRecord
  evidenceSignals : List String
  skippedFingerprints : List String
  searchBudget : Nat

/-- The next candidate from the templates that are tried after the first families. -/
def expandStrategySpaceCandidate (sha : Json → String) (existing : List StrategyCandidateRecord)
    (sequence : Nat) (now : String) (multiSymbolContextAvailable : Bool)
    (familyPreferences : List (String × ℚ)) : StrategySpaceExpansion :=
  let evidenceSignals := missionFailureSignals existing
  let phases := expansionPhases evidenceSignals multiSymbolContextAvailable familyPreferences
  let choices := phases.flatMap fun phase => phase.ranked.map fun template => ⟨phase, template⟩
  let fingerprint := fun choice : ExpansionChoice =>
    choice.template.specRules.strategyFamilyFingerprint sha
  let used := fun choice : ExpansionChoice =>
    choice.template.family ∈ existing.map (·.strategyFamily) ||
      fingerprint choice ∈ existing.map (·.strategyFingerprint)
  let skippedFingerprints := (choices.takeWhile used).map fingerprint
  match choices.find? (!used ·) with
  | some choice =>
    { reason := choice.phase.reason
      candidate := newCandidate sha choice.template.family sequence now
      evidenceSignals, skippedFingerprints
      searchBudget := choice.phase.ranked.length }
  | none =>
    { reason := "strategy_hypothesis_space_exhausted"
      candidate := none
      evidenceSignals := Py.fromkeys (evidenceSignals ++
        if multiSymbolContextAvailable then []
        else ["relative_strength_requires_multi_symbol_context"])
      skippedFingerprints
      searchBudget := (phases.getLast?.map (·.ranked.length)).getD 0 }

end StrategyLab
