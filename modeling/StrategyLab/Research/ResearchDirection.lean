import StrategyLab.Knowledge.ResearchMission
import StrategyLab.Knowledge.StrategySpace

/-! Failure analyses: why the candidates of a mission failed. -/

namespace StrategyLab

/-- Why a candidate failed. -/
inductive FailureClass where
  | insufficientSample
  | economicViabilityFailure
  | costSlippageFragility
  | robustnessFailure
  | regimeSensitivity
  | evidenceInsufficiency
  | dataProviderLimitation
  | validationStagnation
  | hypothesisFamilyExhaustion
  | unknown
  deriving DecidableEq, Repr

/-- The classes in the order they are declared in. -/
def FailureClass.all : List FailureClass :=
  [.insufficientSample, .economicViabilityFailure, .costSlippageFragility, .robustnessFailure,
    .regimeSensitivity, .evidenceInsufficiency, .dataProviderLimitation, .validationStagnation,
    .hypothesisFamilyExhaustion, .unknown]

/-- The reasons for an end that say nothing about the research. -/
def nonEvidenceTerminalReasons : List String :=
  ["user_requested_different_strategy_family", "candidate_terminal"]

/-- The reasons that say that a sample was too small. -/
def insufficientSampleReasons : List String :=
  ["sample_pool_exhausted_without_sufficient_evidence",
    "sample_pool_exhausted_no_untried_robustness_symbol",
    "sample_pool_exhausted_below_monte_carlo_sample",
    "sample_pool_exhausted_after_attempted_validation_dimensions",
    "sample_pool_exhausted_insufficient_economic_evidence",
    "selected_symbol_universe_exhausted"]

/-- Whether a candidate was given up or turned down. -/
def StrategyCandidateRecord.terminal (candidate : StrategyCandidateRecord) : Bool :=
  candidate.status = .stagnant || candidate.status = .rejected

/-- Whether a stage was attempted and not passed. -/
def attemptedAndFailed (candidate : StrategyCandidateRecord) (stage : String) : Bool :=
  candidate.stageStatus stage ≠ "not_run" && candidate.stageStatus stage ∉ passLikeStageStatuses

/-- Why a candidate failed, as far as it did. -/
def classifyCandidateFailure (candidate : StrategyCandidateRecord) : Option FailureClass :=
  let reason := textOr candidate.rejectedReason ""
  if !candidate.terminal then none
  else if reason = "" ∨ reason ∈ nonEvidenceTerminalReasons then none
  else if Py.startswith reason "economic_viability_failed" then some .economicViabilityFailure
  else if reason = "validation_cycle_exhausted_without_progress" then some .validationStagnation
  else if Py.startswith reason "provider_unavailable" || Py.contains reason "provider" then
    some .dataProviderLimitation
  else if reason ∈ insufficientSampleReasons ∨ Py.startswith reason "sample_pool_exhausted" then
    some .insufficientSample
  else if attemptedAndFailed candidate "transaction_cost_stress" then some .costSlippageFragility
  else if attemptedAndFailed candidate "regime_validation" then some .regimeSensitivity
  else if ["out_of_sample", "walk_forward", "parameter_sensitivity", "monte_carlo"].any
      (attemptedAndFailed candidate) then
    some .robustnessFailure
  else if candidate.tradeCount < promotionMinTradeSample ∨
      !candidate.hasSufficientUniverseEvidence then
    some .evidenceInsufficiency
  else some .unknown

/-- What is remembered of why the candidates of a mission failed. -/
structure FailureAnalysis where
  analysisId : String
  sessionRef : String
  blockedReason : String
  breakdown : List (FailureClass × Nat)
  dominantFailureClass : FailureClass
  evidenceCandidateIds : List String
  fingerprint : String
  createdAt : String

/-- How often each class occurs. -/
def failureBreakdown (classes : List FailureClass) : List (FailureClass × Nat) :=
  (Py.fromkeys classes).map fun cls => (cls, classes.count cls)

/-- The first declared class of those that occur most often. -/
def dominantFailureClass (classes : List FailureClass) : FailureClass :=
  if classes = [] then .hypothesisFamilyExhaustion
  else
    let maxCount := ((failureBreakdown classes).map (·.2)).foldl max 0
    (FailureClass.all.find? (classes.count · = maxCount)).getD .hypothesisFamilyExhaustion

section

variable (digest : String → String)

/-- The first part of the SHA-256 of texts. -/
def stableHash (parts : List String) : String := digest ("|".intercalate parts)

/-- The text of all that an analysis of a mission depends on. -/
def missionHistoryFingerprint (mission : ResearchMission) (sessionRef : String) : String :=
  let candidateParts := Py.sortedBy id (mission.candidateRecords.map fun candidate =>
    candidate.candidateId ++ ":" ++ candidate.status.text ++ ":" ++
      textOr candidate.rejectedReason "")
  stableHash digest (sessionRef :: textOr mission.blockedReason "" :: candidateParts)

/-- Why the candidates of a mission failed. -/
def analyzeMissionFailure (mission : ResearchMission) (sessionRef now : String) :
    FailureAnalysis :=
  let classified := (mission.candidateRecords.filter (·.terminal)).filterMap fun candidate =>
    (classifyCandidateFailure candidate).map fun cls => (cls, candidate.candidateId)
  let classes := classified.map (·.1)
  let fingerprint := missionHistoryFingerprint digest mission sessionRef
  { analysisId := "failure-analysis:" ++ fingerprint
    sessionRef
    blockedReason := textOr mission.blockedReason ""
    breakdown := failureBreakdown classes
    dominantFailureClass := dominantFailureClass classes
    evidenceCandidateIds := classified.map (·.2)
    fingerprint
    createdAt := now }

end

end StrategyLab
