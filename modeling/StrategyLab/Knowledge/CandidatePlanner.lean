import StrategyLab.Knowledge.StrategyCandidate

/-! What is decided on a candidate: its economics, its blockers, its next action, its end. -/

namespace StrategyLab

/-- How many symbols an economic decision needs. -/
def economicViabilityMinSymbolSample : Nat := 20

/-- How many trades an economic decision needs. -/
def economicViabilityMinTradeSample : Int := 120

/-- Which part of the symbols has to be profitable. -/
def economicViabilityMinProfitableSymbolRatio : ℚ := 1 / 2

/-- Whether a candidate is worth trading. -/
inductive EconomicViabilityStatus where
  | pass
  | fail
  | needsMoreEvidence
  deriving DecidableEq, Repr

/-- How a candidate did on all of the symbols it was traded on. -/
structure CandidatePerformanceEvidence where
  performanceSampleSymbols : Nat
  performanceSampleTrades : Int
  medianReturn : Option ℚ
  medianMdd : Option ℚ
  profitableSymbolRatio : Option ℚ

/-- The bounds of an economic decision. -/
structure EconomicViabilityPolicy where
  minSymbolSample : Nat
  minTradeSample : Int
  minProfitableSymbolRatio : ℚ

/-- The bounds that are used. -/
def defaultEconomicViabilityPolicy : EconomicViabilityPolicy :=
  ⟨economicViabilityMinSymbolSample, economicViabilityMinTradeSample,
    economicViabilityMinProfitableSymbolRatio⟩

/-- The economic decision on a candidate. -/
structure EconomicViabilityResult where
  status : EconomicViabilityStatus
  reason : String
  performance : CandidatePerformanceEvidence

/-- The median of numbers, if there are any. -/
def CandidatePerformanceEvidence.median (values : List ℚ) : Option ℚ :=
  let ordered := Py.sortedBy id values
  let mid := ordered.length / 2
  if values = [] then none
  else if ordered.length % 2 = 1 then some (ordered.getD mid 0)
  else some ((ordered.getD (mid - 1) 0 + ordered.getD mid 0) / 2)

/-- Whether an entry says how a traded symbol did. -/
def SymbolEvidence.hasPerformance (entry : SymbolEvidence) : Bool :=
  entry.eligible && 0 < entry.tradeCount && entry.totalReturn.isSome

/-- The performance of a candidate over every symbol it was traded on. -/
def candidateCumulativePerformance (candidate : StrategyCandidateRecord) :
    CandidatePerformanceEvidence :=
  let sample := candidate.breadthEvidence.rows.filter (·.hasPerformance)
  let profitable := sample.countP (·.profitable = some true)
  { performanceSampleSymbols := sample.length
    performanceSampleTrades := (sample.map (·.tradeCount)).sum
    medianReturn := CandidatePerformanceEvidence.median (sample.filterMap (·.totalReturn))
    medianMdd := CandidatePerformanceEvidence.median (sample.filterMap (·.mdd))
    profitableSymbolRatio :=
      if sample.length = 0 then none
      else some (Py.round 6 ((profitable : ℚ) / sample.length)) }

/-- The decision whether a candidate is worth trading. -/
def evaluateEconomicViability (candidate : StrategyCandidateRecord)
    (policy : EconomicViabilityPolicy) : EconomicViabilityResult :=
  let performance := candidateCumulativePerformance candidate
  if performance.performanceSampleSymbols < policy.minSymbolSample ∨
      performance.performanceSampleTrades < policy.minTradeSample then
    ⟨.needsMoreEvidence, "insufficient_performance_sample_for_economic_decision", performance⟩
  else match performance.medianReturn, performance.profitableSymbolRatio with
    | some medianReturn, some ratio =>
      if 0 < medianReturn ∧ policy.minProfitableSymbolRatio ≤ ratio then
        ⟨.pass, "positive_median_return_and_majority_profitable_symbols", performance⟩
      else if medianReturn ≤ 0 ∧ ratio < policy.minProfitableSymbolRatio then
        ⟨.fail, "non_positive_median_return_and_minority_profitable_symbols", performance⟩
      else ⟨.needsMoreEvidence, "mixed_profitability_signal", performance⟩
    | _, _ => ⟨.needsMoreEvidence, "no_performance_evidence_recorded", performance⟩

/-- The economic decision under the bounds that are used. -/
def economicViability (candidate : StrategyCandidateRecord) : EconomicViabilityResult :=
  evaluateEconomicViability candidate defaultEconomicViabilityPolicy

/-- The first symbol with evidence that was not used for robustness; one more can be left out. -/
def nextRobustnessEvidenceSymbol (candidate : StrategyCandidateRecord)
    (exclude : Option String) : Option String :=
  candidate.evidenceSymbols.find? fun symbol =>
    symbol ∉ candidate.robustnessEvidenceSymbols && someText exclude ≠ some symbol

/-- The text of the evidence that decides whether an action was tried already. -/
def candidateMaterialEvidenceKey (candidate : StrategyCandidateRecord) : String :=
  "|".intercalate
    [candidate.strategyFingerprint, toString candidate.validSymbols,
      toString candidate.tradeCount, ",".intercalate candidate.evidenceSymbols,
      ",".intercalate candidate.excludedSymbols,
      ",".intercalate candidate.robustnessEvidenceSymbols,
      ",".intercalate ((Py.sortedBy StageStatus.stage candidate.validationStageStatus.rows).map
        fun stage => stage.stage ++ "=" ++ stage.status),
      textOr candidate.sampleExhaustionReason "", textOr candidate.promotionReadyAt "",
      textOr candidate.rejectedReason ""]

/-- The status that is recorded of a stage. -/
def StrategyCandidateRecord.stageStatus (candidate : StrategyCandidateRecord) (stage : String) :
    String :=
  (candidate.validationStageStatus.get stage).getD "not_run"

/-- Whether a stage counts as passed. -/
def StrategyCandidateRecord.stagePassed (candidate : StrategyCandidateRecord) (stage : String) :
    Bool :=
  candidate.stageStatus stage ∈ passLikeStageStatuses

/-- The stages that have to be passed before the last one. -/
def requiredStages : List String :=
  ["out_of_sample", "regime_validation", "walk_forward", "parameter_sensitivity",
    "transaction_cost_stress"]

/-- What still stands between a candidate and its promotion. -/
def candidateRemainingBlockers (candidate : StrategyCandidateRecord) : List String :=
  Py.fromkeys <|
    (if candidate.hasSufficientUniverseEvidence then [] else ["multi_symbol_sample"]) ++
    (if candidate.tradeCount < promotionMinTradeSample then ["minimum_trade_sample"] else []) ++
    requiredStages.filter (!candidate.stagePassed ·) ++
    (if candidate.stagePassed "monte_carlo" then []
      else if candidate.tradeCount < promotionMinTradeSample then
        ["monte_carlo_waiting_for_primary_sample"]
      else ["monte_carlo"])

/-- What can be done next with a candidate. -/
inductive ResearchAction where
  | requestHumanApproval
  | rotateCandidate
  | expandSample
  | runOos
  | runRegime
  | runWalkForward
  | runCostStress
  | runSensitivity
  | runMonteCarlo
  | rankCandidates
  deriving DecidableEq, Repr

/-- The text an action is written as. -/
def ResearchAction.text : ResearchAction → String
  | .requestHumanApproval => "REQUEST_HUMAN_APPROVAL"
  | .rotateCandidate => "ROTATE_CANDIDATE"
  | .expandSample => "EXPAND_SAMPLE"
  | .runOos => "RUN_OOS"
  | .runRegime => "RUN_REGIME"
  | .runWalkForward => "RUN_WALK_FORWARD"
  | .runCostStress => "RUN_COST_STRESS"
  | .runSensitivity => "RUN_SENSITIVITY"
  | .runMonteCarlo => "RUN_MONTE_CARLO"
  | .rankCandidates => "RANK_CANDIDATES"

/-- The stage that an action validates. -/
def ResearchAction.stageKey (action : ResearchAction) : Option String :=
  actionStageKeys.lookup action.text

/-- The reasons for which no further symbols can be expected. -/
def sampleExhaustionReasons : List String :=
  ["candidate_pool_exhausted", "configured_sample_budget_exhausted",
    "no_new_independent_symbols_available"]

/-- Whether no further symbols can be expected. -/
def candidateSampleExhausted (candidate : StrategyCandidateRecord) : Bool :=
  textOr candidate.sampleExhaustionReason "" ∈ sampleExhaustionReasons

/-- Whether an action was tried on the present evidence, or led to it. -/
def attemptedForCurrentEvidenceState (candidate : StrategyCandidateRecord)
    (action : ResearchAction) : Bool :=
  candidate.validationAttemptHistory.any fun attempt =>
    attempt.action = action.text &&
      (attempt.stateKey = candidateMaterialEvidenceKey candidate ||
        attempt.resultStateKey = candidateMaterialEvidenceKey candidate)

/-- The reference to a validation of a stage on a symbol. -/
def evidenceReference (action symbol stage status : String) : String :=
  "|".intercalate
    ["action=" ++ action, "symbol=" ++ symbol, "stage=" ++ stage, "status=" ++ status]

/-- Whether the last validation was this one, with this result. -/
def lastAttemptMatchesStage (candidate : StrategyCandidateRecord) (action : ResearchAction)
    (stage : String) : Bool :=
  match someText candidate.lastValidationSymbol with
  | none => false
  | some symbol =>
    candidate.lastValidationReference =
      some (evidenceReference action.text symbol stage (candidate.stageStatus stage))

/-- The validations in the order they are tried, with the reason given for each. -/
def plannedValidations : List (String × ResearchAction × String) :=
  [("out_of_sample", .runOos, "out_of_sample_blocker"),
    ("regime_validation", .runRegime, "regime_blocker"),
    ("walk_forward", .runWalkForward, "walk_forward_blocker"),
    ("transaction_cost_stress", .runCostStress, "transaction_cost_blocker"),
    ("parameter_sensitivity", .runSensitivity, "parameter_sensitivity_blocker")]

/-- Whether a stage is open and its validation was not tried on the present evidence. -/
def validationDue (candidate : StrategyCandidateRecord) (stage : String)
    (action : ResearchAction) : Bool :=
  stage ∈ candidateRemainingBlockers candidate &&
    !attemptedForCurrentEvidenceState candidate action &&
    !lastAttemptMatchesStage candidate action stage

/-- The validation, unless no symbol is left to run it on. -/
def runUnlessExhausted (candidate : StrategyCandidateRecord) (action : ResearchAction)
    (reason : String) : ResearchAction × String :=
  if candidateSampleExhausted candidate &&
      (nextRobustnessEvidenceSymbol candidate none).isNone then
    (.rotateCandidate, "sample_pool_exhausted_no_untried_robustness_symbol")
  else (action, reason)

/-- More symbols, or another candidate where there are none. -/
def expandUnlessExhausted (candidate : StrategyCandidateRecord) (exhausted reason : String) :
    ResearchAction × String :=
  if candidateSampleExhausted candidate then (.rotateCandidate, exhausted)
  else (.expandSample, reason)

/-- The next action for a candidate with enough symbols. -/
def nextValidationAction (candidate : StrategyCandidateRecord) : ResearchAction × String :=
  let blockers := candidateRemainingBlockers candidate
  match plannedValidations.find? fun planned => validationDue candidate planned.1 planned.2.1 with
  | some (_, action, reason) => runUnlessExhausted candidate action reason
  | none =>
    if "monte_carlo_waiting_for_primary_sample" ∈ blockers then
      expandUnlessExhausted candidate "sample_pool_exhausted_below_monte_carlo_sample"
        "monte_carlo_waiting_for_primary_sample"
    else if validationDue candidate "monte_carlo" .runMonteCarlo then
      runUnlessExhausted candidate .runMonteCarlo "monte_carlo_blocker"
    else if blockers.any (· ∈ actionStageKeys.map (·.2)) then
      if stagnationCycleThreshold ≤ candidate.cyclesWithoutProgress then
        (.rotateCandidate, "validation_cycle_exhausted_without_progress")
      else
        expandUnlessExhausted candidate
          "sample_pool_exhausted_after_attempted_validation_dimensions"
          "validation_cycle_exhausted_needs_new_material_evidence"
    else if (economicViability candidate).status = .needsMoreEvidence then
      expandUnlessExhausted candidate "sample_pool_exhausted_insufficient_economic_evidence"
        "economic_viability_needs_more_evidence"
    else (.rankCandidates, "no_blocking_validation_stage_remaining")

/-- The next action for a candidate, and the reason for it. -/
def nextBlockerDrivenResearchAction (candidate : StrategyCandidateRecord) :
    ResearchAction × String :=
  let sampleExhausted := candidateSampleExhausted candidate
  if candidate.status = .promotionReady then
    (.requestHumanApproval, "candidate_already_promotion_ready")
  else if candidate.status = .rejected ∨ candidate.status = .stagnant then
    (.rotateCandidate, textOr candidate.rejectedReason "candidate_terminal")
  else if (economicViability candidate).status = .fail then
    (.rotateCandidate, "economic_viability_failed:" ++ (economicViability candidate).reason)
  else if !sampleExhausted && (!candidate.hasSufficientUniverseEvidence ||
      (someText (nextRobustnessEvidenceSymbol candidate none)).isNone) then
    (.expandSample, "need_new_independent_evidence_symbols")
  else if sampleExhausted && !candidate.hasSufficientUniverseEvidence then
    (.rotateCandidate,
      textOr candidate.sampleExhaustionReason "sample_pool_exhausted_without_sufficient_evidence")
  else nextValidationAction candidate

/-- Whether a candidate made no progress for too long or took too many cycles. -/
def isStagnant (candidate : StrategyCandidateRecord) : Bool :=
  if candidate.status = .promotionReady ∨ candidate.status = .rejected ∨
      candidate.status = .stagnant then false
  else if absoluteCandidateCycleCap ≤ candidate.cyclesCompleted then true
  else stagnationCycleThreshold ≤ candidate.cyclesWithoutProgress

/-- The record of a candidate that a human can promote. -/
def markPromotionReady (candidate : StrategyCandidateRecord) (now : String) :
    StrategyCandidateRecord :=
  { candidate with status := .promotionReady, promotionReadyAt := some now, updatedAt := now }

/-- The record of a candidate that is turned down. -/
def markRejected (candidate : StrategyCandidateRecord) (reason now : String) :
    StrategyCandidateRecord :=
  { candidate with status := .rejected, rejectedReason := some reason, updatedAt := now }

/-- The record of a candidate that is given up. -/
def markStagnant (candidate : StrategyCandidateRecord) (reason now : String) :
    StrategyCandidateRecord :=
  { candidate with status := .stagnant, rejectedReason := some reason, updatedAt := now }

/-- The reason for giving up a candidate when no other one is given. -/
def stagnationReason : String := "stagnation: no measurable progress across bounded cycles"

/-- What a robustness cycle reports. -/
structure RobustnessProgress where
  directorAction : String
  terminal : Bool
  now : String
  validationStageStatus : StageStatuses
  symbol : Option String
  reference : Option String

/-- The action that a reference names, if it names one. -/
def actionFromReference (reference : String) : Option String :=
  ((reference.toList.splitOn '|').find? ("action=".toList.isPrefixOf ·)).bind fun part =>
    someText (some (.ofList (part.drop "action=".length)))

/-- The record after a robustness cycle, before the attempt is noted. -/
def robustnessUpdated (candidate : StrategyCandidateRecord) (progress : RobustnessProgress) :
    StrategyCandidateRecord :=
  let symbol := someText progress.symbol
  { candidate with
    status := if progress.terminal then candidate.status else .robustness
    validationStageStatus := candidate.validationStageStatus.overlay progress.validationStageStatus
    robustnessEvidenceSymbols :=
      if symbol.isSome then
        (Py.fromkeys (candidate.robustnessEvidenceSymbols ++ symbol.toList)).take
          robustnessEvidenceSymbolCap
      else candidate.robustnessEvidenceSymbols
    robustnessAttemptCount :=
      if symbol.isSome then candidate.robustnessAttemptCount + 1
      else candidate.robustnessAttemptCount
    lastValidationSymbol := symbol.or candidate.lastValidationSymbol }

/-- Whether a robustness cycle brought more than was known. -/
def robustnessProgressed (candidate : StrategyCandidateRecord) (progress : RobustnessProgress) :
    Bool :=
  (someText progress.symbol).any (· ∉ candidate.robustnessEvidenceSymbols) ||
    progress.validationStageStatus.rows.any (fun stage =>
      (candidate.validationStageStatus.get stage.stage).getD "" ≠ stage.status) ||
    (progress.terminal &&
      progress.directorAction ∈ ["request_human_promotion_review", "reject_candidate"])

/-- The record after a robustness cycle. -/
def recordRobustnessProgress (candidate : StrategyCandidateRecord)
    (progress : RobustnessProgress) : StrategyCandidateRecord :=
  let updated := robustnessUpdated candidate progress
  let progressed := robustnessProgressed candidate progress
  let attemptAction :=
    (progress.reference.bind actionFromReference).getD progress.directorAction
  { updated with
    lastDirectorAction := some progress.directorAction
    cyclesCompleted := candidate.cyclesCompleted + 1
    cyclesWithoutProgress := if progressed then 0 else candidate.cyclesWithoutProgress + 1
    lastValidationReference := progress.reference.or candidate.lastValidationReference
    validationAttemptHistory :=
      match actionStageKeys.lookup attemptAction with
      | none => candidate.validationAttemptHistory
      | some stage =>
        Py.lastSlice actionCycleHistoryCap (candidate.validationAttemptHistory ++
          [{ action := attemptAction
             stage
             symbol := (someText progress.symbol).getD ""
             stateKey := candidateMaterialEvidenceKey candidate
             resultStateKey := candidateMaterialEvidenceKey updated
             progressed
             reference := progress.reference.getD "" }])
    updatedAt := progress.now }

end StrategyLab
