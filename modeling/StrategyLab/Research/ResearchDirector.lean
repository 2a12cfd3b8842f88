import StrategyLab.Lib.Dict

/-! The research director: what it reads of a validation's output, and what it decides on. -/

namespace StrategyLab

/-- What the director can decide on. -/
inductive ResearchDirectorAction where
  | collectMoreEvidence
  | expandSymbols
  | expandPeriod
  | testCounterHypothesis
  | runOos
  | runWalkForward
  | testRegime
  | testCosts
  | runMonteCarlo
  | inspectLiveExecution
  | hold
  | rejectCandidate
  | requestHumanPromotionReview
  deriving DecidableEq, Repr

/-- The text a decision is written as. -/
def ResearchDirectorAction.value : ResearchDirectorAction → String
  | .collectMoreEvidence => "collect_more_evidence"
  | .expandSymbols => "expand_symbols"
  | .expandPeriod => "expand_period"
  | .testCounterHypothesis => "test_counter_hypothesis"
  | .runOos => "run_oos"
  | .runWalkForward => "run_walk_forward"
  | .testRegime => "test_regime"
  | .testCosts => "test_costs"
  | .runMonteCarlo => "run_monte_carlo"
  | .inspectLiveExecution => "inspect_live_execution"
  | .hold => "hold"
  | .rejectCandidate => "reject_candidate"
  | .requestHumanPromotionReview => "request_human_promotion_review"

/-- How strong the evidence is. -/
inductive EvidenceStrength where
  | strong
  | moderate
  | exploratory
  | insufficient
  deriving DecidableEq, Repr

/-- The text a strength is written as. -/
def EvidenceStrength.value : EvidenceStrength → String
  | .strong => "strong"
  | .moderate => "moderate"
  | .exploratory => "exploratory"
  | .insufficient => "insufficient"

/-- Whether evidence conflicts with the hypothesis. -/
inductive HypothesisConflict where
  | supported
  | unresolvedConflict
  | insufficientIndependence
  | noComparableEvidence
  | notEvaluated
  deriving DecidableEq, Repr

/-- What a decision is made from. -/
structure ResearchDirectorState where
  evidenceStrength : EvidenceStrength
  hypothesisConflict : HypothesisConflict
  symbolCoverageSufficient : Bool
  periodSufficient : Bool
  oosCompleted : Bool
  walkForwardCompleted : Bool
  regimeCompleted : Bool
  costStressCompleted : Bool
  monteCarloCompleted : Bool
  liveExecutionAvailable : Bool
  liveExecutionInspected : Bool
  liveExecutionFailedOrders : Nat
  candidateRejected : Bool
  stepsUsed : Nat
  maxSteps : Nat
  positive : 0 < maxSteps

/-- A decision, with the fields it rests on. -/
structure ResearchDirectorDecision where
  action : ResearchDirectorAction
  reason : String
  evidenceRefs : List String
  terminal : Bool
  stopReason : Option String
  deriving DecidableEq

namespace ResearchDirector

/-- A decision after which research goes on. -/
def decision (action : ResearchDirectorAction) (reason : String) (evidenceRefs : List String) :
    ResearchDirectorDecision :=
  { action, reason, evidenceRefs, terminal := false, stopReason := none }

/-- A decision that ends research. -/
def finalDecision (action : ResearchDirectorAction) (reason : String) (evidenceRefs : List String)
    (stopReason : String) : ResearchDirectorDecision :=
  { action, reason, evidenceRefs, terminal := true, stopReason := some stopReason }

/-- The first thing that is missing before a human is asked. -/
def decide (state : ResearchDirectorState) : ResearchDirectorDecision :=
  if state.maxSteps ≤ state.stepsUsed then
    finalDecision .hold
      "Research budget exhausted; stopping rather than researching indefinitely."
      ["steps_used", "max_steps"] "research_budget_exhausted"
  else if state.candidateRejected then
    finalDecision .rejectCandidate
      "An upstream blocking critic finding already rejected this candidate."
      ["candidate_rejected"] "candidate_rejected"
  else if state.hypothesisConflict = .unresolvedConflict then
    decision .testCounterHypothesis
      "New evidence conflicts with the hypothesis under research and is unresolved."
      ["hypothesis_conflict"]
  else if state.evidenceStrength = .insufficient ∨ state.evidenceStrength = .exploratory then
    decision .collectMoreEvidence
      ("Evidence strength is '" ++ state.evidenceStrength.value ++
        "', below what a decision requires.") ["evidence_strength"]
  else if !state.symbolCoverageSufficient then
    decision .expandSymbols "Symbol coverage is not yet sufficient to generalize the candidate."
      ["symbol_coverage_sufficient"]
  else if !state.periodSufficient then
    decision .expandPeriod "Observation period is not yet long enough for a reliable read."
      ["period_sufficient"]
  else if !state.oosCompleted then
    decision .runOos "Out-of-sample validation has not been run yet." ["oos_completed"]
  else if !state.walkForwardCompleted then
    decision .runWalkForward "Walk-forward validation has not been run yet."
      ["walk_forward_completed"]
  else if !state.regimeCompleted then
    decision .testRegime "Market-regime robustness has not been tested yet." ["regime_completed"]
  else if !state.costStressCompleted then
    decision .testCosts "Transaction-cost stress has not been tested yet."
      ["cost_stress_completed"]
  else if !state.monteCarloCompleted then
    decision .runMonteCarlo "Monte Carlo robustness has not been run yet."
      ["monte_carlo_completed"]
  else if state.liveExecutionAvailable && !state.liveExecutionInspected then
    decision .inspectLiveExecution
      "Real MyMoneyGuard execution evidence is available and has not been reviewed yet."
      ["live_execution_available", "live_execution_inspected"]
  else
    finalDecision .requestHumanPromotionReview
      ("All required validation stages passed, evidence is '" ++ state.evidenceStrength.value ++
        "', and there is no unresolved hypothesis conflict; " ++
        "recommending human review rather than auto-promoting.")
      ["evidence_strength", "hypothesis_conflict", "oos_completed", "walk_forward_completed",
        "regime_completed", "cost_stress_completed", "monte_carlo_completed"]
      "ready_for_human_review"

end ResearchDirector

/-- What a deep validation reports of one stage. -/
structure GradedStage where
  stage : String
  executed : Bool
  status : Option String
  deriving DecidableEq

/-- The stages of a deep validation. -/
abbrev ProductionGradeValidation := Table GradedStage.stage

/-- The director's verdict, as the output of a validation carries it. -/
structure DirectorVerdict where
  action : String
  terminal : Bool
  deriving DecidableEq

/-- The output of a deep validation. -/
structure LearningPayload where
  evidenceStrength : Option String
  conflictStatus : Option String
  sampleSufficiencyStatus : Option String
  productionGradeValidation : ProductionGradeValidation
  researchDirectorDecision : Option DirectorVerdict

/-- What is known of live orders. -/
structure LiveExecutionFields where
  liveExecutionAvailable : Bool
  liveExecutionInspected : Bool
  liveExecutionFailedOrders : Nat

/-- How many steps a conversation may take. -/
def defaultResearchDirectorMaxSteps : Nat := 8

namespace LearningPayload

/-- The strength of the evidence; an unknown one is insufficient. -/
def strength (payload : LearningPayload) : EvidenceStrength :=
  match payload.evidenceStrength with
  | some "strong" => .strong
  | some "moderate" => .moderate
  | some "exploratory" => .exploratory
  | _ => .insufficient

/-- The conflict that the stance of the evidence stands for. -/
def hypothesisConflict (payload : LearningPayload) : HypothesisConflict :=
  match payload.conflictStatus with
  | some "supporting" => .supported
  | some "contradicting" => .unresolvedConflict
  | some "mixed" => .unresolvedConflict
  | _ => .notEvaluated

/-- Whether a stage was executed; its status has no part in it. -/
def executed (payload : LearningPayload) (stage : String) : Bool :=
  (payload.productionGradeValidation.find? stage).any (·.executed)

/-- What the director is told about the output of a validation. -/
def researchDirectorState (payload : LearningPayload) (live : LiveExecutionFields)
    (stepsUsed : Int) (candidateRejected : Bool) : ResearchDirectorState where
  evidenceStrength := payload.strength
  hypothesisConflict := payload.hypothesisConflict
  symbolCoverageSufficient := payload.executed "multi_symbol_validation"
  periodSufficient := payload.sampleSufficiencyStatus = some "sufficient"
  oosCompleted := payload.executed "out_of_sample"
  walkForwardCompleted := payload.executed "walk_forward"
  regimeCompleted := payload.executed "regime_validation"
  costStressCompleted := payload.executed "transaction_cost_stress"
  monteCarloCompleted := payload.executed "monte_carlo"
  liveExecutionAvailable := live.liveExecutionAvailable
  liveExecutionInspected := live.liveExecutionInspected
  liveExecutionFailedOrders := live.liveExecutionFailedOrders
  candidateRejected := candidateRejected
  stepsUsed := min stepsUsed.toNat defaultResearchDirectorMaxSteps
  maxSteps := defaultResearchDirectorMaxSteps
  positive := by decide

/-- The decision on the output of a validation. -/
def decideNextResearchAction (payload : LearningPayload) (live : LiveExecutionFields)
    (stepsUsed : Int) (candidateRejected : Bool) : ResearchDirectorDecision :=
  ResearchDirector.decide (payload.researchDirectorState live stepsUsed candidateRejected)

/-- The output with the director's decision on it. -/
def directed (payload : LearningPayload) (live : LiveExecutionFields) (stepsUsed : Int)
    (candidateRejected : Bool) : LearningPayload :=
  let decision := payload.decideNextResearchAction live stepsUsed candidateRejected
  { payload with
    researchDirectorDecision := some ⟨decision.action.value, decision.terminal⟩ }

end LearningPayload

end StrategyLab
