import StrategyLab.Control.StrategyVersion
import StrategyLab.Research.MultiSymbolRun

/-! The bridge from stored research runs to strategy versions that may be applied. -/

namespace StrategyLab

/-- The fewest trades of a run that is offered. -/
def minTradeCount : ℚ := 30

/-- The smallest share of profitable symbols of a run that is offered. -/
def minProfitableSymbolRatio : ℚ := 1 / 2

/-- The confidence a run has to carry. -/
def requiredSampleConfidence : String := "high"

/-- The concentrations a run may carry. -/
def allowedConcentration : List String := ["broad", "moderately_concentrated"]

/-- The recommendation a run has to carry. -/
def requiredRecommendation : String := "candidate_preferred"

/-- What the absolute bar says about a run. -/
structure StrategyCandidatePromotion.PromotionDecision where
  runId : String
  eligible : Bool
  reason : String
  familyId : Option String
  specFingerprint : Option String

/-- The family of a strategy: its market and the names of its entry and exit rules. -/
def familyIdForStrategy (strategy : Json) (market : String) : String :=
  let keysOf := fun part => Py.sortedBy id (strategy.getOr part (.obj [])).keys
  market.toLower ++ "-equity-research:" ++ "-".intercalate (keysOf "entry") ++ "__" ++
    "-".intercalate (keysOf "exit")

/-- A number of a summary that lies in a range, if the value under the key is one. -/
def numberMeets (summary : Json) (key : String) (range : ℚ → Bool) : Bool :=
  ((summary.get? key).bind Json.finite?).any range

/-- The text under a key, when there is one. -/
def textAt (payload : Json) (key : String) : Option String := (payload.get? key).bind Json.text?

/-- The identity of a run; `str` is what the built-in makes of a value that is no text. -/
def payloadRunId (str : Json → String) (payload : Json) : String :=
  match payload.getOr "run_id" (.str "") with
  | .str runId => runId
  | other => str other

/-- The market of the universe a run was asked for; runs without one belong to Korea. -/
def payloadMarket (payload : Json) : Except String (Option String) := do
  let request := (payload.get? "request").getD (.obj [])
  let universe_ := if request.isObject then (request.get? "universe").getD (.obj []) else .null
  Raise.ensure universe_.isObject "invalid research market scope"
  return ((universe_.get? "market").getD (.str "KR")).text?

/-- Go through the absolute bar check by check: the family and the fingerprint of what passes,
or why it fails. -/
def absoluteBar (str : Json → String) (payload : Json) : Except String (String × String) := do
  Raise.ensure (!Py.isBlank (payloadRunId str payload)) "research run has no identity"
  Raise.ensure (textAt payload "final_recommendation" = some requiredRecommendation)
    "recommendation is not candidate_preferred"
  let summary := (payload.get? "summary").getD .null
  Raise.ensure summary.isObject "invalid research summary"
  Raise.ensure (textAt summary "sample_confidence" = some requiredSampleConfidence)
    "sample_confidence is not high"
  Raise.ensure ((textAt summary "concentration_decision").any (· ∈ allowedConcentration))
    "symbol/return concentration too narrow"
  Raise.ensure (numberMeets summary "aggregate_trade_count" fun count =>
      minTradeCount ≤ count && count.isInt) "insufficient trade sample"
  Raise.ensure (numberMeets summary "profitable_symbol_ratio" fun ratio =>
      minProfitableSymbolRatio ≤ ratio && ratio ≤ 1) "majority of symbols are not profitable"
  Raise.ensure (numberMeets summary "median_return" (0 < ·)) "median return is not positive"
  let strategy := (payload.get? "strategy").getD .null
  Raise.ensure strategy.isObject "invalid strategy"
  Raise.ensure (["entry", "exit", "filters"].all fun part =>
      ((strategy.get? part).getD (.obj [])).isObject) "invalid strategy rules"
  let fingerprint := (textAt strategy "fingerprint").getD ""
  Raise.ensure (fingerprint ≠ "") "strategy has no fingerprint"
  match ← payloadMarket payload with
  | some market =>
    Raise.ensure (market ∈ ["KR", "US"]) "unsupported research market scope"
    return (familyIdForStrategy strategy market, fingerprint)
  | none => throw "unsupported research market scope"

/-- Apply the absolute bar to the payload of a run. -/
def evaluateRun (str : Json → String) (payload : Json) : StrategyCandidatePromotion.PromotionDecision :=
  let runId := payloadRunId str payload
  match absoluteBar str payload with
  | .ok (familyId, fingerprint) =>
    ⟨runId, true, "meets absolute promotion bar: profitable, broad-sample, high-confidence",
      some familyId, some fingerprint⟩
  | .error reason => ⟨runId, false, reason, none, none⟩

/-- The decision on every run that is no artifact. -/
def listPromotableCandidates (str : Json → String) (runs : ResearchRuns) (limit : Nat) :
    List StrategyCandidatePromotion.PromotionDecision :=
  ((runs.listRuns limit).filterMap fun row => runs.getPayload row.runId).map (evaluateRun str)

/-- The stored registries, and the versions a call has registered so far. -/
structure PromotionState where
  families : StrategyFamilies
  registered : List StrategyVersion

/-- The rules of a stored strategy, where a missing part has none. -/
def payloadRules (strategy : Json) : Json :=
  .obj (["entry", "exit", "filters"].map fun part => (part, strategy.getOr part (.obj [])))

/-- What a call of the promotion is given: what `str` makes of a value that is no text, the ids
that are drawn for its versions, and the time. -/
structure PromotionCall where
  str : Json → String
  uuid : Nat → String
  now : String

/-- Register one run, unless it fails the bar or is registered already. -/
def promoteRun (call : PromotionCall) (runs : ResearchRuns) (state : PromotionState)
    (runId : String) : PromotionState :=
  match runs.getPayload runId with
  | none => state
  | some payload =>
    let decision := evaluateRun call.str payload
    match decision.eligible, decision.familyId with
    | true, some familyId =>
      let registry := state.families.get familyId
      if registry.history.any (·.candidateId = runId) then state
      else
        let strategy := payload.getOr "strategy" (.obj [])
        let (registry, version) := registry.registerApplyReady (call.uuid state.registered.length)
          familyId runId (decision.specFingerprint.getD "") (payloadRules strategy)
          (payload.getOr "summary" (.obj [])) call.now none
        ⟨state.families.save familyId registry call.now, state.registered ++ [version]⟩
    | _, _ => state

/-- Register every eligible run that is not registered yet. -/
def promoteEligibleCandidates (call : PromotionCall) (runs : ResearchRuns)
    (families : StrategyFamilies) (limit : Nat) : PromotionState :=
  ((runs.listRuns limit).map (·.runId)).foldl (promoteRun call runs) ⟨families, []⟩

end StrategyLab
