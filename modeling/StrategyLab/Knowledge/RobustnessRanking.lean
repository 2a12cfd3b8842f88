import StrategyLab.Lib.Raise
import StrategyLab.Lib.Rounding
import StrategyLab.Lib.Sorted
import Mathlib.Order.WithBot
import Mathlib.Tactic.Positivity

/-! The ranking of validated experiments by a score, and what a better experiment gains by it. -/

namespace StrategyLab

/-- A number among the metrics of an experiment. -/
inductive MetricValue where
  /-- A number or a text. -/
  | plain (value : Py.Value)
  /-- The infinite float. -/
  | infinite
  deriving DecidableEq

/-- What validating an experiment has shown. -/
structure AuthoritativeValidationEvidence where
  evidenceId : String
  experimentId : String
  source : String
  fixtureBacked : Bool
  metrics : List (String × MetricValue)
  tradeCount : Int
  deriving DecidableEq

/-- How a validation ended. -/
inductive ValidationLoopV2Status where
  | acceptedForReview
  | needsMoreEvidence
  | blocked
  deriving DecidableEq, Repr

/-- The result of a validation. -/
structure ValidationLoopV2Result where
  status : ValidationLoopV2Status
  evidence : Option AuthoritativeValidationEvidence
  deriving DecidableEq

/-- Whether experiments could be ranked. -/
inductive RobustnessRankingStatus where
  | ranked
  | blocked
  deriving DecidableEq, Repr

/-- Why experiments could not be ranked. -/
inductive RobustnessRankingBlocker where
  | noValidatedEvidence
  | missingRequiredMetrics
  | blockingValidationStatus
  deriving DecidableEq, Repr

/-- The numbers an experiment is ranked by; a profit factor is infinite without losses. -/
structure RankedMetrics where
  totalReturn : ℚ
  mdd : ℚ
  profitFactor : WithTop ℚ
  winRate : ℚ
  tradeCount : Int
  deriving DecidableEq

/-- An experiment with its place in the ranking. -/
structure RobustnessRankedStrategy where
  rank : Nat
  experimentId : String
  evidenceId : String
  score : ℚ
  metrics : RankedMetrics
  source : String
  fixtureBacked : Bool
  deriving DecidableEq

/-- A ranking. -/
structure RobustnessRankingResult where
  status : RobustnessRankingStatus
  blockers : List RobustnessRankingBlocker
  ranked : List RobustnessRankedStrategy
  warnings : List String
  deriving DecidableEq

/-- What reading a metric raises. -/
inductive MetricError where
  /-- The text of a metric is no number. -/
  | valueError
  /-- A metric other than the profit factor is not finite; the validation blocks such evidence. -/
  | notFinite
  deriving DecidableEq, Repr

namespace StrategyRobustnessRanker

variable (numerals : Py.Numerals)

/-- The metrics a ranking needs. -/
def requiredMetrics : List String := ["total_return", "mdd", "profit_factor", "win_rate"]

/-- All metrics a ranking needs are there. -/
def hasRequiredMetrics (evidence : AuthoritativeValidationEvidence) : Bool :=
  requiredMetrics.all fun key => (evidence.metrics.lookup key).isSome

/-- A metric that may be infinite. -/
def metric (evidence : AuthoritativeValidationEvidence) (key : String) :
    Except MetricError (WithTop ℚ) :=
  match evidence.metrics.lookup key with
  | some .infinite => .ok ⊤
  | some (.plain value) =>
    match value.toFloat numerals with
    | some number => .ok number
    | none => .error .valueError
  | none => .error .valueError

/-- A metric that is finite. -/
def finiteMetric (evidence : AuthoritativeValidationEvidence) (key : String) :
    Except MetricError ℚ := do
  match ← metric numerals evidence key with
  | none => .error .notFinite
  | some number => return number

/-- The numbers of an experiment. -/
def metricsOf (evidence : AuthoritativeValidationEvidence) : Except MetricError RankedMetrics := do
  let totalReturn ← finiteMetric numerals evidence "total_return"
  let mdd ← finiteMetric numerals evidence "mdd"
  let profitFactor ← metric numerals evidence "profit_factor"
  let winRate ← finiteMetric numerals evidence "win_rate"
  return { totalReturn, mdd, profitFactor, winRate, tradeCount := evidence.tradeCount }

end StrategyRobustnessRanker

namespace RankedMetrics

/-- The drawdown a return is divided by. -/
def floored (metrics : RankedMetrics) : ℚ := max metrics.mdd (1 / 1000)

/-- The profit factor up to a cap. -/
def capped (metrics : RankedMetrics) : ℚ :=
  match metrics.profitFactor with
  | none => 5
  | some factor => min factor 5

/-- How much of a full sample the trades are. -/
def sample (metrics : RankedMetrics) : ℚ := min (metrics.tradeCount / 60) 1

/-- The score of an experiment. -/
def score (metrics : RankedMetrics) : ℚ :=
  Py.round 6 (metrics.totalReturn / metrics.floored + metrics.capped + metrics.winRate +
    metrics.sample)

end RankedMetrics

namespace StrategyRobustnessRanker

variable (numerals : Py.Numerals)

/-- The evidence of the results that were accepted. -/
def accepted (results : List ValidationLoopV2Result) : List AuthoritativeValidationEvidence :=
  results.filterMap fun result =>
    if result.status = .acceptedForReview then result.evidence else none

/-- What keeps results from being ranked. -/
def blockers (results : List ValidationLoopV2Result) : List RobustnessRankingBlocker :=
  (if (accepted results).length ≠ results.length then [.blockingValidationStatus] else []) ++
    (if accepted results = [] then [.noValidatedEvidence] else []) ++
    (if (accepted results).any fun evidence => !hasRequiredMetrics evidence then
      [.missingRequiredMetrics] else [])

/-- An experiment at a place of the ranking. -/
def rankedStrategy (rank : Nat) (evidence : AuthoritativeValidationEvidence)
    (metrics : RankedMetrics) : RobustnessRankedStrategy where
  rank := rank
  experimentId := evidence.experimentId
  evidenceId := evidence.evidenceId
  score := metrics.score
  metrics := metrics
  source := evidence.source
  fixtureBacked := evidence.fixtureBacked

/-- The evidence together with its numbers. -/
def scored (evidence : AuthoritativeValidationEvidence) :
    Except MetricError (AuthoritativeValidationEvidence × RankedMetrics) := do
  return (evidence, ← metricsOf numerals evidence)

/-- Rank results by their scores, the highest first. -/
def rank (results : List ValidationLoopV2Result) : Except MetricError RobustnessRankingResult :=
  if blockers results ≠ [] then
    .ok { status := .blocked, blockers := blockers results, ranked := [], warnings := [] }
  else do
    let known ← (accepted results).mapM (scored numerals)
    -- Sorting in reverse keeps equal scores in their order, and so does sorting by the opposite.
    let ranked := (Py.sortedBy (fun entry => -entry.2.score) known).mapIdx fun index entry =>
      rankedStrategy (index + 1) entry.1 entry.2
    return {
      status := .ranked
      blockers := []
      ranked
      warnings := if ranked.any (·.fixtureBacked) then
        ["fixture-backed rankings are not production approval"] else [] }

end StrategyRobustnessRanker

end StrategyLab
