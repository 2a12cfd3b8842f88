import StrategyLab.Adapters.Backtest
import StrategyLab.Adapters.ChampionRegistry
import StrategyLab.Lib.Raise

/-! The comparison of a challenger with the champion: seven gates and what they decide. -/

namespace StrategyLab.Adapters

/-- What a validation found. -/
inductive ValidationStatus where
  | pass
  | fail
  | review
  deriving DecidableEq, Repr

/-- How a validation status is written. -/
def ValidationStatus.value : ValidationStatus → String
  | .pass => "pass"
  | .fail => "fail"
  | .review => "review"

/-- The fields of a validation report that say what was validated, and how it ended. -/
structure ValidationReport where
  validationId : String
  backtestRunId : String
  fingerprint : String
  overallStatus : ValidationStatus
  deriving DecidableEq

/-- What a gate found. -/
inductive ComparisonStatus where
  | pass
  | fail
  | review
  | notEvaluated
  deriving DecidableEq, Repr

/-- What a challenger has to reach. -/
structure ChampionChallengerPolicy where
  policyVersion : String := "champion_challenger_policy_v1"
  minimumReturnImprovement : ℚ := 5 / 100
  maximumMddDegradation : ℚ := 5 / 100
  requireProfitFactorNotWorse : Bool := true
  samplePeriodReviewRatio : ℚ := 1 / 2
  deriving DecidableEq

/-- An evaluation that is asked for. -/
structure ChampionChallengerEvaluationRequest where
  evaluationId : String
  championBacktestId : String
  challengerBacktestId : String
  validationId : String
  policyVersion : String
  requestedAt : String
  actorRef : String
  deriving DecidableEq

/-- The check a request is constructed with. -/
def ChampionChallengerEvaluationRequest.validate (request : ChampionChallengerEvaluationRequest) :
    Except ServiceError Unit :=
  require ([request.evaluationId, request.championBacktestId, request.challengerBacktestId,
      request.validationId, request.policyVersion, request.requestedAt, request.actorRef].all
        fun field => field ≠ "")
    "champion/challenger evaluation request is incomplete"

/-- What one gate says. -/
structure ChampionChallengerMetricComparison where
  metric : String
  status : ComparisonStatus
  championValue : String
  challengerValue : String
  difference : String
  threshold : String
  message : String
  deriving DecidableEq

/-- An evaluation report with all of its fields. -/
structure FullEvaluationReport extends ChampionChallengerEvaluationReport where
  policyVersion : String
  evaluationScore : Int
  comparisons : List ChampionChallengerMetricComparison
  warnings : List String
  failures : List String
  generatedAt : String
  rationale : String
  deriving DecidableEq

/-- A drawdown as a positive fraction, whichever way it was given. -/
def normalizeDrawdown (value : Option ℚ) : Except String ℚ :=
  match value with
  | none => .error "maximum drawdown is missing"
  | some value =>
    if -1 ≤ value ∧ value ≤ 0 then .ok |value|
    else if 0 ≤ value ∧ value ≤ 1 then .ok value
    else if 1 < value ∧ value ≤ 100 then .ok (value / 100)
    else .error "maximum drawdown is outside supported range"

namespace ChampionChallengerEvaluationEngine

/-- A figure as a text. -/
def fmt (value : Option ℚ) (signed : Bool) : String :=
  match value with
  | none => "missing"
  | some value => Py.fixed 4 signed value

/-- The challenger has to have passed its validation. -/
def validationGate (validation : ValidationReport) : ChampionChallengerMetricComparison :=
  match validation.overallStatus with
  | .pass =>
    ⟨"validation_status", .pass, "N/A", validation.overallStatus.value, "N/A", "pass",
      "challenger validation passed"⟩
  | .fail =>
    ⟨"validation_status", .fail, "N/A", validation.overallStatus.value, "N/A", "pass",
      "challenger validation failed"⟩
  | .review =>
    ⟨"validation_status", .review, "N/A", validation.overallStatus.value, "N/A", "pass",
      "challenger validation requires review"⟩

/-- The fingerprints have to be there, and different. -/
def fingerprintGate (champion challenger : BacktestResult) : ChampionChallengerMetricComparison :=
  if champion.fingerprint = "" ∨ challenger.fingerprint = "" then
    ⟨"fingerprint", .review,
      if champion.fingerprint = "" then "missing" else champion.fingerprint,
      if challenger.fingerprint = "" then "missing" else challenger.fingerprint,
      "N/A", "both present", "comparison requires both fingerprints"⟩
  else if champion.fingerprint = challenger.fingerprint then
    ⟨"fingerprint", .fail, champion.fingerprint, challenger.fingerprint, "0", "different",
      "champion and challenger fingerprints are identical"⟩
  else
    ⟨"fingerprint", .pass, champion.fingerprint, challenger.fingerprint, "different", "different",
      "fingerprints are comparable and different"⟩

/-- The return has to improve by the minimum of the policy. -/
def returnComparison (champion challenger : BacktestResult) (policy : ChampionChallengerPolicy) :
    ChampionChallengerMetricComparison :=
  let threshold := ">= +" ++ Py.fixed 4 false policy.minimumReturnImprovement
  match champion.metrics.totalReturn, challenger.metrics.totalReturn with
  | some championReturn, some challengerReturn =>
    let diff := challengerReturn - championReturn
    if policy.minimumReturnImprovement ≤ diff then
      ⟨"total_return", .pass, fmt championReturn false, fmt challengerReturn false, fmt diff true,
        threshold, "challenger return improvement meets threshold"⟩
    else
      ⟨"total_return", .fail, fmt championReturn false, fmt challengerReturn false, fmt diff true,
        threshold, "challenger return improvement is insufficient"⟩
  | championReturn, challengerReturn =>
    ⟨"total_return", .review, fmt championReturn false, fmt challengerReturn false, "missing",
      threshold, "return comparison requires both total return metrics"⟩

variable (str : ℚ → String)

/-- A figure, or `None`, as the built-in `str` writes it. -/
def strOf (value : Option ℚ) : String :=
  match value with
  | none => "None"
  | some value => str value

/-- Both drawdowns as fractions. -/
def drawdowns (champion challenger : BacktestResult) : Except String (ℚ × ℚ) := do
  let championMdd ← normalizeDrawdown champion.metrics.maxDrawdown
  let challengerMdd ← normalizeDrawdown challenger.metrics.maxDrawdown
  return (championMdd, challengerMdd)

/-- The drawdown may be worse by what the policy allows. -/
def drawdownComparison (champion challenger : BacktestResult) (policy : ChampionChallengerPolicy) :
    ChampionChallengerMetricComparison :=
  match drawdowns champion challenger with
  | .error message =>
    ⟨"max_drawdown", .review, strOf str champion.metrics.maxDrawdown,
      strOf str challenger.metrics.maxDrawdown, "missing", "valid mdd", message⟩
  | .ok (championMdd, challengerMdd) =>
    let allowed := championMdd + policy.maximumMddDegradation
    let threshold := "<= " ++ Py.fixed 4 false allowed
    if challengerMdd ≤ allowed then
      ⟨"max_drawdown", .pass, fmt championMdd false, fmt challengerMdd false,
        fmt (challengerMdd - championMdd) true, threshold,
        "challenger drawdown is within allowed degradation"⟩
    else
      ⟨"max_drawdown", .fail, fmt championMdd false, fmt challengerMdd false,
        fmt (challengerMdd - championMdd) true, threshold,
        "challenger drawdown degradation exceeds threshold"⟩

/-- The profit factor may not be worse, if the policy asks for that. -/
def profitFactorComparison (champion challenger : BacktestResult)
    (policy : ChampionChallengerPolicy) : ChampionChallengerMetricComparison :=
  match champion.metrics.profitFactor, challenger.metrics.profitFactor with
  | some championPf, some challengerPf =>
    if policy.requireProfitFactorNotWorse = false ∨ championPf ≤ challengerPf then
      ⟨"profit_factor", .pass, fmt championPf false, fmt challengerPf false,
        fmt (challengerPf - championPf) true, ">= champion",
        "challenger profit factor is acceptable"⟩
    else
      ⟨"profit_factor", .fail, fmt championPf false, fmt challengerPf false,
        fmt (challengerPf - championPf) true, ">= champion",
        "challenger profit factor is worse than champion"⟩
  | championPf, challengerPf =>
    ⟨"profit_factor", .notEvaluated, fmt championPf false, fmt challengerPf false, "missing",
      "both present", "profit factor comparison was not evaluated because a metric is missing"⟩

variable (fromIsoFormat : String → Except String Int)

/-- The first text, unless it is missing or empty. -/
def firstText (first : Option String) (second : String) : String :=
  match first with
  | none => second
  | some text => if text = "" then second else text

/-- How many days a result covers. -/
def sampleDays (result : BacktestResult) : Except ServiceError Int := do
  let start := firstText result.metrics.startDate result.period.startDate
  let end_ := firstText result.metrics.endDate result.period.endDate
  let last ← (fromIsoFormat end_).mapError .valueError
  let first ← (fromIsoFormat start).mapError .valueError
  return last - first

/-- Whether the shorter of two samples is long enough for a comparison with the longer one. -/
def Comparable (championDays challengerDays : Int) (policy : ChampionChallengerPolicy) : Prop :=
  max championDays challengerDays = 0 ∨ policy.samplePeriodReviewRatio ≤
    ((min championDays challengerDays : Int) : ℚ) / ((max championDays challengerDays : Int) : ℚ)

instance (championDays challengerDays : Int) (policy : ChampionChallengerPolicy) :
    Decidable (Comparable championDays challengerDays policy) :=
  inferInstanceAs (Decidable (_ ∨ _))

/-- The samples should cover times of comparable length. -/
def sampleComparison (champion challenger : BacktestResult) (policy : ChampionChallengerPolicy) :
    Except ServiceError ChampionChallengerMetricComparison := do
  let championDays ← sampleDays fromIsoFormat champion
  let challengerDays ← sampleDays fromIsoFormat challenger
  let threshold := ">= " ++ Py.fixed 2 false policy.samplePeriodReviewRatio ++ " ratio"
  return if Comparable championDays challengerDays policy then
      ⟨"sample_period", .pass, toString championDays, toString challengerDays,
        toString (challengerDays - championDays), threshold,
        "sample periods are broadly comparable"⟩
    else
      ⟨"sample_period", .review, toString championDays, toString challengerDays,
        toString (challengerDays - championDays), threshold,
        "sample period comparability requires review"⟩

/-- The trades of a result, from its metrics if they are counted there. -/
def tradeCount (result : BacktestResult) : Int :=
  result.metrics.tradeCount.getD result.tradeSummary.tradeCount

/-- The trade counts are only noted. -/
def tradeCountComparison (champion challenger : BacktestResult) :
    ChampionChallengerMetricComparison :=
  ⟨"trade_count", .pass, toString (tradeCount champion), toString (tradeCount challenger),
    toString (tradeCount challenger - tradeCount champion), "record only",
    "trade counts recorded for audit"⟩

/-- The seven gates, in order. -/
def comparisons (champion challenger : BacktestResult) (validation : ValidationReport)
    (policy : ChampionChallengerPolicy) :
    Except ServiceError (List ChampionChallengerMetricComparison) := do
  let sample ← sampleComparison fromIsoFormat champion challenger policy
  return [validationGate validation, fingerprintGate champion challenger,
    returnComparison champion challenger policy, drawdownComparison str champion challenger policy,
    profitFactorComparison champion challenger policy, sample,
    tradeCountComparison champion challenger]

/-- The first comparison of a metric. -/
def byMetric (comparisons : List ChampionChallengerMetricComparison) (metric : String) :
    Except ServiceError ChampionChallengerMetricComparison :=
  match comparisons.find? fun comparison => comparison.metric = metric with
  | none => .error (.keyError metric)
  | some comparison => .ok comparison

/-- What the gates decide: the validation first, then anything unclear, then anything failed. -/
def decision (comparisons : List ChampionChallengerMetricComparison) :
    Except ServiceError ChampionChallengerDecision := do
  let validation ← byMetric comparisons "validation_status"
  return if validation.status = .fail then .keepChampion
    else if validation.status = .review then .review
    else if comparisons.any fun comparison => comparison.status = .review then .review
    else if comparisons.any fun comparison => comparison.status = .notEvaluated then .review
    else if comparisons.any fun comparison => comparison.status = .fail then .keepChampion
    else .promotionCandidate

/-- What a gate counts for the score. -/
def weight : ComparisonStatus → ℚ
  | .pass => 1
  | .notEvaluated => 1 / 2
  | .review => 35 / 100
  | .fail => 0

/-- The score of an evaluation, which is below seventy if a gate failed. -/
def score (comparisons : List ChampionChallengerMetricComparison) : Int :=
  let total := (comparisons.map fun comparison => weight comparison.status).sum
  let rounded := Py.roundHalfEven (total / comparisons.length * 100)
  let capped := if comparisons.any fun comparison => comparison.status = .fail
    then min rounded 69 else rounded
  max 0 (min 100 capped)

/-- Why an evaluation ended as it did. -/
def rationale : ChampionChallengerDecision → String
  | .promotionCandidate =>
    "challenger passed validation and all comparison gates; this is not promotion"
  | .review => "comparison requires human review before any future promotion workflow"
  | .keepChampion => "champion remains selected by evaluation policy"

/-- Compare a challenger with the champion. -/
def report (policy : ChampionChallengerPolicy) (request : ChampionChallengerEvaluationRequest)
    (champion challenger : BacktestResult) (validation : ValidationReport)
    (generatedAt : String) : Except ServiceError FullEvaluationReport := do
  let comparisons ← comparisons str fromIsoFormat champion challenger validation policy
  let decided ← decision comparisons
  return {
    evaluationId := request.evaluationId
    decision := decided
    championBacktestId := champion.resultId
    challengerBacktestId := challenger.resultId
    validationId := validation.validationId
    championFingerprint := champion.fingerprint
    challengerFingerprint := challenger.fingerprint
    policyVersion := policy.policyVersion
    evaluationScore := score comparisons
    comparisons := comparisons
    warnings := (comparisons.filter fun comparison =>
      comparison.status = .review || comparison.status = .notEvaluated).map (·.message)
    failures := (comparisons.filter fun comparison =>
      comparison.status = .fail).map (·.message)
    generatedAt := generatedAt
    rationale := rationale decided }

end ChampionChallengerEvaluationEngine

/-- The id of a report. -/
def FullEvaluationReport.id (report : FullEvaluationReport) : String := report.evaluationId

/-- The tables of requests and reports. -/
structure SQLiteChampionChallengerRepository where
  requests : Table ChampionChallengerEvaluationRequest.evaluationId
  reports : Table FullEvaluationReport.id

namespace SQLiteChampionChallengerRepository

/-- Store a request in place of one with the same id. -/
def addRequest (repository : SQLiteChampionChallengerRepository)
    (request : ChampionChallengerEvaluationRequest) : SQLiteChampionChallengerRepository :=
  { repository with requests := repository.requests.replace request }

/-- Store a report in place of one with the same id. -/
def addReport (repository : SQLiteChampionChallengerRepository) (report : FullEvaluationReport) :
    SQLiteChampionChallengerRepository :=
  { repository with reports := repository.reports.replace report }

end SQLiteChampionChallengerRepository

/-- The events of an evaluation. -/
inductive EvaluationEvent where
  | requested
  | completed
  | promotionCandidateIdentified
  | championRetained
  | reviewRequired
  deriving DecidableEq, Repr

/-- An evaluation with the results and the validation it is given, and what the event store does. -/
structure EvaluationCall where
  request : ChampionChallengerEvaluationRequest
  champion : BacktestResult
  challenger : BacktestResult
  validation : ValidationReport
  generatedAt : String
  append : EvaluationEvent → Except ServiceError Unit

namespace ChampionChallengerEvaluationEngine

/-- Record an event, unless it was recorded before. -/
def record (call : EvaluationCall) (event : EvaluationEvent) : Except ServiceError Unit :=
  match call.append event with
  | .error (.integrityError _) => .ok ()
  | answered => answered

/-- The event that a decision is recorded as. -/
def eventOf : ChampionChallengerDecision → EvaluationEvent
  | .promotionCandidate => .promotionCandidateIdentified
  | .keepChampion => .championRetained
  | .review => .reviewRequired

variable (str : ℚ → String) (fromIsoFormat : String → Except String Int)

/-- Evaluate a challenger, and store the request and the report. -/
def evaluate (policy : ChampionChallengerPolicy) (call : EvaluationCall) :
    EStateM ServiceError SQLiteChampionChallengerRepository FullEvaluationReport := do
  Attempt.answer (record call .requested)
  modify (·.addRequest call.request)
  let report ← Attempt.answer (report str fromIsoFormat policy call.request call.champion
    call.challenger call.validation call.generatedAt)
  modify (·.addReport report)
  Attempt.answer (record call .completed)
  Attempt.answer (record call (eventOf report.decision))
  return report

end ChampionChallengerEvaluationEngine

end StrategyLab.Adapters
