import StrategyLab.Adapters.ChampionEvaluation
import Mathlib.Algebra.BigOperators.Group.List.Basic

/-! The validation of backtests over several windows: the rules on each window and on all. -/

namespace StrategyLab.Adapters

open ChampionChallengerEvaluationEngine (sampleDays tradeCount strOf)

/-- How much a rule weighs. -/
inductive ValidationSeverity where
  | info
  | warning
  | review
  | fail
  deriving DecidableEq, Repr

/-- What one rule found. -/
structure ValidationRuleResult where
  ruleId : String
  status : ValidationStatus
  severity : ValidationSeverity
  message : String
  observed : String
  threshold : String
  deriving DecidableEq

/-- What a backtest has to reach. -/
structure ValidationPolicy where
  policyVersion : String := "validation_policy_v1"
  minTotalReturn : ℚ := 0
  minAnnualizedReturn : Option ℚ := none
  minProfitFactor : ℚ := 11 / 10
  maxDrawdown : ℚ := 30 / 100
  maxExposure : Option ℚ := none
  minTradeCount : Int := 30
  minSampleDays : Int := 180
  minWinRate : Option ℚ := none
  missingProfitFactorStatus : ValidationStatus := .review
  missingAnnualizedReturnStatus : ValidationStatus := .review
  requireFingerprint : Bool := true
  minPassingWindowRatio : ℚ := 8 / 10
  deriving DecidableEq

/-- A validation that is asked for. -/
structure ValidationRequest where
  validationId : String
  backtestResultIds : List String
  policyVersion : String
  requestedAt : String
  actorRef : String
  deriving DecidableEq

/-- Something a report rests on. -/
structure ValidationEvidence where
  evidenceId : String
  sourceRef : String
  description : String
  deriving DecidableEq

/-- A validation report with all of its fields. -/
structure FullValidationReport extends ValidationReport where
  strategyRef : String
  datasetRef : String
  policyVersion : String
  score : Int
  ruleResults : List ValidationRuleResult
  warnings : List String
  failures : List String
  unknowns : List String
  generatedAt : String
  reproducibility : List (String × String)
  evidence : List ValidationEvidence
  deriving DecidableEq

/-- What a validation raises: what its dates raise, or a division by a period of no days. -/
inductive ValidationError where
  | service (raised : ServiceError)
  | zeroDivision
  deriving DecidableEq

/-- How a backtest status is written. -/
def BacktestStatus.value : BacktestStatus → String
  | .requested => "requested"
  | .validated => "validated"
  | .completed => "completed"
  | .failed => "failed"
  | .rejected => "rejected"
  | .timeout => "timeout"

/-- The fingerprint of a result is there, and its reproducibility record names the same one. -/
def fingerprintMatches (result : BacktestResult) : Bool :=
  result.fingerprint ≠ "" &&
    result.reproducibility.lookup "fingerprint" = some result.fingerprint

section Rules

variable (str : ℚ → String) (fromIsoFormat : String → Except String Int)

/-- A figure has to reach a threshold, from below or from above; a missing one has a status. -/
def thresholdRule (ruleId : String) (observed : Option ℚ) (threshold : ℚ) (greater : Bool)
    (missing : ValidationStatus) : ValidationRuleResult :=
  match observed with
  | none =>
    ⟨ruleId, missing, if missing = .fail then .fail else .review, ruleId ++ " is missing",
      "missing", str threshold⟩
  | some observed =>
    let ok := if greater then threshold ≤ observed else observed ≤ threshold
    ⟨ruleId, if ok then .pass else .fail, .fail,
      if ok then ruleId ++ " within policy" else ruleId ++ " violates policy",
      Py.fixed 4 false observed, (if greater then ">= " else "<= ") ++ Py.fixed 4 false threshold⟩

/-- The rule on the drawdown of a window. -/
def windowDrawdownRule (policy : ValidationPolicy) (result : BacktestResult) :
    ValidationRuleResult :=
  match normalizeDrawdown result.metrics.maxDrawdown with
  | .error message =>
    ⟨"max_drawdown", .fail, .fail, message, strOf str result.metrics.maxDrawdown,
      "valid drawdown"⟩
  | .ok drawdown =>
    ⟨"max_drawdown", if drawdown ≤ policy.maxDrawdown then .pass else .fail, .fail,
      if drawdown ≤ policy.maxDrawdown then "maximum drawdown within policy"
        else "maximum drawdown exceeds policy",
      Py.fixed 4 false drawdown, "<= " ++ Py.fixed 4 false policy.maxDrawdown⟩

/-- The rule on the number of trades in a window. -/
def windowTradesRule (policy : ValidationPolicy) (result : BacktestResult) : ValidationRuleResult :=
  let enough := policy.minTradeCount ≤ tradeCount result
  ⟨"trade_count", if enough then .pass else .fail, .fail,
    if enough then "trade count is sufficient" else "trade count is below policy minimum",
    toString (tradeCount result), ">= " ++ toString policy.minTradeCount⟩

/-- The rule on the days a window covers. -/
def samplePeriodRule (policy : ValidationPolicy) (days : Int) : ValidationRuleResult :=
  let enough := policy.minSampleDays ≤ days
  ⟨"sample_period", if enough then .pass else .review, .review,
    if enough then "sample period is sufficient"
      else "sample period is shorter than policy minimum",
    toString days, ">= " ++ toString policy.minSampleDays ++ " days"⟩

/-- The rules on how a window ended and on its fingerprint, where they are broken. -/
def identityRules (policy : ValidationPolicy) (result : BacktestResult) :
    List ValidationRuleResult :=
  (if result.status ≠ .completed then
    [⟨"completed_status", .fail, .fail, "backtest result is not completed", result.status.value,
      "completed"⟩] else []) ++
  if policy.requireFingerprint && !fingerprintMatches result then
    [⟨"fingerprint_required", .fail, .fail, "reproducibility fingerprint is missing or mismatched",
      if result.fingerprint = "" then "missing" else result.fingerprint, "required"⟩] else []

/-- The rules on the figures of a window. -/
def figureRules (policy : ValidationPolicy) (metrics : BacktestMetrics) :
    List ValidationRuleResult :=
  [thresholdRule str "total_return" metrics.totalReturn policy.minTotalReturn true .fail,
    thresholdRule str "profit_factor" metrics.profitFactor policy.minProfitFactor true
      policy.missingProfitFactorStatus] ++
  (policy.minAnnualizedReturn.toList.map fun minimum =>
    thresholdRule str "annualized_return" metrics.annualizedReturn minimum true
      policy.missingAnnualizedReturnStatus) ++
  (policy.maxExposure.toList.map fun maximum =>
    thresholdRule str "exposure" metrics.exposure maximum false .review) ++
  policy.minWinRate.toList.map fun minimum =>
    thresholdRule str "win_rate" metrics.winRate minimum true .review

/-- All rules on one window that covers a number of days. -/
def windowRules (policy : ValidationPolicy) (result : BacktestResult) (days : Int) :
    List ValidationRuleResult :=
  identityRules policy result ++ figureRules str policy result.metrics ++
    [windowDrawdownRule str policy result, windowTradesRule policy result,
      samplePeriodRule policy days]

/-- All rules on one window, if its days can be read. -/
def singleResultRules (policy : ValidationPolicy) (result : BacktestResult) :
    Except ServiceError (List ValidationRuleResult) :=
  (sampleDays fromIsoFormat result).map (windowRules str policy result)

/-- What rules amount to: one that fails decides, then one that asks for a review. -/
def overallStatus (rules : List ValidationRuleResult) : ValidationStatus :=
  if rules.any (·.status = .fail) then .fail
  else if rules.any (·.status = .review) then .review
  else .pass

/-- The drawdown of a window, if it can be read. -/
def safeDrawdown (result : BacktestResult) : Option ℚ :=
  (normalizeDrawdown result.metrics.maxDrawdown).toOption

/-- A window has a drawdown of more than one and a half times what the policy allows. -/
def catastrophic (policy : ValidationPolicy) (result : BacktestResult) : Bool :=
  (safeDrawdown result).any fun drawdown => policy.maxDrawdown * (3 / 2) < drawdown

/-- A window passes on its own. -/
def windowPasses (policy : ValidationPolicy) (result : BacktestResult) : Bool :=
  match singleResultRules str fromIsoFormat policy result with
  | .ok rules => overallStatus rules = .pass
  | .error _ => false

/-- The share of the windows that pass on their own. -/
def passingRatio (policy : ValidationPolicy) (results : List BacktestResult) : ℚ :=
  (results.countP (windowPasses str fromIsoFormat policy) : ℚ) / results.length

/-- The rules on all windows together. -/
def multiResultRules (policy : ValidationPolicy) (results : List BacktestResult) :
    List ValidationRuleResult :=
  let ratio := passingRatio str fromIsoFormat policy results
  let enough := policy.minPassingWindowRatio ≤ ratio
  [⟨"passing_window_ratio", if enough then .pass else .review, .review,
      if enough then "validation window pass ratio is acceptable"
        else "validation window pass ratio requires review",
      Py.fixed 2 false ratio, ">= " ++ Py.fixed 2 false policy.minPassingWindowRatio⟩] ++
  if results.any (catastrophic policy) then
    [⟨"catastrophic_window", .fail, .fail,
      "at least one validation window has catastrophic drawdown", "present", "absent"⟩] else []

/-- The warnings that one window was fitted to its data. -/
def windowWarnings (policy : ValidationPolicy) (result : BacktestResult) :
    List ValidationRuleResult :=
  let trades := tradeCount result
  (match result.metrics.totalReturn with
  | some totalReturn =>
    if 1 < totalReturn ∧ trades < policy.minTradeCount then
      [⟨"overfit_high_return_low_trades", .review, .warning,
        "very high return with low trade count is an overfitting warning, not proof",
        s!"return={Py.fixed 2 false totalReturn}, trades={trades}", "review"⟩] else []
  | none => []) ++
  match result.metrics.winRate with
  | some winRate =>
    if 9 / 10 < winRate ∧ trades < policy.minTradeCount then
      [⟨"overfit_high_win_rate_low_trades", .review, .warning,
        "very high win rate with tiny sample is an overfitting warning, not proof",
        s!"win_rate={Py.fixed 2 false winRate}, trades={trades}", "review"⟩] else []
  | none => []

/-- The warning that one window brings most of the return. -/
def dominanceWarnings (results : List BacktestResult) : List ValidationRuleResult :=
  let returns := results.filterMap (·.metrics.totalReturn)
  match returns.max? with
  | some largest =>
    if max (1 / 100) returns.sum * (8 / 10) < largest then
      [⟨"one_window_dominates", .review, .warning, "one window dominates aggregate return",
        "max=" ++ Py.fixed 4 false largest, "balanced windows"⟩] else []
  | none => []

/-- The warnings that results were fitted to their data. -/
def overfittingWarnings (policy : ValidationPolicy) (results : List BacktestResult) :
    List ValidationRuleResult :=
  results.flatMap (windowWarnings policy) ++
    if 1 < results.length then dominanceWarnings results else []

/-- A number between zero and a largest value. -/
def cap (value maxValue : ℚ) : ℚ := max 0 (min value maxValue)

/-- A figure, unless it is missing or zero. -/
def figureOr (figure : Option ℚ) (other : ℚ) : ℚ :=
  match figure with
  | none => other
  | some figure => if figure = 0 then other else figure

/-- The score of a result, which is below seventy if a rule fails. -/
def validationScore (policy : ValidationPolicy) (primary : BacktestResult)
    (rules : List ValidationRuleResult) : Except ValidationError Int := do
  let days ← (sampleDays fromIsoFormat primary).mapError .service
  Raise.ensure (policy.minSampleDays ≠ 0) .zeroDivision
  let dimensions : List ℚ :=
    [cap (figureOr primary.metrics.totalReturn 0 / max policy.minTotalReturn (1 / 100)) 1,
      1 - cap (figureOr (safeDrawdown primary) policy.maxDrawdown /
        max policy.maxDrawdown (1 / 100)) 1,
      cap (tradeCount primary / (max policy.minTradeCount 1 : Int)) 1,
      cap (figureOr primary.metrics.profitFactor 0 / max policy.minProfitFactor (1 / 100)) 1,
      cap (days / policy.minSampleDays) 1,
      if fingerprintMatches primary then 1 else 0]
  let rounded := Py.roundHalfEven (dimensions.sum / dimensions.length * 100)
  let capped := if rules.any (·.status = .fail) then min rounded 69 else rounded
  return max 0 (min 100 capped)

/-- Validate the results of a request. -/
def StrategyValidationEngine.validate (policy : ValidationPolicy) (request : ValidationRequest)
    (results : List BacktestResult) (generatedAt : String) :
    Except ValidationError FullValidationReport :=
  match results with
  | [] => .error (.service (.valueError "validation requires at least one backtest result"))
  | primary :: _ => do
    let single ← (results.mapM (singleResultRules str fromIsoFormat policy)).mapError .service
    let multi :=
      if 1 < results.length then multiResultRules str fromIsoFormat policy results else []
    let rules := single.flatten ++ multi ++ overfittingWarnings policy results
    let score ← validationScore fromIsoFormat policy primary rules
    return {
      validationId := request.validationId
      backtestRunId := primary.resultId
      fingerprint := primary.fingerprint
      overallStatus := overallStatus rules
      strategyRef := primary.strategy.strategyId ++ ":" ++ primary.strategy.version
      datasetRef := primary.dataset.datasetId ++ ":" ++ primary.dataset.version
      policyVersion := policy.policyVersion
      score
      ruleResults := rules
      warnings := (rules.filter fun rule =>
        rule.severity ∈ [.warning, .review] ∧ rule.status ≠ .pass).map (·.message)
      failures := (rules.filter (·.status = .fail)).map (·.message)
      unknowns := (rules.filter fun rule =>
        rule.status = .review ∧ rule.observed = "missing").map (·.message)
      generatedAt
      reproducibility := primary.reproducibility
      evidence := [⟨"evidence:" ++ primary.resultId, primary.resultId,
        "normalized BacktestResult"⟩] }

end Rules

/-- A figure reaches a threshold, or it is missing and may be. -/
def Met (observed : Option ℚ) (threshold : ℚ) (greater : Bool) (missing : ValidationStatus) :
    Prop :=
  match observed with
  | none => missing ≠ .fail
  | some observed => if greater then threshold ≤ observed else observed ≤ threshold

/-- The figures of a window are within the limits of a policy. -/
structure WithinLimits (policy : ValidationPolicy) (result : BacktestResult) : Prop where
  totalReturn : Met result.metrics.totalReturn policy.minTotalReturn true .fail
  profitFactor : Met result.metrics.profitFactor policy.minProfitFactor true
    policy.missingProfitFactorStatus
  annualizedReturn : ∀ minimum ∈ policy.minAnnualizedReturn,
    Met result.metrics.annualizedReturn minimum true policy.missingAnnualizedReturnStatus
  exposure : ∀ maximum ∈ policy.maxExposure, Met result.metrics.exposure maximum false .review
  winRate : ∀ minimum ∈ policy.minWinRate, Met result.metrics.winRate minimum true .review
  drawdown : ∃ drawdown, normalizeDrawdown result.metrics.maxDrawdown = .ok drawdown ∧
    drawdown ≤ policy.maxDrawdown
  trades : policy.minTradeCount ≤ tradeCount result

/-- No rule among some fails. -/
def NoneFails (rules : List ValidationRuleResult) : Prop := ∀ rule ∈ rules, rule.status ≠ .fail

section Statuses

variable {rules : List ValidationRuleResult}

/-- Rules amount to a failure exactly if one of them fails. -/
theorem overallStatus_ne_fail :
    overallStatus rules ≠ .fail ↔ NoneFails rules := by
  rw [overallStatus, NoneFails]
  by_cases fails : rules.any (·.status = .fail) = true
  · rw [if_pos fails]
    simp only [List.any_eq_true, decide_eq_true_eq] at fails
    obtain ⟨rule, member, failed⟩ := fails
    exact iff_of_false (fun other => other rfl) fun passes => passes rule member failed
  · rw [if_neg fails]
    simp only [List.any_eq_true, decide_eq_true_eq, not_exists, not_and] at fails
    refine iff_of_true ?_ fails
    split <;> simp

/-- What rules amount to does not depend on their order. -/
theorem overallStatus_perm {rules other : List ValidationRuleResult} (same : rules.Perm other) :
    overallStatus rules = overallStatus other := by
  have any (cond : ValidationRuleResult → Bool) : rules.any cond = other.any cond := by
    rw [Bool.eq_iff_iff, List.any_eq_true, List.any_eq_true]
    simp only [same.mem_iff]
  rw [overallStatus, overallStatus, any, any]

/-- Rules in a row fail nowhere exactly if neither part does. -/
@[simp] theorem noneFails_append {first second : List ValidationRuleResult} :
    NoneFails (first ++ second) ↔ NoneFails first ∧ NoneFails second := by
  simp only [NoneFails, List.mem_append, or_imp, forall_and]

/-- A rule in front fails nowhere with the others exactly if it does not fail itself. -/
@[simp] theorem noneFails_cons {rule : ValidationRuleResult} :
    NoneFails (rule :: rules) ↔ rule.status ≠ .fail ∧ NoneFails rules := by
  simp only [NoneFails, List.mem_cons, forall_eq_or_imp]

/-- No rules fail nowhere. -/
@[simp] theorem noneFails_nil : NoneFails [] := by
  intro rule member
  cases member

/-- The rules on all windows fail nowhere exactly if those on each do. -/
theorem noneFails_flatMap {α : Type} {items : List α} {rules : α → List ValidationRuleResult} :
    NoneFails (items.flatMap rules) ↔ ∀ item ∈ items, NoneFails (rules item) := by
  simp only [NoneFails, List.mem_flatMap]
  constructor
  · intro none_ item member rule there
    exact none_ rule ⟨item, member, there⟩
  · rintro each rule ⟨item, member, there⟩
    exact each item member rule there

end Statuses

section Windows

variable {str : ℚ → String} {fromIsoFormat : String → Except String Int}
  {policy : ValidationPolicy} {result : BacktestResult}

/-- A rule on a figure fails exactly if the figure does not meet the threshold. -/
theorem thresholdRule_ne_fail {ruleId : String} {observed : Option ℚ} {threshold : ℚ}
    {greater : Bool} {missing : ValidationStatus} :
    (thresholdRule str ruleId observed threshold greater missing).status ≠ .fail ↔
      Met observed threshold greater missing := by
  cases observed with
  | none => rfl
  | some observed =>
    simp only [thresholdRule, Met]
    cases greater with
    | true => by_cases met : threshold ≤ observed <;> simp [met]
    | false => by_cases met : observed ≤ threshold <;> simp [met]

/-- A rule that a policy may leave out fails exactly if it is there and is not met. -/
theorem noneFails_optional {limit : Option ℚ} {rule : ℚ → ValidationRuleResult} :
    NoneFails (limit.toList.map rule) ↔ ∀ bound ∈ limit, (rule bound).status ≠ .fail := by
  cases limit with
  | none => simp
  | some bound => simp

/-- The rules on a completed window with a matching fingerprint fail nowhere exactly if its figures
are within the limits. -/
theorem noneFails_windowRules (completed : result.status = .completed)
    (matching : fingerprintMatches result = true) {days : Int} :
    NoneFails (windowRules str policy result days) ↔ WithinLimits policy result := by
  have identity : identityRules policy result = [] := by
    simp [identityRules, completed, matching]
  have drawdown : (windowDrawdownRule str policy result).status ≠ .fail ↔
      ∃ drawdown, normalizeDrawdown result.metrics.maxDrawdown = .ok drawdown ∧
        drawdown ≤ policy.maxDrawdown := by
    rw [windowDrawdownRule]
    cases normalizeDrawdown result.metrics.maxDrawdown with
    | error message => simp
    | ok drawdown => by_cases within : drawdown ≤ policy.maxDrawdown <;> simp [within]
  have trades : (windowTradesRule policy result).status ≠ .fail ↔
      policy.minTradeCount ≤ tradeCount result := by
    by_cases enough : policy.minTradeCount ≤ tradeCount result <;>
      simp [windowTradesRule, enough]
  have period : (samplePeriodRule policy days).status ≠ .fail := by
    by_cases enough : policy.minSampleDays ≤ days <;> simp [samplePeriodRule, enough]
  rw [windowRules, identity, List.nil_append, figureRules]
  simp only [noneFails_append, noneFails_cons, noneFails_nil, noneFails_optional,
    thresholdRule_ne_fail, drawdown, trades, and_true]
  constructor
  · rintro ⟨⟨⟨⟨⟨total, profit⟩, annualized⟩, exposure⟩, winRate⟩, down, count, -⟩
    exact ⟨total, profit, annualized, exposure, winRate, down, count⟩
  · intro within
    exact ⟨⟨⟨⟨⟨within.totalReturn, within.profitFactor⟩, within.annualizedReturn⟩,
      within.exposure⟩, within.winRate⟩, within.drawdown, within.trades, period⟩

variable {results : List BacktestResult}

/-- The rules on all windows together fail exactly if one of them is catastrophic. -/
theorem noneFails_multiResultRules :
    NoneFails (multiResultRules str fromIsoFormat policy results) ↔
      ∀ result ∈ results, catastrophic policy result = false := by
  have ratio : ∀ enough : Prop, ∀ decidable : Decidable enough,
      (@ite _ enough decidable ValidationStatus.pass .review) ≠ .fail := by
    intro enough decidable
    split <;> simp
  by_cases some_ : results.any (catastrophic policy) = true
  · simp only [multiResultRules, if_pos some_, noneFails_append, noneFails_cons, noneFails_nil]
    refine iff_of_false (by simp) ?_
    intro none_
    obtain ⟨window, member, there⟩ := List.any_eq_true.mp some_
    rw [none_ window member] at there
    cases there
  · simp only [multiResultRules, if_neg some_, noneFails_append, noneFails_cons, noneFails_nil,
      and_true]
    refine iff_of_true (ratio _ _) ?_
    intro window member
    rw [List.any_eq_true] at some_
    push Not at some_
    simpa using some_ window member

/-- Warnings of overfitting ask for a review at most. -/
theorem noneFails_overfittingWarnings :
    NoneFails (overfittingWarnings policy results) := by
  rw [overfittingWarnings, noneFails_append, noneFails_flatMap]
  refine ⟨?_, ?_⟩
  · intro window _
    rw [windowWarnings, noneFails_append]
    constructor
    · cases window.metrics.totalReturn with
      | none => simp
      | some totalReturn => dsimp only; split <;> simp
    · cases window.metrics.winRate with
      | none => simp
      | some winRate => dsimp only; split <;> simp
  · split
    · rw [dominanceWarnings]
      split
      · split <;> simp
      · simp
    · simp

end Windows

/-- The days of a result can be read. -/
def Dated (fromIsoFormat : String → Except String Int) (result : BacktestResult) : Prop :=
  ∃ days, sampleDays fromIsoFormat result = .ok days

/-- The days of a result, none where they cannot be read. -/
def daysOf (fromIsoFormat : String → Except String Int) (result : BacktestResult) : Int :=
  (sampleDays fromIsoFormat result).toOption.getD 0

section Reports

variable (str : ℚ → String) (fromIsoFormat : String → Except String Int)

/-- All rules on some results. -/
def allRules (policy : ValidationPolicy) (results : List BacktestResult) :
    List ValidationRuleResult :=
  results.flatMap (fun result => windowRules str policy result (daysOf fromIsoFormat result)) ++
    (if 1 < results.length then multiResultRules str fromIsoFormat policy results else []) ++
    overfittingWarnings policy results

variable {str fromIsoFormat}

/-- The rules on each of some results are there exactly if the days of all can be read. -/
theorem mapM_singleResultRules {policy : ValidationPolicy} {results : List BacktestResult}
    {rules : List (List ValidationRuleResult)} :
    results.mapM (singleResultRules str fromIsoFormat policy) = .ok rules ↔
      (∀ result ∈ results, Dated fromIsoFormat result) ∧
        rules = results.map fun result =>
          windowRules str policy result (daysOf fromIsoFormat result) := by
  induction results generalizing rules with
  | nil =>
    rw [List.mapM_nil, Raise.pure_eq_ok]
    simp [eq_comm]
  | cons result rest ih =>
    rw [List.mapM_cons, Raise.bind_eq_ok]
    simp only [Raise.bind_eq_ok, Raise.pure_eq_ok, ih, List.forall_mem_cons, List.map_cons]
    constructor
    · rintro ⟨here, read, later, ⟨dated, rfl⟩, rfl⟩
      obtain ⟨days, known, rfl⟩ := Raise.map_eq_ok.mp read
      have counted : daysOf fromIsoFormat result = days := by
        rw [daysOf, known]
        rfl
      exact ⟨⟨⟨days, known⟩, dated⟩, by rw [counted]⟩
    · rintro ⟨⟨⟨days, known⟩, dated⟩, rfl⟩
      have counted : daysOf fromIsoFormat result = days := by
        rw [daysOf, known]
        rfl
      refine ⟨_, ?_, _, ⟨dated, rfl⟩, rfl⟩
      rw [counted]
      exact Raise.map_eq_ok.mpr ⟨days, known, rfl⟩

/-- Results are validated exactly if there are some, the days of all can be read and the policy
asks for a period of days; the report then judges all rules. -/
theorem validate_judges {policy : ValidationPolicy} {request : ValidationRequest}
    {results : List BacktestResult} {generatedAt : String} {status : ValidationStatus} :
    (∃ report, StrategyValidationEngine.validate str fromIsoFormat policy request results
        generatedAt = .ok report ∧ report.overallStatus = status) ↔
      results ≠ [] ∧ ((∀ result ∈ results, Dated fromIsoFormat result) ∧
        policy.minSampleDays ≠ 0) ∧ overallStatus (allRules str fromIsoFormat policy results) =
          status := by
  cases results with
  | nil =>
    refine iff_of_false ?_ (by simp)
    rintro ⟨report, ran, -⟩
    cases ran
  | cons primary rest =>
    constructor
    · rintro ⟨report, ran, rfl⟩
      obtain ⟨single, read, ran⟩ := Raise.bind_eq_ok.mp ran
      obtain ⟨dated, rfl⟩ := mapM_singleResultRules.mp (Raise.mapError_eq_ok.mp read)
      obtain ⟨score, scored, ran⟩ := Raise.bind_eq_ok.mp ran
      obtain ⟨days, -, scored⟩ := Raise.bind_eq_ok.mp scored
      obtain ⟨_, period, _⟩ := Raise.bind_eq_ok.mp scored
      obtain rfl := Raise.pure_eq_ok.mp ran
      refine ⟨List.cons_ne_nil _ _, ⟨dated, by simpa using period⟩, ?_⟩
      rw [allRules, List.flatMap_def]
    · rintro ⟨-, ⟨dated, period⟩, rfl⟩
      have read := (@mapM_singleResultRules str fromIsoFormat policy (primary :: rest) _).mpr
        ⟨dated, rfl⟩
      obtain ⟨days, known⟩ := dated primary List.mem_cons_self
      -- With its days read and a period to divide by, the score is there.
      have scored (rules : List ValidationRuleResult) :
          ∃ score, validationScore fromIsoFormat policy primary rules = .ok score := by
        refine ⟨_, Raise.bind_eq_ok.mpr ⟨days, Raise.mapError_eq_ok.mpr known,
          Raise.bind_eq_ok.mpr ⟨(), ?_, rfl⟩⟩⟩
        exact Raise.ensure_eq_ok.mpr (by simpa using period)
      obtain ⟨score, whole⟩ := scored (allRules str fromIsoFormat policy (primary :: rest))
      rw [allRules, List.flatMap_def] at whole ⊢
      exact ⟨_, Raise.bind_eq_ok.mpr ⟨_, Raise.mapError_eq_ok.mpr read,
        Raise.bind_eq_ok.mpr ⟨score, whole, rfl⟩⟩, rfl⟩

/-- The rules on results do not depend on the order of the results. -/
theorem allRules_perm {policy : ValidationPolicy} {results other : List BacktestResult}
    (same : results.Perm other) :
    (allRules str fromIsoFormat policy results).Perm (allRules str fromIsoFormat policy other) := by
  have any (cond : BacktestResult → Bool) : results.any cond = other.any cond := by
    rw [Bool.eq_iff_iff, List.any_eq_true, List.any_eq_true]
    simp only [same.mem_iff]
  have ratio : passingRatio str fromIsoFormat policy results =
      passingRatio str fromIsoFormat policy other := by
    rw [passingRatio, passingRatio, same.countP_eq, same.length_eq]
  have multi : multiResultRules str fromIsoFormat policy results =
      multiResultRules str fromIsoFormat policy other := by
    rw [multiResultRules, multiResultRules, ratio, any]
  -- The largest of the returns and their sum are the same in every order.
  have returns := same.filterMap (·.metrics.totalReturn)
  have largest : (results.filterMap (·.metrics.totalReturn)).max? =
      (other.filterMap (·.metrics.totalReturn)).max? := by
    cases found : (results.filterMap (·.metrics.totalReturn)).max? with
    | none =>
      rw [List.max?_eq_none_iff] at found
      rw [found] at returns
      rw [returns.symm.eq_nil]
      rfl
    | some value =>
      rw [List.max?_eq_some_iff] at found
      refine (List.max?_eq_some_iff.mpr ⟨returns.mem_iff.mp found.1, ?_⟩).symm
      intro item member
      exact found.2 item (returns.mem_iff.mpr member)
  have dominance : dominanceWarnings results = dominanceWarnings other := by
    rw [dominanceWarnings, dominanceWarnings, largest, returns.sum_eq]
  rw [allRules, allRules, overfittingWarnings, overfittingWarnings, multi, dominance,
    same.length_eq]
  exact ((same.flatMap_right _).append_right _).append ((same.flatMap_right _).append_right _)

end Reports

/-- Enough windows pass on their own, and none is catastrophic. -/
def Tolerable (str : ℚ → String) (fromIsoFormat : String → Except String Int)
    (policy : ValidationPolicy) (results : List BacktestResult) : Prop :=
  policy.minPassingWindowRatio ≤ passingRatio str fromIsoFormat policy results ∧
    ∀ result ∈ results, catastrophic policy result = false

/-- Tolerable results do not fail, and no order of the windows gives them another status. -/
structure HonoursTolerance (str : ℚ → String) (fromIsoFormat : String → Except String Int)
    (policy : ValidationPolicy) (results : List BacktestResult) : Prop where
  tolerates : Tolerable str fromIsoFormat policy results → ∀ request generatedAt report,
    StrategyValidationEngine.validate str fromIsoFormat policy request results generatedAt =
      .ok report → report.overallStatus ≠ .fail
  orderFree : ∀ other, other.Perm results → ∀ request generatedAt report,
    StrategyValidationEngine.validate str fromIsoFormat policy request results generatedAt =
      .ok report →
    ∃ reordered, StrategyValidationEngine.validate str fromIsoFormat policy request other
      generatedAt = .ok reordered ∧ reordered.overallStatus = report.overallStatus

/-- Completed results of several windows with matching fingerprints are validated with the
tolerance of the policy exactly if, where they are tolerable and can be validated at all, no window
is outside the limits. -/
theorem honoursTolerance_iff (str : ℚ → String) (fromIsoFormat : String → Except String Int)
    (policy : ValidationPolicy) {results : List BacktestResult} (several : 2 ≤ results.length)
    (completed : ∀ result ∈ results, result.status = .completed)
    (matching : ∀ result ∈ results, fingerprintMatches result = true) :
    HonoursTolerance str fromIsoFormat policy results ↔
      (Tolerable str fromIsoFormat policy results →
        (∀ result ∈ results, Dated fromIsoFormat result) ∧ policy.minSampleDays ≠ 0 →
        ∀ result ∈ results, WithinLimits policy result) := by
  have some_ : results ≠ [] := by
    rintro rfl
    cases several
  have rules : NoneFails (allRules str fromIsoFormat policy results) ↔
      (∀ result ∈ results, WithinLimits policy result) ∧
        ∀ result ∈ results, catastrophic policy result = false := by
    rw [allRules, if_pos (by omega), noneFails_append, noneFails_append, noneFails_flatMap,
      noneFails_multiResultRules, and_iff_left noneFails_overfittingWarnings]
    refine and_congr_left fun _ => forall₂_congr fun result member => ?_
    exact noneFails_windowRules (completed result member) (matching result member)
  constructor
  · intro honours tolerable validated
    obtain ⟨report, ran, judged⟩ := (@validate_judges str fromIsoFormat policy
      ⟨"", [], "", "", ""⟩ results "" _).mpr ⟨some_, validated, rfl⟩
    have passed := honours.tolerates tolerable _ _ report ran
    rw [judged, overallStatus_ne_fail] at passed
    exact (rules.mp passed).1
  · intro within
    refine ⟨?_, ?_⟩
    · intro tolerable request generatedAt report ran
      obtain ⟨-, validated, judged⟩ := validate_judges.mp ⟨report, ran, rfl⟩
      rw [← judged, overallStatus_ne_fail]
      exact rules.mpr ⟨within tolerable validated, tolerable.2⟩
    · intro other same request generatedAt report ran
      obtain ⟨-, ⟨dated, period⟩, judged⟩ := validate_judges.mp ⟨report, ran, rfl⟩
      refine validate_judges.mpr ⟨?_, ⟨?_, period⟩, ?_⟩
      · rintro rfl
        exact some_ same.symm.eq_nil
      · intro result member
        exact dated result (same.mem_iff.mp member)
      · rw [← judged]
        exact overallStatus_perm (allRules_perm same)

/-- A completed window of two years with a return. -/
def twoYears (totalReturn : ℚ) : BacktestResult where
  resultId := "backtest-result:turtle"
  requestId := "bt-turtle"
  status := .completed
  fingerprint := "fingerprint-turtle"
  strategy := ⟨"turtle_v5", "v1"⟩
  dataset := ⟨"sample_krx", "v1"⟩
  period := ⟨"2024-01-01", "2026-01-01"⟩
  metrics := {
    totalReturn := some totalReturn, maxDrawdown := some (-1 / 10), profitFactor := some (3 / 2),
    tradeCount := some 40, winRate := some (11 / 20), startDate := some "2024-01-01",
    endDate := some "2026-01-01" }
  tradeSummary := { tradeCount := 40 }
  rawEngineVersion := "v1-fixture"
  parameters := []
  warnings := []
  errors := []
  generatedAt := "2026-07-18T00:00:00Z"
  durationMs := 0
  reproducibility := [("fingerprint", "fingerprint-turtle")]

/-- The days from the first day of 2024 to one of two dates. -/
def daysOfDate (text : String) : Except String Int :=
  if text = "2024-01-01" then .ok 0
  else if text = "2026-01-01" then .ok 731
  else .error "Invalid isoformat string"

/-- A window with a return that is not below zero is within the limits of the policy. -/
theorem withinLimits_twoYears {totalReturn : ℚ} (gained : 0 ≤ totalReturn) :
    WithinLimits {} (twoYears totalReturn) := by
  refine ⟨gained, by simp only [Met, twoYears]; norm_num, by simp, by simp, by simp, ?_, ?_⟩
  · have read : normalizeDrawdown (some (-1 / 10)) = .ok (1 / 10) := by decide +kernel
    exact ⟨1 / 10, read, by norm_num⟩
  · show (30 : Int) ≤ 40
    omega

/-- Two windows that gain are validated as they should be. -/
theorem two_gains_tolerated :
    HonoursTolerance (fun _ => "") daysOfDate {} [twoYears (1 / 4), twoYears (1 / 5)] := by
  refine (honoursTolerance_iff (fun _ => "") daysOfDate {} (by decide) (by simp [twoYears])
    (by decide +kernel)).mpr ?_
  intro _ _ result member
  rcases List.mem_pair.mp member with rfl | rfl
  · exact withinLimits_twoYears (by norm_num)
  · exact withinLimits_twoYears (by norm_num)

/-- Four windows that gain and one that loses a little. -/
def oneLoss : List BacktestResult :=
  [twoYears (1 / 4), twoYears (1 / 4), twoYears (1 / 4), twoYears (1 / 4), twoYears (-1 / 100)]

/-- A request to validate them. -/
def oneLossRequest : ValidationRequest where
  validationId := "validation-test"
  backtestResultIds := oneLoss.map (·.resultId)
  policyVersion := "validation_policy_v1"
  requestedAt := "2026-07-18T00:00:00Z"
  actorRef := "actor:redacted"

/-- Four of five windows pass and none is catastrophic, and the validation fails. -/
theorem one_loss_fails :
    Tolerable (fun _ => "") daysOfDate {} oneLoss ∧
      (StrategyValidationEngine.validate (fun _ => "") daysOfDate {} oneLossRequest oneLoss
        "2026-07-18T00:00:00Z").map (·.overallStatus) = .ok .fail := by
  refine ⟨⟨by decide +kernel, by decide +kernel⟩, by decide +kernel⟩

end StrategyLab.Adapters
