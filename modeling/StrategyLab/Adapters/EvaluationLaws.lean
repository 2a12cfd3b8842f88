import StrategyLab.Adapters.ChampionEvaluation

/-! When an evaluation finds a candidate for promotion: exactly if every gate is passed. -/

namespace StrategyLab.Adapters.ChampionChallengerEvaluationEngine

variable (str : ℚ → String) (fromIsoFormat : String → Except String Int)
  {champion challenger : BacktestResult} {validation : ValidationReport}
  {policy : ChampionChallengerPolicy}

/-- The validation gate is passed exactly by a validation that passed. -/
theorem validationGate_pass :
    (validationGate validation).status = .pass ↔ validation.overallStatus = .pass := by
  unfold validationGate
  cases validation.overallStatus <;> simp

/-- The fingerprint gate is passed exactly by two different fingerprints. -/
theorem fingerprintGate_pass :
    (fingerprintGate champion challenger).status = .pass ↔
      (champion.fingerprint ≠ "" ∧ challenger.fingerprint ≠ "") ∧
        champion.fingerprint ≠ challenger.fingerprint := by
  unfold fingerprintGate
  by_cases missing : champion.fingerprint = "" ∨ challenger.fingerprint = ""
  · rw [if_pos missing]
    rw [← not_or]
    simp [missing]
  · rw [if_neg missing]
    rw [← not_or]
    by_cases same : champion.fingerprint = challenger.fingerprint
    · simp [same]
    · rw [if_neg same]
      exact ⟨fun _ => ⟨missing, same⟩, fun _ => rfl⟩

/-- The return gate is passed exactly by two returns that are far enough apart. -/
theorem returnComparison_pass :
    (returnComparison champion challenger policy).status = .pass ↔
      ∃ championReturn challengerReturn,
        champion.metrics.totalReturn = some championReturn ∧
        challenger.metrics.totalReturn = some challengerReturn ∧
        policy.minimumReturnImprovement ≤ challengerReturn - championReturn := by
  unfold returnComparison
  cases champion.metrics.totalReturn with
  | none => simp
  | some championReturn =>
    cases challenger.metrics.totalReturn with
    | none => simp
    | some challengerReturn =>
      by_cases improved : policy.minimumReturnImprovement ≤ challengerReturn - championReturn
      · simp [improved]
      · simp [improved]

/-- The drawdown gate is passed exactly by two drawdowns that are near enough. -/
theorem drawdownComparison_pass :
    (drawdownComparison str champion challenger policy).status = .pass ↔
      ∃ championMdd challengerMdd,
        normalizeDrawdown champion.metrics.maxDrawdown = .ok championMdd ∧
        normalizeDrawdown challenger.metrics.maxDrawdown = .ok challengerMdd ∧
        challengerMdd ≤ championMdd + policy.maximumMddDegradation := by
  unfold drawdownComparison drawdowns
  cases normalizeDrawdown champion.metrics.maxDrawdown with
  | error message => simp [bind, Except.bind]
  | ok championMdd =>
    cases normalizeDrawdown challenger.metrics.maxDrawdown with
    | error message => simp [bind, Except.bind]
    | ok challengerMdd =>
      by_cases allowed : challengerMdd ≤ championMdd + policy.maximumMddDegradation
      · simp [bind, Except.bind, pure, Except.pure, allowed]
      · simp [bind, Except.bind, pure, Except.pure, allowed]

/-- The profit factor gate is passed exactly by two factors, if need be not by a worse one. -/
theorem profitFactorComparison_pass :
    (profitFactorComparison champion challenger policy).status = .pass ↔
      ∃ championPf challengerPf,
        champion.metrics.profitFactor = some championPf ∧
        challenger.metrics.profitFactor = some challengerPf ∧
        (policy.requireProfitFactorNotWorse = true → championPf ≤ challengerPf) := by
  unfold profitFactorComparison
  cases champion.metrics.profitFactor with
  | none => simp
  | some championPf =>
    cases challenger.metrics.profitFactor with
    | none => simp
    | some challengerPf =>
      cases policy.requireProfitFactorNotWorse with
      | false => simp
      | true =>
        by_cases notWorse : championPf ≤ challengerPf
        · simp [notWorse]
        · simp [notWorse]

/-- The sample gate is passed exactly by two samples that can be compared. -/
theorem sampleComparison_pass {sample : ChampionChallengerMetricComparison}
    (compared : sampleComparison fromIsoFormat champion challenger policy = .ok sample) :
    sample.status = .pass ↔ ∃ championDays challengerDays,
      sampleDays fromIsoFormat champion = .ok championDays ∧
      sampleDays fromIsoFormat challenger = .ok challengerDays ∧
      Comparable championDays challengerDays policy := by
  simp only [sampleComparison, Raise.bind_eq_ok, Raise.pure_eq_ok] at compared
  obtain ⟨championDays, champions, challengerDays, challengers, rfl⟩ := compared
  rw [champions, challengers]
  by_cases comparable : Comparable championDays challengerDays policy
  · simp [comparable]
  · simp [comparable]

/-- A gate with another finding is not passed by all of them. -/
theorem not_all_pass {comparisons : List ChampionChallengerMetricComparison}
    {status : ComparisonStatus} (other : status ≠ .pass)
    (found : comparisons.any (fun comparison => comparison.status = status) = true) :
    ¬∀ comparison ∈ comparisons, comparison.status = .pass := by
  intro passed
  obtain ⟨comparison, member, same⟩ := List.any_eq_true.mp found
  rw [passed comparison member] at same
  exact other (of_decide_eq_true same).symm

/-- A promotion is what is decided exactly if every gate is passed. -/
theorem decision_eq_promotionCandidate {first : ChampionChallengerMetricComparison}
    {rest : List ChampionChallengerMetricComparison} (named : first.metric = "validation_status")
    {decided : ChampionChallengerDecision} (made : decision (first :: rest) = .ok decided) :
    decided = .promotionCandidate ↔ ∀ comparison ∈ first :: rest, comparison.status = .pass := by
  simp only [decision, byMetric, List.find?_cons_of_pos, named, decide_true, Raise.bind_eq_ok,
    Except.ok.injEq, Raise.pure_eq_ok, exists_eq_left'] at made
  subst made
  have own : ∀ status, first.status = status →
      (first :: rest).any (fun comparison => comparison.status = status) = true :=
    fun status same => List.any_eq_true.mpr ⟨first, List.mem_cons_self, decide_eq_true same⟩
  -- Every branch before the last one found a gate that is not passed.
  split
  · rename_i failed
    exact iff_of_false (by simp) (not_all_pass (by decide) (own .fail failed))
  · split
    · rename_i unclear
      exact iff_of_false (by simp) (not_all_pass (by decide) (own .review unclear))
    · split
      · rename_i unclear
        exact iff_of_false (by simp) (not_all_pass (by decide) unclear)
      · split
        · rename_i missing
          exact iff_of_false (by simp) (not_all_pass (by decide) missing)
        · split
          · rename_i failed
            exact iff_of_false (by simp) (not_all_pass (by decide) failed)
          · rename_i reviewed evaluated failed
            refine iff_of_true rfl fun comparison member => ?_
            simp only [List.any_eq_true, decide_eq_true_eq, not_exists, not_and] at *
            cases found : comparison.status with
            | pass => rfl
            | fail => exact absurd found (failed comparison member)
            | review => exact absurd found (reviewed comparison member)
            | notEvaluated => exact absurd found (evaluated comparison member)

/-- What a challenger has to show for a promotion. -/
structure Promotable (champion challenger : BacktestResult) (validation : ValidationReport)
    (policy : ChampionChallengerPolicy) : Prop where
  validated : validation.overallStatus = .pass
  present : champion.fingerprint ≠ "" ∧ challenger.fingerprint ≠ ""
  different : champion.fingerprint ≠ challenger.fingerprint
  improved : ∃ championReturn challengerReturn,
    champion.metrics.totalReturn = some championReturn ∧
    challenger.metrics.totalReturn = some challengerReturn ∧
    policy.minimumReturnImprovement ≤ challengerReturn - championReturn
  drawdown : ∃ championMdd challengerMdd,
    normalizeDrawdown champion.metrics.maxDrawdown = .ok championMdd ∧
    normalizeDrawdown challenger.metrics.maxDrawdown = .ok challengerMdd ∧
    challengerMdd ≤ championMdd + policy.maximumMddDegradation
  profitFactor : ∃ championPf challengerPf,
    champion.metrics.profitFactor = some championPf ∧
    challenger.metrics.profitFactor = some challengerPf ∧
    (policy.requireProfitFactorNotWorse = true → championPf ≤ challengerPf)
  comparable : ∃ championDays challengerDays,
    sampleDays fromIsoFormat champion = .ok championDays ∧
    sampleDays fromIsoFormat challenger = .ok challengerDays ∧
    Comparable championDays challengerDays policy

/-- What a report says of the results and the validation it was made for. -/
structure Reports (report : FullEvaluationReport) (request : ChampionChallengerEvaluationRequest)
    (champion challenger : BacktestResult) (validation : ValidationReport) : Prop where
  evaluation : report.evaluationId = request.evaluationId
  championBacktest : report.championBacktestId = champion.resultId
  challengerBacktest : report.challengerBacktestId = challenger.resultId
  validation : report.validationId = validation.validationId
  championFingerprint : report.championFingerprint = champion.fingerprint
  challengerFingerprint : report.challengerFingerprint = challenger.fingerprint

/-- A report finds a candidate for promotion exactly if the challenger has shown all that counts. -/
theorem report_eq_ok {request : ChampionChallengerEvaluationRequest} {generatedAt : String}
    {made : FullEvaluationReport}
    (built : report str fromIsoFormat policy request champion challenger validation generatedAt =
      .ok made) :
    Reports made request champion challenger validation ∧
      (made.decision = .promotionCandidate ↔
        Promotable fromIsoFormat champion challenger validation policy) := by
  simp only [report, comparisons, Raise.bind_eq_ok, Raise.pure_eq_ok] at built
  obtain ⟨gates, ⟨sample, compared, rfl⟩, decided, made', rfl⟩ := built
  refine ⟨⟨rfl, rfl, rfl, rfl, rfl, rfl⟩, ?_⟩
  have metric : (validationGate validation).metric = "validation_status" := by
    unfold validationGate
    cases validation.overallStatus <;> rfl
  rw [decision_eq_promotionCandidate metric made']
  simp only [List.forall_mem_cons, validationGate_pass, fingerprintGate_pass,
    returnComparison_pass, drawdownComparison_pass, profitFactorComparison_pass,
    sampleComparison_pass fromIsoFormat compared]
  constructor
  · intro passed
    obtain ⟨validated, ⟨present, different⟩, improved, drawdown, factor, comparable, _⟩ := passed
    exact ⟨validated, present, different, improved, drawdown, factor, comparable⟩
  · intro shown
    refine ⟨shown.validated, ⟨shown.present, shown.different⟩, shown.improved, shown.drawdown,
      shown.profitFactor, shown.comparable, rfl, fun comparison none => ?_⟩
    cases none

/-- An evaluation returns the report that was made, and stores it. -/
theorem evaluate_ends (call : EvaluationCall) (repository : SQLiteChampionChallengerRepository) :
    Attempt.Ends (evaluate str fromIsoFormat policy call)
      (fun made after =>
        report str fromIsoFormat policy call.request call.champion call.challenger call.validation
          call.generatedAt = .ok made ∧ after.reports.find? made.id = some made)
      (fun _ _ => True) repository := by
  simp only [evaluate, Attempt.ends_bind, Attempt.ends_modify, Attempt.ends_answer,
    Attempt.ends_pure, implies_true, and_true]
  intro _ _ made built _ _ _ _
  exact ⟨built, Table.find?_replace_self _ _⟩

/-- Evaluations are sound: a candidate for promotion has passed every gate, and its report names
the results and the validation that were compared. -/
theorem evaluate_promotes_iff (call : EvaluationCall)
    (repository : SQLiteChampionChallengerRepository) :
    ∀ made after, (evaluate str fromIsoFormat policy call).run repository = .ok made after →
      Reports made call.request call.champion call.challenger call.validation ∧
        (made.decision = .promotionCandidate ↔
          Promotable fromIsoFormat call.champion call.challenger call.validation policy) := by
  intro made after ran
  obtain ⟨built, _⟩ := (evaluate_ends str fromIsoFormat call repository).of_ok ran
  exact report_eq_ok str fromIsoFormat built

/-- The days of some dates. -/
def dayOf (date : String) : Except String Int :=
  if date = "2026-01-01" then .ok 739617
  else if date = "2026-02-01" then .ok 739648
  else .error "Invalid isoformat string"

/-- A result of one month. -/
def resultOf (resultId fingerprint : String) (status : BacktestStatus)
    (totalReturn profitFactor : ℚ) : BacktestResult :=
  { resultId, requestId := "request:" ++ resultId, status, fingerprint,
    strategy := ⟨"turtle_v5", "v1"⟩, dataset := ⟨"krx_daily", "fixture"⟩,
    period := ⟨"2026-01-01", "2026-02-01"⟩,
    metrics := { totalReturn := some totalReturn, maxDrawdown := some (-1 / 20),
                 profitFactor := some profitFactor, tradeCount := some 12 },
    tradeSummary := { tradeCount := 12 }, rawEngineVersion := "v1-fixture", parameters := [],
    warnings := [], errors := [], generatedAt := "2026-07-18T00:00:00Z", durationMs := 7,
    reproducibility := [] }

/-- An evaluation of a challenger that is better in every way. -/
def fairCall : EvaluationCall :=
  { request := ⟨"evaluation-1", "backtest-1", "backtest-2", "validation-1",
      "champion_challenger_policy_v1", "2026-07-18T00:00:00Z", "operator"⟩
    champion := resultOf "backtest-1" "fingerprint-1" .completed (1 / 10) (3 / 2)
    challenger := resultOf "backtest-2" "fingerprint-2" .completed (1 / 5) 2
    validation := ⟨"validation-1", "backtest-2", "fingerprint-2", .pass⟩
    generatedAt := "2026-07-18T00:00:00Z"
    append := fun _ => .ok () }

/-- A repository that stores nothing. -/
def emptyRepository : SQLiteChampionChallengerRepository := ⟨Table.empty, Table.empty⟩

/-- The evaluation of such a challenger finds a candidate, which has passed every gate. -/
theorem fairCall_promotes : ∃ made after,
    (evaluate (Py.fixed 2 false) dayOf {} fairCall).run emptyRepository = .ok made after ∧
      made.decision = .promotionCandidate ∧
      Reports made fairCall.request fairCall.champion fairCall.challenger fairCall.validation ∧
      Promotable dayOf fairCall.champion fairCall.challenger fairCall.validation {} := by
  obtain ⟨made, after, ran, decided⟩ := Attempt.exists_of_returnsWith
    (show Attempt.returnsWith (evaluate (Py.fixed 2 false) dayOf {} fairCall) emptyRepository
      (fun made _ => made.decision = .promotionCandidate) = true by decide +kernel)
  obtain ⟨reports, promoted⟩ :=
    evaluate_promotes_iff (Py.fixed 2 false) dayOf fairCall emptyRepository made after ran
  have candidate := of_decide_eq_true decided
  exact ⟨made, after, ran, candidate, reports, promoted.mp candidate⟩

/-- An evaluation of a failed challenger with a worse profit factor, under another one's validation
and for a request that names other results. -/
def mixedCall : EvaluationCall :=
  { fairCall with
    request := ⟨"evaluation-1", "backtest-8", "backtest-9", "validation-9",
      "champion_challenger_policy_v1", "2026-07-18T00:00:00Z", "operator"⟩
    challenger := resultOf "backtest-2" "fingerprint-2" .failed (1 / 5) 1
    validation := ⟨"validation-1", "backtest-3", "fingerprint-3", .pass⟩ }

/-- A policy that puts up with a worse profit factor. -/
def lenientPolicy : ChampionChallengerPolicy := { requireProfitFactorNotWorse := false }

/-- Such an evaluation finds a candidate for promotion all the same. -/
theorem mixedCall_promotes :
    Attempt.returnsWith (evaluate (Py.fixed 2 false) dayOf lenientPolicy mixedCall) emptyRepository
        (fun made _ => made.decision = .promotionCandidate) = true ∧
      mixedCall.validation.backtestRunId ≠ mixedCall.challenger.resultId ∧
      mixedCall.validation.fingerprint ≠ mixedCall.challenger.fingerprint ∧
      mixedCall.request.challengerBacktestId ≠ mixedCall.challenger.resultId ∧
      mixedCall.challenger.status ≠ .completed ∧
      ∃ championPf challengerPf, mixedCall.champion.metrics.profitFactor = some championPf ∧
        mixedCall.challenger.metrics.profitFactor = some challengerPf ∧
          challengerPf < championPf := by
  refine ⟨by decide +kernel, by decide, by decide, by decide, by decide, 3 / 2, 1, rfl, rfl, ?_⟩
  norm_num

end StrategyLab.Adapters.ChampionChallengerEvaluationEngine
