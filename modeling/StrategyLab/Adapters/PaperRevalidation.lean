import StrategyLab.Adapters.PaperForward
import StrategyLab.Adapters.StrategyHandoff

/-! Revalidation of a paper session: the rules, what each decides, and the status they come to. -/

namespace StrategyLab

/-- The policy that paper sessions are revalidated under. -/
def paperRevalidationPolicyVersion : String := "paper_revalidation_policy_v1"

/-- What a rule decides. -/
inductive RiskGateDecision where
  | pass
  | hold
  | kill
  | rollbackRecommended
  | review
  deriving DecidableEq, Repr

/-- Why a session is killed. -/
inductive KillGateReason where
  | criticalExecutionError
  | corruptedSessionState
  | fingerprintMismatch
  | impossibleMetric
  | extremePaperDrawdown
  deriving DecidableEq, Repr

/-- A recommendation to return to the previous champion. -/
structure RollbackRecommendation where
  recommended : Bool
  reason : String
  previousChampionRef : Option String
  deriving DecidableEq, Repr

/-- The bounds that a session is revalidated against. -/
structure PaperRevalidationPolicy where
  policyVersion : String := paperRevalidationPolicyVersion
  minimumSimulatedTrades : Int := 20
  maximumPaperDrawdown : ℚ := 20 / 100
  hardKillPaperDrawdown : ℚ := 35 / 100
  maximumRejectionRate : ℚ := 25 / 100
  deriving DecidableEq

/-- A request to revalidate a session. -/
structure PaperRevalidationRequest where
  revalidationId : String
  sessionId : String
  championVersionId : String
  policyVersion : String
  requestedAt : String
  actorRef : String
  deriving DecidableEq, Repr

/-- The outcome of one rule. -/
structure PaperRevalidationRuleResult where
  rule : String
  decision : RiskGateDecision
  observed : String
  threshold : String
  message : String
  deriving DecidableEq, Repr

/-- A report with all that a revalidation writes. -/
structure PaperRevalidationDetails extends PaperRevalidationReport where
  ruleResults : List PaperRevalidationRuleResult
  warnings : List String
  killReasons : List KillGateReason
  rollback : RollbackRecommendation
  generatedAt : String
  deriving DecidableEq

namespace PaperRevalidation

/-- The session is complete, and the summary was made since. -/
def sessionStateRule (session : PaperTradingSession) (summary : PaperTradingPerformanceSummary) :
    PaperRevalidationRuleResult :=
  if session.status ≠ summary.status then
    ⟨"session_state", .kill, s!"{session.status.value}/{summary.status.value}", "matching",
      "session and summary state mismatch"⟩
  else if session.status = .completed then
    ⟨"session_state", .pass, session.status.value, "completed", "paper session completed"⟩
  else if session.status ∈ [.failed, .cancelled] then
    ⟨"session_state", .kill, session.status.value, "completed",
      "paper session ended in unsafe state"⟩
  else
    ⟨"session_state", .hold, session.status.value, "completed", "paper session is not complete"⟩

/-- The session was of the champion that is active. -/
def fingerprintRule (active : ChampionRegistryEntry) (session : PaperTradingSession)
    (summary : PaperTradingPerformanceSummary) : PaperRevalidationRuleResult :=
  if active.activeVersionId ≠ session.championVersionId ∨
      active.fingerprint ≠ session.fingerprint ∨ session.fingerprint ≠ summary.fingerprint then
    ⟨"champion_fingerprint", .kill,
      s!"{active.fingerprint}/{session.fingerprint}/{summary.fingerprint}", "all equal",
      "active Champion fingerprint mismatch"⟩
  else
    ⟨"champion_fingerprint", .pass, session.fingerprint, "matches active",
      "Champion fingerprint remained unchanged"⟩

/-- There were enough orders. -/
def tradeCountRule (summary : PaperTradingPerformanceSummary) (policy : PaperRevalidationPolicy) :
    PaperRevalidationRuleResult :=
  if summary.simulatedOrders < policy.minimumSimulatedTrades then
    ⟨"simulated_trade_count", .hold, toString summary.simulatedOrders,
      s!">= {policy.minimumSimulatedTrades}", "insufficient paper trade count"⟩
  else
    ⟨"simulated_trade_count", .pass, toString summary.simulatedOrders,
      s!">= {policy.minimumSimulatedTrades}", "paper trade count threshold met"⟩

/-- No order failed, and the session has no errors. -/
def executionErrorRule (summary : PaperTradingPerformanceSummary) : PaperRevalidationRuleResult :=
  let critical := summary.failedSimulatedOrders + summary.errors.length
  if 0 < critical then
    ⟨"critical_execution_errors", .kill, toString critical, "0",
      "critical paper execution error detected"⟩
  else ⟨"critical_execution_errors", .pass, "0", "0", "no critical execution errors"⟩

/-- The drawdown is known and within the bounds. -/
def drawdownRule (summary : PaperTradingPerformanceSummary) (policy : PaperRevalidationPolicy) :
    PaperRevalidationRuleResult :=
  let within := s!"<= {Py.fixed 2 false policy.maximumPaperDrawdown}"
  match summary.maxPaperDrawdown with
  | none =>
    ⟨"paper_drawdown", .review, "missing", within, "paper drawdown metric is unavailable"⟩
  | some drawdown =>
    let observed := Py.fixed 4 false drawdown
    if drawdown < 0 ∨ 1 < drawdown then
      ⟨"paper_drawdown", .kill, observed, "0..1", "impossible paper drawdown metric"⟩
    else if policy.hardKillPaperDrawdown ≤ drawdown then
      ⟨"paper_drawdown", .kill, observed, s!"< {Py.fixed 2 false policy.hardKillPaperDrawdown}",
        "paper drawdown exceeded hard kill threshold"⟩
    else if policy.maximumPaperDrawdown < drawdown then
      ⟨"paper_drawdown", .rollbackRecommended, observed, within,
        "paper drawdown materially exceeded policy"⟩
    else ⟨"paper_drawdown", .pass, observed, within, "paper drawdown within policy"⟩

/-- Not too many orders were rejected. -/
def rejectionRateRule (summary : PaperTradingPerformanceSummary)
    (policy : PaperRevalidationPolicy) : PaperRevalidationRuleResult :=
  let within := s!"<= {Py.fixed 2 false policy.maximumRejectionRate}"
  if summary.simulatedOrders = 0 then
    ⟨"execution_rejection_rate", .hold, "missing", within,
      "rejection rate unavailable without paper orders"⟩
  else
    let rate : ℚ := summary.rejectedSimulatedOrders / summary.simulatedOrders
    if policy.maximumRejectionRate < rate then
      ⟨"execution_rejection_rate", .rollbackRecommended, Py.fixed 4 false rate, within,
        "paper rejection rate is elevated"⟩
    else
      ⟨"execution_rejection_rate", .pass, Py.fixed 4 false rate, within,
        "paper rejection rate within policy"⟩

/-- The other metrics are known. -/
def missingMetricRule (summary : PaperTradingPerformanceSummary) : PaperRevalidationRuleResult :=
  let metrics := [("realized_paper_pnl", summary.realizedPaperPnl),
    ("unrealized_paper_pnl", summary.unrealizedPaperPnl), ("exposure", summary.exposure)]
  let missing := (metrics.filter fun metric => metric.2.isNone).map Prod.fst
  if missing ≠ [] then
    ⟨"optional_metrics", .review, ",".intercalate missing, "record only",
      "optional paper metrics unavailable; values were not fabricated"⟩
  else
    ⟨"optional_metrics", .pass, "available", "record only", "optional paper metrics available"⟩

/-- The rules in their order. -/
def rules (policy : PaperRevalidationPolicy) (active : ChampionRegistryEntry)
    (session : PaperTradingSession) (summary : PaperTradingPerformanceSummary) :
    List PaperRevalidationRuleResult :=
  [sessionStateRule session summary, fingerprintRule active session summary,
    tradeCountRule summary policy, executionErrorRule summary, drawdownRule summary policy,
    rejectionRateRule summary policy, missingMetricRule summary]

/-- The status that the outcomes of the rules come to: the gravest decision counts. -/
def status (rules : List PaperRevalidationRuleResult) : PaperRevalidationStatus :=
  if rules.any fun rule => rule.decision = .kill then .kill
  else if rules.any fun rule => rule.decision = .rollbackRecommended then .rollbackRecommended
  else if rules.any fun rule => rule.decision = .hold then .hold
  else if rules.any fun rule => rule.decision = .review then .review
  else .liveEligible

/-- The reason that a rule kills for; one that has none is left out. -/
def killReason (rule : String) : Option KillGateReason :=
  if rule = "critical_execution_errors" then some .criticalExecutionError
  else if rule = "session_state" then some .corruptedSessionState
  else if rule = "champion_fingerprint" then some .fingerprintMismatch
  else if rule = "paper_drawdown" then some .extremePaperDrawdown
  else none

/-- The reasons of the rules that kill. -/
def killReasons (rules : List PaperRevalidationRuleResult) : List KillGateReason :=
  (rules.filter fun rule => rule.decision = .kill).filterMap fun rule => killReason rule.rule

/-- Revalidate a session by its summary. -/
def revalidate (policy : PaperRevalidationPolicy) (request : PaperRevalidationRequest)
    (active : ChampionRegistryEntry) (session : PaperTradingSession)
    (summary : PaperTradingPerformanceSummary) (generatedAt : String) :
    Except ServiceError PaperRevalidationDetails := do
  validateUtc generatedAt
  let rules := rules policy active session summary
  let recommended : Bool := status rules = .rollbackRecommended
  return {
    revalidationId := request.revalidationId
    status := status rules
    policyVersion := policy.policyVersion
    sessionId := session.sessionId
    championVersionId := session.championVersionId
    fingerprint := session.fingerprint
    ruleResults := rules
    warnings := (rules.filter fun rule =>
      rule.decision ∈ [.hold, .review, .rollbackRecommended]).map (·.message)
    killReasons := killReasons rules
    rollback := ⟨recommended,
      if recommended then "paper risk deterioration recommends human-reviewed rollback"
      else "not recommended", active.previousVersionId⟩
    generatedAt }

/-- A session is eligible exactly if every rule passes. -/
theorem status_eq_liveEligible_iff {rules : List PaperRevalidationRuleResult} :
    status rules = .liveEligible ↔ ∀ rule ∈ rules, rule.decision = .pass := by
  have any_iff (decision : RiskGateDecision) :
      (rules.any fun rule => rule.decision = decision) = true ↔
        ∃ rule ∈ rules, rule.decision = decision := by
    simp
  constructor
  · intro eligible rule member
    unfold status at eligible
    split_ifs at eligible with kill rollback hold review
    -- Whatever a rule decides besides passing is found by one of the four searches.
    rw [any_iff] at kill rollback hold review
    cases decision : rule.decision with
    | pass => rfl
    | hold => exact absurd ⟨rule, member, decision⟩ hold
    | kill => exact absurd ⟨rule, member, decision⟩ kill
    | rollbackRecommended => exact absurd ⟨rule, member, decision⟩ rollback
    | review => exact absurd ⟨rule, member, decision⟩ review
  · intro pass
    have never {decision : RiskGateDecision} (other : decision ≠ .pass) :
        ¬(rules.any fun rule => rule.decision = decision) = true := by
      rw [any_iff]
      intro found
      obtain ⟨rule, member, decided⟩ := found
      exact other (decided.symm.trans (pass rule member))
    unfold status
    rw [if_neg (never (by decide)), if_neg (never (by decide)), if_neg (never (by decide)),
      if_neg (never (by decide))]

/-- What a summary has to show for its session to be eligible. -/
structure Eligible (policy : PaperRevalidationPolicy) (active : ChampionRegistryEntry)
    (session : PaperTradingSession) (summary : PaperTradingPerformanceSummary) : Prop where
  completed : session.status = .completed ∧ summary.status = .completed
  unchanged : active.activeVersionId = session.championVersionId ∧
    active.fingerprint = session.fingerprint ∧ session.fingerprint = summary.fingerprint
  enough : policy.minimumSimulatedTrades ≤ summary.simulatedOrders
  clean : summary.failedSimulatedOrders = 0 ∧ summary.errors = []
  drawdown : ∃ drawdown, summary.maxPaperDrawdown = some drawdown ∧ 0 ≤ drawdown ∧
    drawdown ≤ 1 ∧ drawdown < policy.hardKillPaperDrawdown ∧
    drawdown ≤ policy.maximumPaperDrawdown
  traded : summary.simulatedOrders ≠ 0
  rejected : (summary.rejectedSimulatedOrders / summary.simulatedOrders : ℚ) ≤
    policy.maximumRejectionRate
  known : summary.realizedPaperPnl ≠ none ∧ summary.unrealizedPaperPnl ≠ none ∧
    summary.exposure ≠ none

variable {policy : PaperRevalidationPolicy} {active : ChampionRegistryEntry}
  {session : PaperTradingSession} {summary : PaperTradingPerformanceSummary}

/-- The first rule passes exactly if the session and its summary are complete. -/
theorem sessionStateRule_pass :
    (sessionStateRule session summary).decision = .pass ↔
      session.status = .completed ∧ summary.status = .completed := by
  unfold sessionStateRule
  split_ifs with differ completed ended
  · simp only [false_iff, not_and]
    intro left right
    exact differ (left.trans right.symm)
  · simp only [true_iff]
    exact ⟨completed, (not_not.mp differ).symm.trans completed⟩
  · simp [completed]
  · simp [completed]

/-- The second rule passes exactly if the champion is unchanged. -/
theorem fingerprintRule_pass :
    (fingerprintRule active session summary).decision = .pass ↔
      active.activeVersionId = session.championVersionId ∧
        active.fingerprint = session.fingerprint ∧ session.fingerprint = summary.fingerprint := by
  unfold fingerprintRule
  split_ifs with differ
  · simp only [false_iff]
    tauto
  · simp only [true_iff]
    tauto

/-- The third rule passes exactly if there were enough orders. -/
theorem tradeCountRule_pass :
    (tradeCountRule summary policy).decision = .pass ↔
      policy.minimumSimulatedTrades ≤ summary.simulatedOrders := by
  unfold tradeCountRule
  split_ifs with few
  · simp [few]
  · simpa using few

/-- The fourth rule passes exactly if nothing failed. -/
theorem executionErrorRule_pass :
    (executionErrorRule summary).decision = .pass ↔
      summary.failedSimulatedOrders = 0 ∧ summary.errors = [] := by
  simp only [executionErrorRule]
  split_ifs with some_
  · simp only [false_iff, not_and]
    intro failed errors
    simp [failed, errors] at some_
  · simp only [true_iff]
    refine ⟨by omega, List.length_eq_zero_iff.mp (by omega)⟩

/-- The fifth rule passes exactly if the drawdown is known and within the bounds. -/
theorem drawdownRule_pass :
    (drawdownRule summary policy).decision = .pass ↔
      ∃ drawdown, summary.maxPaperDrawdown = some drawdown ∧ 0 ≤ drawdown ∧ drawdown ≤ 1 ∧
        drawdown < policy.hardKillPaperDrawdown ∧ drawdown ≤ policy.maximumPaperDrawdown := by
  unfold drawdownRule
  cases known : summary.maxPaperDrawdown with
  | none => simp
  | some drawdown =>
    dsimp only
    split_ifs with impossible hard soft
    · simp only [false_iff]
      intro found
      obtain ⟨_, same, low, high, -⟩ := found
      obtain rfl := Option.some.inj same
      exact impossible.elim (not_lt.mpr low) (not_lt.mpr high)
    · simp only [false_iff]
      intro found
      obtain ⟨_, same, -, -, below, -⟩ := found
      obtain rfl := Option.some.inj same
      exact absurd hard (not_le.mpr below)
    · simp only [false_iff]
      intro found
      obtain ⟨_, same, -, -, -, within⟩ := found
      obtain rfl := Option.some.inj same
      exact absurd soft (not_lt.mpr within)
    · simp only [true_iff]
      rw [not_or] at impossible
      exact ⟨drawdown, rfl, not_lt.mp impossible.1, not_lt.mp impossible.2, not_le.mp hard,
        not_lt.mp soft⟩

/-- The sixth rule passes exactly if there were orders and not too many of them were rejected. -/
theorem rejectionRateRule_pass :
    (rejectionRateRule summary policy).decision = .pass ↔ summary.simulatedOrders ≠ 0 ∧
      (summary.rejectedSimulatedOrders / summary.simulatedOrders : ℚ) ≤
        policy.maximumRejectionRate := by
  simp only [rejectionRateRule]
  split_ifs with idle elevated
  · simp [idle]
  · simp [elevated]
  · simpa [idle] using elevated

/-- The last rule passes exactly if the other metrics are known. -/
theorem missingMetricRule_pass :
    (missingMetricRule summary).decision = .pass ↔ summary.realizedPaperPnl ≠ none ∧
      summary.unrealizedPaperPnl ≠ none ∧ summary.exposure ≠ none := by
  unfold missingMetricRule
  cases summary.realizedPaperPnl <;> cases summary.unrealizedPaperPnl <;>
    cases summary.exposure <;> simp

/-- A session is eligible exactly if its summary shows all that the rules ask for. -/
theorem status_rules_iff :
    status (rules policy active session summary) = .liveEligible ↔
      Eligible policy active session summary := by
  rw [status_eq_liveEligible_iff]
  simp only [rules, List.forall_mem_cons, List.not_mem_nil, false_imp_iff, implies_true, and_true,
    sessionStateRule_pass, fingerprintRule_pass, tradeCountRule_pass, executionErrorRule_pass,
    drawdownRule_pass, rejectionRateRule_pass, missingMetricRule_pass]
  constructor
  · intro pass
    obtain ⟨completed, unchanged, enough, clean, drawdown, ⟨traded, rejected⟩, known⟩ := pass
    exact ⟨completed, unchanged, enough, clean, drawdown, traded, rejected, known⟩
  · intro eligible
    exact ⟨eligible.completed, eligible.unchanged, eligible.enough, eligible.clean,
      eligible.drawdown, ⟨eligible.traded, eligible.rejected⟩, eligible.known⟩

/-- A report is eligible exactly if its rules pass at a time that can be written. -/
theorem revalidate_eligible_iff (request : PaperRevalidationRequest) (generatedAt : String) :
    (∃ report, revalidate policy request active session summary generatedAt = .ok report ∧
      report.status = .liveEligible) ↔
        isoUtc generatedAt = true ∧ Eligible policy active session summary := by
  rw [← status_rules_iff]
  unfold revalidate
  cases timed : isoUtc generatedAt <;> simp [validateUtc, require, timed]

end PaperRevalidation

end StrategyLab
