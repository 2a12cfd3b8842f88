import StrategyLab.Adapters.StrategyHandoff
import StrategyLab.Adapters.Trading

/-! Plans to execute a strategy, and their runs: the gates of the modes, and what a run stores. -/

namespace StrategyLab

/-- The policy that strategies are executed under. -/
def strategyExecutionPolicyVersion : String := "strategy_execution_policy_v1"

/-- How a strategy is executed. -/
inductive StrategyExecutionMode where
  | disabled
  | paper
  | live
  deriving DecidableEq, Repr

/-- Where a plan or a run stands. -/
inductive StrategyExecutionStatus where
  | created
  | ready
  | running
  | completed
  | blocked
  | failed
  | cancelled
  deriving DecidableEq, Repr

/-- What is enabled of the execution of strategies. -/
structure StrategyExecutionPolicy where
  policyVersion : String := strategyExecutionPolicyVersion
  defaultMode : StrategyExecutionMode := .disabled
  liveTradingEnabled : Bool := false
  brokerAdapterAvailable : Bool := false
  deriving DecidableEq, Repr

/-- A request for a plan. -/
structure StrategyExecutionRequest where
  requestId : String
  mode : StrategyExecutionMode
  slot : String
  championVersionId : Option String
  fingerprint : Option String
  revalidationId : Option String
  actorRef : String
  requestedAt : String
  deriving DecidableEq, Repr

/-- What is decided about a request. -/
structure StrategyExecutionDecision where
  status : StrategyExecutionStatus
  reason : String
  approvalRequired : Bool := false
  deriving DecidableEq, Repr

/-- A plan to execute the strategy of a champion. -/
structure StrategyExecutionPlan where
  planId : String
  requestId : String
  mode : StrategyExecutionMode
  championVersionId : String
  strategyRef : String
  fingerprint : String
  revalidationId : Option String
  status : StrategyExecutionStatus
  decision : StrategyExecutionDecision
  policyVersion : String
  createdAt : String
  deriving DecidableEq, Repr

/-- A run of a plan. -/
structure StrategyExecutionRun where
  runId : String
  planId : String
  mode : StrategyExecutionMode
  championVersionId : String
  fingerprint : String
  status : StrategyExecutionStatus
  resultRef : Option String
  blockReason : Option String
  startedAt : String
  completedAt : Option String
  deriving DecidableEq, Repr

/-- The reports that live plans look at. -/
abbrev PaperRevalidationReports := Table PaperRevalidationReport.revalidationId

/-- The id of the plan that a request is answered with. -/
def executionPlanId (requestId : String) : String := s!"execution-plan:{requestId}"

/-- The id that a run of a plan is stored under. -/
def executionRunId (planId : String) : String := s!"execution-run:{planId}"

/-- The id and the key of the order of a plan. -/
def executionOrderId (planId : String) : String := s!"strategy-execution:{planId}"

/-- The tables of the plans and of their runs, and what they share with others; next to them the
requests that plans were last made for, and the plans whose order was simulated. -/
structure StrategyExecutionState where
  plans : Table StrategyExecutionPlan.planId
  runs : Table StrategyExecutionRun.runId
  champions : ChampionRegistryRepository
  revalidations : Option PaperRevalidationReports
  trading : TradingRepository
  requests : Table StrategyExecutionRequest.requestId
  ordered : List String

namespace StrategyExecutionState

/-- Nothing is planned yet. -/
def initial (champions : ChampionRegistryRepository)
    (revalidations : Option PaperRevalidationReports) : StrategyExecutionState :=
  ⟨.empty, .empty, champions, revalidations, .empty, .empty, []⟩

/-- Store a plan, replacing the one with its id. -/
def addPlan (state : StrategyExecutionState) (request : StrategyExecutionRequest)
    (plan : StrategyExecutionPlan) : StrategyExecutionState :=
  { state with
    plans := state.plans.replace plan
    requests := state.requests.replace request }

/-- Store a run, replacing the one with its id. -/
def addRun (state : StrategyExecutionState) (run : StrategyExecutionRun) :
    StrategyExecutionState :=
  { state with runs := state.runs.replace run }

/-- Whether a run of a champion in a mode is under way. -/
def hasActiveRun (state : StrategyExecutionState) (championVersionId : String)
    (mode : StrategyExecutionMode) : Bool :=
  state.runs.rows.any fun run => run.championVersionId = championVersionId && run.mode = mode &&
    run.status ∈ [.created, .ready, .running]

/-- The report that a request names, if there is one to look at. -/
def loadRevalidation (state : StrategyExecutionState) :
    Option String → Except ServiceError (Option PaperRevalidationReport)
  | none => .ok none
  | some revalidationId =>
    match state.revalidations with
    | none => .ok none
    | some reports =>
      match reports.find? revalidationId with
      | none => .error (.keyError revalidationId)
      | some report => .ok (some report)

/-- What the gates of the mode of a request decide. -/
def decision (policy : StrategyExecutionPolicy) (state : StrategyExecutionState)
    (request : StrategyExecutionRequest) : Except ServiceError StrategyExecutionDecision :=
  match request.mode with
  | .disabled => .ok ⟨.blocked, "execution mode disabled", false⟩
  | .paper => .ok ⟨.ready, "paper execution allowed for active Champion", false⟩
  | .live => do
    match ← state.loadRevalidation request.revalidationId with
    | none => return ⟨.blocked, "live execution requires revalidation", false⟩
    | some report =>
      match report.status with
      | .kill => return ⟨.blocked, "KILL revalidation blocks execution", false⟩
      | .rollbackRecommended =>
        return ⟨.blocked, "rollback recommended blocks live execution", false⟩
      | .hold => return ⟨.blocked, "HOLD revalidation blocks live execution", false⟩
      | .review => return ⟨.blocked, "revalidation is not live eligible", false⟩
      | .liveEligible =>
        if policy.liveTradingEnabled then
          return ⟨.blocked, "live broker adapter unavailable", true⟩
        else return ⟨.blocked, "live trading disabled by policy", false⟩

/-- A plan for a request under a decision. -/
def planOf (policy : StrategyExecutionPolicy) (request : StrategyExecutionRequest)
    (championVersionId strategyRef fingerprint : String) (decision : StrategyExecutionDecision) :
    StrategyExecutionPlan where
  planId := executionPlanId request.requestId
  requestId := request.requestId
  mode := request.mode
  championVersionId := championVersionId
  strategyRef := strategyRef
  fingerprint := fingerprint
  revalidationId := request.revalidationId
  status := if decision.status = .ready then .ready else .blocked
  decision := decision
  policyVersion := policy.policyVersion
  createdAt := request.requestedAt

/-- The champion that a plan is blocked for when no champion is active. -/
def missingChampion (request : StrategyExecutionRequest) : ChampionRegistryEntry :=
  ⟨request.slot, "missing", "missing", "missing", "missing", "missing", "missing",
    request.requestedAt, 1, none⟩

/-- A plan that is blocked for a champion. -/
def blockedPlan (policy : StrategyExecutionPolicy) (request : StrategyExecutionRequest)
    (reason : String) (active : ChampionRegistryEntry) : StrategyExecutionPlan :=
  planOf policy request active.activeVersionId active.strategyRef active.fingerprint
    ⟨.blocked, reason, false⟩

/-- The plan that a request is answered with. -/
def planned (policy : StrategyExecutionPolicy) (state : StrategyExecutionState)
    (request : StrategyExecutionRequest) : Except ServiceError StrategyExecutionPlan := do
  validateUtc request.requestedAt
  match state.champions.getActive request.slot with
  | none =>
    (missingChampion request).validate
    return blockedPlan policy request "active champion is required" (missingChampion request)
  | some active =>
    if request.championVersionId.any fun given => given ≠ "" && given ≠ active.activeVersionId then
      return blockedPlan policy request "stale champion execution blocked" active
    else if request.fingerprint.any fun given => given ≠ "" && given ≠ active.fingerprint then
      return blockedPlan policy request "champion fingerprint mismatch" active
    else
      let decision ← state.decision policy request
      return planOf policy request active.activeVersionId active.strategyRef active.fingerprint
        decision

/-- Plan the execution of a strategy. -/
def plan (policy : StrategyExecutionPolicy) (state : StrategyExecutionState)
    (request : StrategyExecutionRequest) :
    Except ServiceError StrategyExecutionPlan × StrategyExecutionState :=
  match state.planned policy request with
  | .error raised => (.error raised, state)
  | .ok plan => (.ok plan, state.addPlan request plan)

/-- A run of a plan with an outcome. -/
def runOf (plan : StrategyExecutionPlan) (runId : String) (status : StrategyExecutionStatus)
    (resultRef blockReason : Option String) (at_ : String) : StrategyExecutionRun where
  runId := runId
  planId := plan.planId
  mode := plan.mode
  championVersionId := plan.championVersionId
  fingerprint := plan.fingerprint
  status := status
  resultRef := resultRef
  blockReason := blockReason
  startedAt := at_
  completedAt := some at_

/-- The request for the order of a plan, if it passes its checks. -/
def buildOrder (planId actorRef at_ : String) : Except ServiceError TradingRequest :=
  if named : executionOrderId planId ≠ "" ∧ actorRef ≠ "" then
    if timed : isoUtc at_ = true then
      .ok {
        requestId := executionOrderId planId
        intent := .simulateBuy
        symbol := "PAPER"
        side := some .buy
        quantity := 1
        orderType := .limit
        limitPrice := some 1
        actorRef
        createdAt := at_
        idempotencyKey := some (executionOrderId planId)
        named, timed
        counted := zero_le_one
        priced := fun _ same => Option.some.inj same ▸ one_pos }
    else .error (.valueError "timestamp must use ISO 8601 UTC format")
  else .error (.valueError "trading request requires id and actor")

/-- Store a run, and answer it. -/
def answerRun (state : StrategyExecutionState) (run : StrategyExecutionRun) :
    Except ServiceError StrategyExecutionRun × StrategyExecutionState :=
  (.ok run, state.addRun run)

/-- Run a plan: only for the active champion of the default slot, and only on paper. -/
def run (state : StrategyExecutionState) (planId actorRef at_ : String) :
    Except ServiceError StrategyExecutionRun × StrategyExecutionState :=
  match state.plans.find? planId with
  | none => (.error (.keyError planId), state)
  | some plan =>
    let runId := executionRunId plan.planId
    let current := (state.champions.getActive defaultChampionSlot).any fun active =>
      active.activeVersionId = plan.championVersionId && active.fingerprint = plan.fingerprint
    if current = false then
      state.answerRun (runOf plan runId .blocked none (some "stale champion execution blocked") at_)
    else if plan.status = .blocked then
      state.answerRun (runOf plan runId .blocked none (some plan.decision.reason) at_)
    else if state.hasActiveRun plan.championVersionId plan.mode then
      state.answerRun (runOf plan s!"{runId}:duplicate" .blocked none
        (some "duplicate active execution") at_)
    else if plan.mode = .live then
      state.answerRun (runOf plan runId .blocked none (some "live broker adapter unavailable") at_)
    else
      match buildOrder plan.planId actorRef at_ with
      | .error raised => (.error raised, state)
      | .ok request =>
        let (result, trading) :=
          TradingExecutionService.execute {} {} ⟨state.trading, .empty⟩ request
        let simulated : Bool := result.status = .simulated
        let traded := { state with
          trading := trading.repository
          ordered := if simulated then state.ordered ++ [plan.planId] else state.ordered }
        traded.answerRun (runOf plan runId (if simulated then .completed else .failed)
          (some result.resultId) (if simulated then none else some result.message) at_)

end StrategyExecutionState

/-- What happens to the plans: calls, and changes of champions and reports. -/
inductive StrategyExecutionOp where
  | plan (request : StrategyExecutionRequest)
  | run (planId actorRef at_ : String)
  | promote (champions : ChampionRegistryRepository)
  | revalidate (revalidations : Option PaperRevalidationReports)

/-- What a call answers. -/
inductive StrategyExecutionAnswer where
  | plan (answered : Except ServiceError StrategyExecutionPlan)
  | run (answered : Except ServiceError StrategyExecutionRun)
  | done

/-- Do one of the things that happen. -/
def StrategyExecutionState.step (policy : StrategyExecutionPolicy)
    (state : StrategyExecutionState) :
    StrategyExecutionOp → StrategyExecutionAnswer × StrategyExecutionState
  | .plan request =>
    let (answered, next) := state.plan policy request
    (.plan answered, next)
  | .run planId actorRef at_ =>
    let (answered, next) := state.run planId actorRef at_
    (.run answered, next)
  | .promote champions => (.done, { state with champions })
  | .revalidate revalidations => (.done, { state with revalidations })

/-- The execution of strategies as a machine. -/
def strategyExecutionMachine (policy : StrategyExecutionPolicy) :
    Machine StrategyExecutionState StrategyExecutionOp StrategyExecutionAnswer :=
  ⟨StrategyExecutionState.step policy⟩

end StrategyLab
