import StrategyLab.Lib.Attempt
import StrategyLab.Lib.Machine
import StrategyLab.Lib.Python
import StrategyLab.Lib.Table

/-! Backtests that an adapter runs: requests, results, and the service that stores both. -/

namespace StrategyLab.Adapters

/-- How far a backtest came. -/
inductive BacktestStatus where
  | requested
  | validated
  | completed
  | failed
  | rejected
  | timeout
  deriving DecidableEq, Repr

/-- A strategy by name and version. -/
structure BacktestStrategyRef where
  strategyId : String
  version : String
  deriving DecidableEq

/-- A dataset by name and version. -/
structure BacktestDatasetRef where
  datasetId : String
  version : String
  deriving DecidableEq

/-- The days that a backtest covers. -/
structure BacktestPeriod where
  startDate : String
  endDate : String
  deriving DecidableEq

/-- What makes one backtest the same as another. -/
structure BacktestMaterial where
  strategy : BacktestStrategyRef
  dataset : BacktestDatasetRef
  period : BacktestPeriod
  parameters : List (String × Py.Value)
  engineVersion : String
  deriving DecidableEq

/-- A backtest that is asked for. -/
structure BacktestRequest where
  requestId : String
  strategy : BacktestStrategyRef
  dataset : BacktestDatasetRef
  period : BacktestPeriod
  parameters : List (String × Py.Value)
  actorRef : String
  createdAt : String
  engineVersion : String
  deriving DecidableEq

/-- The bounds of a backtest. -/
structure BacktestExecutionContext where
  timeoutSeconds : Int
  maxOutputBytes : Int
  generatedAt : String
  deriving DecidableEq

/-- What a backtest measured; a figure may be missing. -/
structure BacktestMetrics where
  totalReturn : Option ℚ := none
  annualizedReturn : Option ℚ := none
  maxDrawdown : Option ℚ := none
  winRate : Option ℚ := none
  profitFactor : Option ℚ := none
  sharpeRatio : Option ℚ := none
  tradeCount : Option Int := none
  averageTradeReturn : Option ℚ := none
  exposure : Option ℚ := none
  startDate : Option String := none
  endDate : Option String := none
  deriving DecidableEq

/-- The trades of a backtest. -/
structure BacktestTradeSummary where
  tradeCount : Int
  winningTrades : Option Int := none
  losingTrades : Option Int := none
  grossProfit : Option ℚ := none
  grossLoss : Option ℚ := none
  deriving DecidableEq

/-- What came of a backtest. -/
structure BacktestResult where
  resultId : String
  requestId : String
  status : BacktestStatus
  fingerprint : String
  strategy : BacktestStrategyRef
  dataset : BacktestDatasetRef
  period : BacktestPeriod
  metrics : BacktestMetrics
  tradeSummary : BacktestTradeSummary
  rawEngineVersion : String
  parameters : List (String × Py.Value)
  warnings : List String
  errors : List String
  generatedAt : String
  durationMs : Int
  reproducibility : List (String × String)
  deriving DecidableEq

namespace BacktestRequest

/-- The material of a request: all but who asks, when, and under which id. -/
def material (request : BacktestRequest) : BacktestMaterial :=
  ⟨request.strategy, request.dataset, request.period, request.parameters, request.engineVersion⟩

variable (digest : BacktestMaterial → String)

/-- The fingerprint of a request. -/
def fingerprint (request : BacktestRequest) : String := digest request.material

/-- The id of the result of a request. -/
def resultId (request : BacktestRequest) : String :=
  "backtest-result:" ++ request.fingerprint digest

end BacktestRequest

/-- The tables of requests and results. -/
structure SQLiteBacktestRepository where
  requests : Table BacktestRequest.requestId
  results : Table BacktestResult.resultId

namespace SQLiteBacktestRepository

variable (digest : BacktestMaterial → String)

/-- A repository that stores nothing. -/
def empty : SQLiteBacktestRepository := ⟨Table.empty, Table.empty⟩

/-- A request whose id or fingerprint is taken. -/
def Taken (repository : SQLiteBacktestRepository) (request : BacktestRequest) : Prop :=
  ∃ old ∈ repository.requests.rows,
    old.requestId = request.requestId ∨ old.fingerprint digest = request.fingerprint digest

instance (repository : SQLiteBacktestRepository) (request : BacktestRequest) :
    Decidable (repository.Taken digest request) :=
  inferInstanceAs (Decidable (∃ old ∈ repository.requests.rows, _))

/-- Store a request, unless its id or its fingerprint is taken. -/
def addRequest (repository : SQLiteBacktestRepository) (request : BacktestRequest) :
    Bool × SQLiteBacktestRepository :=
  if repository.Taken digest request then (false, repository)
  -- The id is free, so no row is replaced.
  else (true, { repository with requests := repository.requests.replace request })

/-- Store a result in place of one with the same id. -/
def addResult (repository : SQLiteBacktestRepository) (result : BacktestResult) :
    SQLiteBacktestRepository :=
  { repository with results := repository.results.replace result }

/-- Read a result by its id. -/
def getResult (repository : SQLiteBacktestRepository) (resultId : String) :
    Except String BacktestResult :=
  match repository.results.find? resultId with
  | none => .error resultId
  | some result => .ok result

end SQLiteBacktestRepository

/-- The result of a backtest that was not completed. -/
def failedResult (digest : BacktestMaterial → String) (request : BacktestRequest)
    (status : BacktestStatus) (errors : List String) (generatedAt : String) (durationMs : Int) :
    BacktestResult where
  resultId := request.resultId digest
  requestId := request.requestId
  status := status
  fingerprint := request.fingerprint digest
  strategy := request.strategy
  dataset := request.dataset
  period := request.period
  metrics := { startDate := some request.period.startDate, endDate := some request.period.endDate }
  tradeSummary := { tradeCount := 0 }
  rawEngineVersion := request.engineVersion
  parameters := request.parameters
  warnings := []
  errors := errors
  generatedAt := generatedAt
  durationMs := durationMs
  reproducibility := [("fingerprint", request.fingerprint digest),
    ("strategy_id", request.strategy.strategyId), ("dataset_id", request.dataset.datasetId)]

/-- The events of a backtest. -/
inductive BacktestEvent where
  | requested
  | started
  | completed
  | failed
  | rejected
  deriving DecidableEq, Repr

/-- A call of the service, with what the adapter and the event store do in it. -/
structure BacktestCall (ε : Type) where
  request : BacktestRequest
  context : BacktestExecutionContext
  validateRequest : Except ε (Bool × List String)
  runBacktest : Except ε BacktestResult
  record : BacktestEvent → Except ε Unit

namespace BacktestExecutionService

variable {ε : Type} (digest : BacktestMaterial → String)

/-- Record a rejection, and store it as the result of the request. -/
def reject (call : BacktestCall ε) (reasons : List String) :
    EStateM ε SQLiteBacktestRepository BacktestResult := do
  let result := failedResult digest call.request .rejected reasons call.context.generatedAt 0
  Attempt.answer (call.record .rejected)
  modify (·.addResult result)
  return result

/-- Let the adapter run a backtest, and store what it answers. -/
def execute (call : BacktestCall ε) : EStateM ε SQLiteBacktestRepository BacktestResult := do
  Attempt.answer (call.record .started)
  let result ← Attempt.answer call.runBacktest
  Attempt.answer (call.record (if result.status = .completed then .completed else .failed))
  modify (·.addResult result)
  return result

/-- Run the backtest of a request that was stored. -/
def runStored (call : BacktestCall ε) : EStateM ε SQLiteBacktestRepository BacktestResult := do
  Attempt.answer (call.record .requested)
  let (valid, reasons) ← Attempt.answer call.validateRequest
  if valid then execute call else reject digest call reasons

/-- Run a backtest, unless one like it was requested before. -/
def run (call : BacktestCall ε) : EStateM ε SQLiteBacktestRepository BacktestResult := do
  let added ← modifyGet (·.addRequest digest call.request)
  if added then runStored digest call else reject digest call ["duplicate backtest request"]

/-- The service, with its calls one after the other. -/
def machine : Machine SQLiteBacktestRepository (BacktestCall ε) (Except ε BacktestResult) where
  step repository call :=
    match (run digest call).run repository with
    | .ok result after => (.ok result, after)
    | .error raised after => (.error raised, after)

end BacktestExecutionService

end StrategyLab.Adapters
