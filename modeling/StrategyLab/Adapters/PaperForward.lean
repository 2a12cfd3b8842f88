import StrategyLab.Adapters.ChampionRegistry
import StrategyLab.Adapters.Trading
import StrategyLab.Lib.Dict

/-! Paper sessions of a champion: their states, simulated orders, observations and summaries. -/

namespace StrategyLab

/-- Where a paper session stands. -/
inductive PaperTradingSessionStatus where
  | pending
  | active
  | paused
  | completed
  | failed
  | cancelled
  deriving DecidableEq, Repr

/-- The text a session status is stored as. -/
def PaperTradingSessionStatus.value : PaperTradingSessionStatus → String
  | .pending => "pending"
  | .active => "active"
  | .paused => "paused"
  | .completed => "completed"
  | .failed => "failed"
  | .cancelled => "cancelled"

/-- The policy that paper sessions run under. -/
def paperForwardTestPolicyVersion : String := "paper_forward_test_policy_v1"

/-- A forward test of one champion on paper. -/
structure PaperTradingSession where
  sessionId : String
  slot : String
  championVersionId : String
  strategyRef : String
  fingerprint : String
  status : PaperTradingSessionStatus
  policyVersion : String
  createdAt : String
  startedAt : Option String := none
  endedAt : Option String := none
  warnings : List String := []
  errors : List String := []
  deriving DecidableEq, Repr

/-- What came of one order of a session. -/
structure PaperTradingObservation where
  observationId : String
  sessionId : String
  observedAt : String
  tradingResultId : Option String
  status : TradingStatus
  notional : ℚ
  message : String
  deriving DecidableEq

/-- What a session has come to; the metrics stay open. -/
structure PaperTradingPerformanceSummary where
  sessionId : String
  status : PaperTradingSessionStatus
  championVersionId : String
  strategyRef : String
  fingerprint : String
  simulatedOrders : Nat
  fills : Nat
  rejectedSimulatedOrders : Nat
  failedSimulatedOrders : Nat
  realizedPaperPnl : Option ℚ
  unrealizedPaperPnl : Option ℚ
  maxPaperDrawdown : Option ℚ
  exposure : Option ℚ
  warnings : List String
  errors : List String
  generatedAt : String
  deriving DecidableEq

/-- An order that is asked of a session. -/
structure PaperOrder where
  sessionId : String
  symbol : String
  quantity : ℚ
  price : ℚ
  side : String
  at_ : String
  deriving DecidableEq

/-- An order that was simulated: its result, and the champion that was active. -/
structure PaperExecution where
  sessionId : String
  resultId : String
  championVersionId : String
  fingerprint : String
  deriving DecidableEq

/-- The tables of the sessions, what they read, and the trading service; next to them the orders
whose requests were stored, and those that were simulated. -/
structure PaperForwardState where
  sessions : Table PaperTradingSession.sessionId
  observations : Table PaperTradingObservation.observationId
  summaries : Table PaperTradingPerformanceSummary.sessionId
  champions : ChampionRegistryRepository
  trading : TradingState
  placed : List PaperOrder
  executed : List PaperExecution

/-- The checks a session is constructed with. -/
def PaperTradingSession.validate (session : PaperTradingSession) : Except ServiceError Unit := do
  validateRegistryRef session.sessionId "session_id"
  validateUtc session.createdAt
  session.startedAt.forM validateUtc
  session.endedAt.forM validateUtc

/-- The checks an observation is constructed with. -/
def PaperTradingObservation.validate (observation : PaperTradingObservation) :
    Except ServiceError Unit := do
  validateRegistryRef observation.observationId "observation_id"
  validateUtc observation.observedAt

/-- Require that a session has one of these statuses. -/
def requireStatus (session : PaperTradingSession) (allowed : List PaperTradingSessionStatus) :
    Except ServiceError Unit :=
  require (session.status ∈ allowed)
    s!"invalid paper session transition from {session.status.value}"

/-- Require that the champion of a session is the active one. -/
def requireSameChampion (session : PaperTradingSession) (active : ChampionRegistryEntry) :
    Except ServiceError Unit :=
  require (session.championVersionId = active.activeVersionId &&
    session.fingerprint = active.fingerprint) "paper session champion is no longer active"

/-- The id of the request that an order of a session is executed under. -/
def paperRequestId (sessionId : String) (number : Nat) : String :=
  s!"paper-session:{sessionId}:{number}"

/-- The id that an observation of a session is stored under. -/
def paperObservationId (sessionId : String) (number : Nat) : String :=
  s!"paper-observation:{sessionId}:{number}"

/-- The key that repeats of an order are known by. -/
def paperIdempotencyKey (order : PaperOrder) : String :=
  s!"paper-session:{order.sessionId}:{order.symbol}:{order.side}:{order.at_}"

/-- The id of a request is not empty. -/
theorem paperRequestId_ne_empty (sessionId : String) (number : Nat) :
    paperRequestId sessionId number ≠ "" := by
  intro empty
  have chars := congrArg String.toList empty
  simp [paperRequestId] at chars

/-- The request that an order is executed as, if the request passes its checks. -/
def buildPaperRequest (order : PaperOrder) (actorRef : String) (number : Nat) :
    Except ServiceError TradingRequest :=
  if named : actorRef = "" then .error (.valueError "trading request requires id and actor")
  else if timed : isoUtc order.at_ = true then
    if onSymbol : order.symbol ≠ "" → symbolPattern order.symbol = true then
      if counted : 0 ≤ order.quantity then
        if priced : 0 < order.price then
          .ok {
            requestId := paperRequestId order.sessionId number
            intent := if order.side = "sell" then .simulateSell else .simulateBuy
            symbol := order.symbol
            side := some (if order.side = "sell" then .sell else .buy)
            quantity := order.quantity
            orderType := .limit
            limitPrice := some order.price
            actorRef
            createdAt := order.at_
            idempotencyKey := some (paperIdempotencyKey order)
            named := ⟨paperRequestId_ne_empty order.sessionId number, named⟩
            timed, onSymbol, counted
            priced := fun _ same => Option.some.inj same ▸ priced }
        else .error (.valueError "limit price must be positive")
      else .error (.valueError "trading request quantity cannot be negative")
    else .error (.valueError "invalid symbol")
  else .error (.valueError "timestamp must use ISO 8601 UTC format")

namespace PaperForwardState

/-- Nothing is stored, and no champion is active. -/
def initial (champions : ChampionRegistryRepository) : PaperForwardState :=
  ⟨.empty, .empty, .empty, champions, ⟨.empty, .empty⟩, [], []⟩

/-- A new process on the same database: the paper adapter starts anew. -/
def restarted (state : PaperForwardState) : PaperForwardState :=
  { state with trading := { state.trading with adapter := .empty } }

/-- The observations of a session. -/
def listObservations (state : PaperForwardState) (sessionId : String) :
    List PaperTradingObservation :=
  state.observations.rows.filter fun observation => observation.sessionId = sessionId

/-- How many observations of a session are of a kind. -/
def count (state : PaperForwardState) (sessionId : String) (kinds : List TradingStatus) : Nat :=
  (state.listObservations sessionId).countP fun observation => observation.status ∈ kinds

/-- Read a session that has to exist. -/
def getSession (state : PaperForwardState) (sessionId : String) :
    Except ServiceError PaperTradingSession :=
  match state.sessions.find? sessionId with
  | none => .error (.keyError sessionId)
  | some session => .ok session

/-- Read the active champion of a slot. -/
def active (state : PaperForwardState) (slot : String) :
    Except ServiceError ChampionRegistryEntry :=
  match state.champions.getActive slot with
  | none => .error (.valueError "active champion is required for paper forward test")
  | some active => .ok active

/-- A session as it is after a change of its status, if the change is allowed. -/
def changed (state : PaperForwardState) (sessionId : String)
    (allowed : List PaperTradingSessionStatus) (sameChampion : Bool)
    (change : PaperTradingSession → PaperTradingSession) :
    Except ServiceError PaperTradingSession := do
  let session ← state.getSession sessionId
  requireStatus session allowed
  if sameChampion then
    requireSameChampion session (← state.active session.slot)
  (change session).validate
  return change session

/-- Store a changed session. -/
def store (state : PaperForwardState) (updated : Except ServiceError PaperTradingSession) :
    Except ServiceError PaperTradingSession × PaperForwardState :=
  match updated with
  | .error raised => (.error raised, state)
  | .ok session => (.ok session, { state with sessions := state.sessions.assign session })

/-- Create a session for the active champion. -/
def createSession (state : PaperForwardState) (sessionId slot : String)
    (championVersionId fingerprint : Option String) (createdAt : String) :
    Except ServiceError PaperTradingSession × PaperForwardState :=
  match (do
    let active ← state.active slot
    require (championVersionId.all fun given => given = active.activeVersionId)
      "only the active champion version can start paper forward test"
    require (fingerprint.all fun given => given = active.fingerprint)
      "champion fingerprint mismatch"
    let session : PaperTradingSession :=
      { sessionId, slot, championVersionId := active.activeVersionId,
        strategyRef := active.strategyRef, fingerprint := active.fingerprint, status := .pending,
        policyVersion := paperForwardTestPolicyVersion, createdAt }
    session.validate
    match state.sessions.insert? session with
    | none => .error (.integrityError "UNIQUE constraint failed: paper_trading_sessions.session_id")
    | some sessions => return (session, sessions)) with
  | .error raised => (.error raised, state)
  | .ok (session, sessions) => (.ok session, { state with sessions })

/-- A session that is started, if it can be. -/
def started (state : PaperForwardState) (sessionId at_ : String) :
    Except ServiceError PaperTradingSession :=
  state.changed sessionId [.pending] true fun session =>
    { session with status := .active, startedAt := some at_ }

/-- Start a session; one that is active stays as it is. -/
def start (state : PaperForwardState) (sessionId at_ : String) :
    Except ServiceError PaperTradingSession × PaperForwardState :=
  match state.sessions.find? sessionId with
  | none => (.error (.keyError sessionId), state)
  | some session =>
    if session.status = .active then (.ok session, state)
    else state.store (state.started sessionId at_)

/-- Pause an active session. -/
def pause (state : PaperForwardState) (sessionId : String) :
    Except ServiceError PaperTradingSession × PaperForwardState :=
  state.store (state.changed sessionId [.active] false fun session =>
    { session with status := .paused })

/-- Resume a paused session of the active champion. -/
def resume (state : PaperForwardState) (sessionId : String) :
    Except ServiceError PaperTradingSession × PaperForwardState :=
  state.store (state.changed sessionId [.paused] true fun session =>
    { session with status := .active })

/-- Cancel a session that has not ended. -/
def cancel (state : PaperForwardState) (sessionId at_ : String) :
    Except ServiceError PaperTradingSession × PaperForwardState :=
  state.store (state.changed sessionId [.pending, .active, .paused] false fun session =>
    { session with status := .cancelled, endedAt := some at_ })

/-- What the observations of a session come to. -/
def summarize (state : PaperForwardState) (session : PaperTradingSession) (generatedAt : String) :
    PaperTradingPerformanceSummary where
  sessionId := session.sessionId
  status := session.status
  championVersionId := session.championVersionId
  strategyRef := session.strategyRef
  fingerprint := session.fingerprint
  simulatedOrders := (state.listObservations session.sessionId).length
  fills := state.count session.sessionId [.simulated]
  rejectedSimulatedOrders := state.count session.sessionId [.rejected, .blocked]
  failedSimulatedOrders := state.count session.sessionId [.failed]
  realizedPaperPnl := none
  unrealizedPaperPnl := none
  maxPaperDrawdown := none
  exposure := none
  warnings := session.warnings
  errors := session.errors
  generatedAt := generatedAt

/-- Summarize a session, and store the summary. -/
def summary (state : PaperForwardState) (sessionId generatedAt : String) :
    Except ServiceError PaperTradingPerformanceSummary × PaperForwardState :=
  match state.sessions.find? sessionId with
  | none => (.error (.keyError sessionId), state)
  | some session =>
    let summary := state.summarize session generatedAt
    (.ok summary, { state with summaries := state.summaries.assign summary })

/-- A session that is completed, if it can be. -/
def completed (state : PaperForwardState) (sessionId at_ : String) :
    Except ServiceError PaperTradingSession :=
  state.changed sessionId [.active, .paused] false fun session =>
    { session with status := .completed, endedAt := some at_ }

/-- Complete a session and summarize it; no answer comes if the process is lost in between. -/
def complete (state : PaperForwardState) (sessionId at_ : String) (lost : Bool) :
    Option (Except ServiceError PaperTradingSession) × PaperForwardState :=
  match state.completed sessionId at_ with
  | .error raised => (some (.error raised), state)
  | .ok session =>
    let stored := { state with sessions := state.sessions.assign session }
    if lost then (none, stored.restarted) else (some (.ok session), (stored.summary sessionId at_).2)

/-- The number of the next order of a session: one more than those that are observed. -/
def nextNumber (state : PaperForwardState) (sessionId : String) : Nat :=
  (state.listObservations sessionId).length + 1

/-- The request that an order is executed as, and the champion that is active meanwhile. -/
def prepare (state : PaperForwardState) (order : PaperOrder) (actorRef : String) :
    Except ServiceError (ChampionRegistryEntry × TradingRequest) := do
  let session ← state.getSession order.sessionId
  requireStatus session [.active]
  let active ← state.active session.slot
  requireSameChampion session active
  return (active, ← buildPaperRequest order actorRef (state.nextNumber order.sessionId))

/-- The request of an order is stored, unless it is taken for a duplicate. -/
def place (state : PaperForwardState) (order : PaperOrder) (request : TradingRequest) :
    PaperForwardState :=
  match state.trading.repository.addRequest request with
  | none => state
  | some repository =>
    { state with
      trading := { state.trading with repository }
      placed := state.placed ++ [order] }

/-- The result of a request is stored as well, in a commit of its own. -/
def execute (config : PaperTradingConfig) (state : PaperForwardState) (order : PaperOrder)
    (active : ChampionRegistryEntry) (request : TradingRequest) :
    TradingResult × PaperForwardState :=
  let (result, trading) := TradingExecutionService.execute config {} state.trading request
  let execution : PaperExecution :=
    ⟨order.sessionId, result.resultId, active.activeVersionId, active.fingerprint⟩
  (result, { state with
    trading
    placed := (state.place order request).placed
    executed := if result.status = .simulated then state.executed ++ [execution]
      else state.executed })

/-- The observation of a result. -/
def observation (state : PaperForwardState) (order : PaperOrder) (result : TradingResult) :
    PaperTradingObservation where
  observationId := paperObservationId order.sessionId (state.nextNumber order.sessionId)
  sessionId := order.sessionId
  observedAt := order.at_
  tradingResultId := some result.resultId
  status := result.status
  notional := result.notional
  message := result.message

/-- The observation of a result is stored last. -/
def observe (state : PaperForwardState) (order : PaperOrder) (result : TradingResult) :
    Except ServiceError PaperForwardState := do
  let observation := state.observation order result
  observation.validate
  match state.observations.insert? observation with
  | none =>
    .error (.integrityError "UNIQUE constraint failed: paper_trading_observations.observation_id")
  | some observations => return { state with observations }

end PaperForwardState

/-- The commits of an order after which its process can be lost. -/
inductive PaperCommit where
  | request
  | result
  | observation
  deriving DecidableEq, Repr

namespace PaperForwardState

/-- Simulate an order: execute its request and observe the result. -/
def simulateOrder (config : PaperTradingConfig) (state : PaperForwardState) (order : PaperOrder)
    (actorRef : String) (lostAfter : Option PaperCommit) :
    Option (Except ServiceError TradingResult) × PaperForwardState :=
  match state.prepare order actorRef with
  | .error raised => (some (.error raised), state)
  | .ok (active, request) =>
    if lostAfter = some .request then (none, (state.place order request).restarted)
    else
      let (result, executed) := state.execute config order active request
      if lostAfter = some .result then (none, executed.restarted)
      else
        match executed.observe order result with
        | .error raised => (some (.error raised), executed)
        | .ok observed =>
          if lostAfter = some .observation then (none, observed.restarted)
          else (some (.ok result), observed)

end PaperForwardState

/-- What happens to the paper sessions: calls, losses of the process, and changes of champion. -/
inductive PaperForwardOp where
  | createSession (sessionId slot : String) (championVersionId fingerprint : Option String)
    (createdAt : String)
  | start (sessionId at_ : String)
  | pause (sessionId : String)
  | resume (sessionId : String)
  | complete (sessionId at_ : String) (lost : Bool)
  | cancel (sessionId at_ : String)
  | simulateOrder (order : PaperOrder) (actorRef : String) (lostAfter : Option PaperCommit)
  | summary (sessionId generatedAt : String)
  | promote (champions : ChampionRegistryRepository)
  | restart

/-- What a call answers. -/
inductive PaperForwardAnswer where
  | session (answered : Option (Except ServiceError PaperTradingSession))
  | result (answered : Option (Except ServiceError TradingResult))
  | summary (answered : Except ServiceError PaperTradingPerformanceSummary)
  | done

namespace PaperForwardState

/-- Do one of the things that happen. -/
def step (config : PaperTradingConfig) (state : PaperForwardState) :
    PaperForwardOp → PaperForwardAnswer × PaperForwardState
  | .createSession sessionId slot championVersionId fingerprint createdAt =>
    let (answered, next) :=
      state.createSession sessionId slot championVersionId fingerprint createdAt
    (.session (some answered), next)
  | .start sessionId at_ =>
    let (answered, next) := state.start sessionId at_
    (.session (some answered), next)
  | .pause sessionId =>
    let (answered, next) := state.pause sessionId
    (.session (some answered), next)
  | .resume sessionId =>
    let (answered, next) := state.resume sessionId
    (.session (some answered), next)
  | .complete sessionId at_ lost =>
    let (answered, next) := state.complete sessionId at_ lost
    (.session answered, next)
  | .cancel sessionId at_ =>
    let (answered, next) := state.cancel sessionId at_
    (.session (some answered), next)
  | .simulateOrder order actorRef lostAfter =>
    let (answered, next) := state.simulateOrder config order actorRef lostAfter
    (.result answered, next)
  | .summary sessionId generatedAt =>
    let (answered, next) := state.summary sessionId generatedAt
    (.summary answered, next)
  | .promote champions => (.done, { state with champions })
  | .restart => (.done, state.restarted)

end PaperForwardState

/-- The paper sessions as a machine. -/
def paperForwardMachine (config : PaperTradingConfig) :
    Machine PaperForwardState PaperForwardOp PaperForwardAnswer :=
  ⟨PaperForwardState.step config⟩

end StrategyLab
