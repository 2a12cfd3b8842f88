import StrategyLab.Adapters.Validation
import StrategyLab.Lib.Machine
import StrategyLab.Lib.Table
import Mathlib.Algebra.Order.Field.Rat
import Mathlib.Data.List.Sort

/-! Paper trading: requests and their checks, the paper positions, and the service in between. -/

namespace StrategyLab

/-- What a trading request is for. -/
inductive TradingIntent where
  | analyze
  | simulateBuy
  | simulateSell
  | cancelSimulatedOrder
  | liveBuy
  | liveSell
  deriving DecidableEq, Repr

/-- What is done about a trading request. -/
inductive TradingAction where
  | analyze
  | simulateOrder
  | cancelSimulatedOrder
  | blockLiveExecution
  deriving DecidableEq, Repr

/-- The side of an order. -/
inductive OrderSide where
  | buy
  | sell
  deriving DecidableEq, Repr

/-- The type of an order. -/
inductive OrderType where
  | market
  | limit
  deriving DecidableEq, Repr

/-- How far a trading request has come. -/
inductive TradingStatus where
  | created
  | validated
  | rejected
  | blocked
  | simulated
  | cancelled
  | failed
  deriving DecidableEq, Repr

/-- The account that orders are simulated on. -/
structure AccountSnapshot where
  accountRef : String
  cash : ℚ
  equity : ℚ
  currency : String
  asOf : String
  deriving DecidableEq

/-- The pattern `SYMBOL_PATTERN`: at most 20 capital letters, digits, points and hyphens. -/
def symbolPattern (symbol : String) : Bool :=
  match symbol.toList with
  | [] => false
  | first :: rest =>
    let isHead := fun c : Char => ('A' ≤ c && c ≤ 'Z') || ('0' ≤ c && c ≤ '9')
    isHead first && rest.length ≤ 19 && rest.all fun c => isHead c || c ∈ ['.', '-']

/-- What is held of a symbol. -/
structure PositionSnapshot where
  symbol : String
  quantity : ℚ
  averagePrice : ℚ
  marketValue : ℚ
  asOf : String
  deriving DecidableEq

/-- A trading request, with what its construction checks. -/
structure TradingRequest where
  requestId : String
  intent : TradingIntent
  symbol : String
  side : Option OrderSide
  quantity : ℚ
  orderType : OrderType
  limitPrice : Option ℚ
  actorRef : String
  createdAt : String
  simulation : Bool := true
  approvalRef : Option String := none
  idempotencyKey : Option String := none
  named : requestId ≠ "" ∧ actorRef ≠ "" := by decide
  timed : isoUtc createdAt = true := by decide
  onSymbol : symbol ≠ "" → symbolPattern symbol = true := by decide
  counted : 0 ≤ quantity := by decide
  priced : ∀ price, limitPrice = some price → 0 < price

/-- What the policy says about a request. -/
structure TradingDecision where
  requestId : String
  status : TradingStatus
  action : TradingAction
  reasons : List String
  approvalRequired : Bool
  deriving DecidableEq, Repr

/-- The answer to a request. -/
structure TradingResult where
  resultId : String
  requestId : String
  status : TradingStatus
  message : String
  account : Option AccountSnapshot
  positions : List PositionSnapshot
  decision : TradingDecision
  notional : ℚ
  createdAt : String
  deriving DecidableEq

/-- The action that an intent asks for. -/
def actionForIntent : TradingIntent → TradingAction
  | .analyze => .analyze
  | .cancelSimulatedOrder => .cancelSimulatedOrder
  | .liveBuy | .liveSell => .blockLiveExecution
  | .simulateBuy | .simulateSell => .simulateOrder

/-- What a request is worth; without a limit price, nothing. -/
def notional (request : TradingRequest) : ℚ := request.quantity * request.limitPrice.getD 0

/-- The answer to a request, under the id that belongs to the request. -/
def tradingResult (request : TradingRequest) (status : TradingStatus) (message : String)
    (account : Option AccountSnapshot) (positions : List PositionSnapshot)
    (decision : TradingDecision) : TradingResult :=
  { resultId := s!"trading-result:{request.requestId}", requestId := request.requestId, status,
    message, account, positions, decision, notional := notional request,
    createdAt := request.createdAt }

/-- The bounds that requests are checked against. -/
structure TradingRiskPolicy where
  maxNotional : ℚ := 1000000
  maxPositionQuantity : ℚ := 100
  allowedOrderTypes : List OrderType := [.market, .limit]
  liveExecutionEnabled : Bool := false
  adapterEnabled : Bool := true

/-- A reason, when a check fails. -/
def reasonIf (fails : Bool) (reason : String) : List String := if fails then [reason] else []

/-- What is left of or added to a quantity by a request. -/
def quantityAfter (current : ℚ) (request : TradingRequest) : ℚ :=
  if request.side = some .buy then current + request.quantity
  else max 0 (current - request.quantity)

/-- Check a request; the reasons stand in the order of the checks. -/
def TradingRiskPolicy.validate (policy : TradingRiskPolicy) (request : TradingRequest)
    (account : AccountSnapshot) (positions : List PositionSnapshot)
    (seenIdempotencyKeys : List String) : TradingDecision :=
  let live := request.intent = .liveBuy ∨ request.intent = .liveSell ∨ request.simulation = false
  let simulated := request.intent = .simulateBuy ∨ request.intent = .simulateSell
  let current := ((positions.filter (·.symbol = request.symbol)).map (·.quantity)).sum
  let reasons :=
    reasonIf (!policy.adapterEnabled) "trading adapter is disabled" ++
    reasonIf live "live trading is not implemented" ++
    reasonIf (request.orderType ∉ policy.allowedOrderTypes) "unsupported order type" ++
    reasonIf (simulated ∧ request.quantity ≤ 0) "quantity must be positive" ++
    (if request.symbol ≠ "" then reasonIf (!symbolPattern request.symbol) "invalid symbol"
      else reasonIf (request.intent ≠ .analyze) "symbol is required") ++
    reasonIf (policy.maxNotional < notional request) "max notional exceeded" ++
    reasonIf (policy.maxPositionQuantity < quantityAfter current request)
      "max position limit exceeded" ++
    reasonIf (request.idempotencyKey.any fun key => key ≠ "" && key ∈ seenIdempotencyKeys)
      "duplicate trading request" ++
    reasonIf (account.currency = "") "account currency is required"
  let action :=
    if "live trading is not implemented" ∈ reasons then .blockLiveExecution
    else actionForIntent request.intent
  { requestId := request.requestId
    status := if reasons.isEmpty then .validated else .rejected
    action, reasons
    approvalRequired := !reasons.isEmpty && action = .blockLiveExecution }

/-- How a paper adapter is set up. -/
structure PaperTradingConfig where
  adapterEnabled : Bool := true
  failSimulation : Bool := false

/-- The positions that a paper adapter keeps, and the keys it has seen. -/
structure PaperTradingAdapter where
  positions : Table PositionSnapshot.symbol
  idempotencyKeys : List String

namespace PaperTradingAdapter

/-- The paper account. -/
def account : AccountSnapshot :=
  ⟨"paper-account", 1000000, 1000000, "KRW", "2026-07-17T00:00:00Z"⟩

/-- A new adapter. -/
def empty : PaperTradingAdapter := ⟨.empty, []⟩

/-- The positions in the order of their symbols. -/
def getPositions (adapter : PaperTradingAdapter) : List PositionSnapshot :=
  adapter.positions.rows.insertionSort fun left right => left.symbol ≤ right.symbol

variable (config : PaperTradingConfig)

/-- Check a request against the policy and what the adapter has seen. -/
def validateRequest (adapter : PaperTradingAdapter) (request : TradingRequest)
    (policy : TradingRiskPolicy) : TradingDecision :=
  { policy with adapterEnabled := policy.adapterEnabled && config.adapterEnabled }.validate request
    account adapter.getPositions adapter.idempotencyKeys

/-- Construct a position; a symbol or a time out of its format raises. -/
def position (symbol : String) (quantity price : ℚ) (asOf : String) :
    Except String PositionSnapshot :=
  if symbolPattern symbol && isoUtc asOf then .ok ⟨symbol, quantity, price, quantity * price, asOf⟩
  else .error "ValueError"

/-- Simulate an order: note its key and write its position. -/
def simulateOrder (adapter : PaperTradingAdapter) (request : TradingRequest) :
    Except String TradingResult × PaperTradingAdapter :=
  if config.failSimulation then (.error "RuntimeError", adapter)
  else if config.adapterEnabled = false then
    let decision : TradingDecision :=
      ⟨request.requestId, .rejected, .simulateOrder, ["trading adapter is disabled"], false⟩
    (.ok (tradingResult request .rejected "paper adapter disabled" account adapter.getPositions
      decision), adapter)
  else
    let seen := request.idempotencyKey.toList.filter fun key => key ≠ "" ∧
      key ∉ adapter.idempotencyKeys
    let adapter := { adapter with idempotencyKeys := adapter.idempotencyKeys ++ seen }
    let decision : TradingDecision := ⟨request.requestId, .simulated, .simulateOrder, [], false⟩
    let done := fun adapter : PaperTradingAdapter => tradingResult request .simulated
      "paper simulation completed; no live order was placed" (some account) adapter.getPositions
      decision
    if (request.intent = .simulateBuy ∨ request.intent = .simulateSell) ∧ request.symbol ≠ "" then
      let current := ((adapter.positions.find? request.symbol).map (·.quantity)).getD 0
      match position request.symbol (quantityAfter current request) (request.limitPrice.getD 0)
        request.createdAt with
      | .error raised => (.error raised, adapter)
      | .ok next =>
        let adapter := { adapter with positions := adapter.positions.replace next }
        (.ok (done adapter), adapter)
    else (.ok (done adapter), adapter)

/-- Answer that a simulated order is cancelled. -/
def cancelSimulatedOrder (adapter : PaperTradingAdapter) (request : TradingRequest) :
    TradingResult :=
  tradingResult request .cancelled "simulated order cancelled; no live order was placed"
    (some account) adapter.getPositions
    ⟨request.requestId, .cancelled, .cancelSimulatedOrder, [], false⟩

end PaperTradingAdapter

/-- The trading tables: requests with distinct ids and distinct keys, and results. -/
structure TradingRepository where
  requests : Table TradingRequest.requestId
  /-- No two requests share a key. -/
  keysDistinct : (requests.rows.filterMap (·.idempotencyKey)).Nodup
  results : Table TradingResult.resultId

namespace TradingRepository

/-- A repository without rows. -/
def empty : TradingRepository := ⟨.empty, List.nodup_nil, .empty⟩

/-- A request that the unique index on the keys lets through. -/
def KeyFree (repository : TradingRepository) (request : TradingRequest) : Prop :=
  ∀ key ∈ request.idempotencyKey, key ∉ repository.requests.rows.filterMap (·.idempotencyKey)

instance (repository : TradingRepository) (request : TradingRequest) :
    Decidable (repository.KeyFree request) :=
  inferInstanceAs (Decidable (∀ key ∈ request.idempotencyKey, _))

/-- Keys stay distinct when a request with a free key is added. -/
theorem keysDistinct_append {repository : TradingRepository} {request : TradingRequest}
    (free : repository.KeyFree request) {grown : Table TradingRequest.requestId}
    (inserted : repository.requests.insert? request = some grown) :
    (grown.rows.filterMap (·.idempotencyKey)).Nodup := by
  rw [(Table.insert?_eq_some_iff.mp inserted).2, List.filterMap_append]
  refine List.nodup_append.mpr ⟨repository.keysDistinct, ?_, ?_⟩
  · cases key : request.idempotencyKey <;> simp [key]
  · intro key member other single same
    rw [same] at member
    simp only [List.filterMap_cons, List.filterMap_nil] at single
    split at single
    · cases single
    · rename_i own is
      obtain rfl := List.mem_singleton.mp single
      exact free other is member

/-- Store a request, unless its id or its key is taken. -/
def addRequest (repository : TradingRepository) (request : TradingRequest) :
    Option TradingRepository :=
  if free : repository.KeyFree request then
    match inserted : repository.requests.insert? request with
    | some grown =>
      some { repository with requests := grown, keysDistinct := keysDistinct_append free inserted }
    | none => none
  else none

/-- Store a result, replacing one with its id. -/
def addResult (repository : TradingRepository) (result : TradingResult) : TradingRepository :=
  { repository with results := repository.results.replace result }

end TradingRepository

/-- A trading service: its tables and its paper adapter. -/
structure TradingState where
  repository : TradingRepository
  adapter : PaperTradingAdapter

namespace TradingExecutionService

variable (config : PaperTradingConfig) (policy : TradingRiskPolicy)

/-- What a validated request comes to. -/
def perform (adapter : PaperTradingAdapter) (request : TradingRequest)
    (decision : TradingDecision) : Except String TradingResult × PaperTradingAdapter :=
  if decision.status = .rejected then
    let status := if decision.action = .blockLiveExecution then .blocked else .rejected
    (.ok (tradingResult request status ("; ".intercalate decision.reasons)
      (some PaperTradingAdapter.account) adapter.getPositions decision), adapter)
  else if request.intent = .analyze then
    (.ok (tradingResult request .validated
      "paper account inspected; no live account access performed"
      (some PaperTradingAdapter.account) adapter.getPositions decision), adapter)
  else if request.intent = .cancelSimulatedOrder then
    (.ok (adapter.cancelSimulatedOrder request), adapter)
  else adapter.simulateOrder config request

/-- Execute a request: refuse a duplicate, or validate and perform it; the result is stored. -/
def execute (state : TradingState) (request : TradingRequest) : TradingResult × TradingState :=
  match state.repository.addRequest request with
  | none =>
    let decision : TradingDecision :=
      ⟨request.requestId, .rejected, actionForIntent request.intent, ["duplicate trading request"],
        false⟩
    let result := tradingResult request .rejected "duplicate trading request rejected"
      (some PaperTradingAdapter.account) state.adapter.getPositions decision
    (result, { state with repository := state.repository.addResult result })
  | some repository =>
    match perform config state.adapter request
      (state.adapter.validateRequest config request policy) with
    | (.ok result, adapter) => (result, ⟨repository.addResult result, adapter⟩)
    | (.error raised, adapter) =>
      let decision : TradingDecision :=
        ⟨request.requestId, .failed, actionForIntent request.intent, [raised], false⟩
      let result := tradingResult request .failed "paper trading failed safely" none [] decision
      (result, ⟨repository.addResult result, adapter⟩)

end TradingExecutionService

/-- A trading service as a machine. -/
def tradingMachine (config : PaperTradingConfig) (policy : TradingRiskPolicy) :
    Machine TradingState TradingRequest TradingResult :=
  ⟨TradingExecutionService.execute config policy⟩

end StrategyLab
