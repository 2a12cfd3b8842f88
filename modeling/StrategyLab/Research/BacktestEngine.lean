import StrategyLab.Research.BacktestRules
import StrategyLab.Lib.Loop
import StrategyLab.Lib.Sorted
import Mathlib.Data.String.Basic

/-! The rule-based backtest engine: one pass over the bars of a symbol with a single position. -/

namespace StrategyLab

/-- Why a position was closed. -/
inductive ExitReason where
  | protectiveStop
  | channelLowExit
  | endOfDataset
  deriving DecidableEq, Repr

/-- A closed position with its exact fills, before they are rounded for the record. -/
structure ClosedPosition where
  symbol : String
  entryDate : String
  exitDate : String
  entryPrice : ℚ
  exitPrice : ℚ
  quantity : Int
  returnPct : ℚ
  exitReason : ExitReason
  deriving DecidableEq

/-- What a closed position gained or lost. -/
def ClosedPosition.pnl (position : ClosedPosition) : ℚ :=
  (position.exitPrice - position.entryPrice) * position.quantity

/-- The record of a closed position. -/
structure RealBacktestTrade where
  tradeId : String
  symbol : String
  entryDate : String
  exitDate : String
  entryPrice : ℚ
  exitPrice : ℚ
  quantity : Int
  pnl : ℚ
  returnPct : ℚ
  exitReason : ExitReason
  deriving DecidableEq

/-- The value of the account on one bar. -/
structure EquityPoint where
  timestamp : String
  equity : ℚ
  deriving DecidableEq

/-- Round the fills of a closed position for the record, whose number starts at one. -/
def ClosedPosition.record (runId : String) (position : ClosedPosition) (index : Nat) :
    RealBacktestTrade :=
  { tradeId := s!"trade:{runId}:{index + 1}", symbol := position.symbol,
    entryDate := position.entryDate, exitDate := position.exitDate,
    entryPrice := Py.round 4 position.entryPrice, exitPrice := Py.round 4 position.exitPrice,
    quantity := position.quantity, pnl := Py.round 4 position.pnl,
    returnPct := Py.round 6 position.returnPct, exitReason := position.exitReason }

/-- Divide, or raise. -/
def divide (left right : ℚ) : Except BacktestError ℚ :=
  if right = 0 then .error .zeroDivision else .ok (left / right)

/-- The variables of the simulation; the trades are kept exact and rounded at the end. -/
structure SimulationState where
  cash : ℚ
  quantity : Int
  entryPrice : ℚ
  entryDate : String
  entryIndex : Int
  closed : List ClosedPosition
  equityCurve : List EquityPoint
  investedDays : Nat

/-- The simulation before the first bar. -/
def SimulationState.start (initialCapital : ℚ) : SimulationState :=
  { cash := initialCapital, quantity := 0, entryPrice := 0, entryDate := "", entryIndex := -1,
    closed := [], equityCurve := [], investedDays := 0 }

/-- What stays the same during a simulation: the bars and what was read from the strategy. -/
structure SimulationInput where
  strategy : CanonicalStrategySpec
  bars : List MarketBar
  peers : List (List MarketBar)
  costRate : ℚ
  entryTrigger : CanonicalStrategySpec → BarEvalContext → Except BacktestError Bool
  entryLookback : Int
  exitLookback : Int
  stopPct : ℚ
  rsActive : Bool
  rsLookback : Int
  regimeActive : Bool
  regimeLookback : Int

namespace SimulationInput

/-- How many bars have to lie before the first decision. -/
def warmup (input : SimulationInput) : Int :=
  max 60 (max input.entryLookback
    (max input.exitLookback (max input.rsLookback input.regimeLookback)))

end SimulationInput

/-- The return of one peer over the lookback, if its series is long enough. -/
def peerReturn (lookback : Int) (series : List ℚ) : Option ℚ :=
  if (series.length : Int) < lookback + 1 then none
  else
    let base := (Py.lastSlice (lookback + 1) series).headD 0
    if base ≤ 0 then none else some (series.getLastD 0 / base - 1)

/-- The return of the symbol over the lookback less the mean return of its peers. -/
def benchmarkRelativeStrength (closeNow : ℚ) (primaryPriorCloses : List ℚ)
    (peerCloseSeries : List (List ℚ)) (lookback : Int) : Option ℚ :=
  if lookback ≤ 0 ∨ (primaryPriorCloses.length : Int) < lookback then none
  else
    let primaryBase := (Py.lastSlice lookback primaryPriorCloses).headD 0
    if primaryBase ≤ 0 then none
    else
      let primaryReturn := closeNow / primaryBase - 1
      let peerReturns := peerCloseSeries.filterMap (peerReturn lookback)
      if peerReturns = [] then none
      else some (primaryReturn - peerReturns.sum / peerReturns.length)

/-- The regime of the symbol from its average and its past level over the lookback. -/
def classifyMarketRegime (closeNow : ℚ) (regimePriorCloses : List ℚ) (lookback : Int) :
    Option MarketRegime :=
  if lookback ≤ 0 ∨ (regimePriorCloses.length : Int) < lookback then none
  else
    let window := Py.lastSlice lookback regimePriorCloses
    let sma := window.sum / lookback
    let past := window.headD 0
    let aboveMa : Bool := sma < closeNow
    let rising : Bool := past < closeNow
    if aboveMa && rising then some .bull
    else if !aboveMa && !rising then some .bear
    else some .neutral

/-- What is computed from the prior bars before a decision. -/
structure PriorWindow where
  prior : List MarketBar
  priorHigh : ℚ
  ma20 : ℚ
  ma60 : ℚ
  volumeMa20 : ℚ
  priorLow : ℚ

namespace SimulationInput

/-- Look at the bars before an index; an empty window has no highest or lowest price. -/
def window (input : SimulationInput) (index : Nat) : Except BacktestError PriorWindow := do
  let prior := input.bars.take index
  let priorHigh ← BacktestError.valueError.orRaise
    ((Py.lastSlice input.entryLookback prior).map (·.high)).max?
  let ma20 := ((Py.lastSlice 20 prior).map (·.close)).sum / 20
  let ma60 := ((Py.lastSlice 60 prior).map (·.close)).sum / 60
  let volumeMa20 := ((Py.lastSlice 20 prior).map fun item => (item.volume : ℚ)).sum / 20
  let priorLow ← BacktestError.valueError.orRaise
    ((Py.lastSlice input.exitLookback prior).map (·.low)).min?
  return { prior, priorHigh, ma20, ma60, volumeMa20, priorLow }

/-- The strength of the symbol against its peers up to the bar, when the rule is active. -/
def relativeStrength (input : SimulationInput) (prior : List MarketBar) (bar : MarketBar) :
    Option ℚ :=
  if input.rsActive then
    benchmarkRelativeStrength bar.close
      ((Py.lastSlice input.rsLookback prior).map (·.close))
      (input.peers.map fun peerBars =>
        (peerBars.filter (·.timestamp ≤ bar.timestamp)).map (·.close))
      input.rsLookback
  else none

/-- The regime of the symbol before the bar, when the rule is active. -/
def marketRegime (input : SimulationInput) (prior : List MarketBar) (bar : MarketBar) :
    Option MarketRegime :=
  if input.regimeActive then
    classifyMarketRegime bar.close ((Py.lastSlice input.regimeLookback prior).map (·.close))
      input.regimeLookback
  else none

/-- What the rules are shown on a bar. -/
def context (input : SimulationInput) (window : PriorWindow) (bar : MarketBar) :
    BarEvalContext :=
  let recent := Py.lastSlice input.entryLookback window.prior
  { close := bar.close, ma20 := window.ma20, ma60 := window.ma60, volume := bar.volume,
    volumeMa20 := window.volumeMa20, priorHigh := window.priorHigh, priorLow := window.priorLow,
    priorCloses := recent.map (·.close), priorHighs := recent.map (·.high),
    priorLows := recent.map (·.low),
    relativeStrength := input.relativeStrength window.prior bar,
    marketRegime := input.marketRegime window.prior bar }

/-- All predicate rules of a component allow an entry. -/
def predicatesAllow (numerals : Py.Numerals) (input : SimulationInput) (component : RuleComponent)
    (ctx : BarEvalContext) : Bool :=
  (backtestRuleDefinitions numerals).all fun definition =>
    match definition.handler with
    | .predicate allows => definition.component ≠ component ||
      allows (predicateRuleActive (input.strategy.rules component) definition.key) ctx
    | _ => true

/-- The bar opens a position: its trigger fires and no predicate rule blocks it. -/
def entryAllowed (numerals : Py.Numerals) (input : SimulationInput) (ctx : BarEvalContext) :
    Except BacktestError Bool := do
  let triggered ← input.entryTrigger input.strategy ctx
  return triggered && predicatesAllow numerals input .entry ctx &&
    predicatesAllow numerals input .filter ctx

/-- Why an open position is closed on a bar, if it is. -/
def exitReason (input : SimulationInput) (index : Nat) (bar : MarketBar) (entryPrice priorLow : ℚ) :
    Option ExitReason :=
  if bar.close ≤ entryPrice * (1 - input.stopPct) then some .protectiveStop
  else if bar.close < priorLow then some .channelLowExit
  else if index + 1 = input.bars.length then some .endOfDataset
  else none

end SimulationInput

namespace SimulationState

/-- Mark the account to the close of a bar. -/
def mark (state : SimulationState) (bar : MarketBar) : SimulationState :=
  { state with
    investedDays := if state.quantity ≠ 0 then state.investedDays + 1 else state.investedDays
    equityCurve := state.equityCurve ++
      [⟨bar.timestamp, Py.round 4 (state.cash + state.quantity * bar.close)⟩] }

/-- Buy as much as the cash allows at the close, with costs on top. -/
def enter (state : SimulationState) (costRate : ℚ) (index : Nat) (bar : MarketBar) :
    Except BacktestError SimulationState := do
  let fill := bar.close * (1 + costRate)
  let quantity := (← divide state.cash fill).floor
  if 0 < quantity then
    return { state with
      quantity, entryPrice := fill, entryDate := bar.timestamp, entryIndex := index,
      cash := state.cash - quantity * fill }
  else return { state with quantity }

/-- Sell the whole position at the close, less costs. -/
def leave (state : SimulationState) (costRate : ℚ) (bar : MarketBar) (exitReason : ExitReason) :
    Except BacktestError SimulationState := do
  let fill := bar.close * (1 - costRate)
  let returnPct ← divide (fill - state.entryPrice) state.entryPrice
  return { state with
    cash := state.cash + state.quantity * fill
    closed := state.closed ++ [{
      symbol := bar.symbol, entryDate := state.entryDate, exitDate := bar.timestamp,
      entryPrice := state.entryPrice, exitPrice := fill, quantity := state.quantity, returnPct,
      exitReason }]
    quantity := 0, entryPrice := 0, entryDate := "", entryIndex := -1 }

end SimulationState

/-- One bar: mark the account, then decide on an entry or an exit at the close. -/
def stepBar (numerals : Py.Numerals) (input : SimulationInput) (index : Nat) (bar : MarketBar)
    (state : SimulationState) : Except BacktestError SimulationState := do
  let state := state.mark bar
  if (index : Int) < input.warmup then return state
  let window ← input.window index
  if state.quantity = 0 then
    if ← input.entryAllowed numerals (input.context window bar) then
      state.enter input.costRate index bar
    else return state
  else
    match input.exitReason index bar state.entryPrice window.priorLow with
    | some reason => state.leave input.costRate bar reason
    | none => return state

/-- The body of the loop over the bars. -/
def loopBody (numerals : Py.Numerals) (input : SimulationInput) (index : Nat)
    (state : SimulationState) : Except BacktestError SimulationState :=
  match input.bars[index]? with
  | some bar => stepBar numerals input index bar state
  | none => .ok state

/-- The simulation after the first bars. -/
def simulateUpTo (numerals : Py.Numerals) (input : SimulationInput) (initialCapital : ℚ)
    (count : Nat) : Except BacktestError SimulationState :=
  Loop.upTo (loopBody numerals input) (.start initialCapital) count

/-- After the last bar a position that is still open is closed, and the last equity is updated. -/
def closeOut (input : SimulationInput) (state : SimulationState) :
    Except BacktestError SimulationState :=
  match input.bars.getLast? with
  | none => .ok state
  | some last =>
    if state.quantity = 0 then .ok state
    else do
      let state ← state.leave input.costRate last .endOfDataset
      return { state with
        equityCurve := state.equityCurve.dropLast ++ [⟨last.timestamp, Py.round 4 state.cash⟩] }

/-- The simulation over all bars. -/
def simulate (numerals : Py.Numerals) (input : SimulationInput) (initialCapital : ℚ) :
    Except BacktestError SimulationState :=
  simulateUpTo numerals input initialCapital input.bars.length >>= closeOut input

/-- A profit factor, which is infinite without losses. -/
inductive ProfitFactor where
  | finite (value : ℚ)
  | infinite
  deriving DecidableEq

/-- The metrics of a run that exact arithmetic can give. -/
structure RealPerformanceMetrics where
  totalReturn : ℚ
  mdd : ℚ
  winRate : Option ℚ
  profitFactor : Option ProfitFactor
  tradeCount : Nat
  averageTrade : Option ℚ
  averageWin : Option ℚ
  averageLoss : Option ℚ
  payoffRatio : Option ℚ
  exposure : ℚ
  endingEquity : ℚ
  expectancy : Option ℚ
  longestLosingStreak : Nat
  deriving DecidableEq

/-- The largest fall of the equity below its highest value so far. -/
def maxDrawdown (equities : List ℚ) : ℚ :=
  let track := fun (peakAndWorst : ℚ × ℚ) (equity : ℚ) =>
    let peak := max peakAndWorst.1 equity
    (peak, if peak = 0 then peakAndWorst.2 else min peakAndWorst.2 (equity / peak - 1))
  |(equities.foldl track (equities.headD 0, 0)).2|

/-- The largest number of losing trades in a row. -/
def longestLosingStreak (trades : List RealBacktestTrade) : Nat :=
  let track := fun (longestAndCurrent : Nat × Nat) (trade : RealBacktestTrade) =>
    if trade.pnl < 0 then
      (max longestAndCurrent.1 (longestAndCurrent.2 + 1), longestAndCurrent.2 + 1)
    else (longestAndCurrent.1, 0)
  (trades.foldl track (0, 0)).1

/-- The mean of some amounts, if there are any. -/
def meanOf (amounts : List ℚ) : Option ℚ :=
  if amounts = [] then none else some (amounts.sum / amounts.length)

/-- The metrics of an equity curve and its trades. -/
def PerformanceMetricsCalculator.calculate (equityCurve : List EquityPoint)
    (trades : List RealBacktestTrade) (initialCapital : ℚ) (investedDays totalDays : Nat) :
    RealPerformanceMetrics :=
  let ending := match equityCurve.getLast? with
    | some point => point.equity
    | none => initialCapital
  let totalReturn := if initialCapital ≠ 0 then ending / initialCapital - 1 else 0
  let wins := (trades.map (·.pnl)).filter (0 < ·)
  let losses := (trades.map (·.pnl)).filter (· < 0)
  let winRate : Option ℚ :=
    if trades = [] then none else some ((wins.length : ℚ) / trades.length)
  let profitFactor :=
    if losses ≠ [] then some (.finite (Py.round 6 (wins.sum / |losses.sum|)))
    else if wins = [] then none
    else some .infinite
  let payoff := match meanOf wins, meanOf losses with
    | some averageWin, some averageLoss =>
      if averageLoss = 0 then none else some |averageWin / averageLoss|
    | _, _ => none
  let expectancy : Option ℚ :=
    if trades = [] then none
    else some (winRate.getD 0 * (meanOf wins).getD 0 +
      (1 - winRate.getD 0) * (meanOf losses).getD 0)
  { totalReturn := Py.round 6 totalReturn
    mdd := Py.round 6 (maxDrawdown (equityCurve.map (·.equity)))
    winRate := winRate.map (Py.round 6)
    profitFactor
    tradeCount := trades.length
    averageTrade := (meanOf (trades.map (·.pnl))).map (Py.round 6)
    averageWin := (meanOf wins).map (Py.round 6)
    averageLoss := (meanOf losses).map (Py.round 6)
    payoffRatio := payoff.map (Py.round 6)
    exposure := Py.round 6 ((investedDays : ℚ) / max 1 totalDays)
    endingEquity := Py.round 4 ending
    expectancy := expectancy.map (Py.round 6)
    longestLosingStreak := longestLosingStreak trades }

/-- Whether a run was carried out. -/
inductive BacktestStatus where
  | rejected
  | completed
  deriving DecidableEq, Repr

/-- What a run returns. -/
structure RealBacktestResult where
  runId : String
  status : BacktestStatus
  source : MarketDataAvailability
  datasetId : String
  strategy : CanonicalStrategySpec
  metrics : RealPerformanceMetrics
  trades : List RealBacktestTrade
  equityCurve : List EquityPoint
  warnings : List String

namespace RuleBasedBacktestEngine

variable (numerals : Py.Numerals)

/-- Bars in the order of their timestamps. -/
def sortedBars (bars : List MarketBar) : List MarketBar := Py.sortedBy MarketBar.timestamp bars

/-- The symbols of a dataset, each once. -/
def distinctSymbols (dataset : MarketDataset) : List String :=
  (dataset.bars.map (·.symbol)).dedup

/-- The bars that are traded: those of the traded symbol, unless there is only one symbol. -/
def tradedBars (strategy : CanonicalStrategySpec) (dataset : MarketDataset) : List MarketBar :=
  if (distinctSymbols dataset).length ≤ 1 then sortedBars dataset.bars
  else sortedBars (dataset.bars.filter (·.symbol = strategy.symbol))

/-- The bars of every other symbol, for the benchmark. -/
def peerBars (strategy : CanonicalStrategySpec) (dataset : MarketDataset) :
    List (List MarketBar) :=
  if (distinctSymbols dataset).length ≤ 1 then []
  else ((distinctSymbols dataset).filter (· ≠ strategy.symbol)).map fun symbol =>
    sortedBars (dataset.bars.filter (·.symbol = symbol))

/-- The result of a run that was not carried out. -/
def emptyResult (runId : String) (strategy : CanonicalStrategySpec) (dataset : MarketDataset)
    (assumptions : BacktestExecutionAssumptionSet) (warning : String) :
    Except BacktestError RealBacktestResult := do
  let initialCapital ← assumptions.initialCapital.toFloat numerals
  let metrics : RealPerformanceMetrics :=
    { totalReturn := 0, mdd := 0, winRate := none, profitFactor := none, tradeCount := 0,
      averageTrade := none, averageWin := none, averageLoss := none, payoffRatio := none,
      exposure := 0, endingEquity := initialCapital, expectancy := none,
      longestLosingStreak := 0 }
  return { runId, status := .rejected, source := dataset.source, datasetId := dataset.datasetId,
           strategy, metrics, trades := [], equityCurve := [], warnings := [warning] }

/-- The costs of a trade, as a fraction of its price. -/
def costRate (assumptions : BacktestExecutionAssumptionSet) : Except BacktestError ℚ := do
  let commission ← assumptions.commission.toFloat numerals
  let tax ← assumptions.tax.toFloat numerals
  let slippage ← assumptions.slippage.toFloat numerals
  return commission + tax + slippage

/-- The one entry trigger of a strategy and its lookback. -/
def entryTriggerOf (strategy : CanonicalStrategySpec) :
    Except BacktestError ((CanonicalStrategySpec → BarEvalContext → Except BacktestError Bool) ×
      Int) :=
  let present := (backtestRuleDefinitions numerals).filterMap fun definition =>
    match definition.handler with
    | .entryTrigger opens lookback =>
      if definition.key ∈ strategy.entry.keys then some (opens, lookback) else none
    | _ => none
  match present with
  | (opens, lookback) :: _ => do return (opens, ← lookback strategy)
  | [] => .error (.unsupportedStrategyRule [("entry", "entry_trigger_group")])

/-- A lookback that is only read when its rule is active. -/
def lookbackWhen (active : Bool) (read : CanonicalStrategySpec → Except BacktestError Int)
    (strategy : CanonicalStrategySpec) : Except BacktestError Int :=
  if active then read strategy else .ok 0

/-- Read from the strategy and the assumptions what the simulation needs. -/
def prepare (strategy : CanonicalStrategySpec) (assumptions : BacktestExecutionAssumptionSet)
    (bars : List MarketBar) (peers : List (List MarketBar)) :
    Except BacktestError SimulationInput := do
  let costRate ← costRate numerals assumptions
  let (entryTrigger, entryLookback) ← entryTriggerOf numerals strategy
  let exitLookback ← paramChannelExitLookback numerals strategy
  let stopPct ← paramProtectiveStopPct numerals strategy
  let rsActive := predicateRuleActive strategy.filters "relative_strength_min"
  let rsLookback ← lookbackWhen rsActive (paramRelativeStrengthLookback numerals) strategy
  let regimeActive := predicateRuleActive strategy.filters "regime_bullish_only"
  let regimeLookback ← lookbackWhen regimeActive (paramRegimeMaLookback numerals) strategy
  return { strategy, bars, peers, costRate, entryTrigger, entryLookback, exitLookback, stopPct,
           rsActive, rsLookback, regimeActive, regimeLookback }

/-- The result of a finished simulation. -/
def completedResult (runId : String) (dataset : MarketDataset) (input : SimulationInput)
    (initialCapital : ℚ) (final : SimulationState) : RealBacktestResult :=
  let trades := final.closed.mapIdx fun index position => position.record runId index
  { runId, status := .completed, source := dataset.source, datasetId := dataset.datasetId,
    strategy := input.strategy,
    metrics := PerformanceMetricsCalculator.calculate final.equityCurve trades initialCapital
      final.investedDays input.bars.length,
    trades, equityCurve := final.equityCurve,
    warnings := [if dataset.fixtureBacked then "fixture source disclosed; not real KRX data"
      else "real public data source; verify freshness before decisions"] }

/-- Run a strategy on a dataset. -/
def run (runId : String) (strategy : CanonicalStrategySpec) (dataset : MarketDataset)
    (assumptions : BacktestExecutionAssumptionSet) : Except BacktestError RealBacktestResult := do
  RuleBasedBacktestCapabilities.validate numerals strategy
  let bars := tradedBars strategy dataset
  if 1 < (distinctSymbols dataset).length ∧ bars = [] then
    emptyResult numerals runId strategy dataset assumptions
      s!"traded symbol '{strategy.symbol}' absent from multi-symbol dataset"
  else if bars.length < 61 then
    emptyResult numerals runId strategy dataset assumptions
      "insufficient bars for MA60 and breakout lookback"
  else do
    let initialCapital ← assumptions.initialCapital.toFloat numerals
    let input ← prepare numerals strategy assumptions bars (peerBars strategy dataset)
    let final ← simulate numerals input initialCapital
    return completedResult runId dataset input initialCapital final

end RuleBasedBacktestEngine

end StrategyLab
