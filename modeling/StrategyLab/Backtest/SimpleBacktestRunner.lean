import StrategyLab.Lib.Python
import StrategyLab.Lib.Sorted
import StrategyLab.Lib.Table
import Mathlib.Data.Prod.Lex
import Mathlib.Data.String.Basic

/-! The deterministic runner: signals in order, a fixed quantity each, executed at the close. -/

namespace StrategyLab.Backtest

/-- Canonical strategy signal types. -/
inductive SignalType where
  | buy
  | sell
  | hold
  deriving DecidableEq, Repr

/-- The text a signal type is written as. -/
def SignalType.value : SignalType → String
  | .buy => "buy"
  | .sell => "sell"
  | .hold => "hold"

/-- The output of a strategy at an instant, which is counted in microseconds. -/
structure Signal where
  symbol : String
  timestamp : Int
  signalType : SignalType
  reason : String
  deriving DecidableEq, Repr

/-- The bar of a symbol at an instant, which has to name the symbol. -/
structure MarketBar where
  symbol : String
  timestamp : Int
  close : ℚ
  named : symbol ≠ ""
  deriving DecidableEq

/-- Backtest assumptions used by the runner. -/
structure BacktestConfig where
  initialCapital : ℚ
  transactionCostRate : ℚ
  slippageRate : ℚ
  quantityPerSignal : Int
  capital_pos : 0 < initialCapital
  cost_nonneg : 0 ≤ transactionCostRate
  slippage_nonneg : 0 ≤ slippageRate
  quantity_pos : 0 < quantityPerSignal

/-- Canonical trade sides. -/
inductive TradeSide where
  | buy
  | sell
  deriving DecidableEq, Repr

/-- A trade that was executed. -/
structure TradeRecord where
  timestamp : Int
  symbol : String
  side : TradeSide
  price : ℚ
  quantity : Int
  fees : ℚ
  slippage : ℚ
  reason : String
  deriving DecidableEq

/-- A snapshot of the equity of the portfolio. -/
structure EquityCurvePoint where
  timestamp : Int
  cash : ℚ
  holdingsValue : ℚ
  totalEquity : ℚ
  drawdown : ℚ
  deriving DecidableEq

/-- How many units of a symbol are held. -/
structure Holding where
  symbol : String
  quantity : Int
  deriving DecidableEq

/-- The units held of each symbol. -/
abbrev Holdings := Table Holding.symbol

/-- The units held of one symbol, none if it was never bought. -/
def Holdings.get (holdings : Holdings) (symbol : String) : Int :=
  ((holdings.find? symbol).map (·.quantity)).getD 0

/-- Change the units held of one symbol. -/
def Holdings.add (holdings : Holdings) (symbol : String) (quantity : Int) : Holdings :=
  holdings.replace ⟨symbol, holdings.get symbol + quantity⟩

/-- The bar under a symbol and an instant; of several the last one listed. -/
def barAt (bars : List MarketBar) (symbol : String) (timestamp : Int) : Option MarketBar :=
  (bars.filter fun bar => bar.symbol = symbol ∧ bar.timestamp = timestamp).getLast?

/-- The value of some holdings in the bars of one instant; a symbol without a bar counts nothing. -/
def holdingsValue (holdings : Holdings) (bars : List MarketBar) (timestamp : Int) : ℚ :=
  (holdings.rows.map fun row =>
    match barAt bars row.symbol timestamp with
    | some bar => bar.close * row.quantity
    | none => 0).sum

/-- What a trade takes out of the cash when it buys. -/
def TradeRecord.cost (trade : TradeRecord) : ℚ :=
  trade.price * trade.quantity + trade.fees + trade.slippage

/-- What a trade brings into the cash when it sells. -/
def TradeRecord.proceeds (trade : TradeRecord) : ℚ :=
  trade.price * trade.quantity - trade.fees - trade.slippage

/-- The variables of a run. -/
structure Portfolio where
  cash : ℚ
  holdings : Holdings
  trades : List TradeRecord
  equityCurve : List EquityCurvePoint
  maxEquity : ℚ

/-- The portfolio before the first signal. -/
def Portfolio.start (config : BacktestConfig) : Portfolio :=
  { cash := config.initialCapital, holdings := .empty, trades := [], equityCurve := [],
    maxEquity := config.initialCapital }

namespace SimpleBacktestRunner

/-- What a number of units cost at a close before anything is rounded. -/
def totalCost (config : BacktestConfig) (close : ℚ) : ℚ :=
  let price := close * (1 + config.slippageRate)
  let quantity := config.quantityPerSignal
  let fees := price * quantity * config.transactionCostRate
  let slippage := close * quantity * config.slippageRate
  price * quantity + fees + slippage

/-- The runner rounds what it records by this function, which keeps six digits. -/
def sixDigits : ℚ → ℚ := Py.round 6

section

variable (rounded : ℚ → ℚ) (bars : List MarketBar) (config : BacktestConfig)

/-- The record of a trade at a price, with the costs of its quantity. -/
def tradeRecord (signal : Signal) (side : TradeSide) (close price : ℚ) (quantity : Int) :
    TradeRecord :=
  { timestamp := signal.timestamp, symbol := signal.symbol, side, price := rounded price, quantity,
    fees := rounded (price * quantity * config.transactionCostRate),
    slippage := rounded (close * quantity * config.slippageRate), reason := signal.reason }

/-- Buy the fixed quantity if the cash covers its total cost. -/
def buy (signal : Signal) (close cash : ℚ) : Option TradeRecord :=
  if cash < totalCost config close then none
  else some (tradeRecord rounded config signal .buy close (close * (1 + config.slippageRate))
    config.quantityPerSignal)

/-- Sell the fixed quantity, or what is held if that is less. -/
def sell (signal : Signal) (close : ℚ) (held : Int) : TradeRecord :=
  tradeRecord rounded config signal .sell close (close * (1 - config.slippageRate))
    (min config.quantityPerSignal held)

/-- Carry out a signal at the close of its bar. -/
def execute (signal : Signal) (close : ℚ) (portfolio : Portfolio) : Portfolio :=
  match signal.signalType with
  | .buy =>
    match buy rounded config signal close portfolio.cash with
    | some trade => { portfolio with
        cash := portfolio.cash - trade.cost
        holdings := portfolio.holdings.add signal.symbol trade.quantity
        trades := portfolio.trades ++ [trade] }
    | none => portfolio
  | .sell =>
    if 0 < portfolio.holdings.get signal.symbol then
      let trade := sell rounded config signal close (portfolio.holdings.get signal.symbol)
      { portfolio with
        cash := portfolio.cash + trade.proceeds
        holdings := portfolio.holdings.add signal.symbol (-trade.quantity)
        trades := portfolio.trades ++ [trade] }
    else portfolio
  | .hold => portfolio

/-- Append the equity at an instant to the curve. -/
def mark (timestamp : Int) (portfolio : Portfolio) : Portfolio :=
  let value := holdingsValue portfolio.holdings bars timestamp
  let total := portfolio.cash + value
  let highest := max portfolio.maxEquity total
  let drawdown := if highest = 0 then 0 else (total - highest) / highest
  { portfolio with
    maxEquity := highest
    equityCurve := portfolio.equityCurve ++ [{
      timestamp, cash := rounded portfolio.cash, holdingsValue := rounded value,
      totalEquity := rounded total, drawdown := rounded drawdown }] }

/-- Process one signal; without a bar it is passed over. -/
def process (portfolio : Portfolio) (signal : Signal) : Portfolio :=
  match barAt bars signal.symbol signal.timestamp with
  | some bar => mark rounded bars signal.timestamp (execute rounded config signal bar.close portfolio)
  | none => portfolio

end

/-- The order in which signals are processed. -/
def ordered (signals : List Signal) : List Signal :=
  Py.sortedBy (fun signal => toLex (signal.timestamp, toLex (signal.symbol, signal.signalType.value)))
    signals

/-- The portfolio after some signals in their order. -/
def processAll (rounded : ℚ → ℚ) (bars : List MarketBar) (config : BacktestConfig)
    (signals : List Signal) : Portfolio :=
  signals.foldl (process rounded bars config) (.start config)

/-- The portfolio at the end of a run. -/
def run (rounded : ℚ → ℚ) (bars : List MarketBar) (signals : List Signal)
    (config : BacktestConfig) : Portfolio :=
  processAll rounded bars config (ordered signals)

end SimpleBacktestRunner

end StrategyLab.Backtest
