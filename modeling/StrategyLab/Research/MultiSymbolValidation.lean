import StrategyLab.Research.BacktestEngine
import Mathlib.Data.Prod.Lex

/-! Datasets of a symbol and its peers on their shared timeline, and the walk-forward split. -/

namespace StrategyLab

/-- How many bars of the primary symbol the test window shares with the train window. -/
def warmupBars : Nat := 60

/-- The fewest bars of the primary symbol in a train window. -/
def minTrainBars : Nat := 70

/-- The fewest bars that the primary symbol and every peer have to share. -/
def minAlignedBars : Nat := 140

/-- Texts in ascending order, each once. -/
def sortedSet (texts : List String) : List String := Py.sortedBy id texts.dedup

/-- The timestamps of one symbol among some bars. -/
def timestampsOf (bars : List MarketBar) (symbol : String) : List String :=
  sortedSet ((bars.filter (·.symbol = symbol)).map (·.timestamp))

/-- A primary symbol, its peers, and the timeline that all of them cover. -/
structure MultiSymbolValidationContext where
  primarySymbol : String
  peerSymbols : List String
  primaryTimestamps : List String

/-- Every peer of a dataset has a bar wherever the primary symbol has one. -/
def MultiSymbolValidationContext.fromDataset (dataset : MarketDataset) (primarySymbol : String) :
    Except String MultiSymbolValidationContext := do
  let symbols := sortedSet (dataset.bars.map (·.symbol))
  Raise.ensure (primarySymbol ∈ symbols)
    s!"primary symbol '{primarySymbol}' is absent from the dataset"
  let peers := symbols.filter (· ≠ primarySymbol)
  Raise.ensure (peers ≠ [])
    "relative-strength validation needs at least one real peer symbol"
  let primaryTimestamps := timestampsOf dataset.bars primarySymbol
  peers.forM fun peer =>
    let missing := primaryTimestamps.filter (· ∉ timestampsOf dataset.bars peer)
    Raise.ensure (missing = [])
      (s!"peer '{peer}' does not cover {missing.length} of the primary's " ++
        s!"{primaryTimestamps.length} bars - no backfill / interpolation; fail closed")
  return { primarySymbol, peerSymbols := peers, primaryTimestamps }

/-- Bars of which at most one stands under a symbol and a timestamp. -/
abbrev BarTable := Table fun bar : MarketBar => (bar.symbol, bar.timestamp)

/-- One bar for each symbol and timestamp: the last of the primary, the first of a peer. -/
def alignedBars (primaryBars peerBars : List MarketBar) : BarTable :=
  peerBars.foldl (fun bars bar => (bars.insert? bar).getD bars)
    (primaryBars.foldl Table.replace .empty)

/-- The bars of a symbol and of its peers at the timestamps that all of them share. -/
def buildRelativeStrengthValidationDataset (primary : MarketDataset) (peers : List MarketDataset)
    (primarySymbol : String) (minAligned : Nat) : Except String MarketDataset := do
  let primaryBars := primary.bars.filter (·.symbol = primarySymbol)
  Raise.ensure (primaryBars ≠ [])
    s!"primary symbol '{primarySymbol}' has no bars in the primary dataset"
  Raise.ensure (peers ≠ [])
    "relative-strength validation needs at least one real peer dataset"
  let primaryTimestamps := timestampsOf primaryBars primarySymbol
  let peerBars := (peers.flatMap (·.bars)).filter (·.symbol ≠ primarySymbol)
  let peerSymbols := sortedSet (peerBars.map (·.symbol))
  Raise.ensure (peerSymbols ≠ [])
    "no peer symbol distinct from the primary in the supplied peer datasets"
  let common := primaryTimestamps.filter fun timestamp =>
    peerSymbols.all fun peer => timestamp ∈ timestampsOf peerBars peer
  Raise.ensure (minAligned ≤ common.length)
    (s!"only {common.length} closed bars are shared by the primary and every peer " ++
      s!"(need >= {minAligned}); no forward-fill / fabrication")
  -- Nine tenths of the primary timeline, rounded down.
  Raise.ensure (primaryTimestamps.length * 9 / 10 ≤ common.length)
    (s!"the shared timestamp grid ({common.length}) covers under 90% of the primary timeline " ++
      s!"({primaryTimestamps.length}) - a peer does not span the validation window; fail closed")
  let shared := fun bars : List MarketBar => bars.filter (·.timestamp ∈ common)
  let bars := Py.sortedBy (fun bar => toLex (bar.timestamp, bar.symbol))
    (alignedBars (shared primaryBars) (shared peerBars)).rows
  let combined := { primary with datasetId := s!"{primary.datasetId}:rs-multi-symbol", bars }
  let _ ← MultiSymbolValidationContext.fromDataset combined primarySymbol
  return combined

/-- The timeline that a split is made on: that of the primary symbol, if it has bars. -/
def splitTimeline (bars : List MarketBar) (primarySymbol : String) : List String :=
  match timestampsOf bars primarySymbol with
  | [] => sortedSet (bars.map (·.timestamp))
  | timestamps => timestamps

/-- How many timestamps of a timeline the train window takes. -/
def splitIndex (count : Nat) : Nat := min count (max minTrainBars (count * 13 / 20))

/-- Cut every symbol at one timestamp of the primary symbol; the test window starts earlier. -/
def walkForwardTimestampSplit (dataset : MarketDataset) (primarySymbol : String) :
    Except BacktestError (MarketDataset × MarketDataset) := do
  let bars := RuleBasedBacktestEngine.sortedBars dataset.bars
  let timeline := splitTimeline bars primarySymbol
  let index := splitIndex timeline.length
  let trainCutoff ← BacktestError.indexError.orRaise timeline[index - 1]?
  let testStart ← BacktestError.indexError.orRaise timeline[index - warmupBars]?
  return ({ dataset with
      datasetId := s!"{dataset.datasetId}:train", bars := bars.filter (·.timestamp ≤ trainCutoff) },
    { dataset with
      datasetId := s!"{dataset.datasetId}:test", bars := bars.filter (testStart ≤ ·.timestamp) })

/-- What validating a strategy outside its sample found. -/
structure ValidationReport where
  validationId : String
  trainMetrics : RealPerformanceMetrics
  testMetrics : RealPerformanceMetrics
  passed : Bool
  findings : List String
  generatedAt : String

/-- Run a strategy on both windows of the split and compare what they say. -/
def WalkForwardValidator.validate (numerals : Py.Numerals) (strategy : CanonicalStrategySpec)
    (dataset : MarketDataset) (assumptions : BacktestExecutionAssumptionSet)
    (runId generatedAt : String) : Except BacktestError ValidationReport := do
  let (train, test) ← walkForwardTimestampSplit dataset strategy.symbol
  let trainResult ←
    RuleBasedBacktestEngine.run numerals s!"{runId}:train" strategy train assumptions
  let testResult ← RuleBasedBacktestEngine.run numerals s!"{runId}:test" strategy test assumptions
  let noTrades := if testResult.metrics.tradeCount = 0 then
    ["표본 외 구간에서 거래가 발생하지 않았습니다."] else []
  let turned := if 0 < trainResult.metrics.totalReturn ∧ testResult.metrics.totalReturn < 0 then
    ["표본 내 성과와 표본 외 성과 방향이 다릅니다."] else []
  let findings := noTrades ++ turned
  return { validationId := s!"validation:{runId}", trainMetrics := trainResult.metrics,
           testMetrics := testResult.metrics,
           passed := findings = [] && testResult.status = .completed, findings, generatedAt }

end StrategyLab
