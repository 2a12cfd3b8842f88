import StrategyLab.Research.MultiSymbol

/-! Research runs on a universe of symbols: candidate tests, the finished run, and its storage. -/

namespace StrategyLab

/-- What a research run is given and calls: number texts, SHA-256, the backtest runner and the
datasets that were loaded for the evidence. -/
structure ResearchEnvironment where
  numerals : Py.Numerals
  sha : Json → String
  runner : String → CanonicalStrategySpec → MarketDataset → BacktestExecutionAssumptionSet →
    Except BacktestError RealBacktestResult
  datasetCache : String → Option MarketDataset

/-- The assumptions every research run makes. -/
def defaultExecutionAssumptions : BacktestExecutionAssumptionSet :=
  { commission := ⟨.float (15 / 100000), .default⟩, tax := ⟨.float (18 / 10000), .default⟩,
    slippage := ⟨.float (5 / 10000), .default⟩, executionTiming := ⟨.str "next_close", .default⟩,
    positionSizing := ⟨.str "single_position_all_cash", .default⟩,
    initialCapital := ⟨.float 1000000, .default⟩ }

/-- A dataset of two made-up bars that carries the identity of a result. -/
def datasetFromBacktestStub (result : RealBacktestResult) : MarketDataset :=
  let symbol := result.strategy.symbol
  { datasetId := result.datasetId
    bars := [⟨"2026-01-02", symbol, 100, 101, 99, 100, 1000000, 100000000⟩,
      ⟨"2026-07-24", symbol, 110, 111, 109, 110, 1000001, 110000000⟩]
    fixtureBacked := result.source = .fixture }

/-- The dataset a candidate is tested on: with the peers beside it when it is compared to them. -/
def executionDataset (env : ResearchEnvironment) (eligible : List SymbolResearchEvidence)
    (symbol : String) (dataset : MarketDataset) (strategy : CanonicalStrategySpec) :
    Option MarketDataset :=
  if predicateRuleActive strategy.filters "relative_strength_min" then
    let peers := (eligible.filter (·.symbol ≠ symbol)).filterMap (env.datasetCache ·.symbol)
    (buildRelativeStrengthValidationDataset dataset peers symbol minAlignedBars).toOption
  else some dataset

/-- Test a candidate on one symbol; `none` when there is no dataset to test it on. -/
def candidateSymbolEvidence (env : ResearchEnvironment) (runId : String)
    (assumptions : BacktestExecutionAssumptionSet) (eligible : List SymbolResearchEvidence)
    (candidate : ImprovementCandidate) (item : SymbolResearchEvidence) :
    Except BacktestError (Option CandidateSymbolEvidence) := do
  let strategy := { candidate.strategy with
    symbol := item.symbol, specId := s!"{candidate.strategy.specId}:{item.symbol}" }
  let dataset := (env.datasetCache item.symbol).bind
    (executionDataset env eligible item.symbol · strategy)
  match dataset with
  | some dataset =>
    let result ← env.runner s!"{runId}:{item.symbol}:{candidate.candidateId}" strategy dataset
      assumptions
    return some { candidateId := candidate.candidateId, symbol := item.symbol, eligible := true,
                  metrics := some result.metrics, backtestResult := some result }
  | none => return none

/-- Test every candidate of a strategy on every symbol the strategy itself was run on. -/
def candidateEvidence (env : ResearchEnvironment) (runId : String)
    (strategy : CanonicalStrategySpec) (assumptions : BacktestExecutionAssumptionSet)
    (evidence : List SymbolResearchEvidence) (generatedAt : String) :
    Except BacktestError (List CandidateSymbolEvidence) := do
  let eligible := evidence.filter fun item => item.eligible && item.backtestResult.isSome
  match eligible.head?.bind (·.backtestResult) with
  | none => return []
  | some seed =>
    -- The validation is only here to fail; its findings do not reach the generator.
    let _ ← WalkForwardValidator.validate env.numerals strategy (datasetFromBacktestStub seed)
      assumptions s!"{runId}:candidate-seed" generatedAt
    let candidates ← ImprovementCandidateGenerator.generate strategy runId generatedAt env.numerals
    let rows ← candidates.mapM fun candidate =>
      eligible.mapM (candidateSymbolEvidence env runId assumptions eligible candidate)
    return rows.flatten.reduceOption

/-- The symbols of a run and the market they belong to. -/
structure KRXResearchUniverse where
  universeId : String
  symbols : List String
  market : String

/-- A universe as JSON. -/
def KRXResearchUniverse.toJson (scope : KRXResearchUniverse) : Json :=
  .obj [("universe_id", .str scope.universeId),
    ("symbols", .list (scope.symbols.map .str)), ("market", .str scope.market)]

/-- What a run was asked to do. -/
structure MultiSymbolResearchRequest where
  runId : String
  universe_ : KRXResearchUniverse
  strategyFingerprint : String
  source : String
  fixtureBacked : Bool
  createdAt : String

/-- A request as JSON. -/
def MultiSymbolResearchRequest.toJson (request : MultiSymbolResearchRequest) : Json :=
  .obj [("run_id", .str request.runId), ("universe", request.universe_.toJson),
    ("strategy_fingerprint", .str request.strategyFingerprint), ("source", .str request.source),
    ("fixture_backed", .bool request.fixtureBacked), ("created_at", .str request.createdAt)]

/-- A text or null. -/
def optText : Option String → Json
  | some value => .str value
  | none => .null

/-- A float or null. -/
def optFloat : Option ℚ → Json
  | some value => .float value
  | none => .null

/-- A summary as JSON. -/
def UniverseResearchSummary.toJson (summary : UniverseResearchSummary) : Json :=
  .obj [("total_symbols", .int summary.totalSymbols),
    ("eligible_symbols", .int summary.eligibleSymbols),
    ("blocked_symbols", .int summary.blockedSymbols),
    ("symbols_with_trades", .int summary.symbolsWithTrades),
    ("aggregate_trade_count", .int summary.aggregateTradeCount),
    ("median_return", optFloat summary.medianReturn), ("median_mdd", optFloat summary.medianMdd),
    ("positive_return_symbol_ratio", optFloat summary.positiveReturnSymbolRatio),
    ("profitable_symbol_ratio", optFloat summary.profitableSymbolRatio),
    ("trade_concentration", optFloat summary.tradeConcentration),
    ("return_concentration", optFloat summary.returnConcentration),
    ("worst_symbol", optText summary.worstSymbol), ("best_symbol", optText summary.bestSymbol),
    ("concentration_decision", .str summary.concentrationDecision.value),
    ("sample_confidence", .str summary.sampleConfidence.value)]

/-- A comparison as JSON, without its lines. -/
def CandidateGeneralization.toJson (generalization : CandidateGeneralization) : Json :=
  .obj [("decision", .str generalization.decision.value),
    ("winner_id", optText generalization.winnerId), ("reason", .str generalization.reason)]

/-- A finished run. -/
structure MultiSymbolResearchRun where
  runId : String
  request : MultiSymbolResearchRequest
  strategy : CanonicalStrategySpec
  evidence : List SymbolResearchEvidence
  candidateEvidence : List CandidateSymbolEvidence
  summary : UniverseResearchSummary
  candidateGeneralization : CandidateGeneralization
  finalRecommendation : CandidateGeneralizationDecision
  generatedAt : String

/-- What is stored of a run: one strategy and one summary, both of the original. -/
def MultiSymbolResearchRun.toJson (sha : Json → String) (run : MultiSymbolResearchRun) : Json :=
  .obj [("run_id", .str run.runId), ("request", run.request.toJson),
    ("strategy", run.strategy.toJson sha), ("summary", run.summary.toJson),
    ("candidate_generalization", run.candidateGeneralization.toJson),
    ("final_recommendation", .str run.finalRecommendation.value),
    ("generated_at", .str run.generatedAt), ("automatic_order", .bool false),
    ("automatic_champion_promotion", .bool false), ("automatic_config_apply", .bool false),
    ("approval_required_before_config_change", .bool true)]

/-- Finish a run once the evidence is collected: test the candidates, compare, and recommend. -/
def concludeRun (env : ResearchEnvironment) (runId : String) (universe_ : KRXResearchUniverse)
    (strategy : CanonicalStrategySpec) (evidence : List SymbolResearchEvidence)
    (generatedAt : String) : Except BacktestError MultiSymbolResearchRun := do
  let summary := aggregateSymbolEvidence evidence
  let candidateResults ← candidateEvidence env runId strategy defaultExecutionAssumptions evidence
    generatedAt
  let generalization := compareCandidateGeneralization evidence candidateResults
  return {
    runId
    request := { runId, universe_, strategyFingerprint := strategy.fingerprint env.sha,
                 source := if evidence.any (·.source = "real") then "real" else "fixture",
                 fixtureBacked := evidence.any (·.fixtureBacked), createdAt := generatedAt }
    strategy, evidence, candidateEvidence := candidateResults, summary,
    candidateGeneralization := generalization,
    finalRecommendation := recommend summary generalization, generatedAt }

/-- A row of the table of runs; `payload` is the stored JSON. -/
structure ResearchRunRow where
  runId : String
  universeId : String
  status : String
  recommendation : String
  payload : Json
  generatedAt : String
  source : String

/-- The stored runs, one row for each run. -/
abbrev ResearchRuns := Table ResearchRunRow.runId

/-- The row that a run is stored as. -/
def MultiSymbolResearchRun.stored (sha : Json → String) (run : MultiSymbolResearchRun) :
    ResearchRunRow :=
  { runId := run.runId, universeId := run.request.universe_.universeId, status := "completed",
    recommendation := run.finalRecommendation.value, payload := run.toJson sha,
    generatedAt := run.generatedAt, source := run.request.source }

/-- What the identities of runs start with that were not made by research. -/
def multiSymbolArtifactMarkers : List String :=
  ["multi-symbol-research-release-check:", "telegram-multi-symbol-research-release-check:",
    "multi-symbol-research-demo:", "unit:", "integration:", "test:"]

/-- Whether a run was made by a check or a test. -/
def isArtifact (runId : String) : Bool :=
  multiSymbolArtifactMarkers.any fun marker => marker.toList.isPrefixOf runId.toList

namespace ResearchRuns

/-- Store a run in place of an earlier one with its identity. -/
def addRun (runs : ResearchRuns) (sha : Json → String) (run : MultiSymbolResearchRun) :
    ResearchRuns :=
  runs.replace (run.stored sha)

/-- The payload of a run that is no artifact. -/
def getPayload (runs : ResearchRuns) (runId : String) : Option Json :=
  if isArtifact runId then none else (runs.find? runId).map (·.payload)

/-- The runs that are no artifacts, newest first; even a limit of zero lets one through. -/
def listRuns (runs : ResearchRuns) (limit : Nat) : List ResearchRunRow :=
  let newestFirst := (Py.sortedBy (fun row => toLex (row.generatedAt, row.runId)) runs.rows).reverse
  (newestFirst.filter (!isArtifact ·.runId)).take (max 1 limit)

end ResearchRuns

end StrategyLab
