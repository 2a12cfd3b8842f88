import StrategyLab.Research.GlobalMarket
import StrategyLab.Research.MultiSymbol

/-! Research on a sample of a market, which grows until its evidence suffices or it may not. -/

namespace StrategyLab

/-- Why a sample did not grow any more. -/
inductive StopReason where
  | evidenceSufficient
  | researchBudgetExhausted
  | candidatePoolExhausted
  deriving DecidableEq, Repr

/-- The number of symbols that may be researched where nothing is configured. -/
def defaultAdaptiveBudget : Nat := 15

/-- The number of symbols that may be researched: never fewer than those that already are, unless
there are too few candidates. -/
def adaptiveBudget (numerals : Py.Numerals) (environ : String → Option String)
    (initialSize candidateCount : Nat) : Nat :=
  let explicit := environ "GAON_GLOBAL_RESEARCH_MAX_SYMBOLS"
  let raw :=
    if explicit = none ∨ explicit = some "" then environ "GAON_ADAPTIVE_RESEARCH_BUDGET_SYMBOLS"
    else explicit
  let n : Int := raw.elim defaultAdaptiveBudget fun text =>
    (numerals.int text).getD defaultAdaptiveBudget
  (min (min (max (initialSize : Int) n) candidateCount) 50).toNat

/-- What one pass over the exchanges leaves: their queues, the symbols ordered so far, and whether
there is a new one among them. -/
structure Pass where
  groups : List (List String)
  ordered : List String
  progress : Bool

/-- Take the front of every queue in turn, until the symbols reach the limit. -/
def passOver (used : List String) (limit : Nat) :
    List (List String) → List String → Bool → Pass
  | [], ordered, progress => ⟨[], ordered, progress⟩
  | [] :: groups, ordered, progress =>
    let later := passOver used limit groups ordered progress
    { later with groups := [] :: later.groups }
  | (symbol :: group) :: groups, ordered, progress =>
    let fresh : Bool := symbol ∉ used ∧ symbol ∉ ordered
    let ordered := if fresh then ordered ++ [symbol] else ordered
    let progress := progress || fresh
    if limit ≤ used.length + ordered.length then ⟨group :: groups, ordered, progress⟩
    else
      let later := passOver used limit groups ordered progress
      { later with groups := group :: later.groups }

/-- Pass over the exchanges until the limit is reached or a pass brings nothing new; every other
pass orders a symbol, so there are no more passes than the limit allows symbols. -/
def orderSymbols (used : List String) (limit : Nat) :
    Nat → List (List String) → List String → List String
  | 0, _, ordered => ordered
  | fuel + 1, groups, ordered =>
    if limit ≤ used.length + ordered.length then ordered
    else
      let pass := passOver used limit groups ordered false
      if pass.progress then orderSymbols used limit fuel pass.groups pass.ordered
      else pass.ordered

/-- Cut a list into batches. -/
def batchesOf (batchSize : Nat) (ordered : List String) : List (List String) :=
  (List.range ((ordered.length + batchSize - 1) / batchSize)).map fun i =>
    (ordered.drop (i * batchSize)).take batchSize

/-- The queue of each exchange: its symbols that are not used yet, ordered by their hashes. -/
def adaptiveGroups (texts : MarketTexts) (candidates : List MarketSymbol)
    (exchanges used : List String) (seed : String) : List (List String) :=
  (Py.fromkeys (exchanges.map texts.casing.upper)).map fun exchange =>
    let rows := candidates.filter fun item =>
      item.ticker texts ∉ used ∧ texts.casing.upper item.exchange = exchange
    (Py.sortedBy (fun item => texts.sha256 s!"{seed}|{item.exchange}|{item.symbol}") rows).map
      (·.ticker texts)

/-- The batches of symbols that a sample may grow by; `used` is a set, so it has each once. -/
def adaptiveBatches (texts : MarketTexts) (candidates : List MarketSymbol)
    (exchanges usedSymbols : List String) (limit batchSize : Nat) (seed : String) :
    List (List String) :=
  let used := Py.fromkeys (usedSymbols.map texts.casing.upper)
  if limit ≤ used.length then []
  else
    let groups := adaptiveGroups texts candidates exchanges used seed
    batchesOf batchSize (orderSymbols used limit limit groups [])

/-- What the research on one symbol comes to, whether it succeeds, is blocked or fails. -/
structure SymbolOutcome where
  eligible : Bool
  blockedReason : Option String
  source : String
  fixtureBacked : Bool
  metrics : Option RealPerformanceMetrics
  backtestResult : Option RealBacktestResult

/-- A request for research on a market, with what it finds there and in its environment. -/
structure MarketResearch where
  texts : MarketTexts
  numerals : Py.Numerals
  environ : String → Option String
  runId : String
  requestText : String
  endDate : String
  source : String
  candidatePool : List MarketSymbol
  marketScope : MarketScope
  avoidSymbols : List String
  relativeStrength : Bool
  /-- The research on a symbol, compared with its peers. -/
  outcome : String → List String → SymbolOutcome

/-- What a run reports about its sample. -/
structure AdaptiveSampling where
  samplingRounds : Nat
  attemptedSymbols : Nat
  eligibleSymbols : Nat
  blockedSymbols : Nat
  exchangeCoverage : List (String × Nat)
  stopReason : StopReason
  evidenceSufficient : Bool
  researchBudgetUsed : Nat
  researchBudgetLimit : Nat

/-- A researched sample: its evidence, its universe and the report. -/
structure SampledResearch where
  evidence : List SymbolResearchEvidence
  symbols : List String
  candidateCount : Nat
  coverageMode : String
  adaptiveSampling : AdaptiveSampling

/-- Whether evidence is enough to stop at. -/
def sufficientEvidence (evidence : List SymbolResearchEvidence) : Bool :=
  (aggregateSymbolEvidence evidence).sampleConfidence ≠ .low

namespace MarketResearch

variable (research : MarketResearch)

/-- The evidence for one symbol. -/
def symbolEvidence (symbol : String) (peerSymbols : List String) : SymbolResearchEvidence :=
  let outcome := research.outcome symbol peerSymbols
  { evidenceId := s!"{research.runId}:evidence:{research.texts.casing.upper symbol}"
    symbol := research.texts.casing.upper symbol
    eligible := outcome.eligible
    blockedReason := outcome.blockedReason
    source := outcome.source
    fixtureBacked := outcome.fixtureBacked
    metrics := outcome.metrics
    backtestResult := outcome.backtestResult }

/-- Whether two texts name different symbols. -/
def differ (peer symbol : String) : Bool :=
  research.texts.casing.upper peer ≠ research.texts.casing.upper symbol

/-- The evidence for the symbols of a universe. -/
def firstEvidence (symbols : List String) : List SymbolResearchEvidence :=
  symbols.map fun symbol =>
    let peers := if research.relativeStrength then symbols.filter (research.differ · symbol) else []
    research.symbolEvidence symbol peers

/-- Research one more symbol of a batch, unless there is evidence for it. -/
def researchSymbol (batch : List String) (evidence : List SymbolResearchEvidence)
    (symbol : String) : List SymbolResearchEvidence :=
  if evidence.any (·.symbol = research.texts.casing.upper symbol) then evidence
  else
    let peerPool :=
      if research.relativeStrength then
        Py.fromkeys ((evidence.map (·.symbol)).filter (research.differ · symbol) ++
          batch.filter (research.differ · symbol))
      else []
    evidence ++ [research.symbolEvidence symbol peerPool]

/-- Research a batch. -/
def researchBatch (evidence : List SymbolResearchEvidence) (batch : List String) :
    List SymbolResearchEvidence :=
  batch.foldl (research.researchSymbol batch) evidence

/-- Research batches until the evidence suffices, and count the rounds. -/
def researchBatches : List (List String) → Nat → List SymbolResearchEvidence →
    Nat × List SymbolResearchEvidence
  | [], rounds, evidence => (rounds, evidence)
  | batch :: batches, rounds, evidence =>
    if batch = [] then researchBatches batches rounds evidence
    else if sufficientEvidence (research.researchBatch evidence batch) then
      (rounds + 1, research.researchBatch evidence batch)
    else researchBatches batches (rounds + 1) (research.researchBatch evidence batch)

/-- The number of symbols from which evidence comes, for each exchange. -/
def exchangeCoverage (evidence : List SymbolResearchEvidence) : List (String × Nat) :=
  let refs : Table (MarketSymbol.ticker research.texts) := Table.ofRows research.candidatePool
  let exchanges := evidence.filterMap fun item =>
    (refs.find? (research.texts.casing.upper item.symbol)).map
      (research.texts.casing.upper ·.exchange)
  (Py.fromkeys exchanges).map fun exchange => (exchange, exchanges.count exchange)

/-- The number of symbols that a run starts with. -/
def sampleSize : Nat := researchSampleSize research.numerals research.environ

/-- The number of symbols that may be researched after a first sample. -/
def budget (initialSize : Nat) : Nat :=
  adaptiveBudget research.numerals research.environ initialSize research.candidatePool.length

/-- The batches by which a first sample may grow. -/
def furtherBatches (evidence : List SymbolResearchEvidence) : List (List String) :=
  adaptiveBatches research.texts research.candidatePool research.marketScope.exchanges
    (evidence.map (·.symbol) ++ research.avoidSymbols) (research.budget evidence.length)
    (max 1 research.sampleSize) s!"{research.endDate}|{research.requestText}|adaptive-v7"

/-- Let a first sample grow, and report on it. -/
def sampleAdaptively (selection : MarketUniverseSelection)
    (evidence : List SymbolResearchEvidence) : SampledResearch :=
  let budget := research.budget evidence.length
  let grown :=
    if ¬sufficientEvidence evidence ∧ evidence.length < budget ∧
        selection.coverageMode ≠ .exhaustive then
      research.researchBatches (research.furtherBatches evidence) 1 evidence
    else (1, evidence)
  let summary := aggregateSymbolEvidence grown.2
  let sufficient := sufficientEvidence grown.2
  { evidence := grown.2
    symbols := grown.2.map (·.symbol)
    candidateCount := research.candidatePool.length
    coverageMode :=
      if 1 < grown.1 then "adaptive_bounded_cross_exchange_sample" else selection.coverageMode.value
    adaptiveSampling :=
      { samplingRounds := grown.1
        attemptedSymbols := grown.2.length
        eligibleSymbols := summary.eligibleSymbols
        blockedSymbols := summary.blockedSymbols
        exchangeCoverage := research.exchangeCoverage grown.2
        stopReason :=
          if sufficient then .evidenceSufficient
          else if budget ≤ grown.2.length then .researchBudgetExhausted
          else .candidatePoolExhausted
        evidenceSufficient := sufficient
        researchBudgetUsed := grown.2.length
        researchBudgetLimit := budget } }

/-- Select a first sample of the market. -/
def selection : Except String MarketUniverseSelection :=
  selectBoundedUniverse research.texts research.candidatePool research.marketScope
    research.sampleSize s!"{research.endDate}|{research.requestText}" research.source
    (research.avoidSymbols.map research.texts.casing.upper)

/-- Research a sample of the market. -/
def run : Except String SampledResearch :=
  match research.selection with
  | .error message => .error message
  | .ok selection =>
    let symbols := normalizeSymbols research.texts selection.symbols
    if symbols = [] then .error "real_data_unavailable: universe has no symbols"
    else .ok (research.sampleAdaptively selection (research.firstEvidence symbols))

end MarketResearch

end StrategyLab
