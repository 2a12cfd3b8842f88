import StrategyLab.Research.MultiSymbolValidation
import StrategyLab.Research.StrategyCandidates

/-! Research on a universe of symbols: evidence, its summary, and the comparison of candidates. -/

namespace StrategyLab

/-- How far the trades and returns of a universe hang on single symbols. -/
inductive ConcentrationDecision where
  | broad
  | moderatelyConcentrated
  | highlyConcentrated
  | insufficientEvidence
  deriving DecidableEq, Repr

/-- The text a concentration is written as. -/
def ConcentrationDecision.value : ConcentrationDecision → String
  | .broad => "broad"
  | .moderatelyConcentrated => "moderately_concentrated"
  | .highlyConcentrated => "highly_concentrated"
  | .insufficientEvidence => "insufficient_evidence"

/-- How much a sample says. -/
inductive SampleConfidence where
  | low
  | medium
  | high
  deriving DecidableEq, Repr

/-- The text a confidence is written as. -/
def SampleConfidence.value : SampleConfidence → String
  | .low => "low"
  | .medium => "medium"
  | .high => "high"

/-- What a comparison of a strategy with its candidates can conclude. -/
inductive CandidateGeneralizationDecision where
  | originalPreferred
  | candidatePreferred
  | noClearWinner
  | needsMoreEvidence
  deriving DecidableEq, Repr

/-- The text a conclusion is written as, both as a decision and as a final recommendation. -/
def CandidateGeneralizationDecision.value : CandidateGeneralizationDecision → String
  | .originalPreferred => "original_preferred"
  | .candidatePreferred => "candidate_preferred"
  | .noClearWinner => "no_clear_winner"
  | .needsMoreEvidence => "needs_more_evidence"

/-- What the original strategy did on one symbol; without metrics only that it did not trade. -/
structure SymbolResearchEvidence where
  evidenceId : String
  symbol : String
  eligible : Bool
  blockedReason : Option String
  source : String
  fixtureBacked : Bool
  metrics : Option RealPerformanceMetrics
  backtestResult : Option RealBacktestResult

namespace SymbolResearchEvidence

/-- The number of trades. -/
def tradeCount (item : SymbolResearchEvidence) : Nat :=
  item.metrics.elim 0 (·.tradeCount)

/-- The return, which is zero where it is not reported. -/
def totalReturn (item : SymbolResearchEvidence) : ℚ :=
  item.metrics.elim 0 (·.totalReturn)

/-- The drawdown, which is zero where it is not reported. -/
def mdd (item : SymbolResearchEvidence) : ℚ :=
  item.metrics.elim 0 (·.mdd)

end SymbolResearchEvidence

/-- What a candidate did on one symbol. -/
structure CandidateSymbolEvidence where
  candidateId : String
  symbol : String
  eligible : Bool
  metrics : Option RealPerformanceMetrics
  backtestResult : Option RealBacktestResult

/-- What a universe of symbols says about one strategy. -/
structure UniverseResearchSummary where
  totalSymbols : Nat
  eligibleSymbols : Nat
  blockedSymbols : Nat
  symbolsWithTrades : Nat
  aggregateTradeCount : Nat
  medianReturn : Option ℚ
  medianMdd : Option ℚ
  positiveReturnSymbolRatio : Option ℚ
  profitableSymbolRatio : Option ℚ
  tradeConcentration : Option ℚ
  returnConcentration : Option ℚ
  worstSymbol : Option String
  bestSymbol : Option String
  concentrationDecision : ConcentrationDecision
  sampleConfidence : SampleConfidence
  deriving DecidableEq

/-- The middle value, or the mean of the two in the middle, rounded. -/
def median (values : List ℚ) : Option ℚ :=
  if values = [] then none
  else
    let ordered := Py.sortedBy id values
    let mid := ordered.length / 2
    if ordered.length % 2 = 1 then some (Py.round 6 (ordered.getD mid 0))
    else some (Py.round 6 ((ordered.getD (mid - 1) 0 + ordered.getD mid 0) / 2))

/-- The share of the largest part in a whole, if there is a whole. -/
def largestShare (parts : List ℚ) : Option ℚ :=
  if parts.sum = 0 then none else some (Py.round 6 (parts.foldl max 0 / parts.sum))

/-- How concentrated the trades and the returns are; unknown shares do not count. -/
def concentrationDecision (symbolsWithTrades : Nat) (tradeConcentration : Option ℚ)
    (returnConcentration : Option ℚ) : ConcentrationDecision :=
  let maxConcentration := max (max (tradeConcentration.getD 0) (returnConcentration.getD 0)) 0
  if symbolsWithTrades < 2 then .insufficientEvidence
  else if 65 / 100 ≤ maxConcentration then .highlyConcentrated
  else if 45 / 100 ≤ maxConcentration then .moderatelyConcentrated
  else .broad

/-- How much a sample of symbols and trades says. -/
def sampleConfidence (totalTrades symbolsWithTrades : Nat) (concentration : ConcentrationDecision)
    (eligibleSymbols totalSymbols : Nat) : SampleConfidence :=
  if eligibleSymbols < max 2 (min 3 totalSymbols) ∨ symbolsWithTrades < 2 ∨ totalTrades < 20 then
    .low
  else if 60 ≤ totalTrades ∧ 4 ≤ symbolsWithTrades ∧ concentration = .broad then .high
  else if concentration = .highlyConcentrated then .low
  else .medium

/-- Sum up the evidence: blocked symbols are counted, and only those that traded are measured. -/
def aggregateSymbolEvidence (evidence : List SymbolResearchEvidence) : UniverseResearchSummary :=
  let eligible := evidence.filter (·.eligible)
  let traded := eligible.filter (0 < ·.tradeCount)
  let returns := traded.map (·.totalReturn)
  let trades := traded.map (·.tradeCount)
  let positiveRatio : Option ℚ :=
    if returns = [] then none
    else some (Py.round 6 ((returns.countP (0 < ·) : ℚ) / returns.length))
  let tradeConcentration := largestShare (trades.map Nat.cast)
  let returnConcentration := largestShare (returns.map abs)
  let concentration := concentrationDecision traded.length tradeConcentration returnConcentration
  { totalSymbols := evidence.length
    eligibleSymbols := eligible.length
    blockedSymbols := evidence.length - eligible.length
    symbolsWithTrades := traded.length
    aggregateTradeCount := trades.sum
    medianReturn := median returns
    medianMdd := median (traded.map (·.mdd))
    positiveReturnSymbolRatio := positiveRatio
    profitableSymbolRatio := positiveRatio
    tradeConcentration
    returnConcentration
    worstSymbol := (traded.minOn? (·.totalReturn)).map (·.symbol)
    bestSymbol := (traded.maxOn? (·.totalReturn)).map (·.symbol)
    concentrationDecision := concentration
    sampleConfidence :=
      sampleConfidence trades.sum traded.length concentration eligible.length evidence.length }

/-- Evidence for a candidate in the shape of evidence for a strategy. -/
def candidateAsSymbolEvidence (item : CandidateSymbolEvidence) : SymbolResearchEvidence :=
  { evidenceId := s!"candidate:{item.candidateId}:{item.symbol}", symbol := item.symbol,
    eligible := item.eligible,
    blockedReason := if item.eligible then none else some "candidate_unavailable",
    source := if item.backtestResult.any (·.source = .real) then "real" else "fixture",
    fixtureBacked := false, metrics := item.metrics, backtestResult := item.backtestResult }

/-- One line of a comparison. -/
structure ComparisonRow where
  candidateId : String
  aggregateTradeCount : Nat
  medianReturn : Option ℚ
  medianMdd : Option ℚ
  profitableSymbolRatio : Option ℚ
  symbolsWithTrades : Nat
  concentration : ConcentrationDecision
  confidence : SampleConfidence
  deriving DecidableEq

/-- The line of a summary. -/
def UniverseResearchSummary.row (summary : UniverseResearchSummary) (candidateId : String) :
    ComparisonRow :=
  { candidateId, aggregateTradeCount := summary.aggregateTradeCount,
    medianReturn := summary.medianReturn, medianMdd := summary.medianMdd,
    profitableSymbolRatio := summary.profitableSymbolRatio,
    symbolsWithTrades := summary.symbolsWithTrades, concentration := summary.concentrationDecision,
    confidence := summary.sampleConfidence }

/-- A number, or a default when it is missing or zero. -/
def orFloat (value : Option ℚ) (default : ℚ) : ℚ := (value.filter (· ≠ 0)).getD default

namespace ComparisonRow

/-- The return of a line as it is compared. -/
def comparedReturn (row : ComparisonRow) : ℚ := orFloat row.medianReturn 0

/-- The drawdown of a line as it is compared: a drawdown of zero reads as the largest one. -/
def comparedMdd (row : ComparisonRow) : ℚ := orFloat row.medianMdd 1

/-- Lines are ordered by return, then by drawdown, then by their number of trades. -/
def rank (row : ComparisonRow) : ℚ ×ₗ ℚ ×ₗ Nat :=
  toLex (row.comparedReturn, toLex (-row.comparedMdd, row.aggregateTradeCount))

/-- Whether a line says enough to be compared. -/
def comparable (row : ComparisonRow) : Bool :=
  row.confidence ≠ .low && row.medianReturn.isSome

end ComparisonRow

/-- What a comparison concluded, and from what. -/
structure CandidateGeneralization where
  decision : CandidateGeneralizationDecision
  winnerId : Option String
  rows : List ComparisonRow
  reason : String

/-- The evidence for one candidate, as evidence for a strategy. -/
def evidenceFor (candidates : List CandidateSymbolEvidence) (candidateId : String) :
    List SymbolResearchEvidence :=
  (candidates.filter (·.candidateId = candidateId)).map candidateAsSymbolEvidence

/-- The lines of a comparison: the original, then the candidates in the order of their names. -/
def comparisonRows (original : List SymbolResearchEvidence)
    (candidates : List CandidateSymbolEvidence) : List ComparisonRow :=
  (aggregateSymbolEvidence original).row "original" ::
    (sortedSet (candidates.map (·.candidateId))).map fun candidateId =>
      (aggregateSymbolEvidence (evidenceFor candidates candidateId)).row candidateId

/-- Judge the line that ranks highest against the original. -/
def judgeBest (originalRow best : ComparisonRow) (rows : List ComparisonRow) :
    CandidateGeneralization :=
  if best.candidateId = "original" then
    ⟨.originalPreferred, some "original", rows,
      "original has the strongest generalized evidence by median return, " ++
        "drawdown, and trade sample"⟩
  else
    let returnImproved : Bool := originalRow.comparedReturn < best.comparedReturn
    let breadthPreserved : Bool := originalRow.symbolsWithTrades ≤ best.symbolsWithTrades
    let tradeSamplePreserved : Bool := originalRow.aggregateTradeCount ≤ best.aggregateTradeCount
    let mddNotWorse : Bool := best.comparedMdd ≤ originalRow.comparedMdd
    if returnImproved && breadthPreserved && tradeSamplePreserved && mddNotWorse then
      ⟨.candidatePreferred, some best.candidateId, rows,
        "tested candidate improves median return without reducing symbol breadth, " ++
          "trade sample, or median MDD"⟩
    else
      let blockers :=
        (if returnImproved then ["median return improved"] else []) ++
          (if breadthPreserved then [] else ["symbols with trades decreased"]) ++
          (if tradeSamplePreserved then [] else ["aggregate trade sample decreased"]) ++
          (if mddNotWorse then [] else ["median MDD worsened"])
      ⟨.noClearWinner, none, rows,
        if blockers = [] then "candidate evidence is mixed across symbols"
        else "candidate is not preferred because " ++ ", ".intercalate blockers⟩

/-- Compare the original strategy with its candidates across symbols. -/
def compareCandidateGeneralization (original : List SymbolResearchEvidence)
    (candidates : List CandidateSymbolEvidence) : CandidateGeneralization :=
  let originalSummary := aggregateSymbolEvidence original
  let rows := comparisonRows original candidates
  if originalSummary.sampleConfidence = .low then
    ⟨.needsMoreEvidence, none, rows, "cross-symbol sample confidence is low"⟩
  else
    match rows.filter (·.comparable) with
    | first :: second :: others =>
      let best := (first :: second :: others).maxOn ComparisonRow.rank (List.cons_ne_nil _ _)
      judgeBest (originalSummary.row "original") best rows
    | _ => ⟨.needsMoreEvidence, none, rows, "not enough eligible candidate evidence"⟩

/-- The final recommendation of a run. -/
def recommend (summary : UniverseResearchSummary) (generalization : CandidateGeneralization) :
    CandidateGeneralizationDecision :=
  if summary.sampleConfidence = .low then .needsMoreEvidence
  else if generalization.decision = .candidatePreferred then .candidatePreferred
  else if generalization.decision = .originalPreferred then .originalPreferred
  else .noClearWinner

end StrategyLab
