import StrategyLab.Lib.Dict
import StrategyLab.Lib.Python
import StrategyLab.Lib.Sorted
import Mathlib.Data.String.Basic
import Mathlib.Algebra.Order.Ring.Abs

/-! Hypotheses about the failures of a family, from its closed Paper trades. -/

namespace StrategyLab.PaperFailureAnalysis

/-- A closed trade; what was not reported is missing. -/
structure TradeRecord where
  symbol : String
  grossPnl : Option ℚ
  fees : Option ℚ
  netPnl : Option ℚ
  reason : Option String
  isWin : Option Bool
  deriving DecidableEq

/-- Whether a hypothesis has enough evidence. -/
inductive HypothesisStatus where
  | insufficientEvidence
  | candidate
  deriving DecidableEq, Repr

/-- A value of the evidence. -/
inductive EvidenceValue where
  | count (value : Nat)
  | number (value : ℚ)
  | text (value : String)
  /-- A dictionary of amounts, by the order of its keys. -/
  | amounts (fields : List (String × ℚ))
  /-- A dictionary of counts. -/
  | counts (fields : List (String × Nat))
  deriving DecidableEq

/-- The fields of the evidence. -/
abbrev HypothesisEvidence := List (String × EvidenceValue)

/-- What may be improved about a family. -/
structure Hypothesis where
  familyId : String
  patternType : String
  hypothesisId : String
  fingerprint : String
  status : HypothesisStatus
  statement : String
  tradeCount : Nat
  confidence : Option ℚ
  evidence : HypothesisEvidence
  expectedImprovement : Option String
  verificationRequired : List String
  generatedAt : String
  deriving DecidableEq

/-- The trades that any comparison needs. -/
def minTotalTrades : Nat := 10

/-- The trades that each side of a comparison needs. -/
def minGroupTrades : Nat := 5

/-- The trades from which on the confidence is full. -/
def confidenceSaturationTrades : Nat := 30

/-- The largest share of one symbol that is not concentrated. -/
def symbolConcentrationThreshold : ℚ := 2 / 5

/-- The largest share of the fees that is no drag. -/
def feeDragThreshold : ℚ := 3 / 10

/-- The smallest gap between win rates that is a pattern. -/
def earlyExitWinRateGapThreshold : ℚ := 3 / 10

/-- An amount below this is none. -/
def negligible : ℚ := 1 / 10 ^ 9

/-- What is still to be verified about any candidate. -/
def standardVerificationSteps : List String :=
  ["historical backtest with the implied parameter/rule change applied",
    "independent Paper forward re-run accumulating its own sufficient trade count",
    "human review before any Live consideration"]

/-- The format `.0%` of a number. -/
def percent (x : ℚ) : String := toString (Py.roundHalfEven (x * 100)) ++ "%"

/-- The confidence that a number of trades gives. -/
def confidenceOf (tradeCount : Nat) : ℚ :=
  Py.round 4 (min 1 (tradeCount / confidenceSaturationTrades))

section Generate

-- SHA-256 over the JSON text, with sorted keys, of a family, a pattern and the evidence.
variable (digest : String → String → HypothesisEvidence → String)

/-- The fingerprint of evidence. -/
def evidenceFingerprint (familyId patternType : String) (evidence : HypothesisEvidence) : String :=
  "sha256:" ++ .ofList ((digest familyId patternType evidence).toList.take 16)

/-- A hypothesis under the name that its evidence gives it. -/
def hypothesisOf (familyId patternType : String) (status : HypothesisStatus) (statement : String)
    (tradeCount : Nat) (confidence : Option ℚ) (evidence : HypothesisEvidence)
    (expectedImprovement : Option String) (verificationRequired : List String) (now : String) :
    Hypothesis :=
  let fingerprint := evidenceFingerprint digest familyId patternType evidence
  { familyId, patternType
    hypothesisId := "hypothesis:" ++ familyId ++ ":" ++ patternType ++ ":" ++
      .ofList ((fingerprint.toList.take 19).drop 7)
    fingerprint, status, statement, tradeCount, confidence, evidence, expectedImprovement
    verificationRequired
    generatedAt := now }

/-- There are too few trades for any comparison. -/
def insufficientDataHypothesis (familyId : String) (tradeCount : Nat) (now : String) : Hypothesis :=
  hypothesisOf digest familyId "insufficient_data" .insufficientEvidence
    (s!"Only {tradeCount} closed Paper trade(s) so far - at least {minTotalTrades} are needed " ++
      "before any failure-pattern comparison is meaningful.")
    tradeCount none [("trade_count", .count tradeCount), ("min_required", .count minTotalTrades)]
    none ["accumulate more closed Paper trades"] now

/-- The net result of a trade, or the one before fees. -/
def TradeRecord.knownPnl (record : TradeRecord) : Option ℚ := record.netPnl.or record.grossPnl

/-- The symbols and results of the trades whose results are known. -/
def knownTrades (records : List TradeRecord) : List (String × ℚ) :=
  records.filterMap fun record => record.knownPnl.map fun pnl => (record.symbol, pnl)

/-- Results by symbol. -/
abbrev PnlBySymbol := Table (Prod.fst : String × ℚ → String)

/-- Add the result of a trade to its symbol. -/
def addPnl (bySymbol : PnlBySymbol) (trade : String × ℚ) : PnlBySymbol :=
  bySymbol.assign (trade.1, ((bySymbol.find? trade.1).map (·.2)).getD 0 + trade.2)

/-- The results of all trades, in the order in which their symbols come first. -/
def pnlBySymbol (trades : List (String × ℚ)) : PnlBySymbol := trades.foldl addPnl .empty

/-- The results are concentrated on the symbol with the largest one. -/
def concentratedHypothesis (familyId : String) (counted : Nat) (bySymbol : List (String × ℚ))
    (top : String × ℚ) (now : String) : Hypothesis :=
  let totalPnl := (bySymbol.map (·.2)).sum
  let share := |top.2| / |totalPnl|
  let direction := if top.2 > 0 then "gains" else "losses"
  hypothesisOf digest familyId "symbol_concentration" .candidate
    (top.1 ++ " alone accounts for " ++ percent share ++ " of total net PnL across " ++
      toString counted ++ " closed trades (driving " ++ direction ++
      ") - performance may be concentrated rather than broad-based, echoing the " ++
      "original OOS due-diligence finding of single-symbol concentration.")
    counted (some (confidenceOf counted))
    [("trade_count", .count counted), ("top_symbol", .text top.1),
      ("top_symbol_pnl", .number (Py.round 6 top.2)), ("total_pnl", .number (Py.round 6 totalPnl)),
      ("top_symbol_share", .number (Py.round 4 share)),
      ("by_symbol_pnl", .amounts (Py.sortedBy (·.1) (bySymbol.map fun row =>
        (row.1, Py.round 6 row.2))))]
    (some ("If confirmed on more data, capping per-symbol exposure or excluding the " ++
      "concentrated symbol may produce a more broadly-based (less regime/symbol-dependent) edge."))
    (standardVerificationSteps ++ ["re-run the OOS due-diligence concentration check against " ++
      "this broader forward sample"]) now

/-- How concentrated the results are on the symbol with the largest one. -/
def symbolConcentrationHypothesis (familyId : String) (records : List TradeRecord) (now : String) :
    Option Hypothesis :=
  let counted := (knownTrades records).length
  let bySymbol := (pnlBySymbol (knownTrades records)).rows
  let totalPnl := (bySymbol.map (·.2)).sum
  if gate : counted < minTotalTrades ∨ |totalPnl| < negligible ∨ bySymbol = [] then
    some (hypothesisOf digest familyId "symbol_concentration" .insufficientEvidence
      (s!"Only {counted} closed trade(s) with a known pnl - not enough to judge whether " ++
        "performance is concentrated in a small subset of symbols.")
      counted none
      [("trades_with_known_pnl", .count counted), ("min_required", .count minTotalTrades)]
      none ["accumulate more closed Paper trades with known pnl"] now)
  else
    -- The first one of several largest results counts.
    let top := bySymbol.maxOn (fun row => |row.2|) (not_or.mp (not_or.mp gate).2).2
    if |top.2| / |totalPnl| ≤ symbolConcentrationThreshold then none
    else some (concentratedHypothesis digest familyId counted bySymbol top now)

/-- The fees and results of the trades that have both. -/
def feePairs (records : List TradeRecord) : List (ℚ × ℚ) :=
  records.filterMap fun record => do
    let fees ← record.fees
    let gross ← record.grossPnl
    some (fees, gross)

/-- How much of the results the fees take. -/
def feeDragHypothesis (familyId : String) (records : List TradeRecord) (now : String) :
    Option Hypothesis :=
  let pairs := feePairs records
  if pairs.length < minGroupTrades then
    some (hypothesisOf digest familyId "fee_drag" .insufficientEvidence
      (s!"Only {pairs.length} closed trade(s) with both fees and gross pnl known - not enough to " ++
        "judge whether transaction costs are materially eroding this strategy's edge.")
      pairs.length none
      [("trades_with_known_fees_and_pnl", .count pairs.length),
        ("min_required", .count minGroupTrades)]
      none ["accumulate more closed Paper trades with both fees and pnl known"] now)
  else
    let meanAbsFee := (pairs.map fun pair => |pair.1|).sum / pairs.length
    let meanAbsGross := (pairs.map fun pair => |pair.2|).sum / pairs.length
    if meanAbsGross < negligible then none
    else
      let ratio := meanAbsFee / meanAbsGross
      if ratio ≤ feeDragThreshold then none
      else
        some (hypothesisOf digest familyId "fee_drag" .candidate
          ("Commission+funding fees average " ++ percent ratio ++
            " of the mean gross PnL magnitude across " ++ toString pairs.length ++
            " closed trades - transaction costs may be eroding this strategy's edge more " ++
            "than the research's own cost-model assumption accounted for.")
          pairs.length (some (confidenceOf pairs.length))
          [("trade_count", .count pairs.length),
            ("mean_abs_fee", .number (Py.round 6 meanAbsFee)),
            ("mean_abs_gross_pnl", .number (Py.round 6 meanAbsGross)),
            ("fee_to_gross_ratio", .number (Py.round 4 ratio))]
          (some ("If confirmed on more data, tightening the liquidity filter (to avoid wider-spread " ++
            "symbols) or reducing rebalance frequency may reduce the cost-to-edge ratio."))
          (standardVerificationSteps ++ ["recompute the historical backtest's cost-model " ++
            "assumption against these real observed fee rates"]) now)

/-- The reasons of exits before the scheduled one. -/
def earlyExitReasons : List String := ["closed_externally", "stop_loss", "take_profit"]

/-- The trades that ended on schedule, with a known outcome. -/
def scheduledExits (records : List TradeRecord) : List TradeRecord :=
  records.filter fun record => record.reason = some "48h_timed_exit" ∧ record.isWin ≠ none

/-- The trades that ended early, with a known outcome. -/
def earlyExits (records : List TradeRecord) : List TradeRecord :=
  records.filter fun record => record.reason ∈ earlyExitReasons.map some ∧ record.isWin ≠ none

/-- The part of trades that won. -/
def winRate (records : List TradeRecord) : ℚ :=
  records.countP (·.isWin = some true) / records.length

/-- How much less often trades won that ended early. -/
def earlyExitHypothesis (familyId : String) (records : List TradeRecord) (now : String) :
    Option Hypothesis :=
  let scheduled := scheduledExits records
  let early := earlyExits records
  let reasonCounts := earlyExitReasons.map fun reason =>
    (reason, early.countP (·.reason = some reason))
  let total := scheduled.length + early.length
  if scheduled.length < minGroupTrades ∨ early.length < minGroupTrades then
    some (hypothesisOf digest familyId "early_exit_vs_scheduled" .insufficientEvidence
      (s!"{scheduled.length} scheduled-exit and {early.length} early-exit trade(s) with known " ++
        s!"pnl - at least {minGroupTrades} of each are needed to compare them.")
      total none
      [("scheduled_exit_trade_count", .count scheduled.length),
        ("early_exit_trade_count", .count early.length),
        ("min_required_per_group", .count minGroupTrades)]
      none ["accumulate more closed Paper trades of both exit types"] now)
  else
    let scheduledWinRate := winRate scheduled
    let earlyWinRate := winRate early
    let gap := scheduledWinRate - earlyWinRate
    if gap < earlyExitWinRateGapThreshold then none
    else
      some (hypothesisOf digest familyId "early_exit_vs_scheduled" .candidate
        ("Trades closed early (before the scheduled 48h exit, e.g. by the Paper safety-net stop) " ++
          "win " ++ percent earlyWinRate ++ " of the time (" ++ toString early.length ++
          " trades) vs " ++ percent scheduledWinRate ++
          " for trades that reached their scheduled exit (" ++ toString scheduled.length ++
          " trades) - a " ++ percent gap ++ " gap. The research " ++
          "rule itself has no stop/target by design, so frequent early stops may signal the " ++
          "safety-net width or entry sizing doesn't match the no-stop backtest's assumptions.")
        total (some (confidenceOf total))
        [("scheduled_exit_trade_count", .count scheduled.length),
          ("scheduled_exit_win_rate", .number (Py.round 4 scheduledWinRate)),
          ("early_exit_trade_count", .count early.length),
          ("early_exit_win_rate", .number (Py.round 4 earlyWinRate)),
          ("early_exit_reason_counts", .counts reasonCounts),
          ("win_rate_gap", .number (Py.round 4 gap))]
        (some ("If confirmed on more data, widening (or removing) the Paper safety-net stop for " ++
          "this family, or reviewing entry sizing/volatility filtering, may bring live " ++
          "performance closer to the no-stop backtest."))
        (standardVerificationSteps ++ ["historical backtest comparing the current safety-net " ++
          "width against no stop at all"]) now)

/-- The hypotheses about a family: at most one for each pattern. -/
def generateHypotheses (familyId : String) (records : List TradeRecord) (now : String) :
    List Hypothesis :=
  if records.length < minTotalTrades then
    [insufficientDataHypothesis digest familyId records.length now]
  else
    [symbolConcentrationHypothesis digest familyId records now,
      feeDragHypothesis digest familyId records now,
      earlyExitHypothesis digest familyId records now].filterMap id

end Generate

/-- The stored hypotheses, by family and fingerprint. -/
abbrev HypothesisTable := Table fun hypothesis : Hypothesis =>
  (hypothesis.familyId, hypothesis.fingerprint)

/-- Store a hypothesis, unless one with its fingerprint is stored. -/
def insertHypothesis (table : HypothesisTable) (hypothesis : Hypothesis) : HypothesisTable :=
  (table.insert? hypothesis).getD table

end StrategyLab.PaperFailureAnalysis
