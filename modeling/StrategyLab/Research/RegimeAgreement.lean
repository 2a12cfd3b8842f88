import StrategyLab.Lib.Dict
import StrategyLab.Research.SignalDiagnostics

/-! The trades of a run by the market regime at their entries, and the regime filter. -/

namespace StrategyLab

/-- The parts that trades are segmented into. -/
inductive SegmentRegime where
  | bull
  | neutral
  | bear
  | unclassifiable
  deriving DecidableEq, Repr

/-- How the trades of a regime went. -/
structure RegimeSegment where
  regime : SegmentRegime
  tradeCount : Nat
  totalPnl : ℚ
  totalReturnPct : ℚ
  winRate : Option ℚ
  profitFactor : Option ℚ
  averageWin : Option ℚ
  averageLoss : Option ℚ
  insufficientEvidence : Bool
  deriving DecidableEq

/-- How the trades went in each regime. -/
structure RegimePerformanceBreakdown where
  bull : RegimeSegment
  neutral : RegimeSegment
  bear : RegimeSegment
  unclassifiable : RegimeSegment
  deriving DecidableEq

/-- The segment of the trades of a regime. -/
def segment (regime : SegmentRegime) (trades : List RealBacktestTrade) (minTrades : Int) :
    RegimeSegment :=
  let pnls := trades.map (·.pnl)
  let wins := pnls.filter (0 < ·)
  let losses := pnls.filter (· < 0)
  { regime
    tradeCount := trades.length
    totalPnl := pnls.sum
    totalReturnPct := (trades.map (·.returnPct)).sum
    winRate := if trades = [] then none else some (wins.length / trades.length)
    -- Without losses the factor is infinite or missing, and infinite is reported as missing.
    profitFactor := if losses = [] then none else some (wins.sum / |losses.sum|)
    averageWin := meanOf wins
    averageLoss := meanOf losses
    insufficientEvidence := (trades.length : Int) < minTrades }

/-- The last position of each timestamp. -/
def indexByTimestamp (ordered : List MarketBar) : Table (Prod.fst : String × Nat → String) :=
  Table.ofRows (ordered.zipIdx.map fun entry => (entry.1.timestamp, entry.2))

/-- The regime at the entry of a trade. -/
def entryRegime (ordered : List MarketBar) (maLookback : Int) (trade : RealBacktestTrade) :
    SegmentRegime :=
  match (indexByTimestamp ordered).find? trade.entryDate with
  | none => .unclassifiable
  | some (_, index) =>
    match ordered[index]? with
    | none => .unclassifiable
    | some bar =>
      match classifyMarketRegime bar.close ((ordered.take index).map (·.close)) maLookback with
      | some .bull => .bull
      | some .neutral => .neutral
      | some .bear => .bear
      | none => .unclassifiable

/-- The trades that were entered in a regime. -/
def regimeBucket (bars : List MarketBar) (maLookback : Int) (regime : SegmentRegime)
    (trades : List RealBacktestTrade) : List RealBacktestTrade :=
  trades.filter fun trade =>
    entryRegime (Py.sortedBy MarketBar.timestamp bars) maLookback trade = regime

/-- Segment trades by the regime at their entries. -/
def segmentTradesByRegime (trades : List RealBacktestTrade) (bars : List MarketBar)
    (maLookback : Int) (minTradesForEvidence : Int) : RegimePerformanceBreakdown where
  bull := segment .bull (regimeBucket bars maLookback .bull trades) minTradesForEvidence
  neutral := segment .neutral (regimeBucket bars maLookback .neutral trades) minTradesForEvidence
  bear := segment .bear (regimeBucket bars maLookback .bear trades) minTradesForEvidence
  unclassifiable := segment .unclassifiable
    (regimeBucket bars maLookback .unclassifiable trades) 0

open RuleBasedBacktestEngine

variable {numerals : Py.Numerals} {strategy : CanonicalStrategySpec} {input : SimulationInput}

/-- The bars of a segmentation in the order of their timestamps. -/
abbrev orderedBars (bars : List MarketBar) : List MarketBar := Py.sortedBy MarketBar.timestamp bars

/-- The segments of the trades of a run, on its traded bars. -/
structure RegimesAgree (numerals : Py.Numerals) (strategy : CanonicalStrategySpec)
    (result : RealBacktestResult) (bars : List MarketBar) : Prop where
  /-- Each trade is in exactly one segment. -/
  single : ∀ lookback, ∀ trade ∈ result.trades,
    ∃! regime, trade ∈ regimeBucket bars lookback regime result.trades
  /-- The segments have all trades of the run. -/
  counts : ∀ lookback minimum,
    let parts := segmentTradesByRegime result.trades bars lookback minimum
    parts.bull.tradeCount + parts.neutral.tradeCount + parts.bear.tradeCount +
      parts.unclassifiable.tradeCount = result.metrics.tradeCount
  /-- The segments have all results of the run. -/
  pnl : ∀ lookback minimum,
    let parts := segmentTradesByRegime result.trades bars lookback minimum
    parts.bull.totalPnl + parts.neutral.totalPnl + parts.bear.totalPnl +
      parts.unclassifiable.totalPnl = (result.trades.map (·.pnl)).sum
  /-- Bars later than the entry of a trade do not matter to its segment. -/
  early : ∀ lookback, ∀ trade ∈ result.trades, ∀ others, (others.map (·.timestamp)).Nodup →
    (others.filter (·.timestamp ≤ trade.entryDate)).Perm
      (bars.filter (·.timestamp ≤ trade.entryDate)) →
    entryRegime (orderedBars others) lookback trade = entryRegime (orderedBars bars) lookback trade
  /-- With the filter every trade is in the segment that the filter lets through. -/
  bullish : predicateRuleActive strategy.filters "regime_bullish_only" = true →
    ∀ lookback, paramRegimeMaLookback numerals strategy = .ok lookback →
    ∀ trade ∈ result.trades, trade ∈ regimeBucket bars lookback .bull result.trades

/-- The segment that a regime belongs to. -/
def SegmentRegime.of : Option MarketRegime → SegmentRegime
  | some .bull => .bull
  | some .neutral => .neutral
  | some .bear => .bear
  | none => .unclassifiable

/-! ### The regime at an entry -/

variable {ordered : List MarketBar}

variable {index : Nat}

/-- What is found under a timestamp is the position of a bar with it. -/
theorem getElem?_of_indexByTimestamp {date name : String}
    (found : (indexByTimestamp ordered).find? date = some (name, index)) :
    ∃ bar, ordered[index]? = some bar ∧ bar.timestamp = date := by
  have named : name = date := Table.key_of_find? found
  obtain ⟨⟨bar, place⟩, member, same⟩ := List.mem_map.mp (Table.mem_of_find?_ofRows found)
  cases same
  exact ⟨bar, List.mem_zipIdx_iff_getElem?.mp member, named⟩

/-- Nothing is found under a timestamp exactly when no bar has it. -/
theorem indexByTimestamp_eq_none {date : String} :
    (indexByTimestamp ordered).find? date = none ↔ ∀ bar ∈ ordered, bar.timestamp ≠ date := by
  have keys : date ∈ (indexByTimestamp ordered).keyList ↔ ∃ bar ∈ ordered, bar.timestamp = date := by
    rw [indexByTimestamp, Table.keyList_ofRows, Py.mem_fromkeys, List.map_map, List.mem_map]
    constructor
    · rintro ⟨⟨bar, index⟩, member, same⟩
      exact ⟨bar, List.mem_of_getElem? (List.mem_zipIdx_iff_getElem?.mp member), same⟩
    · rintro ⟨bar, member, same⟩
      obtain ⟨index, there⟩ := List.getElem?_of_mem member
      exact ⟨(bar, index), List.mem_zipIdx_iff_getElem?.mpr there, same⟩
  rw [← Option.not_isSome_iff_eq_none, ← Table.mem_keyList_iff, keys]
  push Not
  rfl

variable {trade : RealBacktestTrade}

/-- A trade that was entered on a bar has the regime before that bar. -/
theorem entryRegime_of_getElem?
    (rising : ordered.Pairwise fun left right => left.timestamp < right.timestamp)
    {bar : MarketBar} (there : ordered[index]? = some bar) (lookback : Int)
    (entered : trade.entryDate = bar.timestamp) :
    entryRegime ordered lookback trade =
      .of (classifyMarketRegime bar.close ((ordered.take index).map (·.close)) lookback) := by
  unfold entryRegime
  cases found : (indexByTimestamp ordered).find? trade.entryDate with
  | none =>
    exact absurd entered.symm
      (indexByTimestamp_eq_none.mp found bar (List.mem_of_getElem? there))
  | some row =>
    obtain ⟨name, place⟩ := row
    obtain ⟨other, at_, same⟩ := getElem?_of_indexByTimestamp found
    -- The bar is the only one with its timestamp.
    obtain rfl := Py.index_eq_of_key_eq rising at_ there (same.trans entered)
    simp only [there]
    cases classifyMarketRegime bar.close ((ordered.take place).map (·.close)) lookback with
    | none => rfl
    | some regime => cases regime <;> rfl

/-- A trade that was entered on no bar has no regime. -/
theorem entryRegime_of_forall_ne (lookback : Int)
    (missing : ∀ bar ∈ ordered, bar.timestamp ≠ trade.entryDate) :
    entryRegime ordered lookback trade = .unclassifiable := by
  rw [entryRegime, indexByTimestamp_eq_none.mpr missing]

/-- Bars behind those up to the entry do not matter to the regime. -/
theorem entryRegime_append {early late : List MarketBar}
    (rising : (early ++ late).Pairwise fun left right => left.timestamp < right.timestamp)
    (lookback : Int)
    (behind : ∀ bar ∈ late, trade.entryDate < bar.timestamp) :
    entryRegime (early ++ late) lookback trade = entryRegime early lookback trade := by
  by_cases there : ∃ bar ∈ early, bar.timestamp = trade.entryDate
  · obtain ⟨bar, member, same⟩ := there
    obtain ⟨index, inside⟩ := List.getElem?_of_mem member
    have bound := (List.getElem?_eq_some_iff.mp inside).1
    have also : (early ++ late)[index]? = some bar := by
      rw [List.getElem?_append_left bound, inside]
    rw [entryRegime_of_getElem? rising also lookback same.symm,
      entryRegime_of_getElem? (List.pairwise_append.mp rising).1 inside lookback same.symm,
      List.take_append_of_le_length bound.le]
  · push Not at there
    rw [entryRegime_of_forall_ne lookback there, entryRegime_of_forall_ne lookback]
    intro bar member
    rcases List.mem_append.mp member with first | second
    · exact there bar first
    · exact (behind bar second).ne'

variable {bars : List MarketBar}

/-- Bars with different timestamps are strictly ordered by them. -/
theorem orderedBars_strict (distinct : (bars.map (·.timestamp)).Nodup) :
    (orderedBars bars).Pairwise fun left right => left.timestamp < right.timestamp := by
  have rising := Py.sortedBy_pairwise MarketBar.timestamp bars
  have apart : ((orderedBars bars).map (·.timestamp)).Nodup := by
    rw [((Py.sortedBy_perm _ _).map _).nodup_iff]
    exact distinct
  rw [List.Nodup, List.pairwise_map] at apart
  exact rising.imp₂ (fun _ _ below different => lt_of_le_of_ne below different) apart

/-- The regime of a trade depends on the bars up to its entry. -/
theorem entryRegime_upTo (distinct : (bars.map (·.timestamp)).Nodup)
    (lookback : Int) (trade : RealBacktestTrade) :
    entryRegime (orderedBars bars) lookback trade =
      entryRegime ((orderedBars bars).filter (·.timestamp ≤ trade.entryDate)) lookback trade := by
  have split := Py.filter_append_filter (Py.sortedBy_pairwise MarketBar.timestamp bars)
    trade.entryDate
  have rising := orderedBars_strict distinct
  rw [orderedBars, ← split] at rising
  conv_lhs => rw [orderedBars, ← split]
  refine entryRegime_append rising lookback fun bar member => ?_
  simpa using (List.mem_filter.mp member).2

/-! ### The filter of the engine -/

/-- A tail of closes classifies a bar as all of them do. -/
theorem classifyMarketRegime_lastSlice (close : ℚ) (closes : List ℚ) (lookback : Int) :
    classifyMarketRegime close (Py.lastSlice lookback closes) lookback =
      classifyMarketRegime close closes lookback := by
  unfold classifyMarketRegime
  by_cases positive : 0 < lookback
  · have length : (Py.lastSlice lookback closes).length = min lookback.toNat closes.length := by
      rw [Py.lastSlice, if_pos positive, List.length_drop]
      omega
    have enough : (lookback ≤ 0 ∨ ((Py.lastSlice lookback closes).length : Int) < lookback) ↔
        (lookback ≤ 0 ∨ (closes.length : Int) < lookback) := by
      rw [length]
      omega
    by_cases short : lookback ≤ 0 ∨ (closes.length : Int) < lookback
    · rw [if_pos short, if_pos (enough.mpr short)]
    · rw [if_neg short, if_neg (mt enough.mp short)]
      have again : Py.lastSlice lookback (Py.lastSlice lookback closes) =
          Py.lastSlice lookback closes := by
        conv_lhs => rw [Py.lastSlice, if_pos positive, length]
        have none_ : min lookback.toNat closes.length - lookback.toNat = 0 := by omega
        rw [none_, List.drop_zero]
      rw [again]
  · rw [if_pos (Or.inl (not_lt.mp positive)), if_pos (Or.inl (not_lt.mp positive))]

/-- The closes of a tail of bars are a tail of the closes. -/
theorem map_lastSlice {α β : Type*} (f : α → β) (count : Int) (items : List α) :
    (Py.lastSlice count items).map f = Py.lastSlice count (items.map f) := by
  unfold Py.lastSlice
  split
  · rw [List.map_drop, List.length_map]
  · rw [List.map_drop]

/-- Where the filter lets an entry through, the regime before the bar is bullish. -/
theorem bull_of_entryDecision {bar : MarketBar} (active : input.regimeActive = true)
    (rule : predicateRuleActive (input.strategy.rules .filter) "regime_bullish_only" = true)
    (decision : input.entryDecision numerals index bar = .ok true) :
    classifyMarketRegime bar.close ((input.bars.take index).map (·.close)) input.regimeLookback =
      some .bull := by
  obtain ⟨window, seen, allowed⟩ := Raise.bind_eq_ok.mp decision
  obtain ⟨triggered, _, conditions⟩ := Raise.bind_eq_ok.mp allowed
  have all := Raise.pure_eq_ok.mp conditions
  simp only [Bool.and_eq_true] at all
  have filters := List.all_eq_true.mp all.2
    ⟨"regime_bullish_only", .filter, false, .predicate predicateRegimeBullishOnly⟩
    (by simp [backtestRuleDefinitions])
  have bullish : (input.context window bar).marketRegime = some .bull := by
    simpa [rule, predicateRegimeBullishOnly] using filters
  have prior : window.prior = input.bars.take index := by
    obtain ⟨_, _, seen⟩ := Raise.bind_eq_ok.mp seen
    obtain ⟨_, _, seen⟩ := Raise.bind_eq_ok.mp seen
    cases Raise.pure_eq_ok.mp seen
    rfl
  simp only [SimulationInput.context, SimulationInput.marketRegime, active, if_true, prior,
    map_lastSlice, classifyMarketRegime_lastSlice] at bullish
  exact bullish

/-! ### Partition -/

/-- Each trade is in the segment of its regime only. -/
theorem existsUnique_regimeBucket (lookback : Int)
    {trades : List RealBacktestTrade} (member : trade ∈ trades) :
    ∃! regime, trade ∈ regimeBucket bars lookback regime trades := by
  refine ⟨entryRegime (orderedBars bars) lookback trade, ?_, fun regime inside => ?_⟩
  · exact List.mem_filter.mpr ⟨member, by simp⟩
  · exact (of_decide_eq_true (List.mem_filter.mp inside).2).symm

/-- A sum over the trades is one over the segments. -/
theorem sum_regimeBuckets {M : Type*} [AddCommMonoid M] (bars : List MarketBar) (lookback : Int)
    (trades : List RealBacktestTrade) (amount : RealBacktestTrade → M) :
    ((regimeBucket bars lookback .bull trades).map amount).sum +
          ((regimeBucket bars lookback .neutral trades).map amount).sum +
        ((regimeBucket bars lookback .bear trades).map amount).sum +
      ((regimeBucket bars lookback .unclassifiable trades).map amount).sum =
      (trades.map amount).sum := by
  unfold regimeBucket
  induction trades with
  | nil => simp
  | cons trade rest ih =>
    rw [List.map_cons, List.sum_cons, ← ih]
    -- The first trade is counted in its own segment.
    cases regime : entryRegime (Py.sortedBy MarketBar.timestamp bars) lookback trade <;>
      simp only [List.filter_cons, regime, decide_true, decide_false, reduceCtorEq, if_true, if_false,
        List.map_cons, List.sum_cons, Bool.false_eq_true] <;> abel

/-- The metrics of a run count its trades. -/
theorem tradeCount_of_run {runId : String} {dataset : MarketDataset}
    {assumptions : BacktestExecutionAssumptionSet} {result : RealBacktestResult}
    (ran : run numerals runId strategy dataset assumptions = .ok result) :
    result.metrics.tradeCount = result.trades.length := by
  rcases lt_or_ge (tradedBars strategy dataset).length 61 with short | enough
  · obtain ⟨_, _, rest⟩ := Raise.bind_eq_ok.mp ran
    dsimp only at rest
    have empty {warning : String} (made : emptyResult numerals runId strategy dataset assumptions
        warning = .ok result) : result.metrics.tradeCount = result.trades.length := by
      obtain ⟨_, _, rest⟩ := Raise.bind_eq_ok.mp made
      obtain rfl := Except.ok.inj rest
      rfl
    split at rest
    · exact empty rest
    · exact empty rest
  · obtain ⟨_, _, _, made⟩ := ran_of_run ran enough
    rw [made.result]
    rfl

/-- The traded bars are in the order of their timestamps. -/
theorem tradedBars_sorted {dataset : MarketDataset} :
    (tradedBars strategy dataset).Pairwise fun left right => left.timestamp ≤ right.timestamp := by
  unfold tradedBars
  split
  · exact Py.sortedBy_pairwise _ _
  · exact Py.sortedBy_pairwise _ _

/-- Some of bars with different timestamps have different timestamps. -/
theorem distinct_filter (distinct : (bars.map (·.timestamp)).Nodup)
    {cond : MarketBar → Bool} : ((bars.filter cond).map (·.timestamp)).Nodup :=
  distinct.sublist (List.filter_sublist.map _)

/-- The segments of a run partition its trades and agree with the regime filter of the engine. -/
theorem regimes_agree {runId : String} {dataset : MarketDataset}
    {assumptions : BacktestExecutionAssumptionSet} {result : RealBacktestResult}
    (ran : run numerals runId strategy dataset assumptions = .ok result) {bars : List MarketBar}
    (traded : bars.Perm (tradedBars strategy dataset))
    (distinct : (bars.map (·.timestamp)).Nodup) : RegimesAgree numerals strategy result bars := by
  refine ⟨fun lookback trade member => existsUnique_regimeBucket lookback member, ?_, ?_, ?_, ?_⟩
  · intro lookback minimum
    have total := sum_regimeBuckets bars lookback result.trades fun _ => 1
    simp only [List.map_const', List.sum_replicate_nat, Nat.mul_one] at total
    rw [tradeCount_of_run ran]
    exact total
  · exact fun lookback minimum => sum_regimeBuckets bars lookback result.trades (·.pnl)
  · intro lookback trade _ others apart same
    have sorted := Py.filter_sortedBy_congr same (distinct_filter apart)
    rw [entryRegime_upTo apart, entryRegime_upTo distinct, orderedBars, orderedBars, sorted]
  · intro active lookback read trade member
    refine List.mem_filter.mpr ⟨member, ?_⟩
    rcases lt_or_ge (tradedBars strategy dataset).length 61 with short | enough
    · rw [(rejected_of_run ran short).2] at member
      cases member
    · obtain ⟨input, capital, final, made⟩ := ran_of_run ran enough
      obtain ⟨⟨index, bar, late, there, entered, decision⟩, _⟩ :=
        entryDate_of_run ran made.prepared member
      have reads := readFrom_of_prepare made.prepared
      -- The engine goes through the same bars in the same order.
      have order : orderedBars bars = input.bars := by
        rw [(prepare_eq_ok made.prepared).1]
        refine Py.eq_of_perm_of_rising ((Py.sortedBy_perm _ bars).trans traded) ?_
          (Py.sortedBy_pairwise _ _) ?_
        · exact ((Py.sortedBy_perm _ bars).map _).nodup_iff.mpr distinct
        · exact tradedBars_sorted
      have rising := orderedBars_strict distinct
      have bull := bull_of_entryDecision (by rw [reads.regimeActive, active])
        (by rw [reads.spec]; exact active) decision
      have lookbacks : input.regimeLookback = lookback := by
        have chosen := reads.regimeLookback
        rw [active, lookbackWhen, if_pos rfl, read] at chosen
        exact (Except.ok.inj chosen).symm
      rw [lookbacks, ← order] at bull
      rw [← order] at there
      rw [decide_eq_true_eq, entryRegime_of_getElem? rising there lookback entered, bull]
      rfl

/-- The breakout strategy with the regime filter. -/
def bullishBreakoutSpec : CanonicalStrategySpec :=
  { breakoutSpec with
    filters := userRules [("regime_bullish_only", .bool true), ("regime_ma_lookback", .int 20)] }

set_option maxRecDepth 4096 in
/-- A run with the regime filter has a trade, in the segment of the bull. -/
theorem bullish_breakout_agrees :
    ∃ result, run noNumerals "run" bullishBreakoutSpec (flatThen [11, 9, 9])
        onePercentCosts = .ok result ∧ result.trades.length = 1 ∧
      RegimesAgree noNumerals bullishBreakoutSpec result (flatThen [11, 9, 9]).bars := by
  have finished : ((run noNumerals "run" bullishBreakoutSpec (flatThen [11, 9, 9])
      onePercentCosts).toOption.map fun result => result.trades.length) = some 1 := by
    decide +kernel
  cases ran : run noNumerals "run" bullishBreakoutSpec (flatThen [11, 9, 9]) onePercentCosts with
  | error raised => simp [ran, Except.toOption] at finished
  | ok result =>
    simp only [ran, Except.toOption, Option.map_some, Option.some.injEq] at finished
    have order : tradedBars bullishBreakoutSpec (flatThen [11, 9, 9]) =
        (flatThen [11, 9, 9]).bars := by
      decide +kernel
    exact ⟨result, rfl, finished,
      regimes_agree ran (by rw [order]) (by decide +kernel)⟩

end StrategyLab
