import StrategyLab.Research.EquityReconciliation
import Mathlib.Data.List.Dedup

/-! What bars after the end of a dataset can change about a backtest on it. -/

namespace StrategyLab

open RuleBasedBacktestEngine

variable {numerals : Py.Numerals} {input : SimulationInput} {strategy : CanonicalStrategySpec}

/-- Two datasets have the same bars up to a time; after it they may differ in any way. -/
def SameUpTo (cut : String) (dataset later : MarketDataset) : Prop :=
  (dataset.bars.filter (·.timestamp ≤ cut)).Perm (later.bars.filter (·.timestamp ≤ cut))

/-- No symbol has two bars with one timestamp. -/
def DistinctTimestamps (dataset : MarketDataset) : Prop :=
  (dataset.bars.map fun bar => (bar.symbol, bar.timestamp)).Nodup

variable {dataset : MarketDataset}

/-- The bars of one symbol have distinct timestamps, also under a further condition. -/
theorem DistinctTimestamps.of_symbol
    (distinct : DistinctTimestamps dataset) (symbol : String) (cond : MarketBar → Bool) :
    (((dataset.bars.filter (·.symbol = symbol)).filter cond).map (·.timestamp)).Nodup := by
  have sub : ((dataset.bars.filter (·.symbol = symbol)).filter cond).Sublist dataset.bars :=
    List.filter_sublist.trans List.filter_sublist
  have pairs : (((dataset.bars.filter (·.symbol = symbol)).filter cond).map
      fun bar => (bar.symbol, bar.timestamp)).Nodup := List.Nodup.sublist (sub.map _) distinct
  -- All these bars share the symbol, so their timestamps tell the pairs apart.
  have named : ((dataset.bars.filter (·.symbol = symbol)).filter cond).map
      (fun bar => (bar.symbol, bar.timestamp)) =
      (((dataset.bars.filter (·.symbol = symbol)).filter cond).map (·.timestamp)).map
        (fun time => (symbol, time)) := by
    rw [List.map_map]
    refine List.map_congr_left fun bar member => ?_
    have same : bar.symbol = symbol := by
      simpa using (List.mem_filter.mp (List.mem_filter.mp member).1).2
    simp [same]
  rw [named] at pairs
  exact pairs.of_map _

variable {dataset later : MarketDataset}

/-- The bars of one symbol up to a time before the cut are the same in both datasets. -/
theorem SameUpTo.of_symbol {cut time : String}
    (same : SameUpTo cut dataset later) (before : time ≤ cut) (symbol : String) :
    ((dataset.bars.filter (·.symbol = symbol)).filter (·.timestamp ≤ time)).Perm
      ((later.bars.filter (·.symbol = symbol)).filter (·.timestamp ≤ time)) := by
  have narrowed (bars : List MarketBar) :
      (bars.filter (·.symbol = symbol)).filter (·.timestamp ≤ time) =
        (bars.filter (·.timestamp ≤ cut)).filter fun bar =>
          bar.timestamp ≤ time && bar.symbol = symbol := by
    rw [List.filter_filter, List.filter_filter]
    refine List.filter_congr fun bar _ => ?_
    by_cases early : bar.timestamp ≤ time
    · have cutEarly : bar.timestamp ≤ cut := early.trans before
      simp [early, cutEarly]
    · simp [early]
  rw [narrowed, narrowed]
  exact List.Perm.filter _ same

/-- With a bar of the traded symbol, that symbol is traded, also when it is the only one. -/
theorem tradedBars_eq (traded : ∃ bar ∈ dataset.bars, bar.symbol = strategy.symbol) :
    tradedBars strategy dataset =
        sortedBars (dataset.bars.filter (·.symbol = strategy.symbol)) ∧
      peerBars strategy dataset = ((distinctSymbols dataset).filter (· ≠ strategy.symbol)).map
        fun symbol => sortedBars (dataset.bars.filter (·.symbol = symbol)) := by
  by_cases single : (distinctSymbols dataset).length ≤ 1
  · obtain ⟨bar, member, named⟩ := traded
    have listed : strategy.symbol ∈ distinctSymbols dataset := by
      rw [distinctSymbols, List.mem_dedup, ← named]
      exact List.mem_map_of_mem member
    -- The traded symbol is there, so it is the only one.
    have only : distinctSymbols dataset = [strategy.symbol] := by
      obtain ⟨symbol, rest⟩ := List.length_eq_one_iff.mp
        (Nat.le_antisymm single (List.length_pos_of_mem listed))
      rw [rest] at listed ⊢
      rw [List.mem_singleton.mp listed]
    have all : dataset.bars.filter (·.symbol = strategy.symbol) = dataset.bars := by
      rw [List.filter_eq_self]
      intro other inside
      have known : other.symbol ∈ distinctSymbols dataset := by
        rw [distinctSymbols, List.mem_dedup]
        exact List.mem_map_of_mem inside
      rw [only] at known
      simpa using known
    constructor
    · rw [tradedBars, if_pos single, all]
    · rw [peerBars, if_pos single, only]
      simp
  · exact ⟨by rw [tradedBars, if_neg single], by rw [peerBars, if_neg single]⟩

/-- The closes of one symbol up to a time, as the benchmark sees them. -/
def closesUpTo (dataset : MarketDataset) (time symbol : String) : List ℚ :=
  ((sortedBars (dataset.bars.filter (·.symbol = symbol))).filter (·.timestamp ≤ time)).map (·.close)

/-- The closes of a symbol up to a time before the cut are the same in both datasets. -/
theorem closesUpTo_congr {cut time : String}
    (distinct : DistinctTimestamps dataset) (same : SameUpTo cut dataset later)
    (before : time ≤ cut) (symbol : String) :
    closesUpTo dataset time symbol = closesUpTo later time symbol := by
  have sorted := Py.filter_sortedBy_congr (same.of_symbol before symbol)
    (distinct.of_symbol symbol (·.timestamp ≤ time))
  rw [closesUpTo, closesUpTo, sortedBars, sortedBars, sorted]

/-- A symbol without bars in a dataset contributes no return to the benchmark. -/
theorem mem_symbols_of_peerReturn {time symbol : String} {lookback : Int} (positive : 0 < lookback)
    (counts : peerReturn lookback (closesUpTo dataset time symbol) ≠ none) :
    symbol ∈ distinctSymbols dataset := by
  by_contra absent
  have none : dataset.bars.filter (·.symbol = symbol) = [] := by
    rw [List.filter_eq_nil_iff]
    intro bar member named
    refine absent ?_
    rw [distinctSymbols, List.mem_dedup]
    exact List.mem_map.mpr ⟨bar, member, by simpa using named⟩
  refine counts ?_
  have short : ((closesUpTo dataset time symbol).length : Int) < lookback + 1 := by
    simp only [closesUpTo, sortedBars, none]
    simp [Py.sortedBy]
    omega
  rw [peerReturn, if_pos short]

/-- The benchmark depends on the returns of the peers, in any order. -/
theorem benchmarkRelativeStrength_congr {closeNow : ℚ} {prior : List ℚ} {lookback : Int}
    {series other : List (List ℚ)}
    (same : 0 < lookback →
      (series.filterMap (peerReturn lookback)).Perm (other.filterMap (peerReturn lookback))) :
    benchmarkRelativeStrength closeNow prior series lookback =
      benchmarkRelativeStrength closeNow prior other lookback := by
  unfold benchmarkRelativeStrength
  by_cases refused : lookback ≤ 0 ∨ (prior.length : Int) < lookback
  · rw [if_pos refused, if_pos refused]
  · rw [if_neg refused, if_neg refused]
    have perm := same (by omega)
    have none : series.filterMap (peerReturn lookback) = [] ↔
        other.filterMap (peerReturn lookback) = [] :=
      ⟨fun empty => (empty ▸ perm).nil_eq.symm, fun empty => (empty ▸ perm).eq_nil⟩
    simp only [perm.sum_eq, perm.length_eq, none]

/-- On a bar before the cut the symbol is as strong against the peers of both datasets. -/
theorem relativeStrength_congr {cut : String}
    (distinct : DistinctTimestamps dataset) (same : SameUpTo cut dataset later)
    {prior : List MarketBar} {bar : MarketBar} (before : bar.timestamp ≤ cut)
    (bars otherBars : List MarketBar) :
    let symbols := fun dataset => (distinctSymbols dataset).filter (· ≠ strategy.symbol)
    let series := fun (dataset : MarketDataset) symbol =>
      sortedBars (dataset.bars.filter (·.symbol = symbol))
    ({ input with bars, peers := (symbols dataset).map (series dataset) } :
        SimulationInput).relativeStrength prior bar =
      ({ input with bars := otherBars, peers := (symbols later).map (series later) } :
        SimulationInput).relativeStrength prior bar := by
  intro symbols series
  simp only [SimulationInput.relativeStrength]
  split
  · refine benchmarkRelativeStrength_congr fun positive => ?_
    -- Both benchmarks take the same returns, from the symbols that have bars before the cut.
    have returns (source : MarketDataset) (other : MarketDataset)
        (closes : ∀ symbol, closesUpTo source bar.timestamp symbol =
          closesUpTo other bar.timestamp symbol) :
        (((symbols source).map (series source)).map fun peerBars =>
          (peerBars.filter (·.timestamp ≤ bar.timestamp)).map (·.close)).filterMap
            (peerReturn input.rsLookback) =
          (symbols source).filterMap fun symbol =>
            peerReturn input.rsLookback (closesUpTo other bar.timestamp symbol) := by
      rw [List.map_map, List.filterMap_map]
      refine List.filterMap_congr fun symbol _ => ?_
      rw [← closes symbol]
      rfl
    have closes := closesUpTo_congr distinct same before
    rw [returns dataset later closes, returns later later fun _ => rfl]
    refine Py.filterMap_perm ((List.nodup_dedup _).filter _) ((List.nodup_dedup _).filter _)
      fun symbol counts => ?_
    have inLater := mem_symbols_of_peerReturn positive counts
    rw [← closes symbol] at counts
    have inDataset := mem_symbols_of_peerReturn positive counts
    simp [symbols, inLater, inDataset]
  · rfl

/-- Other bars and peers that agree with an input on its first bars and on the strength there. -/
structure AgreeUpTo (count : Nat) (input : SimulationInput) (bars : List MarketBar)
    (peers : List (List MarketBar)) : Prop where
  same : bars.take count = input.bars.take count
  enough : count ≤ input.bars.length
  otherEnough : count ≤ bars.length
  strength : ∀ bar ∈ input.bars.take count, ∀ prior,
    ({ input with bars, peers } : SimulationInput).relativeStrength prior bar =
      input.relativeStrength prior bar

section Agreeing

variable {count index : Nat} {bars : List MarketBar} {peers : List (List MarketBar)}
  (agree : AgreeUpTo count input bars peers)

include agree

/-- Both have the same bars at the first positions. -/
theorem AgreeUpTo.getElem? (before : index < count) : bars[index]? = input.bars[index]? := by
  rw [← List.getElem?_take_of_lt before, agree.same, List.getElem?_take_of_lt before]

/-- Both have the same bars before the first positions. -/
theorem AgreeUpTo.take (before : index ≤ count) : bars.take index = input.bars.take index := by
  have cut := congrArg (List.take index) agree.same
  rwa [List.take_take, List.take_take, Nat.min_eq_left before] at cut

/-- Before the last common bar, which may be the last bar of one of them, both decide the same. -/
theorem AgreeUpTo.stepBar {bar : MarketBar} (there : input.bars[index]? = some bar)
    (before : index + 1 < count) (state : SimulationState) :
    stepBar numerals input index bar state =
      stepBar numerals { input with bars, peers } index bar state := by
  have member : bar ∈ input.bars.take count := by
    rw [← List.getElem?_take_of_lt (show index < count by omega)] at there
    exact List.mem_of_getElem? there
  have window : ({ input with bars, peers } : SimulationInput).window index =
      input.window index := by
    simp only [SimulationInput.window, agree.take (show index ≤ count by omega)]
  have context (window : PriorWindow) :
      ({ input with bars, peers } : SimulationInput).context window bar =
        input.context window bar := by
    simp only [SimulationInput.context, agree.strength bar member window.prior]
    rfl
  -- Neither of them is at its last bar yet.
  have exits (entryPrice priorLow : ℚ) :
      ({ input with bars, peers } : SimulationInput).exitReason index bar entryPrice priorLow =
        input.exitReason index bar entryPrice priorLow := by
    have enough := agree.enough
    have otherEnough := agree.otherEnough
    have inside : index + 1 ≠ input.bars.length := by omega
    have otherInside : index + 1 ≠ bars.length := by omega
    simp only [SimulationInput.exitReason, if_neg inside, if_neg otherInside]
  simp only [StrategyLab.stepBar, window, context, exits]
  rfl

/-- Before the last common bar both loops do the same. -/
theorem AgreeUpTo.loopBody (before : index + 1 < count) (state : SimulationState) :
    loopBody numerals input index state =
      loopBody numerals { input with bars, peers } index state := by
  have enough := agree.enough
  have there : input.bars[index]? = some input.bars[index] :=
    List.getElem?_eq_getElem (by omega)
  have otherThere := (agree.getElem? (show index < count by omega)).trans there
  rw [loopBody_of_getElem? there, loopBody_of_getElem? otherThere]
  exact agree.stepBar there before state

/-- Both simulations are in the same state before the last common bar. -/
theorem AgreeUpTo.simulateUpTo (initialCapital : ℚ) (early : index < count) :
    simulateUpTo numerals input initialCapital index =
      simulateUpTo numerals { input with bars, peers } initialCapital index :=
  Loop.upTo_congr fun _ below state => agree.loopBody (by omega) state

end Agreeing

variable {early final : SimulationState}

/-- A whole simulation keeps the points and the closed positions of its first bars. -/
theorem simulate_since {initialCapital : ℚ} {count : Nat}
    (reached : simulateUpTo numerals input initialCapital count = .ok early)
    (simulated : simulate numerals input initialCapital = .ok final)
    (inside : count < input.bars.length) :
    final.equityCurve.take count = early.equityCurve ∧
      ∃ extra, final.closed = early.closed ++ extra ∧
        ∀ position ∈ extra, ClosedBetween input count input.bars.length position := by
  obtain ⟨after, looped, closing⟩ := Raise.bind_eq_ok.mp simulated
  have whole : count + (input.bars.length - count) = input.bars.length := by omega
  have grows : Grows input count input.bars.length early after := by
    rw [← whole] at looped ⊢
    exact grows_since reached looped
  obtain ⟨points, curve⟩ := grows.points
  obtain ⟨extra, closed, between⟩ := grows.closed
  have short : early.equityCurve.length = count := length_equityCurve reached (by omega)
  have long : after.equityCurve.length = input.bars.length := length_equityCurve looped le_rfl
  have kept : after.equityCurve.take count = early.equityCurve := by
    rw [curve, ← short, List.take_left']
    rfl
  obtain ⟨points, sold, more, exits⟩ := closeOut_eq_ok closing
  constructor
  · rcases points with same | ⟨point, replaced⟩
    · rw [same, kept]
    · -- Only the last point is replaced, and that one is not among the first.
      have room : count ≤ after.equityCurve.dropLast.length := by
        rw [List.length_dropLast]
        omega
      rw [replaced, List.take_append_of_le_length room, List.dropLast_eq_take, List.take_take,
        Nat.min_eq_left (by omega), kept]
  · refine ⟨extra ++ sold, by rw [more, closed, List.append_assoc], fun position member => ?_⟩
    rcases List.mem_append.mp member with inLoop | atEnd
    · exact between position inLoop
    · obtain ⟨last, there, exit⟩ := exits position atEnd
      rw [List.getLast?_eq_getElem?] at there
      exact ⟨input.bars.length - 1, last, by omega, by omega, there, exit⟩

/-- The position among the bars on which a trade was closed. -/
def exitBarIndex (bars : List MarketBar) (trade : RealBacktestTrade) : Nat :=
  (bars.map (·.timestamp)).idxOf trade.exitDate

/-- The trades of a result that were closed on one of the bars up to a position. -/
def tradesUpTo (bars : List MarketBar) (last : Nat) (result : RealBacktestResult) :
    List RealBacktestTrade :=
  result.trades.filter fun trade => exitBarIndex bars trade ≤ last

section Exits

variable {bars : List MarketBar} {count index : Nat} {bar : MarketBar} (trade : RealBacktestTrade)

/-- A trade closed on an early bar has an early exit. -/
theorem exitBarIndex_lt (there : bars[index]? = some bar) (exit : trade.exitDate = bar.timestamp)
    (before : index < count) : exitBarIndex bars trade < count := by
  have listed : trade.exitDate ∈ bars.map (·.timestamp) := by
    rw [exit]
    exact List.mem_map_of_mem (List.mem_of_getElem? there)
  rw [exitBarIndex, ← List.mem_take_iff_idxOf_lt listed, ← List.map_take, exit]
  rw [← List.getElem?_take_of_lt before] at there
  exact List.mem_map_of_mem (List.mem_of_getElem? there)

/-- A trade closed on a bar from a cut on has a late exit, when the cut tells the bars apart. -/
theorem le_exitBarIndex {cut : MarketBar}
    (rising : bars.Pairwise fun left right => left.timestamp ≤ right.timestamp)
    (atCut : bars[count]? = some cut)
    (apart : ∀ early ∈ bars.take count, early.timestamp < cut.timestamp)
    (there : bars[index]? = some bar) (exit : trade.exitDate = bar.timestamp)
    (after : count ≤ index) : count ≤ exitBarIndex bars trade := by
  have listed : trade.exitDate ∈ bars.map (·.timestamp) := by
    rw [exit]
    exact List.mem_map_of_mem (List.mem_of_getElem? there)
  have notBefore : cut.timestamp ≤ bar.timestamp := by
    obtain ⟨cutInside, rfl⟩ := List.getElem?_eq_some_iff.mp atCut
    obtain ⟨inside, rfl⟩ := List.getElem?_eq_some_iff.mp there
    rcases Nat.eq_or_lt_of_le after with rfl | later
    · exact le_rfl
    · exact List.pairwise_iff_getElem.mp rising count index cutInside inside later
  by_contra early
  rw [not_le, exitBarIndex, ← List.mem_take_iff_idxOf_lt listed, ← List.map_take] at early
  obtain ⟨other, member, same⟩ := List.mem_map.mp early
  have strictly := apart other member
  rw [same, exit] at strictly
  exact absurd strictly (not_lt.mpr notBefore)

end Exits

/-- The trades closed before a cut are the records of the positions closed before it. -/
theorem tradesUpTo_eq {runId : String} {initialCapital : ℚ} {count : Nat} {cut : MarketBar}
    (reached : simulateUpTo numerals input initialCapital (count + 1) = .ok early)
    (simulated : simulate numerals input initialCapital = .ok final)
    (rising : input.bars.Pairwise fun left right => left.timestamp ≤ right.timestamp)
    (atCut : input.bars[count + 1]? = some cut)
    (apart : ∀ bar ∈ input.bars.take (count + 1), bar.timestamp < cut.timestamp) :
    tradesUpTo input.bars count (completedResult runId dataset input initialCapital final) =
      early.closed.mapIdx fun index position => position.record runId index := by
  obtain ⟨inside, -⟩ := List.getElem?_eq_some_iff.mp atCut
  obtain ⟨-, extra, closed, after⟩ := simulate_since reached simulated inside
  obtain ⟨started, fresh, before⟩ :
      ∃ extra, early.closed = [] ++ extra ∧
        ∀ position ∈ extra, ClosedBetween input 0 (0 + (count + 1)) position := by
    have first : simulateUpTo numerals input initialCapital 0 = .ok (.start initialCapital) := rfl
    rw [← Nat.zero_add (count + 1)] at reached
    exact (grows_since first reached).closed
  rw [List.nil_append] at fresh
  subst fresh
  simp only [tradesUpTo, completedResult, closed, List.mapIdx_append, List.filter_append]
  have all : (early.closed.mapIdx fun index position => position.record runId index).filter
      (fun trade => exitBarIndex input.bars trade ≤ count) =
      early.closed.mapIdx fun index position => position.record runId index := by
    rw [List.filter_eq_self]
    intro trade recorded
    obtain ⟨number, within, rfl⟩ := List.mem_mapIdx.mp recorded
    obtain ⟨index, bar, -, below, there, exit⟩ := before _ (List.getElem_mem within)
    have early := exitBarIndex_lt ((early.closed[number]).record runId number) there exit
      (show index < count + 1 by omega)
    simpa using Nat.le_of_lt_succ early
  rw [all, List.filter_eq_nil_iff.mpr, List.append_nil]
  intro trade recorded
  obtain ⟨number, within, rfl⟩ := List.mem_mapIdx.mp recorded
  obtain ⟨index, bar, above, -, there, exit⟩ := after _ (List.getElem_mem within)
  have late := le_exitBarIndex ((extra[number]).record runId (number + early.closed.length)) rising
    atCut apart there exit above
  simpa using Nat.lt_of_succ_le late

/-- A dataset with the traded symbol, its bars in order and apart from each other. -/
theorem tradedBars_rising (distinct : DistinctTimestamps dataset)
    (traded : ∃ bar ∈ dataset.bars, bar.symbol = strategy.symbol) :
    (tradedBars strategy dataset).Pairwise fun left right => left.timestamp < right.timestamp := by
  rw [(tradedBars_eq traded).1, sortedBars]
  have rising := Py.sortedBy_pairwise MarketBar.timestamp
    (dataset.bars.filter (·.symbol = strategy.symbol))
  have apart : ((Py.sortedBy MarketBar.timestamp
      (dataset.bars.filter (·.symbol = strategy.symbol))).map (·.timestamp)).Nodup := by
    rw [((Py.sortedBy_perm _ _).map _).nodup_iff]
    simpa using distinct.of_symbol strategy.symbol fun _ => true
  rw [List.Nodup, List.pairwise_map] at apart
  exact rising.imp₂ (fun _ _ below different => lt_of_le_of_ne below different) apart

variable {last : MarketBar}

/-- The traded bars of a dataset that goes on after the cut start with the ones before. -/
theorem tradedBars_extend (distinct : DistinctTimestamps dataset)
    (traded : ∃ bar ∈ dataset.bars, bar.symbol = strategy.symbol)
    (ends : (tradedBars strategy dataset).getLast? = some last)
    (same : SameUpTo last.timestamp dataset later) :
    (∃ bar ∈ later.bars, bar.symbol = strategy.symbol) ∧
      ∃ rest, tradedBars strategy later = tradedBars strategy dataset ++ rest := by
  have rising := tradedBars_rising distinct traded
  -- Nothing the dataset trades is later than its last traded bar.
  have early : ∀ bar ∈ tradedBars strategy dataset, bar.timestamp ≤ last.timestamp := by
    obtain ⟨before, split⟩ := List.getLast?_eq_some_iff.mp ends
    rw [split] at rising ⊢
    intro bar member
    rcases List.mem_append.mp member with inside | atEnd
    · exact ((List.pairwise_append.mp rising).2.2 bar inside last (by simp)).le
    · rw [List.mem_singleton.mp atEnd]
  have there : ∃ bar ∈ later.bars, bar.symbol = strategy.symbol := by
    have member : last ∈ tradedBars strategy dataset := List.mem_of_getLast? ends
    rw [(tradedBars_eq traded).1, sortedBars, Py.mem_sortedBy, List.mem_filter] at member
    have kept : last ∈ later.bars.filter (·.timestamp ≤ last.timestamp) :=
      same.mem_iff.mp (List.mem_filter.mpr ⟨member.1, by simp⟩)
    exact ⟨last, (List.mem_filter.mp kept).1, by simpa using member.2⟩
  refine ⟨there, (tradedBars strategy later).filter (last.timestamp < ·.timestamp), ?_⟩
  have common := Py.filter_sortedBy_congr (same.of_symbol le_rfl strategy.symbol)
    (distinct.of_symbol strategy.symbol (·.timestamp ≤ last.timestamp))
  have whole : (tradedBars strategy dataset).filter (·.timestamp ≤ last.timestamp) =
      tradedBars strategy dataset := by
    rw [List.filter_eq_self]
    exact fun bar member => by simpa using early bar member
  rw [← whole, (tradedBars_eq traded).1, (tradedBars_eq there).1, sortedBars, sortedBars, common]
  exact (Py.filter_append_filter (Py.sortedBy_pairwise _ _) last.timestamp).symm

variable {assumptions : BacktestExecutionAssumptionSet}

/-- The input of a run on a dataset that goes on agrees with the original input on its bars. -/
theorem agreeUpTo_extend (distinct : DistinctTimestamps dataset)
    (traded : ∃ bar ∈ dataset.bars, bar.symbol = strategy.symbol)
    (ends : (tradedBars strategy dataset).getLast? = some last)
    (same : SameUpTo last.timestamp dataset later)
    (prepared : prepare numerals strategy assumptions (tradedBars strategy dataset)
      (peerBars strategy dataset) = .ok input) :
    AgreeUpTo (tradedBars strategy dataset).length input (tradedBars strategy later)
      (peerBars strategy later) := by
  obtain ⟨there, rest, extended⟩ := tradedBars_extend distinct traded ends same
  obtain ⟨bars, peers, -⟩ := prepare_eq_ok prepared
  have original : input = { input with
      bars := tradedBars strategy dataset, peers := peerBars strategy dataset } := by
    rw [← bars, ← peers]
  have rising := tradedBars_rising distinct traded
  constructor
  · rw [extended, bars, List.take_left', List.take_of_length_le le_rfl]
    rfl
  · rw [bars]
  · rw [extended, List.length_append]
    omega
  · intro bar member prior
    rw [bars, List.take_of_length_le le_rfl] at member
    have before : bar.timestamp ≤ last.timestamp := by
      obtain ⟨front, split⟩ := List.getLast?_eq_some_iff.mp ends
      rw [split] at rising member
      rcases List.mem_append.mp member with inside | atEnd
      · exact ((List.pairwise_append.mp rising).2.2 bar inside last (by simp)).le
      · rw [List.mem_singleton.mp atEnd]
    rw [original, (tradedBars_eq traded).2, (tradedBars_eq there).2]
    exact (relativeStrength_congr distinct same before _ _).symm

/-- With enough bars of the traded symbol, those are the bars that are traded. -/
theorem tradedBars_of_enough
    (enough : 61 ≤ (dataset.bars.filter (·.symbol = strategy.symbol)).length) :
    (∃ bar ∈ dataset.bars, bar.symbol = strategy.symbol) ∧
      61 ≤ (tradedBars strategy dataset).length := by
  have traded : ∃ bar ∈ dataset.bars, bar.symbol = strategy.symbol := by
    have some_ : 0 < (dataset.bars.filter (·.symbol = strategy.symbol)).length := by omega
    obtain ⟨bar, member⟩ := List.exists_mem_of_length_pos some_
    exact ⟨bar, (List.mem_filter.mp member).1, by simpa using (List.mem_filter.mp member).2⟩
  refine ⟨traded, ?_⟩
  rw [(tradedBars_eq traded).1, sortedBars, Py.length_sortedBy]
  exact enough

/-- Runs on a dataset and on one that goes on are in one state before the last bar of the first. -/
theorem shared_state {runId : String} {result extended : RealBacktestResult}
    (enough : 61 ≤ (dataset.bars.filter (·.symbol = strategy.symbol)).length)
    (distinct : DistinctTimestamps dataset)
    (ends : (tradedBars strategy dataset).getLast? = some last)
    (same : SameUpTo last.timestamp dataset later)
    (ran : run numerals runId strategy dataset assumptions = .ok result)
    (ranLater : run numerals runId strategy later assumptions = .ok extended) :
    ∃ input other capital final otherFinal early,
      Ran numerals runId strategy dataset assumptions result input capital final ∧
      Ran numerals runId strategy later assumptions extended other capital otherFinal ∧
      input.bars = tradedBars strategy dataset ∧ other.bars = tradedBars strategy later ∧
      simulateUpTo numerals input capital ((tradedBars strategy dataset).length - 2 + 1) =
        .ok early ∧
      simulateUpTo numerals other capital ((tradedBars strategy dataset).length - 2 + 1) =
        .ok early := by
  obtain ⟨traded, long⟩ := tradedBars_of_enough enough
  obtain ⟨-, rest, grown⟩ := tradedBars_extend distinct traded ends same
  -- Both runs read the same parameters, and their inputs agree on the bars of the dataset.
  obtain ⟨input, capital, final, made⟩ := ran_of_run ran long
  obtain ⟨bars, -, others⟩ := prepare_eq_ok made.prepared
  have agree := agreeUpTo_extend distinct traded ends same made.prepared
  have otherLong : 61 ≤ (tradedBars strategy later).length := by
    rw [grown, List.length_append]
    omega
  obtain ⟨other, otherCapital, otherFinal, otherMade⟩ := ran_of_run ranLater otherLong
  obtain rfl : capital = otherCapital :=
    Except.ok.inj (made.capital.symm.trans otherMade.capital)
  obtain rfl : { input with bars := tradedBars strategy later, peers := peerBars strategy later } =
      other := Except.ok.inj ((others _ _).symm.trans otherMade.prepared)
  have whole : (tradedBars strategy dataset).length - 2 + 1 + 1 = input.bars.length := by
    rw [bars]
    omega
  obtain ⟨after, looped, -⟩ := Raise.bind_eq_ok.mp made.simulated
  rw [simulateUpTo, ← whole] at looped
  obtain ⟨early, reached, -⟩ := Loop.upTo_succ_eq_ok.mp looped
  refine ⟨input, _, capital, final, otherFinal, early, made, otherMade, bars, rfl, reached, ?_⟩
  rw [← agree.simulateUpTo capital (by omega)]
  exact reached

/-- Bars added or altered after the last traded bar of a dataset change neither the equity on an
earlier bar nor the trades that were closed before it. -/
theorem no_look_ahead {runId : String} {dataset later : MarketDataset}
    {assumptions : BacktestExecutionAssumptionSet} {result extended : RealBacktestResult}
    {last : MarketBar}
    (enough : 61 ≤ (dataset.bars.filter (·.symbol = strategy.symbol)).length)
    (distinct : DistinctTimestamps dataset)
    (ends : (tradedBars strategy dataset).getLast? = some last)
    (same : SameUpTo last.timestamp dataset later)
    (ran : run numerals runId strategy dataset assumptions = .ok result)
    (ranLater : run numerals runId strategy later assumptions = .ok extended) :
    let count := (tradedBars strategy dataset).length
    (∀ index, index < count - 1 → ∃ point,
      result.equityCurve[index]? = some point ∧ extended.equityCurve[index]? = some point) ∧
      tradesUpTo (tradedBars strategy dataset) (count - 2) result =
        tradesUpTo (tradedBars strategy later) (count - 2) extended := by
  intro count
  obtain ⟨traded, long⟩ := tradedBars_of_enough enough
  obtain ⟨there, rest, grown⟩ := tradedBars_extend distinct traded ends same
  obtain ⟨input, other, capital, final, otherFinal, early, made, otherMade, bars, otherBars,
    reached, otherReached⟩ := shared_state enough distinct ends same ran ranLater
  have inside : count - 2 + 1 < input.bars.length := by
    rw [bars]
    omega
  have otherInside : count - 2 + 1 < other.bars.length := by
    rw [otherBars, grown, List.length_append]
    omega
  constructor
  · -- Both curves begin with the points of the common state.
    intro index before
    obtain ⟨curve, -⟩ := simulate_since reached made.simulated inside
    obtain ⟨otherCurve, -⟩ := simulate_since otherReached otherMade.simulated otherInside
    have length := length_equityCurve reached inside.le
    have short : index < count - 2 + 1 := by omega
    refine ⟨early.equityCurve[index], ?_, ?_⟩
    · rw [made.result, completedResult, ← List.getElem?_take_of_lt short, curve]
      exact List.getElem?_eq_getElem _
    · rw [otherMade.result, completedResult, ← List.getElem?_take_of_lt short, otherCurve]
      exact List.getElem?_eq_getElem _
  · -- Both lists of early trades are the records of the positions closed in the common state.
    obtain ⟨front, split⟩ := List.getLast?_eq_some_iff.mp ends
    have rising := tradedBars_rising distinct traded
    have cut : front.length = count - 2 + 1 := by
      have total := congrArg List.length split
      rw [List.length_append, List.length_singleton] at total
      omega
    have apart : ∀ bar ∈ front, bar.timestamp < last.timestamp := by
      rw [split] at rising
      exact fun bar member => (List.pairwise_append.mp rising).2.2 bar member last (by simp)
    have first (bars : List MarketBar) (more : List MarketBar)
        (starts : bars = front ++ ([last] ++ more)) :
        bars[count - 2 + 1]? = some last ∧
          ∀ bar ∈ bars.take (count - 2 + 1), bar.timestamp < last.timestamp := by
      rw [starts, ← cut, List.take_left']
      · exact ⟨by simp, apart⟩
      · rfl
    have otherRising : other.bars.Pairwise fun left right =>
        left.timestamp ≤ right.timestamp := by
      rw [otherBars, (tradedBars_eq there).1]
      exact Py.sortedBy_pairwise _ _
    obtain ⟨atCut, below⟩ := first input.bars [] (by rw [bars, split]; simp)
    obtain ⟨otherAtCut, otherBelow⟩ := first other.bars rest
      (by rw [otherBars, grown, split, List.append_assoc])
    rw [made.result, otherMade.result, ← bars, ← otherBars,
      tradesUpTo_eq reached made.simulated (by rw [bars]; exact rising.imp le_of_lt) atCut below,
      tradesUpTo_eq otherReached otherMade.simulated otherRising otherAtCut otherBelow]

/-- The sample data with one more day of the symbol and one of another symbol. -/
def goesOn : MarketDataset :=
  { flatThen [11, 9, 9] with
    bars := (flatThen [11, 9, 9]).bars ++
      [stillBar 63 20, { stillBar 64 5 with symbol := "000660" }] }

set_option maxRecDepth 4096 in
/-- On the sample data a later day and a later peer leave the earlier equity and trades alone. -/
theorem later_days_ignored :
    ∃ result extended,
      run noNumerals "run" breakoutSpec (flatThen [11, 9, 9]) onePercentCosts = .ok result ∧
      run noNumerals "run" breakoutSpec goesOn onePercentCosts = .ok extended ∧
      let count := (tradedBars breakoutSpec (flatThen [11, 9, 9])).length
      (∀ index, index < count - 1 → ∃ point,
        result.equityCurve[index]? = some point ∧ extended.equityCurve[index]? = some point) ∧
        tradesUpTo (tradedBars breakoutSpec (flatThen [11, 9, 9])) (count - 2) result =
          tradesUpTo (tradedBars breakoutSpec goesOn) (count - 2) extended := by
  have finished : (run noNumerals "run" breakoutSpec (flatThen [11, 9, 9])
      onePercentCosts).toBool = true := by decide +kernel
  have otherFinished : (run noNumerals "run" breakoutSpec goesOn
      onePercentCosts).toBool = true := by decide +kernel
  have ends : (tradedBars breakoutSpec (flatThen [11, 9, 9])).getLast? = some (stillBar 62 9) := by
    decide +kernel
  have distinct : DistinctTimestamps (flatThen [11, 9, 9]) := by
    unfold DistinctTimestamps
    decide +kernel
  have same : SameUpTo (stillBar 62 9).timestamp (flatThen [11, 9, 9]) goesOn := by
    unfold SameUpTo
    decide +kernel
  cases ran : run noNumerals "run" breakoutSpec (flatThen [11, 9, 9]) onePercentCosts with
  | error raised => simp [ran, Except.toBool] at finished
  | ok result =>
    cases ranLater : run noNumerals "run" breakoutSpec goesOn onePercentCosts with
    | error raised => simp [ranLater, Except.toBool] at otherFinished
    | ok extended =>
      exact ⟨result, extended, rfl, rfl,
        no_look_ahead (by decide +kernel) distinct ends same ran ranLater⟩

end StrategyLab
