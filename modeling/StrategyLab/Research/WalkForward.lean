import StrategyLab.Research.PositionDiscipline
import StrategyLab.Research.MultiSymbolValidation

/-! What the test window of a walk-forward split can see of the train window. -/

namespace StrategyLab

open RuleBasedBacktestEngine

variable {numerals : Py.Numerals} {input : SimulationInput}

/-- Whether a bar opens a position when none is open. -/
def SimulationInput.entryDecision (numerals : Py.Numerals) (input : SimulationInput) (index : Nat)
    (bar : MarketBar) : Except BacktestError Bool := do
  let window ← input.window index
  input.entryAllowed numerals (input.context window bar)

/-! ### Positions are entered where the entry condition holds -/

/-- A date is that of a bar after the warm-up on which the entry condition holds. -/
def SimulationInput.EntryDate (numerals : Py.Numerals) (input : SimulationInput)
    (date : String) : Prop :=
  ∃ (index : Nat) (bar : MarketBar), input.warmup ≤ index ∧ input.bars[index]? = some bar ∧
    date = bar.timestamp ∧ input.entryDecision numerals index bar = .ok true

/-- Every position, open or closed, was entered where the entry condition holds. -/
structure EnteredLate (numerals : Py.Numerals) (input : SimulationInput)
    (state : SimulationState) : Prop where
  opened : state.entryPrice ≠ 0 → input.EntryDate numerals state.entryDate
  closed : ∀ position ∈ state.closed, input.EntryDate numerals position.entryDate

variable {bar : MarketBar}

variable {state next : SimulationState}

/-- Selling adds a position that was open before. -/
theorem EnteredLate.leave {reason : ExitReason}
    (late : EnteredLate numerals input state) (sold : state.leave input.costRate bar reason = .ok next) :
    EnteredLate numerals input next := by
  obtain ⟨priced, -, reset, -, -, -, position, closed, -, -, -, entry, -, -⟩ := leave_eq_ok sold
  constructor
  · exact fun still => absurd reset still
  · intro other member
    rw [closed] at member
    rcases List.mem_append.mp member with old | new
    · exact late.closed other old
    · rw [List.mem_singleton.mp new, entry]
      exact late.opened priced

variable {index : Nat}

/-- Every bar keeps the entries where the entry condition holds. -/
theorem EnteredLate.step
    (late : EnteredLate numerals input state) (there : input.bars[index]? = some bar)
    (stepped : BarStep numerals input index bar state next) : EnteredLate numerals input next := by
  have marked : EnteredLate numerals input (state.mark bar) := ⟨late.opened, late.closed⟩
  cases stepped with
  | warmingUp early => exact marked
  | waited after flat seen refused => exact marked
  | entered after flat seen allowed bought =>
    obtain ⟨-, -, closed, -, -, filled, empty⟩ := enter_eq_ok bought
    constructor
    · intro priced
      rcases lt_or_ge 0 next.quantity with shares | none
      · obtain ⟨-, -, date, -⟩ := filled shares
        exact ⟨index, bar, after, there, date, Raise.bind_eq_ok.mpr ⟨_, seen, allowed⟩⟩
      · -- Nothing was bought, so entry price and date are those from before.
        obtain ⟨-, price, date⟩ := empty none
        rw [price] at priced
        rw [date]
        exact late.opened priced
    · rw [closed]
      exact late.closed
  | held after holding seen kept => exact marked
  | exited after holding seen due sold => exact marked.leave sold

/-- After a simulation every closed position was entered where the entry condition holds. -/
theorem enteredLate_simulate {initialCapital : ℚ} {final : SimulationState}
    (simulated : simulate numerals input initialCapital = .ok final) :
    EnteredLate numerals input final := by
  obtain ⟨after, looped, closing⟩ := Raise.bind_eq_ok.mp simulated
  -- Before the first bar nothing is priced and nothing is closed; each bar keeps it so.
  have late : EnteredLate numerals input after := by
    have first : EnteredLate numerals input (.start initialCapital) :=
      ⟨fun priced => absurd rfl priced, fun position member => by cases member⟩
    refine @Loop.upTo_invariant _ _ _ _ (fun _ state => EnteredLate numerals input state) first ?_ _ _ looped
    intro index before next late stepped
    unfold loopBody at stepped
    split at stepped
    · exact late.step ‹_› (stepBar_eq_ok stepped)
    · obtain rfl := Except.ok.inj stepped
      exact late
  unfold closeOut at closing
  split at closing
  · obtain rfl := Except.ok.inj closing
    exact late
  · split at closing
    · obtain rfl := Except.ok.inj closing
      exact late
    · obtain ⟨sold, left, rest⟩ := Raise.bind_eq_ok.mp closing
      obtain rfl := Except.ok.inj rest
      have settled := late.leave left
      exact ⟨settled.opened, settled.closed⟩

variable {assumptions : BacktestExecutionAssumptionSet} {result : RealBacktestResult}
  {trade : RealBacktestTrade} {strategy : CanonicalStrategySpec} {dataset : MarketDataset}

/-- A trade of a run was entered at least sixty traded bars into the data. -/
theorem entry_of_run {runId : String}
    (ran : run numerals runId strategy dataset assumptions = .ok result)
    (traded : trade ∈ result.trades) :
    ∃ (index : Nat) (bar : MarketBar), warmupBars ≤ index ∧
      (tradedBars strategy dataset)[index]? = some bar ∧ trade.entryDate = bar.timestamp := by
  rcases lt_or_ge (tradedBars strategy dataset).length 61 with short | enough
  · rw [(rejected_of_run ran short).2] at traded
    cases traded
  · obtain ⟨input, capital, final, made⟩ := ran_of_run ran enough
    obtain ⟨bars, -⟩ := prepare_eq_ok made.prepared
    rw [made.result] at traded
    obtain ⟨number, within, rfl⟩ := List.mem_mapIdx.mp traded
    obtain ⟨index, bar, late, there, date, -⟩ :=
      (enteredLate_simulate made.simulated).closed _ (List.getElem_mem within)
    have warm : (60 : Int) ≤ input.warmup := le_max_left _ _
    exact ⟨index, bar, by simp only [warmupBars]; omega, bars ▸ there, date⟩

/-! ### The windows of a split -/

/-- Distinct timestamps in order strictly rise. -/
theorem tradedBars_rising_of_nodup
    (unique : ((tradedBars strategy dataset).map (·.timestamp)).Nodup) :
    (tradedBars strategy dataset).Pairwise fun left right => left.timestamp < right.timestamp := by
  have rising : (tradedBars strategy dataset).Pairwise fun left right =>
      left.timestamp ≤ right.timestamp := by
    unfold tradedBars
    split
    · exact Py.sortedBy_pairwise _ _
    · exact Py.sortedBy_pairwise _ _
  rw [List.Nodup, List.pairwise_map] at unique
  exact rising.imp₂ (fun _ _ below different => lt_of_le_of_ne below different) unique

/-- Timestamps that strictly rise are their own timeline. -/
theorem sortedSet_of_rising {bars : List MarketBar}
    (rising : bars.Pairwise fun left right => left.timestamp < right.timestamp) :
    sortedSet (bars.map (·.timestamp)) = bars.map (·.timestamp) := by
  have unique : (bars.map (·.timestamp)).Nodup := by
    rw [List.Nodup, List.pairwise_map]
    exact rising.imp fun below => below.ne
  rw [sortedSet, unique.dedup]
  refine Py.sortedBy_eq_self id ?_
  rw [List.pairwise_map]
  exact rising.imp fun below => below.le

/-- The timeline a split is made on is that of the traded bars. -/
theorem splitTimeline_eq
    (unique : ((tradedBars strategy dataset).map (·.timestamp)).Nodup)
    (some_ : tradedBars strategy dataset ≠ []) :
    splitTimeline (sortedBars dataset.bars) strategy.symbol =
      (tradedBars strategy dataset).map (·.timestamp) := by
  have rising := tradedBars_rising_of_nodup unique
  by_cases traded : ∃ bar ∈ dataset.bars, bar.symbol = strategy.symbol
  · -- The symbol has bars, and sorting them alone is sorting all of them.
    have own : timestampsOf (sortedBars dataset.bars) strategy.symbol =
        (tradedBars strategy dataset).map (·.timestamp) := by
      rw [timestampsOf, sortedBars, Py.filter_sortedBy, ← sortedBars, ← (tradedBars_eq traded).1,
        sortedSet_of_rising rising]
    rw [splitTimeline, own]
    split
    · rename_i empty
      exact absurd (List.map_eq_nil_iff.mp empty) some_
    · rfl
  · have none : dataset.bars.filter (·.symbol = strategy.symbol) = [] := by
      rw [List.filter_eq_nil_iff]
      intro bar member named
      exact traded ⟨bar, member, by simpa using named⟩
    have own : timestampsOf (sortedBars dataset.bars) strategy.symbol = [] := by
      rw [timestampsOf, sortedBars, Py.filter_sortedBy, none]
      rfl
    -- Then the only symbol is traded, and the split falls back to the whole timeline.
    have all : tradedBars strategy dataset = sortedBars dataset.bars := by
      unfold tradedBars at some_ ⊢
      split
      · rfl
      · rename_i several
        rw [if_neg several, none] at some_
        exact absurd rfl some_
    rw [splitTimeline, own, ← all]
    exact sortedSet_of_rising rising

/-- The symbols of a dataset are those of its bars. -/
theorem mem_distinctSymbols {symbol : String} :
    symbol ∈ distinctSymbols dataset ↔ ∃ bar ∈ dataset.bars, bar.symbol = symbol := by
  rw [distinctSymbols, List.mem_dedup, List.mem_map]

/-- The traded bars of a window of a dataset are the traded bars in the window, if there are any. -/
theorem tradedBars_filter {window : MarketDataset} {cond : MarketBar → Bool}
    (bars : window.bars = (sortedBars dataset.bars).filter cond)
    (there : ∃ bar ∈ tradedBars strategy dataset, cond bar) :
    tradedBars strategy window = (tradedBars strategy dataset).filter cond := by
  have sorted : window.bars.Pairwise fun left right => left.timestamp ≤ right.timestamp := by
    rw [bars]
    exact (Py.sortedBy_pairwise _ _).filter cond
  by_cases single : (distinctSymbols dataset).length ≤ 1
  · -- A window of one symbol has one symbol.
    have fewer : (distinctSymbols window).length ≤ (distinctSymbols dataset).length := by
      refine (List.subperm_of_subset (List.nodup_dedup _) fun symbol member => ?_).length_le
      obtain ⟨bar, inside, named⟩ := mem_distinctSymbols.mp member
      rw [bars, List.mem_filter, sortedBars, Py.mem_sortedBy] at inside
      exact mem_distinctSymbols.mpr ⟨bar, inside.1, named⟩
    rw [tradedBars, tradedBars, if_pos single, if_pos (fewer.trans single), sortedBars,
      Py.sortedBy_eq_self _ sorted, bars]
  · obtain ⟨bar, member, inside⟩ := there
    rw [tradedBars, if_neg single, sortedBars, Py.mem_sortedBy, List.mem_filter] at member
    have traded : ∃ bar ∈ window.bars, bar.symbol = strategy.symbol := by
      refine ⟨bar, ?_, by simpa using member.2⟩
      rw [bars, List.mem_filter, sortedBars, Py.mem_sortedBy]
      exact ⟨member.1, inside⟩
    rw [(tradedBars_eq traded).1, tradedBars, if_neg single, sortedBars,
      Py.sortedBy_eq_self _ (sorted.filter _), bars, sortedBars, sortedBars, ← Py.filter_sortedBy,
      List.filter_filter, List.filter_filter]
    exact List.filter_congr fun _ _ => Bool.and_comm _ _

/-- The bars that bound the windows of a split of some traded bars. -/
structure SplitAt (strategy : CanonicalStrategySpec) (dataset train test : MarketDataset)
    (lastTrain firstTest : MarketBar) : Prop where
  trainEnd : (tradedBars strategy dataset)[splitIndex (tradedBars strategy dataset).length - 1]? =
    some lastTrain
  testStart : (tradedBars strategy dataset)[
    splitIndex (tradedBars strategy dataset).length - warmupBars]? = some firstTest
  trainBars : train.bars =
    (sortedBars dataset.bars).filter (·.timestamp ≤ lastTrain.timestamp)
  testBars : test.bars = (sortedBars dataset.bars).filter (firstTest.timestamp ≤ ·.timestamp)

/-- A split of a dataset with traded bars cuts it at two of them. -/
theorem splitAt_of_split {train test : MarketDataset}
    (unique : ((tradedBars strategy dataset).map (·.timestamp)).Nodup)
    (some_ : tradedBars strategy dataset ≠ [])
    (cut : walkForwardTimestampSplit dataset strategy.symbol = .ok (train, test)) :
    ∃ lastTrain firstTest, SplitAt strategy dataset train test lastTrain firstTest := by
  have timeline := splitTimeline_eq unique some_
  have found {index : Nat} {time : String}
      (there : BacktestError.indexError.orRaise
        ((tradedBars strategy dataset).map (·.timestamp))[index]? = .ok time) :
      ∃ bar, (tradedBars strategy dataset)[index]? = some bar ∧ bar.timestamp = time := by
    rw [List.getElem?_map] at there
    cases at_ : (tradedBars strategy dataset)[index]? with
    | none =>
      rw [at_] at there
      cases there
    | some bar =>
      rw [at_] at there
      exact ⟨bar, rfl, Except.ok.inj there⟩
  unfold walkForwardTimestampSplit at cut
  simp only [timeline, List.length_map] at cut
  obtain ⟨trainCutoff, ends, rest⟩ := Raise.bind_eq_ok.mp cut
  obtain ⟨testStart, starts, rest⟩ := Raise.bind_eq_ok.mp rest
  obtain ⟨rfl, rfl⟩ := Prod.mk.inj (Except.ok.inj rest)
  obtain ⟨lastTrain, atEnd, rfl⟩ := found ends
  obtain ⟨firstTest, atStart, rfl⟩ := found starts
  exact ⟨lastTrain, firstTest, atEnd, atStart, rfl, rfl⟩

section Windows

variable {train test : MarketDataset} {lastTrain firstTest : MarketBar}
  (split : SplitAt strategy dataset train test lastTrain firstTest)

include split

/-- A bar of the train window is not later than its last bar. -/
theorem SplitAt.le_lastTrain (inside : bar ∈ train.bars) :
    bar.timestamp ≤ lastTrain.timestamp := by
  rw [split.trainBars, List.mem_filter] at inside
  simpa using inside.2

variable (unique : ((tradedBars strategy dataset).map (·.timestamp)).Nodup)

include unique

/-- The test window trades the bars from its first one on. -/
theorem SplitAt.tradedBars_test :
    tradedBars strategy test = (tradedBars strategy dataset).drop
      (splitIndex (tradedBars strategy dataset).length - warmupBars) := by
  have there : ∃ bar ∈ tradedBars strategy dataset,
      decide (firstTest.timestamp ≤ bar.timestamp) = true :=
    ⟨firstTest, List.mem_of_getElem? split.testStart, by simp⟩
  rw [tradedBars_filter split.testBars there]
  exact Py.filter_eq_drop (tradedBars_rising_of_nodup unique) split.testStart

/-- No traded bar is lost between the windows. -/
theorem SplitAt.covers (traded : bar ∈ tradedBars strategy dataset) :
    bar ∈ train.bars ∨ bar ∈ test.bars := by
  have member : bar ∈ sortedBars dataset.bars := by
    rw [sortedBars, Py.mem_sortedBy]
    exact mem_of_tradedBars traded
  rcases le_or_gt bar.timestamp lastTrain.timestamp with early | late
  · left
    rw [split.trainBars, List.mem_filter]
    exact ⟨member, by simpa using early⟩
  · right
    -- The test window starts no later than the train window ends.
    have before : firstTest.timestamp ≤ lastTrain.timestamp := by
      obtain ⟨inStart, rfl⟩ := List.getElem?_eq_some_iff.mp split.testStart
      obtain ⟨inEnd, rfl⟩ := List.getElem?_eq_some_iff.mp split.trainEnd
      rcases Nat.lt_or_ge (splitIndex (tradedBars strategy dataset).length - warmupBars)
          (splitIndex (tradedBars strategy dataset).length - 1) with apart | same
      · exact (List.pairwise_iff_getElem.mp (tradedBars_rising_of_nodup unique) _ _ inStart inEnd
          apart).le
      · have equal : splitIndex (tradedBars strategy dataset).length - warmupBars =
            splitIndex (tradedBars strategy dataset).length - 1 := by
          simp only [warmupBars] at same ⊢
          omega
        simp only [equal]
        exact le_rfl
    rw [split.testBars, List.mem_filter]
    exact ⟨member, by simpa using before.trans late.le⟩

/-- Trades on the test window are entered after the whole train window. -/
theorem SplitAt.entry_after_train {runId : String}
    (ran : run numerals runId strategy test assumptions = .ok result)
    (made : trade ∈ result.trades)
    (inside : bar ∈ train.bars) : bar.timestamp < trade.entryDate := by
  obtain ⟨index, entered, late, there, date⟩ := entry_of_run ran made
  rw [split.tradedBars_test unique, List.getElem?_drop] at there
  obtain ⟨inEntered, rfl⟩ := List.getElem?_eq_some_iff.mp there
  obtain ⟨inEnd, rfl⟩ := List.getElem?_eq_some_iff.mp split.trainEnd
  refine lt_of_le_of_lt (split.le_lastTrain inside) ?_
  rw [date]
  -- Sixty bars into the test window the train window is over.
  refine List.pairwise_iff_getElem.mp (tradedBars_rising_of_nodup unique) _ _ inEnd inEntered ?_
  simp only [warmupBars] at late ⊢
  omega

end Windows

/-! ### The same decision on the test window -/

/-- Every lookback that a strategy uses is positive and fits into the shared bars. -/
structure ShortLookbacks (input : SimulationInput) : Prop where
  entry : 0 < input.entryLookback ∧ input.entryLookback ≤ warmupBars
  exit : 0 < input.exitLookback ∧ input.exitLookback ≤ warmupBars
  strength : input.rsLookback ≤ warmupBars
  regime : input.regimeLookback ≤ warmupBars

/-- Every symbol of a dataset has a bar wherever the traded symbol has one. -/
def PeersCover (strategy : CanonicalStrategySpec) (dataset : MarketDataset) : Prop :=
  ∀ symbol ∈ distinctSymbols dataset, ∀ bar ∈ tradedBars strategy dataset,
    ∃ peer ∈ dataset.bars, peer.symbol = symbol ∧ peer.timestamp = bar.timestamp

/-- Short lookbacks need no more warm-up than the fixed one. -/
theorem ShortLookbacks.warmup (short : ShortLookbacks input) : input.warmup = 60 := by
  obtain ⟨⟨-, entry⟩, ⟨-, exit⟩, strength, regime⟩ := short
  simp only [warmupBars, Nat.cast_ofNat] at entry exit strength regime
  simp only [SimulationInput.warmup]
  omega

variable {lookback : Int}

/-- A peer series that is cut in front but still long enough has the same return. -/
theorem peerReturn_suffix {short long : List ℚ} (suffix : short <:+ long)
    (positive : 0 < lookback) (enough : lookback + 1 ≤ short.length) :
    peerReturn lookback short = peerReturn lookback long := by
  have longer := suffix.length_le
  have shortEnough : ¬(short.length : Int) < lookback + 1 := by omega
  have longEnough : ¬(long.length : Int) < lookback + 1 := by omega
  -- Both series end with the same closes, and have the same last one.
  have last : short.getLastD 0 = long.getLastD 0 := by
    obtain ⟨front, rfl⟩ := suffix
    cases short with
    | nil => simp at enough; omega
    | cons close rest =>
      rw [List.getLastD_eq_getLast?, List.getLastD_eq_getLast?,
        List.getLast?_append_of_ne_nil _ (List.cons_ne_nil close rest)]
  rw [peerReturn, peerReturn, if_neg shortEnough, if_neg longEnough, last,
    Py.lastSlice_suffix suffix (by omega) enough]

variable {short long : List MarketBar}

/-- The benchmark looks at no more of the own closes than the lookback. -/
theorem benchmarkRelativeStrength_suffix {closeNow : ℚ}
    {series : List (List ℚ)} (suffix : short <:+ long)
    (enough : lookback ≤ short.length) :
    benchmarkRelativeStrength closeNow ((Py.lastSlice lookback short).map (·.close)) series
        lookback =
      benchmarkRelativeStrength closeNow ((Py.lastSlice lookback long).map (·.close)) series
        lookback := by
  rcases lt_or_ge 0 lookback with positive | none
  · rw [Py.lastSlice_suffix suffix positive enough]
  · rw [benchmarkRelativeStrength, benchmarkRelativeStrength, if_pos (.inl none),
      if_pos (.inl none)]

/-- The regime looks at no more of the own closes than the lookback. -/
theorem classifyMarketRegime_suffix {closeNow : ℚ}
    (suffix : short <:+ long) (enough : lookback ≤ short.length) :
    classifyMarketRegime closeNow ((Py.lastSlice lookback short).map (·.close)) lookback =
      classifyMarketRegime closeNow ((Py.lastSlice lookback long).map (·.close)) lookback := by
  rcases lt_or_ge 0 lookback with positive | none
  · rw [Py.lastSlice_suffix suffix positive enough]
  · rw [classifyMarketRegime, classifyMarketRegime, if_pos (.inl none), if_pos (.inl none)]

/-- With the same strength against the peers, cutting off bars that no lookback reaches leaves the
decision as it was. -/
theorem entryDecision_drop {index skipped : Nat} {peers : List (List MarketBar)}
    (short : ShortLookbacks input) (enough : skipped + warmupBars ≤ index)
    (inside : index ≤ input.bars.length)
    (strength : ∀ prior, ({ input with bars := input.bars.drop skipped, peers } :
      SimulationInput).relativeStrength prior bar = input.relativeStrength prior bar) :
    ({ input with bars := input.bars.drop skipped, peers } : SimulationInput).entryDecision numerals
        (index - skipped) bar =
      input.entryDecision numerals index bar := by
  obtain ⟨⟨entryPositive, entry⟩, ⟨exitPositive, exit⟩, rs, regime⟩ := short
  -- What lies before the bar in the window is the end of what lies before it in the whole.
  have prior : (input.bars.drop skipped).take (index - skipped) =
      (input.bars.take index).drop skipped := List.take_drop ▸ by
    congr 2
    omega
  have suffix : (input.bars.take index).drop skipped <:+ input.bars.take index :=
    List.drop_suffix _ _
  have length : warmupBars ≤ ((input.bars.take index).drop skipped).length := by
    rw [List.length_drop, List.length_take, Nat.min_eq_left inside]
    omega
  have slice {count : Int} (positive : 0 < count) (fits : count ≤ warmupBars) :
      Py.lastSlice count ((input.bars.take index).drop skipped) =
        Py.lastSlice count (input.bars.take index) :=
    Py.lastSlice_suffix suffix positive (fits.trans (by exact_mod_cast length))
  have relative : ({ input with bars := input.bars.drop skipped, peers } :
      SimulationInput).relativeStrength ((input.bars.take index).drop skipped) bar =
        input.relativeStrength (input.bars.take index) bar := by
    rw [strength, SimulationInput.relativeStrength, SimulationInput.relativeStrength,
      benchmarkRelativeStrength_suffix suffix (rs.trans (by exact_mod_cast length))]
  have market : input.marketRegime ((input.bars.take index).drop skipped) bar =
      input.marketRegime (input.bars.take index) bar := by
    rw [SimulationInput.marketRegime, SimulationInput.marketRegime,
      classifyMarketRegime_suffix suffix (regime.trans (by exact_mod_cast length))]
  have fixed {count : Int} (positive : 0 < count) (fits : count ≤ 60) :
      Py.lastSlice count ((input.bars.take index).drop skipped) =
        Py.lastSlice count (input.bars.take index) := slice positive fits
  unfold SimulationInput.entryDecision SimulationInput.window
  simp only [prior, slice entryPositive entry, slice exitPositive exit,
    @fixed 20 (by norm_num) (by norm_num), @fixed 60 (by norm_num) (by norm_num), bind_assoc]
  refine bind_congr fun high => bind_congr fun low => ?_
  simp only [pure_bind]
  -- The rules are shown the same, and they are the same rules.
  have shown (high ma20 ma60 volume low : ℚ) :
      ({ input with bars := input.bars.drop skipped, peers } : SimulationInput).context
          ⟨(input.bars.take index).drop skipped, high, ma20, ma60, volume, low⟩ bar =
        input.context ⟨input.bars.take index, high, ma20, ma60, volume, low⟩ bar := by
    simp only [SimulationInput.context, relative, slice entryPositive entry]
    rw [← market]
    rfl
  rw [shown]
  rfl

section Peers

variable {train test : MarketDataset} {lastTrain firstTest : MarketBar}
  (split : SplitAt strategy dataset train test lastTrain firstTest)

include split

/-- The closes of a symbol in the test window are its last closes in the whole dataset. -/
theorem SplitAt.closesUpTo_suffix (time symbol : String) :
    closesUpTo test time symbol <:+ closesUpTo dataset time symbol := by
  have windowed : sortedBars (test.bars.filter (·.symbol = symbol)) =
      (sortedBars (dataset.bars.filter (·.symbol = symbol))).filter
        (firstTest.timestamp ≤ ·.timestamp) := by
    have inOrder : (test.bars.filter (·.symbol = symbol)).Pairwise fun left right =>
        left.timestamp ≤ right.timestamp := by
      rw [split.testBars]
      exact ((Py.sortedBy_pairwise _ _).filter _).filter _
    rw [sortedBars, Py.sortedBy_eq_self _ inOrder, split.testBars, sortedBars, sortedBars,
      ← Py.filter_sortedBy, List.filter_filter, List.filter_filter]
    exact List.filter_congr fun _ _ => Bool.and_comm _ _
  have swapped : ((sortedBars (dataset.bars.filter (·.symbol = symbol))).filter
      (firstTest.timestamp ≤ ·.timestamp)).filter (·.timestamp ≤ time) =
        ((sortedBars (dataset.bars.filter (·.symbol = symbol))).filter
          (·.timestamp ≤ time)).filter (firstTest.timestamp ≤ ·.timestamp) := by
    rw [List.filter_filter, List.filter_filter]
    exact List.filter_congr fun _ _ => Bool.and_comm _ _
  rw [closesUpTo, closesUpTo, windowed, swapped]
  exact (Py.filter_suffix ((Py.sortedBy_pairwise _ _).filter _) _).map _

variable (unique : ((tradedBars strategy dataset).map (·.timestamp)).Nodup)

include unique

/-- A peer that covers the traded bars has enough closes in the test window. -/
theorem SplitAt.enough_closes (cover : PeersCover strategy dataset)
    (late : splitIndex (tradedBars strategy dataset).length ≤ index)
    (there : (tradedBars strategy dataset)[index]? = some bar) {symbol : String}
    (listed : symbol ∈ distinctSymbols dataset) :
    warmupBars + 1 ≤ (closesUpTo test bar.timestamp symbol).length := by
  have rising := tradedBars_rising_of_nodup unique
  -- The traded bars of the test window up to this one: more than the shared ones.
  let seen := ((tradedBars strategy dataset).take (index + 1)).drop
    (splitIndex (tradedBars strategy dataset).length - warmupBars)
  have inside := (List.getElem?_eq_some_iff.mp there).1
  have many : warmupBars + 1 ≤ seen.length := by
    simp only [seen, List.length_drop, List.length_take, splitIndex, minTrainBars, warmupBars]
      at late ⊢
    omega
  have apart : (seen.map (·.timestamp)).Nodup :=
    List.Nodup.sublist (((List.drop_sublist _ _).trans (List.take_sublist _ _)).map _) unique
  have covered : seen.map (·.timestamp) ⊆
      ((sortedBars (test.bars.filter (·.symbol = symbol))).filter
        (·.timestamp ≤ bar.timestamp)).map (·.timestamp) := by
    intro time member
    obtain ⟨own, inSeen, rfl⟩ := List.mem_map.mp member
    obtain ⟨place, placed, rfl⟩ := List.mem_iff_getElem.mp inSeen
    simp only [seen, List.length_drop, List.length_take] at placed
    simp only [seen, List.getElem_drop, List.getElem_take]
    obtain ⟨peer, known, named, same⟩ := cover symbol listed _ (List.getElem_mem (by omega :
      splitIndex (tradedBars strategy dataset).length - warmupBars + place <
        (tradedBars strategy dataset).length))
    have bounds {first last : Nat} {one other : MarketBar} (ordered : first ≤ last)
        (atFirst : (tradedBars strategy dataset)[first]? = some one)
        (atLast : (tradedBars strategy dataset)[last]? = some other) :
        one.timestamp ≤ other.timestamp := by
      obtain ⟨inFirst, rfl⟩ := List.getElem?_eq_some_iff.mp atFirst
      obtain ⟨inLast, rfl⟩ := List.getElem?_eq_some_iff.mp atLast
      rcases Nat.eq_or_lt_of_le ordered with rfl | before
      · exact le_rfl
      · exact (List.pairwise_iff_getElem.mp rising _ _ inFirst inLast before).le
    refine List.mem_map.mpr ⟨peer, ?_, same⟩
    rw [List.mem_filter, sortedBars, Py.mem_sortedBy, List.mem_filter, split.testBars,
      List.mem_filter, sortedBars, Py.mem_sortedBy, same]
    refine ⟨⟨⟨known, ?_⟩, by simpa using named⟩, ?_⟩
    · simpa using bounds (Nat.le_add_right _ _) split.testStart (List.getElem?_eq_getElem _)
    · simpa using bounds (by omega) (List.getElem?_eq_getElem _) there
  have fits := (List.subperm_of_subset apart covered).length_le
  rw [List.length_map, List.length_map] at fits
  rw [closesUpTo, List.length_map]
  exact many.trans fits

/-- A bar behind the split is as strong against the peers of the test window. -/
theorem SplitAt.relativeStrength_eq (cover : PeersCover strategy dataset)
    (late : splitIndex (tradedBars strategy dataset).length ≤ index)
    (there : (tradedBars strategy dataset)[index]? = some bar)
    (fits : input.rsLookback ≤ warmupBars) (peers : input.peers = peerBars strategy dataset)
    (bars : List MarketBar) (prior : List MarketBar) :
    ({ input with bars, peers := peerBars strategy test } : SimulationInput).relativeStrength prior
        bar = input.relativeStrength prior bar := by
  have fewer : ∀ symbol ∈ distinctSymbols test, symbol ∈ distinctSymbols dataset := by
    intro symbol listed
    obtain ⟨other, inside, named⟩ := mem_distinctSymbols.mp listed
    rw [split.testBars, List.mem_filter, sortedBars, Py.mem_sortedBy] at inside
    exact mem_distinctSymbols.mpr ⟨other, inside.1, named⟩
  by_cases single : (distinctSymbols dataset).length ≤ 1
  · -- With one symbol there are no peers, also in the window.
    have testSingle : (distinctSymbols test).length ≤ 1 :=
      (List.subperm_of_subset (List.nodup_dedup _) fewer).length_le.trans single
    have none : peerBars strategy test = input.peers := by
      rw [peers, peerBars, peerBars, if_pos single, if_pos testSingle]
    rw [none]
    rfl
  · have startMember : firstTest ∈ tradedBars strategy dataset :=
      List.mem_of_getElem? split.testStart
    have named : firstTest.symbol = strategy.symbol := by
      rw [tradedBars, if_neg single, sortedBars, Py.mem_sortedBy, List.mem_filter] at startMember
      simpa using startMember.2
    have inTest {peer : MarketBar} (known : peer ∈ dataset.bars)
        (same : peer.timestamp = firstTest.timestamp) : peer ∈ test.bars := by
      rw [split.testBars, List.mem_filter, sortedBars, Py.mem_sortedBy]
      exact ⟨known, by simp [same]⟩
    have tradedTest : ∃ other ∈ test.bars, other.symbol = strategy.symbol :=
      ⟨firstTest, inTest (mem_of_tradedBars startMember) rfl, named⟩
    have traded : ∃ other ∈ dataset.bars, other.symbol = strategy.symbol :=
      ⟨firstTest, mem_of_tradedBars startMember, named⟩
    -- The peers have a bar where the window starts, so none of them is lost.
    have symbols : ((distinctSymbols test).filter (· ≠ strategy.symbol)).Perm
        ((distinctSymbols dataset).filter (· ≠ strategy.symbol)) := by
      have once (source : MarketDataset) :
          ((distinctSymbols source).filter (· ≠ strategy.symbol)).Nodup :=
        (List.nodup_dedup _).filter _
      rw [List.perm_ext_iff_of_nodup (once test) (once dataset)]
      intro symbol
      rw [List.mem_filter, List.mem_filter]
      refine and_congr_left fun _ => ⟨fewer symbol, fun listed => ?_⟩
      obtain ⟨peer, known, called, same⟩ := cover symbol listed firstTest startMember
      exact mem_distinctSymbols.mpr ⟨peer, inTest known same, called⟩
    simp only [SimulationInput.relativeStrength]
    split
    · refine benchmarkRelativeStrength_congr fun positive => ?_
      rw [peers, (tradedBars_eq tradedTest).2, (tradedBars_eq traded).2, List.map_map,
        List.map_map, List.filterMap_map, List.filterMap_map]
      refine (symbols.filterMap _).trans (List.Perm.of_eq (List.filterMap_congr ?_))
      intro symbol member
      have enough := split.enough_closes unique cover late there (List.mem_filter.mp member).1
      have long : input.rsLookback + 1 ≤ (closesUpTo test bar.timestamp symbol).length := by
        have counted : ((warmupBars + 1 : Nat) : Int) ≤
            (closesUpTo test bar.timestamp symbol).length := by exact_mod_cast enough
        push_cast at counted
        omega
      exact peerReturn_suffix (split.closesUpTo_suffix bar.timestamp symbol) positive long
    · rfl

end Peers

/-- What a walk-forward split promises: trades on the test window come after the train window, no
traded bar is lost, and the test window decides on an entry as the whole dataset does. -/
structure NoLeak (numerals : Py.Numerals) (strategy : CanonicalStrategySpec)
    (dataset train test : MarketDataset) : Prop where
  entries : ∀ runId assumptions result,
    run numerals runId strategy test assumptions = .ok result → ∀ trade ∈ result.trades,
      ∀ bar ∈ tradedBars strategy dataset, bar ∈ train.bars → bar.timestamp < trade.entryDate
  complete : ∀ bar ∈ tradedBars strategy dataset, bar ∈ train.bars ∨ bar ∈ test.bars
  decisions : ∀ assumptions input fold,
    prepare numerals strategy assumptions (tradedBars strategy dataset)
      (peerBars strategy dataset) = .ok input →
    prepare numerals strategy assumptions (tradedBars strategy test) (peerBars strategy test) =
      .ok fold → ShortLookbacks input → PeersCover strategy dataset →
    ∀ index bar, splitIndex input.bars.length ≤ index → input.bars[index]? = some bar →
      let shifted := index - (splitIndex input.bars.length - warmupBars)
      fold.bars[shifted]? = some bar ∧ input.warmup ≤ index ∧ fold.warmup ≤ shifted ∧
        fold.entryDecision numerals shifted bar = input.entryDecision numerals index bar

/-- With distinct timestamps of the traded symbol the test window leaks nothing of the train
window. -/
theorem walk_forward_no_leak {strategy : CanonicalStrategySpec} {dataset train test : MarketDataset}
    (unique : ((tradedBars strategy dataset).map (·.timestamp)).Nodup)
    (cut : walkForwardTimestampSplit dataset strategy.symbol = .ok (train, test)) :
    NoLeak numerals strategy dataset train test := by
  by_cases empty : tradedBars strategy dataset = []
  · -- Without traded bars there is nothing to leak.
    refine ⟨fun _ _ _ _ _ _ bar traded => ?_, fun bar traded => ?_, ?_⟩
    · rw [empty] at traded
      cases traded
    · rw [empty] at traded
      cases traded
    · intro assumptions input fold prepared _ _ _ index bar _ there
      rw [(prepare_eq_ok prepared).1, empty] at there
      cases there
  · obtain ⟨lastTrain, firstTest, split⟩ := splitAt_of_split unique empty cut
    refine ⟨?_, fun bar traded => split.covers unique traded, ?_⟩
    · exact fun runId assumptions result ran trade made bar _ inside =>
        split.entry_after_train unique ran made inside
    · intro assumptions input fold prepared foldPrepared short cover index bar late there shifted
      obtain ⟨bars, peers, others⟩ := prepare_eq_ok prepared
      obtain rfl := Except.ok.inj ((others _ _).symm.trans foldPrepared)
      have whole := short.warmup
      have inside := (List.getElem?_eq_some_iff.mp there).1
      -- A bar behind the split has the shared bars before it in both.
      have room : splitIndex input.bars.length - warmupBars + warmupBars ≤ index := by
        simp only [splitIndex, minTrainBars, warmupBars] at late ⊢
        omega
      have shiftedWarm : (60 : Int) ≤ shifted := by
        simp only [shifted, warmupBars] at room ⊢
        omega
      have windowBars := split.tradedBars_test unique
      rw [← bars] at windowBars
      refine ⟨?_, ?_, ?_, ?_⟩
      · simp only [windowBars, List.getElem?_drop]
        rw [← there]
        congr 1
        simp only [shifted]
        omega
      · rw [whole]
        simp only [warmupBars] at room
        omega
      · exact short.warmup.le.trans shiftedWarm
      · rw [bars] at late there
        simp only [windowBars]
        exact entryDecision_drop short room inside.le
          (split.relativeStrength_eq unique cover late there short.strength peers _)

/-- Seventy-one still days, a breakout, and a fall. -/
def lateBreakout : MarketDataset := flatThen (List.replicate 11 10 ++ [11, 9, 9, 9])

set_option maxRecDepth 4096 in
/-- The trade of a late breakout is found on the test window, and nothing leaks into it. -/
theorem late_breakout_no_leak :
    ∃ train test result,
      walkForwardTimestampSplit lateBreakout breakoutSpec.symbol = .ok (train, test) ∧
      run noNumerals "run" breakoutSpec test onePercentCosts = .ok result ∧
      result.trades.map (·.entryDate) = ["2026-03-16"] ∧
      NoLeak noNumerals breakoutSpec lateBreakout train test := by
  have traded : ((walkForwardTimestampSplit lateBreakout breakoutSpec.symbol).toOption.bind
      fun windows => (run noNumerals "run" breakoutSpec windows.2 onePercentCosts).toOption.map
        fun result => result.trades.map (·.entryDate)) = some ["2026-03-16"] := by decide +kernel
  cases cut : walkForwardTimestampSplit lateBreakout breakoutSpec.symbol with
  | error raised => simp [cut, Except.toOption] at traded
  | ok windows =>
    obtain ⟨train, test⟩ := windows
    cases ran : run noNumerals "run" breakoutSpec test onePercentCosts with
    | error raised => simp [cut, ran, Except.toOption] at traded
    | ok result =>
      refine ⟨train, test, result, rfl, ran, ?_, walk_forward_no_leak (by decide +kernel) cut⟩
      simpa [cut, ran, Except.toOption] using traded

end StrategyLab
