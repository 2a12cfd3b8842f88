import StrategyLab.Lib.Dict
import StrategyLab.Lib.Openings
import StrategyLab.Research.SignalDiagnostics

/-! What a larger breakout lookback does to the entries and to the trades of the backtest engine. -/

namespace StrategyLab

open RuleBasedBacktestEngine

variable {numerals : Py.Numerals} {n m : Int}

/-- Two breakout specifications of which the second only has a larger lookback. -/
structure LargerLookback (numerals : Py.Numerals) (small large : CanonicalStrategySpec)
    (n m : Int) : Prop where
  positive : 0 < n
  larger : n < m
  reads : paramBreakoutLookback numerals small = .ok n
  readsLarge : paramBreakoutLookback numerals large = .ok m
  entry : ∀ key ≠ "breakout_lookback", large.entry.get key = small.entry.get key
  exit : large.exit = small.exit
  filters : large.filters = small.filters

/-- Two simulations of which the second only looks further back for a breakout. -/
structure LooksFurther (short long : SimulationInput) : Prop where
  bars : long.bars = short.bars
  peers : long.peers = short.peers
  costRate : long.costRate = short.costRate
  trigger : short.entryTrigger = entryTriggerBreakout
  triggerLong : long.entryTrigger = entryTriggerBreakout
  positive : 0 < short.entryLookback
  further : short.entryLookback < long.entryLookback
  exitLookback : long.exitLookback = short.exitLookback
  stopPct : long.stopPct = short.stopPct
  rsActive : long.rsActive = short.rsActive
  rsLookback : long.rsLookback = short.rsLookback
  regimeActive : long.regimeActive = short.regimeActive
  regimeLookback : long.regimeLookback = short.regimeLookback
  entry : ∀ key ≠ "breakout_lookback",
    predicateRuleActive long.strategy.entry key = predicateRuleActive short.strategy.entry key
  filters : long.strategy.filters = short.strategy.filters

/-- A rule that is read is carried. -/
theorem mem_keys_of_require {rules : RuleMap} {key : String} {field : ProvenancedValue}
    (read : rules.require key = .ok field) : key ∈ rules.keys := by
  rw [RuleMap.require, RuleMap.get] at read
  cases found : rules.find? key with
  | none =>
    rw [found] at read
    cases read
  | some rule =>
    have there : key ∈ rules.keyList := Table.mem_keyList_iff.mpr (by rw [found]; rfl)
    exact there

variable {strategy : CanonicalStrategySpec}

/-- A strategy whose breakout lookback is read is simulated as a breakout over it. -/
theorem breakout_of_reads {input : SimulationInput}
    {lookback : Int} (reads : paramBreakoutLookback numerals strategy = .ok lookback)
    (prepared : ReadFrom numerals strategy input) :
    input.entryTrigger = entryTriggerBreakout ∧ input.entryLookback = lookback := by
  obtain ⟨field, there, -⟩ := Raise.bind_eq_ok.mp reads
  obtain ⟨trigger, same⟩ := trigger_of_breakout (mem_keys_of_require there) prepared
  exact ⟨trigger, Except.ok.inj (same.symm.trans reads)⟩

variable {assumptions : BacktestExecutionAssumptionSet}

variable {peers : List (List MarketBar)}

/-- The stop of a simulation is the one of the strategy. -/
theorem prepare_stopPct {input : SimulationInput} {bars : List MarketBar}
    (prepared : prepare numerals strategy assumptions bars peers = .ok input) :
    paramProtectiveStopPct numerals strategy = .ok input.stopPct := by
  obtain ⟨rate, -, rest⟩ := Raise.bind_eq_ok.mp prepared
  obtain ⟨trigger, -, rest⟩ := Raise.bind_eq_ok.mp rest
  obtain ⟨exitLookback, -, rest⟩ := Raise.bind_eq_ok.mp rest
  obtain ⟨stopPct, stop, rest⟩ := Raise.bind_eq_ok.mp rest
  obtain ⟨rsLookback, -, rest⟩ := Raise.bind_eq_ok.mp rest
  obtain ⟨regimeLookback, -, rest⟩ := Raise.bind_eq_ok.mp rest
  obtain rfl := Except.ok.inj rest
  exact stop

variable {small large : CanonicalStrategySpec}

/-- What is prepared from two such specifications. -/
theorem looksFurther_of_prepare (rules : LargerLookback numerals small large n m)
    {bars : List MarketBar}
    {short long : SimulationInput}
    (prepared : prepare numerals small assumptions bars peers = .ok short)
    (preparedLong : prepare numerals large assumptions bars peers = .ok long) :
    LooksFurther short long := by
  obtain ⟨bars, peers, -⟩ := prepare_eq_ok prepared
  obtain ⟨barsLong, peersLong, -⟩ := prepare_eq_ok preparedLong
  have reads := readFrom_of_prepare prepared
  have readsLong := readFrom_of_prepare preparedLong
  obtain ⟨trigger, lookback⟩ := breakout_of_reads rules.reads reads
  obtain ⟨triggerLong, lookbackLong⟩ := breakout_of_reads rules.readsLarge readsLong
  -- Everything but the trigger is read from the exit rules, the filters and the assumptions.
  have rate := (prepare_costRate preparedLong).symm.trans (prepare_costRate prepared)
  have stop := prepare_stopPct preparedLong
  have channel := readsLong.exit
  have strength := readsLong.rsLookback
  have regime := readsLong.regimeLookback
  rw [paramProtectiveStopPct, rules.exit] at stop
  rw [paramChannelExitLookback, paramIntOr, CanonicalStrategySpec.rules, rules.exit] at channel
  rw [rules.filters, lookbackWhen, paramRelativeStrengthLookback, paramIntOr,
    CanonicalStrategySpec.rules, rules.filters] at strength
  rw [rules.filters, lookbackWhen, paramRegimeMaLookback, paramIntOr,
    CanonicalStrategySpec.rules, rules.filters] at regime
  exact
    { bars := barsLong.trans bars.symm
      peers := peersLong.trans peers.symm
      costRate := Except.ok.inj rate
      trigger, triggerLong
      positive := lookback ▸ rules.positive
      further := by
        rw [lookback, lookbackLong]
        exact rules.larger
      exitLookback := Except.ok.inj (channel.symm.trans reads.exit)
      stopPct := Except.ok.inj (stop.symm.trans (prepare_stopPct prepared))
      rsActive := by rw [readsLong.rsActive, reads.rsActive, rules.filters]
      rsLookback := Except.ok.inj (strength.symm.trans reads.rsLookback)
      regimeActive := by rw [readsLong.regimeActive, reads.regimeActive, rules.filters]
      regimeLookback := Except.ok.inj (regime.symm.trans reads.regimeLookback)
      entry := by
        intro key other
        rw [readsLong.spec, reads.spec, predicateRuleActive, rules.entry key other]
        rfl
      filters := by rw [readsLong.spec, reads.spec, rules.filters] }

/-- A shorter tail is a tail of a longer one. -/
theorem lastSlice_suffix_lastSlice {α : Type} {short long : Int} (positive : 0 < short)
    (longer : short ≤ long) (items : List α) :
    Py.lastSlice short items <:+ Py.lastSlice long items := by
  rw [Py.lastSlice, Py.lastSlice, if_pos positive, if_pos (by omega)]
  have further : items.length - short.toNat =
      (items.length - long.toNat) + (items.length - short.toNat - (items.length - long.toNat)) := by
    omega
  rw [further, ← List.drop_drop]
  exact List.drop_suffix _ _

/-- A highest price that was found is one of the prices, and none exceeds it. -/
theorem max?_of_orRaise {prices : List ℚ} {high : ℚ}
    (found : BacktestError.valueError.orRaise prices.max? = .ok high) :
    high ∈ prices ∧ ∀ price ∈ prices, price ≤ high := by
  cases largest : prices.max? with
  | none =>
    rw [largest] at found
    cases found
  | some value =>
    rw [largest] at found
    obtain rfl := Except.ok.inj found
    exact List.max?_eq_some_iff.mp largest

variable {bar : MarketBar}

namespace LooksFurther

variable {short long : SimulationInput} (looks : LooksFurther short long)

include looks

/-- The longer lookback waits at least as long for its first decision. -/
theorem warmup_le : short.warmup ≤ long.warmup := by
  have further := looks.further
  rw [SimulationInput.warmup, SimulationInput.warmup, looks.exitLookback, looks.rsLookback,
    looks.regimeLookback]
  omega

variable {index : Nat}

/-- What can be looked at with the longer lookback can be looked at with the shorter one, and but
for the breakout it looks the same; the high to exceed is no higher. -/
theorem window {window : PriorWindow} (seen : long.window index = .ok window) :
    ∃ high ≤ window.priorHigh,
      short.window index = .ok { window with priorHigh := high } := by
  obtain ⟨highLong, highestLong, rest⟩ := Raise.bind_eq_ok.mp seen
  obtain ⟨low, lowest, rest⟩ := Raise.bind_eq_ok.mp rest
  obtain rfl := Except.ok.inj rest
  obtain ⟨there, highest⟩ := max?_of_orRaise highestLong
  rw [looks.bars] at there highest
  rw [looks.bars, looks.exitLookback] at lowest
  have tail := lastSlice_suffix_lastSlice looks.positive looks.further.le (short.bars.take index)
  -- There are prior bars, so the shorter tail has a highest price as well.
  have filled : (Py.lastSlice short.entryLookback (short.bars.take index)).map (·.high) ≠ [] := by
    have some : 0 < (short.bars.take index).length := by
      obtain ⟨bar, member, -⟩ := List.mem_map.mp there
      rw [Py.lastSlice, if_pos (looks.positive.trans looks.further)] at member
      exact List.length_pos_of_mem (List.mem_of_mem_drop member)
    have positive := looks.positive
    rw [Ne, List.map_eq_nil_iff, ← List.length_eq_zero_iff, Py.lastSlice, if_pos positive,
      List.length_drop]
    omega
  obtain ⟨high, found⟩ := Option.ne_none_iff_exists'.mp (mt List.max?_eq_none_iff.mp filled)
  refine ⟨high, ?_, ?_⟩
  · obtain ⟨bar, member, rfl⟩ := List.mem_map.mp (List.max?_eq_some_iff.mp found).1
    exact highest _ (List.mem_map_of_mem (tail.subset member))
  · rw [looks.bars]
    refine Raise.bind_eq_ok.mpr ⟨high, by rw [found]; rfl, ?_⟩
    exact Raise.bind_eq_ok.mpr ⟨low, lowest, rfl⟩

/-- Where the longer lookback allows an entry, the shorter one does. -/
theorem entryHolds
    (holds : long.EntryHolds numerals index bar) : short.EntryHolds numerals index bar := by
  obtain ⟨late, window, seen, allowed⟩ := holds
  obtain ⟨high, below, seenShort⟩ := looks.window seen
  refine ⟨looks.warmup_le.trans late, _, seenShort, ?_⟩
  have strength : long.relativeStrength window.prior bar =
      short.relativeStrength window.prior bar := by
    rw [SimulationInput.relativeStrength, SimulationInput.relativeStrength, looks.rsActive,
      looks.rsLookback, looks.peers]
  have regime : long.marketRegime window.prior bar = short.marketRegime window.prior bar := by
    rw [SimulationInput.marketRegime, SimulationInput.marketRegime, looks.regimeActive,
      looks.regimeLookback]
  have close := looks.entry "close_gt_ma20" (by decide)
  have trend := looks.entry "ma20_gt_ma60" (by decide)
  rw [SimulationInput.entryAllowed, looks.triggerLong, predicatesAllow_entry,
    predicatesAllow_filter, close, trend, looks.filters] at allowed
  rw [SimulationInput.entryAllowed, looks.trigger, predicatesAllow_entry, predicatesAllow_filter]
  -- The gates see the same on both sides, and the close exceeds the lower high as well.
  obtain ⟨triggered, fires, gates⟩ := Raise.bind_eq_ok.mp allowed
  obtain rfl := Except.ok.inj fires
  have decided := Except.ok.inj gates
  rw [Bool.and_eq_true, Bool.and_eq_true, decide_eq_true_eq] at decided
  obtain ⟨⟨exceeds, averages⟩, filters⟩ := decided
  refine Raise.bind_eq_ok.mpr ⟨true, congrArg Except.ok ?_, congrArg Except.ok ?_⟩
  · exact decide_eq_true (below.trans_lt exceeds)
  · rw [Bool.true_and, Bool.and_eq_true]
    refine ⟨averages, ?_⟩
    simp only [predicateVolumeGteMa20, predicateRelativeStrengthMin, predicateRegimeBullishOnly,
      SimulationInput.context, strength, regime] at filters ⊢
    exact filters

end LooksFurther

variable {input : SimulationInput} {initialCapital : ℚ}

/-- Whether a position is opened on a bar. -/
def opensAt (numerals : Py.Numerals) (input : SimulationInput) (initialCapital : ℚ)
    (index : Nat) : Bool :=
  match simulateUpTo numerals input initialCapital index,
    simulateUpTo numerals input initialCapital (index + 1) with
  | .ok before, .ok after => before.quantity = 0 && after.quantity ≠ 0
  | _, _ => false

variable {before after : SimulationState}

variable {index : Nat}

/-- On bars that are reached it is seen from the shares before and after. -/
theorem opensAt_of_reached (reached : simulateUpTo numerals input initialCapital index = .ok before)
    (next : simulateUpTo numerals input initialCapital (index + 1) = .ok after) :
    opensAt numerals input initialCapital index =
      (decide (before.quantity = 0) && decide (after.quantity ≠ 0)) := by
  simp only [opensAt, reached, next]

section

variable (stepped : BarStep numerals input index bar before after)

include stepped

/-- A bar that opens a position is one on which the entry condition holds. -/
theorem BarStep.opened (flat : before.quantity = 0) (holding : after.quantity ≠ 0) :
    input.EntryHolds numerals index bar ∧ (0 < after.quantity →
      after.entryIndex = index ∧ after.entryDate = bar.timestamp ∧
        after.entryPrice = bar.close * (1 + input.costRate)) := by
  cases stepped with
  | warmingUp early => exact absurd flat holding
  | waited late none seen refused => exact absurd flat holding
  | entered late none seen allowed bought =>
    obtain ⟨-, -, -, -, -, some, -⟩ := enter_eq_ok bought
    refine ⟨⟨late, _, seen, allowed⟩, ?_⟩
    intro positive
    obtain ⟨-, price, date, position⟩ := some positive
    exact ⟨position, date, price⟩
  | held late some seen kept => exact absurd flat some
  | exited late some seen due sold => exact absurd flat some

/-- A bar through which a position is kept changes nothing of it. -/
theorem BarStep.kept (was : before.quantity ≠ 0) (holding : after.quantity ≠ 0) :
    after.quantity = before.quantity ∧ after.entryIndex = before.entryIndex ∧
      after.entryDate = before.entryDate ∧ after.entryPrice = before.entryPrice ∧
        (input.warmup ≤ index → ∃ window, input.window index = .ok window ∧
          input.exitReason index bar before.entryPrice window.priorLow = none) := by
  cases stepped with
  | warmingUp early => exact ⟨rfl, rfl, rfl, rfl, fun late => absurd early (not_lt.mpr late)⟩
  | waited late flat seen refused => exact absurd flat was
  | entered late flat seen allowed bought => exact absurd flat was
  | held late some seen kept => exact ⟨rfl, rfl, rfl, rfl, fun _ => ⟨_, seen, kept⟩⟩
  | exited late some seen due sold =>
    obtain ⟨-, flat, -⟩ := leave_eq_ok sold
    exact absurd flat holding

/-- A bar that closes a position is one on which there is a reason for it. -/
theorem BarStep.left (was : before.quantity ≠ 0) (flat : after.quantity = 0) :
    ∃ window reason, input.window index = .ok window ∧
      input.exitReason index bar before.entryPrice window.priorLow = some reason := by
  cases stepped with
  | warmingUp early => exact absurd flat was
  | waited late none seen refused => exact absurd none was
  | entered late none seen allowed bought => exact absurd none was
  | held late some seen kept => exact absurd flat was
  | exited late some seen due sold => exact ⟨_, _, seen, due⟩

end

/-- One bar after the state before it. -/
theorem barStep_of_reached {after : SimulationState}
    (next : simulateUpTo numerals input initialCapital (index + 1) = .ok after)
    (there : input.bars[index]? = some bar) :
    ∃ before, simulateUpTo numerals input initialCapital index = .ok before ∧
      BarStep numerals input index bar before after := by
  obtain ⟨before, reached, stepped⟩ := Loop.upTo_succ_eq_ok.mp next
  rw [loopBody_of_getElem? there] at stepped
  exact ⟨before, reached, stepBar_eq_ok stepped⟩

variable {count : Nat}

/-- The positions that are closed, and the one that is open, are those that were opened. -/
theorem openings_upTo {state : SimulationState}
    (reached : simulateUpTo numerals input initialCapital count = .ok state)
    (inside : count ≤ input.bars.length) :
    state.closed.length + (if state.quantity = 0 then 0 else 1) =
      (List.range count).countP (opensAt numerals input initialCapital) := by
  induction count generalizing state with
  | zero =>
    obtain rfl := Except.ok.inj reached
    rfl
  | succ count ih =>
    obtain ⟨before, earlier, stepped⟩ :=
      barStep_of_reached reached (List.getElem?_eq_getElem inside)
    have sofar := ih earlier (by omega)
    have opens := opensAt_of_reached earlier reached
    rw [List.range_succ, List.countP_append, List.countP_singleton, opens, ← sofar]
    -- Only buying and selling change the shares, and only selling closes a position.
    cases stepped with
    | warmingUp early =>
      by_cases flat : before.quantity = 0 <;> simp [flat]
    | waited late flat seen refused => simp [flat]
    | entered late flat seen allowed bought =>
      obtain ⟨-, -, closed, -⟩ := enter_eq_ok bought
      rw [closed, mark_closed]
      by_cases some : state.quantity = 0 <;> simp [flat, some]
    | held late some seen kept => simp [some]
    | exited late some seen due sold =>
      obtain ⟨-, flat, -, -, -, -, position, closed, -⟩ := leave_eq_ok sold
      rw [closed, mark_closed]
      simp [flat, some]

/-- A simulation closes every position that it opens. -/
theorem openings_simulate {final : SimulationState}
    (simulated : simulate numerals input initialCapital = .ok final)
    (filled : input.bars ≠ []) :
    final.closed.length =
      (List.range input.bars.length).countP (opensAt numerals input initialCapital) := by
  obtain ⟨after, reached, closing⟩ := Raise.bind_eq_ok.mp simulated
  have sofar := openings_upTo reached le_rfl
  by_cases flat : after.quantity = 0
  · rw [closeOut_flat flat closing, ← sofar, if_pos flat, Nat.add_zero]
  · have last := List.getLast?_eq_some_getLast filled
    simp only [closeOut, last, if_neg flat] at closing
    obtain ⟨sold, left, rest⟩ := Raise.bind_eq_ok.mp closing
    obtain rfl := Except.ok.inj rest
    obtain ⟨-, -, -, -, -, -, position, closed, -⟩ := leave_eq_ok left
    rw [closed, List.length_append, List.length_singleton, ← sofar, if_neg flat]

/-- Whether a strategy opens a position on a bar of a dataset. -/
def opensOn (numerals : Py.Numerals) (strategy : CanonicalStrategySpec) (dataset : MarketDataset)
    (assumptions : BacktestExecutionAssumptionSet) (index : Nat) : Bool :=
  match prepare numerals strategy assumptions (tradedBars strategy dataset)
      (peerBars strategy dataset), assumptions.initialCapital.toFloat numerals with
  | .ok input, .ok initialCapital => opensAt numerals input initialCapital index
  | _, _ => false

/-- Before the warm-up is over nothing is opened. -/
theorem opensAt_early (inside : index < input.bars.length) (early : index < 60) :
    opensAt numerals input initialCapital index = false := by
  cases next : simulateUpTo numerals input initialCapital (index + 1) with
  | error raised =>
    rw [opensAt, next]
    split <;> simp_all
  | ok after =>
    obtain ⟨before, reached, stepped⟩ :=
      barStep_of_reached next (List.getElem?_eq_getElem inside)
    rw [opensAt_of_reached reached next]
    by_contra opens
    simp only [Bool.not_eq_false, Bool.and_eq_true, decide_eq_true_eq] at opens
    obtain ⟨⟨late, -⟩, -⟩ := stepped.opened opens.1 opens.2
    have enough : 60 ≤ input.warmup := le_max_left _ _
    omega

variable {dataset : MarketDataset}

variable {result : RealBacktestResult}

/-- A run has one trade for every position that it opens. -/
theorem trades_eq_openings {runId : String}
    (ran : run numerals runId strategy dataset assumptions = .ok result) :
    result.trades.length = (List.range (tradedBars strategy dataset).length).countP
      (opensOn numerals strategy dataset assumptions) := by
  rcases lt_or_ge (tradedBars strategy dataset).length 61 with short | enough
  · -- A run that is rejected would not have opened anything either.
    rw [(rejected_of_run ran short).2, List.length_nil]
    symm
    rw [List.countP_eq_zero]
    intro index member
    have inside := List.mem_range.mp member
    rw [opensOn]
    split
    · rename_i input initialCapital prepared capital
      have bars := (prepare_eq_ok prepared).1
      rw [opensAt_early (by rw [bars]; exact inside) (by omega)]
      exact Bool.false_ne_true
    · exact Bool.false_ne_true
  · obtain ⟨input, initialCapital, final, made⟩ := ran_of_run ran enough
    have bars := (prepare_eq_ok made.prepared).1
    have filled : input.bars ≠ [] := by
      rw [← List.length_pos_iff, bars]
      omega
    have opens : opensOn numerals strategy dataset assumptions =
        opensAt numerals input initialCapital := by
      funext index
      simp only [opensOn, made.prepared, made.capital]
    rw [made.result, completedResult, List.length_mapIdx, openings_simulate made.simulated filled,
      opens, bars]

/-- How the positions opened with a larger lookback stand to those opened with a smaller one. -/
def lookbackTally (numerals : Py.Numerals) (small large : CanonicalStrategySpec)
    (dataset : MarketDataset) (assumptions : BacktestExecutionAssumptionSet) : Openings.Tally :=
  Openings.tally (opensOn numerals small dataset assumptions)
    (opensOn numerals large dataset assumptions) (tradedBars small dataset).length

/-- A position that is open was opened where the entry condition held, and has not been due since. -/
theorem open_of_reached (funded : 0 < initialCapital) (positive : ∀ bar ∈ input.bars, 0 < bar.close)
    (cheap : 0 ≤ input.costRate ∧ input.costRate < 1) {state : SimulationState}
    (reached : simulateUpTo numerals input initialCapital count = .ok state)
    (inside : count ≤ input.bars.length) (holding : state.quantity ≠ 0) :
    ∃ since : Nat, state.entryIndex = since ∧ Open numerals input count state since := by
  induction count generalizing state with
  | zero =>
    obtain rfl := Except.ok.inj reached
    exact absurd rfl holding
  | succ count ih =>
    have there := List.getElem?_eq_getElem (show count < input.bars.length by omega)
    obtain ⟨before, earlier, stepped⟩ := barStep_of_reached reached there
    by_cases flat : before.quantity = 0
    · -- The position is opened on this bar; it has shares, since the account is never overdrawn.
      obtain ⟨allowed, known⟩ := stepped.opened flat holding
      obtain ⟨episodes, since, disciplined⟩ := disciplined_upTo funded positive cheap reached inside
      have shares : 0 < state.quantity := by
        cases since with
        | none => exact absurd (disciplined.flat rfl) holding
        | some entered => exact (disciplined.open_ entered rfl).1.shares
      obtain ⟨position, date, price⟩ := known shares
      refine ⟨count, position, shares, Nat.lt_succ_self count, _, there, date, price, allowed, ?_⟩
      intro index bar late before
      omega
    · -- The position was open before, and this bar has no reason to close it.
      obtain ⟨quantity, position, date, price, quiet⟩ := stepped.kept flat holding
      obtain ⟨since, opened, was⟩ := ih earlier (by omega) flat
      obtain ⟨bar, at_, on, paid, allowed, held⟩ := was.entry
      refine ⟨since, position.trans opened, quantity ▸ was.shares,
        Nat.lt_succ_of_lt was.before, bar, at_, date.trans on, price.trans paid, allowed, ?_⟩
      intro index other late before located
      rcases Nat.lt_succ_iff_lt_or_eq.mp before with sooner | rfl
      · exact held index other late sooner located
      · obtain rfl := Option.some.inj (there.symm.trans located)
        have begun := allowed.1
        obtain ⟨window, seen, none⟩ := quiet (by omega)
        exact (exitReason_eq_none_iff seen paid).mp none

/-- No position opened later, with the longer lookback, is due for its exit before one that was
opened earlier, with the shorter lookback, and is still open. -/
def ClosesInOrder (numerals : Py.Numerals) (short long : SimulationInput) : Prop :=
  ∀ (first second index : Nat) (opened reopened bar : MarketBar) (reason : ExitReason),
    first < second → second < index → short.bars[first]? = some opened →
    short.bars[second]? = some reopened → short.bars[index]? = some bar →
    short.EntryHolds numerals first opened → long.EntryHolds numerals second reopened →
    (∀ between other, first < between → between < index → short.bars[between]? = some other →
      ∀ reason, ¬short.ExitHolds opened between other reason) →
    short.ExitHolds reopened index bar reason → ∃ reason, short.ExitHolds opened index bar reason

/-- Without a position the account pays for a share wherever the entry condition holds. -/
def PaysForEntries (numerals : Py.Numerals) (input : SimulationInput) (initialCapital : ℚ) :
    Prop :=
  ∀ (index : Nat) (state : SimulationState) (bar : MarketBar),
    simulateUpTo numerals input initialCapital index = .ok state → state.quantity = 0 →
    input.bars[index]? = some bar → input.EntryHolds numerals index bar →
      bar.close * (1 + input.costRate) ≤ state.cash

/-- An account that pays for a share where the entry condition holds buys it. -/
theorem BarStep.buys
    (stepped : BarStep numerals input index bar before after) (flat : before.quantity = 0)
    (holds : input.EntryHolds numerals index bar)
    (priced : 0 < bar.close * (1 + input.costRate))
    (pays : bar.close * (1 + input.costRate) ≤ before.cash) : after.quantity ≠ 0 := by
  obtain ⟨late, window, seen, allowed⟩ := holds
  cases stepped with
  | warmingUp early => exact absurd early (not_lt.mpr late)
  | waited _ _ seenToo refused =>
    obtain rfl := Except.ok.inj (seen.symm.trans seenToo)
    rw [allowed] at refused
    cases refused
  | entered _ _ seenToo allowedToo bought =>
    obtain ⟨-, quantity, -⟩ := enter_eq_ok bought
    have one : (1 : ℚ) ≤ before.cash / (bar.close * (1 + input.costRate)) := by
      rw [le_div_iff₀ priced, one_mul]
      exact pays
    have shares : 1 ≤ after.quantity := by
      rw [quantity, mark_cash]
      exact Int.le_floor.mpr (by exact_mod_cast one)
    omega
  | held _ some seenToo kept => exact absurd flat some
  | exited _ some seenToo due sold => exact absurd flat some

namespace LooksFurther

variable {short long : SimulationInput}

/-- Both lookbacks have the same conditions for an exit. -/
theorem exitHolds_iff (looks : LooksFurther short long) {opened bar : MarketBar}
    {reason : ExitReason} :
    long.ExitHolds opened index bar reason ↔ short.ExitHolds opened index bar reason := by
  cases reason with
  | protectiveStop =>
    rw [SimulationInput.ExitHolds, SimulationInput.ExitHolds, looks.costRate, looks.stopPct]
  | channelLowExit =>
    rw [SimulationInput.ExitHolds, SimulationInput.ExitHolds, SimulationInput.channelLow,
      SimulationInput.channelLow, looks.exitLookback, looks.bars]
  | endOfDataset => rw [SimulationInput.ExitHolds, SimulationInput.ExitHolds, looks.bars]

/-- While the shorter lookback keeps a position that the longer one has joined, the longer one
keeps its own. -/
theorem joined_holds (looks : LooksFurther short long) (funded : 0 < initialCapital)
    (positive : ∀ bar ∈ short.bars, 0 < bar.close)
    (cheap : 0 ≤ short.costRate ∧ short.costRate < 1)
    (ordered : ClosesInOrder numerals short long) {ours theirs : SimulationState}
    (reached : simulateUpTo numerals short initialCapital count = .ok ours)
    (reachedLong : simulateUpTo numerals long initialCapital count = .ok theirs)
    (inside : count ≤ short.bars.length)
    (joined : (Openings.tally (opensAt numerals short initialCapital)
      (opensAt numerals long initialCapital) count).joined = true)
    (holding : ours.quantity ≠ 0) :
    theirs.quantity ≠ 0 ∧ ours.entryIndex ≤ theirs.entryIndex := by
  have positiveLong : ∀ bar ∈ long.bars, 0 < bar.close := by
    rw [looks.bars]
    exact positive
  have cheapLong : 0 ≤ long.costRate ∧ long.costRate < 1 := by
    rw [looks.costRate]
    exact cheap
  induction count generalizing ours theirs with
  | zero =>
    obtain rfl := Except.ok.inj reached
    exact absurd rfl holding
  | succ count ih =>
    have there := List.getElem?_eq_getElem (show count < short.bars.length by omega)
    have thereLong : long.bars[count]? = some short.bars[count] := by rw [looks.bars, there]
    have insideLong : count + 1 ≤ long.bars.length := by rw [looks.bars]; exact inside
    obtain ⟨before, earlier, stepped⟩ := barStep_of_reached reached there
    obtain ⟨beforeLong, earlierLong, steppedLong⟩ := barStep_of_reached reachedLong thereLong
    -- The position of the shorter lookback was opened on this bar at the latest.
    obtain ⟨since, position, open_⟩ :=
      open_of_reached funded positive cheap reached inside holding
    have recent := open_.before
    rw [Openings.tally, opensAt_of_reached earlier reached,
      opensAt_of_reached earlierLong reachedLong] at joined
    by_cases opens : beforeLong.quantity = 0 ∧ theirs.quantity ≠ 0
    · -- The longer lookback opens its position on this bar, so no earlier.
      obtain ⟨sinceLong, positionLong, openLong⟩ :=
        open_of_reached funded positiveLong cheapLong reachedLong insideLong opens.2
      have known := ((steppedLong.opened opens.1 opens.2).2 openLong.shares).1
      exact ⟨opens.2, by omega⟩
    · have quiet : (decide (beforeLong.quantity = 0) && decide (theirs.quantity ≠ 0)) = false := by
        rw [Bool.and_eq_false_iff, decide_eq_false_iff_not, decide_eq_false_iff_not]
        exact not_and_or.mp opens
      rw [quiet] at joined
      by_cases flat : before.quantity = 0
      · -- A position that the shorter lookback opens alone has not been joined.
        simp [Openings.Tally.next, flat, holding] at joined
      · have already : (Openings.tally (opensAt numerals short initialCapital)
            (opensAt numerals long initialCapital) count).joined = true := by
          simpa [Openings.Tally.next, flat] using joined
        obtain ⟨holdingLong, behind⟩ := ih earlier earlierLong (by omega) already flat
        obtain ⟨-, same, -, -, still⟩ := stepped.kept flat holding
        by_cases leaves : theirs.quantity = 0
        · -- The longer lookback may not leave while the shorter one stays.
          exfalso
          obtain ⟨first, entered, opened⟩ :=
            open_of_reached funded positive cheap earlier (by omega) flat
          obtain ⟨second, enteredLong, openedLong⟩ := open_of_reached funded positiveLong cheapLong
            earlierLong (by omega) holdingLong
          obtain ⟨bar, at_, -, paid, allowed, held⟩ := opened.entry
          obtain ⟨barLong, atLong, -, paidLong, allowedLong, -⟩ := openedLong.entry
          obtain ⟨window, reason, seen, due⟩ := steppedLong.left holdingLong leaves
          have exit := looks.exitHolds_iff.mp ((exitReason_eq_some_iff seen paidLong).mp due).1
          have begun := allowed.1
          have sooner := opened.before
          have soonerLong := openedLong.before
          obtain ⟨windowShort, seenShort, none⟩ := still (by omega)
          have stays := (exitReason_eq_none_iff seenShort paid).mp none
          rw [looks.bars] at atLong
          rcases Nat.lt_or_eq_of_le (show first ≤ second by omega) with later | rfl
          · obtain ⟨why, due⟩ := ordered first second count bar barLong _ reason later soonerLong
              at_ atLong there allowed allowedLong held exit
            exact stays why due
          · obtain rfl := Option.some.inj (at_.symm.trans atLong)
            exact stays reason exit
        · obtain ⟨-, sameLong, -⟩ := steppedLong.kept holdingLong leaves
          exact ⟨leaves, by omega⟩

/-- The longer lookback opens together with the shorter one, or once while it keeps a position. -/
theorem opens_unjoined (looks : LooksFurther short long) (funded : 0 < initialCapital)
    (positive : ∀ bar ∈ short.bars, 0 < bar.close)
    (cheap : 0 ≤ short.costRate ∧ short.costRate < 1)
    (ordered : ClosesInOrder numerals short long)
    (pays : PaysForEntries numerals short initialCapital) {last : SimulationState}
    (whole : simulateUpTo numerals short initialCapital short.bars.length = .ok last)
    (inside : index < short.bars.length)
    (opens : opensAt numerals long initialCapital index)
    (alone : ¬opensAt numerals short initialCapital index) :
    (Openings.tally (opensAt numerals short initialCapital)
      (opensAt numerals long initialCapital) index).joined = false := by
  have there := List.getElem?_eq_getElem inside
  have thereLong : long.bars[index]? = some short.bars[index] := by rw [looks.bars, there]
  obtain ⟨ours, next⟩ := Loop.upTo_of_le whole (show index + 1 ≤ short.bars.length from inside)
  obtain ⟨before, reached, stepped⟩ := barStep_of_reached next there
  cases nextLong : simulateUpTo numerals long initialCapital (index + 1) with
  | error raised =>
    rw [opensAt, nextLong] at opens
    split at opens
    · simp_all
    · cases opens
  | ok theirs =>
    obtain ⟨beforeLong, reachedLong, steppedLong⟩ := barStep_of_reached nextLong thereLong
    rw [opensAt_of_reached reachedLong nextLong, Bool.and_eq_true, decide_eq_true_eq,
      decide_eq_true_eq] at opens
    obtain ⟨flatLong, holdingLong⟩ := opens
    have holds := looks.entryHolds (steppedLong.opened flatLong holdingLong).1
    by_contra joined
    rw [Bool.not_eq_false] at joined
    by_cases flat : before.quantity = 0
    · -- Without a position the shorter lookback would have bought as well.
      apply alone
      have priced : 0 < short.bars[index].close * (1 + short.costRate) :=
        mul_pos (positive _ (List.getElem_mem inside)) (by linarith [cheap.1])
      have buys := stepped.buys flat holds priced (pays index before _ reached flat there holds)
      rw [opensAt_of_reached reached next, Bool.and_eq_true, decide_eq_true_eq, decide_eq_true_eq]
      exact ⟨flat, buys⟩
    · exact (looks.joined_holds funded positive cheap ordered reached reachedLong inside.le joined
        flat).1 flatLong

end LooksFurther

/-- The premise of enlarging a lookback: the larger one allows entries nowhere else, and it has no
more trades. -/
def SameOrFewerEntries (numerals : Py.Numerals) (small large : CanonicalStrategySpec)
    (dataset : MarketDataset) (assumptions : BacktestExecutionAssumptionSet)
    (result resultLarge : RealBacktestResult) : Prop :=
  (∀ short long, prepare numerals small assumptions (tradedBars small dataset)
      (peerBars small dataset) = .ok short →
    prepare numerals large assumptions (tradedBars large dataset) (peerBars large dataset) =
      .ok long →
    ∀ index bar, long.EntryHolds numerals index bar → short.EntryHolds numerals index bar) ∧
  resultLarge.trades.length ≤ result.trades.length

/-- The circumstances in which a larger lookback never opens a position once more: the account
pays for every entry of the smaller one, and positions are closed in the order they are opened. -/
structure KeepsPace (numerals : Py.Numerals) (small large : CanonicalStrategySpec)
    (dataset : MarketDataset) (assumptions : BacktestExecutionAssumptionSet) : Prop where
  cheap : ∀ costs, RuleBasedBacktestEngine.costRate numerals assumptions = .ok costs →
    0 ≤ costs ∧ costs < 1
  funded : ∀ initialCapital, assumptions.initialCapital.toFloat numerals = .ok initialCapital →
    0 < initialCapital
  ordered : ∀ short long, prepare numerals small assumptions (tradedBars small dataset)
      (peerBars small dataset) = .ok short →
    prepare numerals large assumptions (tradedBars large dataset) (peerBars large dataset) =
      .ok long → ClosesInOrder numerals short long
  pays : ∀ short initialCapital, prepare numerals small assumptions (tradedBars small dataset)
      (peerBars small dataset) = .ok short →
    assumptions.initialCapital.toFloat numerals = .ok initialCapital →
      PaysForEntries numerals short initialCapital

/-- A dataset of one symbol is traded alike by all strategies. -/
theorem traded_of_single (small large : CanonicalStrategySpec)
    (single : (distinctSymbols dataset).length ≤ 1) :
    tradedBars large dataset = tradedBars small dataset ∧
      peerBars large dataset = peerBars small dataset := by
  rw [tradedBars, tradedBars, peerBars, peerBars, if_pos single, if_pos single, if_pos single,
    if_pos single]
  exact ⟨rfl, rfl⟩

/-- A larger lookback never opens a position once more when it keeps pace. -/
theorem reopened_of_keepsPace {runId : String} (rules : LargerLookback numerals small large n m)
    (single : (distinctSymbols dataset).length ≤ 1)
    (positive : ∀ bar ∈ dataset.bars, 0 < bar.close)
    (ran : run numerals runId small dataset assumptions = .ok result)
    (pace : KeepsPace numerals small large dataset assumptions) :
    (lookbackTally numerals small large dataset assumptions).reopened = 0 := by
  obtain ⟨bars, peers⟩ := traded_of_single small large single
  refine Openings.reopened_eq_zero _ _ ?_
  intro index inside opens alone
  have whole : opensOn numerals large dataset assumptions index = true := opens
  rw [opensOn] at whole
  split at whole
  · rename_i long capital preparedLong funds
    have barsLong := (prepare_eq_ok preparedLong).1
    rcases lt_or_ge (tradedBars small dataset).length 61 with short | enough
    · -- There are too few bars for the larger lookback to open anything.
      rw [opensAt_early (by rw [barsLong, bars]; exact inside) (by omega)] at whole
      cases whole
    · obtain ⟨short, initialCapital, final, made⟩ := ran_of_run ran enough
      obtain rfl := Except.ok.inj (funds.symm.trans made.capital)
      have opensSmall : opensOn numerals small dataset assumptions =
          opensAt numerals short capital := by
        funext index
        simp only [opensOn, made.prepared, made.capital]
      have opensLarge : opensOn numerals large dataset assumptions =
          opensAt numerals long capital := by
        funext index
        simp only [opensOn, preparedLong, made.capital]
      have looks : LooksFurther short long := by
        rw [bars, peers] at preparedLong
        exact looksFurther_of_prepare rules made.prepared preparedLong
      have barsShort := (prepare_eq_ok made.prepared).1
      have priced : ∀ bar ∈ short.bars, 0 < bar.close := by
        rw [barsShort]
        intro bar member
        exact positive bar (mem_of_tradedBars member)
      obtain ⟨last, looped, -⟩ := Raise.bind_eq_ok.mp made.simulated
      rw [opensSmall] at alone ⊢
      rw [opensLarge] at opens ⊢
      exact looks.opens_unjoined (pace.funded capital made.capital) priced
        (pace.cheap _ (prepare_costRate made.prepared))
        (pace.ordered short long made.prepared preparedLong)
        (pace.pays short capital made.prepared made.capital) looped
        (by rw [barsShort]; exact inside) opens alone
  · cases whole

/-- The breakout over twenty bars, made one over fifty-five. -/
def widerBreakoutSpec : CanonicalStrategySpec :=
  { breakoutSpec with entry := userRules [("breakout_lookback", .int 55)] }

/-- Only the lookback differs. -/
theorem widerBreakoutSpec_larger :
    LargerLookback noNumerals breakoutSpec widerBreakoutSpec 20 55 where
  positive := by decide
  larger := by decide
  reads := rfl
  readsLarge := rfl
  entry := by
    intro key other
    have missing : ∀ value, (userRules [("breakout_lookback", value)]).get key = none := by
      intro value
      simp [RuleMap.get, userRules, Table.find?_replace, other]
    exact (missing _).trans (missing _).symm
  exit := rfl
  filters := rfl

/-- Sixty days at ten, of which one saw a high of thirty, and then a rise that is interrupted. -/
def interruptedRise : MarketDataset :=
  { datasetId := "dataset"
    bars := (List.replicate 60 10 ++ [11, 31, 27, 32]).mapIdx fun index close =>
      if index = 20 then { stillBar index close with high := 30 } else stillBar index close
    fixtureBacked := true }

end StrategyLab
