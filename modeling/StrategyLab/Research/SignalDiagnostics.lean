import StrategyLab.Research.WalkForward

/-! The signal diagnostics, which count entries by hand beside the engine. -/

namespace StrategyLab

open RuleBasedBacktestEngine

/-- Whether a specification carries a rule, whatever the rule says. -/
def ruleStored (rules : RuleMap) (key : String) : Bool := (rules.get key).isSome

/-- The fewest completed trades that a sample should have. -/
def defaultMinimumRequiredTrades : Nat := 30

/-- How often each entry condition held, as it is reported. -/
structure SignalDiagnostics where
  breakoutConditionHits : Nat
  trendFilterHits : Nat
  volumeFilterHits : Nat
  combinedEntrySignals : Nat
  exitSignals : Nat
  completedTrades : Nat
  blockedByBreakout : Nat
  blockedByMaFilter : Nat
  blockedByVolumeFilter : Nat
  warmupBars : Int
  exitLookback : Int
  deriving DecidableEq, Repr

section

variable (numerals : Py.Numerals)

/-- How the lookback of an entry trigger is read. -/
def RuleHandler.lookback? : RuleHandler →
    Option (CanonicalStrategySpec → Except BacktestError Int)
  | .parameter => none
  | .predicate _ => none
  | .entryTrigger _ lookback => some lookback

/-- The lookback of the entry trigger a specification carries, or else twenty bars. -/
def triggerLookback (strategy : CanonicalStrategySpec) : Except BacktestError Int :=
  let present := (backtestRuleDefinitions numerals).filterMap fun definition =>
    if definition.key ∈ strategy.entry.keys then definition.handler.lookback? else none
  match present with
  | lookback :: _ => lookback strategy
  | [] => .ok 20

/-- How many bars the diagnostics leave out at the start. -/
def maxRequiredLookback (strategy : CanonicalStrategySpec) : Except BacktestError Int := do
  let entryLookback ← triggerLookback numerals strategy
  let rsLookback ← lookbackWhen (ruleStored strategy.filters "relative_strength_min")
    (paramRelativeStrengthLookback numerals) strategy
  let regimeLookback ← lookbackWhen (ruleStored strategy.filters "regime_bullish_only")
    (paramRegimeMaLookback numerals) strategy
  let exitLookback ← paramChannelExitLookback numerals strategy
  let volumeLookback := if ruleStored strategy.filters "volume_gte_ma20" then 20 else 0
  return max 60 (max entryLookback (max exitLookback
    (max volumeLookback (max rsLookback regimeLookback))))

/-- Which of the three conditions hold on a bar. -/
structure BarSignals where
  breakoutOk : Bool
  trendOk : Bool
  volumeOk : Bool

/-- All three conditions hold. -/
def BarSignals.combined (signals : BarSignals) : Bool :=
  signals.breakoutOk && signals.trendOk && signals.volumeOk

/-- Look at the bars before an index in the shape of a breakout. -/
def barSignals (strategy : CanonicalStrategySpec) (bars : List MarketBar) (breakoutN : Int)
    (index : Nat) (bar : MarketBar) : Except BacktestError BarSignals := do
  let prior := bars.take index
  let priorHigh ← BacktestError.valueError.orRaise
    ((Py.lastSlice breakoutN prior).map (·.high)).max?
  let ma20 := ((Py.lastSlice 20 prior).map (·.close)).sum / 20
  let ma60 := ((Py.lastSlice 60 prior).map (·.close)).sum / 60
  let volumeMa20 := ((Py.lastSlice 20 prior).map fun item => (item.volume : ℚ)).sum / 20
  return {
    breakoutOk := priorHigh < bar.close
    trendOk := (!ruleStored strategy.entry "close_gt_ma20" || ma20 < bar.close) &&
      (!ruleStored strategy.entry "ma20_gt_ma60" || ma60 < ma20)
    volumeOk := !ruleStored strategy.filters "volume_gte_ma20" || volumeMa20 ≤ bar.volume }

/-- Count what holds on a bar, and what blocks it. -/
def SignalDiagnostics.count (counts : SignalDiagnostics) (signals : BarSignals) :
    SignalDiagnostics :=
  let hits := { counts with
    breakoutConditionHits := counts.breakoutConditionHits + signals.breakoutOk.toNat
    trendFilterHits := counts.trendFilterHits + signals.trendOk.toNat
    volumeFilterHits := counts.volumeFilterHits + signals.volumeOk.toNat }
  if signals.combined then { hits with combinedEntrySignals := counts.combinedEntrySignals + 1 }
  else { hits with
    blockedByBreakout := counts.blockedByBreakout + (!signals.breakoutOk).toNat
    blockedByMaFilter :=
      counts.blockedByMaFilter + (signals.breakoutOk && !signals.trendOk).toNat
    blockedByVolumeFilter := counts.blockedByVolumeFilter +
      (signals.breakoutOk && signals.trendOk && !signals.volumeOk).toNat }

/-- The body of the counting loop, which passes over the warm-up. -/
def countBar (strategy : CanonicalStrategySpec) (bars : List MarketBar) (breakoutN : Int)
    (index : Nat) (counts : SignalDiagnostics) : Except BacktestError SignalDiagnostics :=
  match bars[index]? with
  | some bar =>
    if (index : Int) < counts.warmupBars then .ok counts
    else (barSignals strategy bars breakoutN index bar).map counts.count
  | none => .ok counts

/-- The counts before the first bar. -/
def SignalDiagnostics.start (tradeCount : Nat) (warmupBars exitLookback : Int) :
    SignalDiagnostics :=
  { breakoutConditionHits := 0, trendFilterHits := 0, volumeFilterHits := 0,
    combinedEntrySignals := 0, exitSignals := tradeCount, completedTrades := tradeCount,
    blockedByBreakout := 0, blockedByMaFilter := 0, blockedByVolumeFilter := 0, warmupBars,
    exitLookback }

/-- How many bars a breakout has to exceed; without a breakout rule, all that are left out. -/
def breakoutWindow (strategy : CanonicalStrategySpec) : Except BacktestError Int :=
  match strategy.entry.get "breakout_lookback" with
  | some field => field.toInt numerals
  | none => maxRequiredLookback numerals strategy

/-- Count the entry signals on some bars. -/
def signalDiagnostics (strategy : CanonicalStrategySpec) (bars : List MarketBar)
    (tradeCount : Nat) : Except BacktestError SignalDiagnostics := do
  let breakoutN ← breakoutWindow numerals strategy
  let exitN ← paramChannelExitLookback numerals strategy
  let warmup ← maxRequiredLookback numerals strategy
  Loop.upTo (countBar strategy bars breakoutN) (.start tradeCount warmup exitN) bars.length

/-- Whether a sample says enough about a strategy. -/
inductive SampleSufficiency where
  | sufficient
  | insufficientBars
  | insufficientSignals
  | insufficientTrades
  deriving DecidableEq, Repr

/-- The counts of a coverage diagnostic and what it concludes from them. -/
structure ValidationCoverage where
  rawBars : Nat
  usableBars : Nat
  warmupBars : Int
  entrySignalCount : Nat
  completedTradeCount : Nat
  minimumRequiredTrades : Nat
  sampleSufficiencyStatus : SampleSufficiency
  sampleSufficiencyReasons : List SampleSufficiency
  signalDiagnostics : SignalDiagnostics
  deriving DecidableEq, Repr

/-- Judge how well a backtest covers a strategy. -/
def validationCoverageDiagnostic (strategy : CanonicalStrategySpec) (dataset : MarketDataset)
    (backtest : Option RealBacktestResult) (minimumRequiredTrades : Nat) :
    Except BacktestError ValidationCoverage := do
  let bars := sortedBars dataset.bars
  let rawBars := bars.length
  let tradeCount := (backtest.map (·.metrics.tradeCount)).getD 0
  let maxLookback ← maxRequiredLookback numerals strategy
  let diagnostics ← StrategyLab.signalDiagnostics numerals strategy bars tradeCount
  let barReasons : List SampleSufficiency :=
    if (rawBars : Int) ≤ maxLookback then [.insufficientBars] else []
  let signalReasons : List SampleSufficiency :=
    if diagnostics.combinedEntrySignals = 0 then [.insufficientSignals] else []
  let tradeReasons : List SampleSufficiency :=
    if tradeCount < minimumRequiredTrades then [.insufficientTrades] else []
  let reasons := barReasons ++ signalReasons ++ tradeReasons
  let status : SampleSufficiency :=
    if reasons = [] then .sufficient
    else if (rawBars : Int) ≤ maxLookback then .insufficientBars
    else if diagnostics.combinedEntrySignals = 0 then .insufficientSignals
    else .insufficientTrades
  return { rawBars, usableBars := (rawBars - maxLookback).toNat, warmupBars := maxLookback,
           entrySignalCount := diagnostics.combinedEntrySignals,
           completedTradeCount := tradeCount, minimumRequiredTrades,
           sampleSufficiencyStatus := status, sampleSufficiencyReasons := reasons,
           signalDiagnostics := diagnostics }

/-- The bars behind the warm-up on which the entry condition of the engine holds. -/
def SimulationInput.entrySignals (input : SimulationInput) : Nat :=
  (List.range input.bars.length).countP fun (index : Nat) =>
    decide (input.warmup ≤ index) && input.bars[index]?.any fun bar =>
      (input.entryDecision numerals index bar).toOption = some true

end

variable {numerals : Py.Numerals} {input : SimulationInput} {strategy : CanonicalStrategySpec}

/-! ### The warm-up -/

/-- A rule is not stored as switched off. -/
def NotSwitchedOff (rules : RuleMap) (key : String) : Prop :=
  ruleStored rules key = predicateRuleActive rules key

/-- What a simulation reads from a strategy. -/
structure ReadFrom (numerals : Py.Numerals) (strategy : CanonicalStrategySpec)
    (input : SimulationInput) : Prop where
  spec : input.strategy = strategy
  trigger : entryTriggerOf numerals strategy = .ok (input.entryTrigger, input.entryLookback)
  exit : paramChannelExitLookback numerals strategy = .ok input.exitLookback
  rsActive : input.rsActive = predicateRuleActive strategy.filters "relative_strength_min"
  rsLookback : lookbackWhen (predicateRuleActive strategy.filters "relative_strength_min")
    (paramRelativeStrengthLookback numerals) strategy = .ok input.rsLookback
  regimeActive : input.regimeActive = predicateRuleActive strategy.filters "regime_bullish_only"
  regimeLookback : lookbackWhen (predicateRuleActive strategy.filters "regime_bullish_only")
    (paramRegimeMaLookback numerals) strategy = .ok input.regimeLookback

variable {assumptions : BacktestExecutionAssumptionSet}

/-- A prepared simulation has read its parameters from the strategy. -/
theorem readFrom_of_prepare {bars : List MarketBar} {peers : List (List MarketBar)}
    (prepared : prepare numerals strategy assumptions bars peers = .ok input) :
    ReadFrom numerals strategy input := by
  obtain ⟨rate, -, rest⟩ := Raise.bind_eq_ok.mp prepared
  obtain ⟨⟨trigger, entryLookback⟩, triggered, rest⟩ := Raise.bind_eq_ok.mp rest
  obtain ⟨exitLookback, channel, rest⟩ := Raise.bind_eq_ok.mp rest
  obtain ⟨stopPct, -, rest⟩ := Raise.bind_eq_ok.mp rest
  obtain ⟨rsLookback, strength, rest⟩ := Raise.bind_eq_ok.mp rest
  obtain ⟨regimeLookback, regime, rest⟩ := Raise.bind_eq_ok.mp rest
  obtain rfl := Except.ok.inj rest
  exact ⟨rfl, triggered, channel, rfl, strength, rfl, regime⟩

/-- The diagnostics and the engine read the lookback of the same entry trigger. -/
theorem triggerLookback_eq {trigger : CanonicalStrategySpec → BarEvalContext →
      Except BacktestError Bool} {lookback : Int}
    (found : entryTriggerOf numerals strategy = .ok (trigger, lookback)) :
    triggerLookback numerals strategy = .ok lookback := by
  unfold entryTriggerOf at found
  dsimp only at found
  split at found
  · rename_i opens read rest present
    -- Both take the first registered trigger that the strategy carries.
    have same : (backtestRuleDefinitions numerals).filterMap (fun definition =>
        if definition.key ∈ strategy.entry.keys then definition.handler.lookback? else none) =
          ((opens, read) :: rest).map Prod.snd := by
      rw [← present, List.map_filterMap]
      refine List.filterMap_congr fun definition _ => ?_
      by_cases carried : definition.key ∈ strategy.entry.keys <;>
        cases definition.handler <;> simp [RuleHandler.lookback?, carried]
    obtain ⟨value, reads, pair⟩ := Raise.bind_eq_ok.mp found
    obtain ⟨-, rfl⟩ := Prod.mk.inj (Except.ok.inj pair)
    rw [triggerLookback, same]
    exact reads
  · cases found

/-- Unless a gate is stored as switched off, the diagnostics leave out the warm-up of the engine. -/
theorem maxRequiredLookback_eq (reads : ReadFrom numerals strategy input)
    (strength : NotSwitchedOff strategy.filters "relative_strength_min")
    (regime : NotSwitchedOff strategy.filters "regime_bullish_only") :
    maxRequiredLookback numerals strategy = .ok input.warmup := by
  have sum : max (60 : Int) (max input.entryLookback (max input.exitLookback
      (max (if ruleStored strategy.filters "volume_gte_ma20" then 20 else 0)
        (max input.rsLookback input.regimeLookback)))) = input.warmup := by
    -- The twenty bars of the volume average never exceed the sixty that are always left out.
    unfold SimulationInput.warmup
    split <;> omega
  unfold maxRequiredLookback
  rw [triggerLookback_eq reads.trigger, strength, regime, reads.rsLookback, reads.regimeLookback,
    reads.exit, ← sum]
  rfl

/-! ### The signals of one bar -/

/-- The entry predicates of the registry are the two averages. -/
theorem predicatesAllow_entry (ctx : BarEvalContext) :
    input.predicatesAllow numerals .entry ctx =
      (predicateCloseGtMa20 (predicateRuleActive input.strategy.entry "close_gt_ma20") ctx &&
        predicateMa20GtMa60 (predicateRuleActive input.strategy.entry "ma20_gt_ma60") ctx) := by
  simp [SimulationInput.predicatesAllow, backtestRuleDefinitions, CanonicalStrategySpec.rules]

/-- The filter predicates of the registry are the volume, the strength and the regime. -/
theorem predicatesAllow_filter (ctx : BarEvalContext) :
    input.predicatesAllow numerals .filter ctx =
      (predicateVolumeGteMa20 (predicateRuleActive input.strategy.filters "volume_gte_ma20") ctx &&
        (predicateRelativeStrengthMin
            (predicateRuleActive input.strategy.filters "relative_strength_min") ctx &&
          predicateRegimeBullishOnly
            (predicateRuleActive input.strategy.filters "regime_bullish_only") ctx)) := by
  simp [SimulationInput.predicatesAllow, backtestRuleDefinitions, CanonicalStrategySpec.rules]

/-- A strategy with a breakout is simulated as one. -/
theorem trigger_of_breakout (carried : "breakout_lookback" ∈ strategy.entry.keys)
    (reads : ReadFrom numerals strategy input) :
    input.entryTrigger = entryTriggerBreakout ∧
      paramBreakoutLookback numerals strategy = .ok input.entryLookback := by
  have found := reads.trigger
  unfold entryTriggerOf at found
  -- The breakout is the first trigger of the registry.
  simp only [backtestRuleDefinitions, List.filterMap_cons, if_pos carried] at found
  obtain ⟨lookback, read, pair⟩ := Raise.bind_eq_ok.mp found
  obtain ⟨trigger, rfl⟩ := Prod.mk.inj (Except.ok.inj pair)
  exact ⟨trigger.symm, read⟩

/-- A breakout strategy none of whose predicates is stored as switched off. -/
structure PlainBreakout (strategy : CanonicalStrategySpec) : Prop where
  breakout : "breakout_lookback" ∈ strategy.entry.keys
  close : NotSwitchedOff strategy.entry "close_gt_ma20"
  trend : NotSwitchedOff strategy.entry "ma20_gt_ma60"
  volume : NotSwitchedOff strategy.filters "volume_gte_ma20"
  strength : NotSwitchedOff strategy.filters "relative_strength_min"
  regime : NotSwitchedOff strategy.filters "regime_bullish_only"

/-- The gates that the diagnostics do not look at. -/
def SimulationInput.gatesAllow (input : SimulationInput) (ctx : BarEvalContext) : Bool :=
  predicateRelativeStrengthMin
      (predicateRuleActive input.strategy.filters "relative_strength_min") ctx &&
    predicateRegimeBullishOnly (predicateRuleActive input.strategy.filters "regime_bullish_only") ctx

/-- On a bar that the engine can look at, its decision is the signal of the diagnostics together
with the gates they do not look at. -/
theorem entryDecision_of_window (plain : PlainBreakout strategy)
    (reads : ReadFrom numerals strategy input) {index : Nat} {bar : MarketBar}
    {window : PriorWindow} (seen : input.window index = .ok window) :
    ∃ signals, barSignals strategy input.bars input.entryLookback index bar = .ok signals ∧
      input.entryDecision numerals index bar =
        .ok (signals.combined && input.gatesAllow (input.context window bar)) := by
  have decided : input.entryDecision numerals index bar =
      input.entryAllowed numerals (input.context window bar) := by
    unfold SimulationInput.entryDecision
    rw [seen]
    rfl
  obtain ⟨high, highest, rest⟩ := Raise.bind_eq_ok.mp seen
  obtain ⟨low, -, rest⟩ := Raise.bind_eq_ok.mp rest
  obtain rfl := Except.ok.inj rest
  refine ⟨_, Raise.bind_eq_ok.mpr ⟨high, highest, rfl⟩, ?_⟩
  rw [decided, SimulationInput.entryAllowed, (trigger_of_breakout plain.breakout reads).1,
    predicatesAllow_entry, predicatesAllow_filter, plain.close, plain.trend, plain.volume,
    reads.spec]
  -- Trigger, averages and volume are the three signals; the rest are the gates.
  simp only [entryTriggerBreakout, BarSignals.combined, SimulationInput.gatesAllow, reads.spec,
    predicateCloseGtMa20, predicateMa20GtMa60, predicateVolumeGteMa20, SimulationInput.context,
    Bool.and_assoc]
  rfl

/-! ### Counting -/

/-- Counting a bar adds one to the combined signals exactly when all three conditions hold. -/
theorem SignalDiagnostics.count_combined (counts : SignalDiagnostics) (signals : BarSignals) :
    (counts.count signals).combinedEntrySignals =
        counts.combinedEntrySignals + signals.combined.toNat ∧
      (counts.count signals).warmupBars = counts.warmupBars := by
  unfold SignalDiagnostics.count
  cases combined : signals.combined <;> simp

/-- On bars that can be looked at, the loop counts those whose three conditions hold. -/
theorem counted_upTo {bars : List MarketBar} {breakoutN warmup : Int} {holds : Nat → Bool}
    {start : SignalDiagnostics} (first : start.combinedEntrySignals = 0)
    (warm : start.warmupBars = warmup)
    (seen : ∀ (index : Nat) bar, warmup ≤ (index : Int) → bars[index]? = some bar →
      ∃ signals, barSignals strategy bars breakoutN index bar = .ok signals ∧
        signals.combined = holds index) {count : Nat} (inside : count ≤ bars.length) :
    ∃ counts, Loop.upTo (countBar strategy bars breakoutN) start count = .ok counts ∧
      counts.warmupBars = warmup ∧ counts.combinedEntrySignals =
        (List.range count).countP fun (index : Nat) => decide (warmup ≤ index) && holds index := by
  -- Induction on the bars; a bar of the warm-up is passed over and not counted.
  induction count with
  | zero => exact ⟨start, rfl, warm, first⟩
  | succ count ih =>
    obtain ⟨counts, reached, warmed, counted⟩ := ih (by omega)
    have there : bars[count]? = some bars[count] := List.getElem?_eq_getElem inside
    rw [List.range_succ, List.countP_append, ← counted]
    by_cases early : (count : Int) < warmup
    · refine ⟨counts, Loop.upTo_succ_eq_ok.mpr ⟨counts, reached, ?_⟩, warmed, ?_⟩
      · rw [countBar, there, warmed]
        exact if_pos early
      · simp [not_le.mpr early]
    · obtain ⟨signals, looked, combined⟩ := seen count _ (not_lt.mp early) there
      obtain ⟨added, kept⟩ := counts.count_combined signals
      refine ⟨counts.count signals, Loop.upTo_succ_eq_ok.mpr ⟨counts, reached, ?_⟩,
        kept.trans warmed, ?_⟩
      · rw [countBar, there, warmed]
        simp only [if_neg early, looked, Except.map]
      · rw [added, combined]
        cases here : holds count <;> simp [not_lt.mp early, here]

/-- Every bar behind the warm-up has bars before it that the engine can look at. -/
def SimulationInput.Evaluable (input : SimulationInput) : Prop :=
  ∀ index : Nat, input.warmup ≤ index → index < input.bars.length →
    ∃ window, input.window index = .ok window

/-- The diagnostics of a plain breakout are made, with the warm-up of the engine and at least as
many signals as the engine has; without further gates the signals are those of the engine. -/
theorem signalDiagnostics_plain (plain : PlainBreakout strategy)
    (reads : ReadFrom numerals strategy input) (evaluable : input.Evaluable) (tradeCount : Nat) :
    ∃ diagnostics, signalDiagnostics numerals strategy input.bars tradeCount = .ok diagnostics ∧
      diagnostics.warmupBars = input.warmup ∧
      input.entrySignals numerals ≤ diagnostics.combinedEntrySignals ∧
      (input.rsActive = false → input.regimeActive = false →
        diagnostics.combinedEntrySignals = input.entrySignals numerals) := by
  let holds : Nat → Bool := fun index => input.bars[index]?.any fun bar =>
    ((barSignals strategy input.bars input.entryLookback index bar).toOption.map
      (·.combined)) = some true
  -- On every bar the engine decides on what the diagnostics see, and on the gates.
  have decided : ∀ (index : Nat) bar, input.warmup ≤ (index : Int) →
      input.bars[index]? = some bar →
      (∃ signals, barSignals strategy input.bars input.entryLookback index bar = .ok signals ∧
        signals.combined = holds index) ∧
      ∃ ctx, input.entryDecision numerals index bar =
        .ok (holds index && input.gatesAllow ctx) := by
    intro index bar late there
    obtain ⟨window, looked⟩ := evaluable index late (List.getElem?_eq_some_iff.mp there).1
    obtain ⟨signals, made, decision⟩ := @entryDecision_of_window _ _ _ plain reads _ bar _ looked
    have combined : signals.combined = holds index := by
      simp [holds, there, made, Except.toOption]
    exact ⟨⟨signals, made, combined⟩, _, combined ▸ decision⟩
  have read : breakoutWindow numerals strategy = .ok input.entryLookback := by
    obtain ⟨field, required, read⟩ :=
      Raise.bind_eq_ok.mp (trigger_of_breakout plain.breakout reads).2
    unfold RuleMap.require BacktestError.orRaise at required
    split at required
    · rename_i found
      rw [breakoutWindow, found, Except.ok.inj required]
      exact read
    · cases required
  obtain ⟨diagnostics, looped, warmed, counted⟩ := @counted_upTo strategy input.bars
    input.entryLookback input.warmup holds (.start tradeCount input.warmup input.exitLookback) rfl
    rfl (fun index bar late there => (decided index bar late there).1) _ le_rfl
  refine ⟨diagnostics, ?_, warmed, ?_, ?_⟩
  · unfold signalDiagnostics
    rw [read, maxRequiredLookback_eq reads plain.strength plain.regime, reads.exit]
    exact looped
  · rw [counted]
    refine List.countP_mono_left fun index member signalled => ?_
    obtain ⟨late, signalled⟩ := Bool.and_eq_true_iff.mp signalled
    have inside := List.mem_range.mp member
    have there : input.bars[index]? = some input.bars[index] := List.getElem?_eq_getElem inside
    obtain ⟨-, ctx, decision⟩ := decided index _ (of_decide_eq_true late) there
    simp only [there, decision, Except.toOption, Option.any_some, decide_eq_true_eq,
      Option.some.injEq, Bool.and_eq_true] at signalled
    rw [late, signalled.1]
    rfl
  · intro noStrength noRegime
    rw [counted]
    refine List.countP_congr fun index member => ?_
    have inside := List.mem_range.mp member
    have there : input.bars[index]? = some input.bars[index] := List.getElem?_eq_getElem inside
    by_cases late : input.warmup ≤ (index : Int)
    · obtain ⟨-, ctx, decision⟩ := decided index _ late there
      have open_ : input.gatesAllow ctx = true := by
        rw [reads.rsActive] at noStrength
        rw [reads.regimeActive] at noRegime
        simp [SimulationInput.gatesAllow, reads.spec, noStrength, noRegime,
          predicateRelativeStrengthMin, predicateRegimeBullishOnly]
      simp [there, decision, open_, Except.toOption, late]
    · simp [late]

/-! ### Runs -/

/-- The bars of a simulation that got through could all be looked at. -/
theorem evaluable_of_simulate {initialCapital : ℚ} {final : SimulationState}
    (simulated : simulate numerals input initialCapital = .ok final) : input.Evaluable := by
  intro index late inside
  obtain ⟨after, looped, -⟩ := Raise.bind_eq_ok.mp simulated
  obtain ⟨state, reached⟩ := Loop.upTo_of_le looped (Nat.succ_le_of_lt inside)
  obtain ⟨before, -, stepped⟩ := Loop.upTo_succ_eq_ok.mp reached
  rw [loopBody_of_getElem? (List.getElem?_eq_getElem inside)] at stepped
  cases stepBar_eq_ok stepped with
  | warmingUp early => exact absurd early (not_lt.mpr late)
  | waited late flat seen refused => exact ⟨_, seen⟩
  | entered late flat seen allowed bought => exact ⟨_, seen⟩
  | held late holding seen kept => exact ⟨_, seen⟩
  | exited late holding seen due sold => exact ⟨_, seen⟩

variable {result : RealBacktestResult}

/-- Every trade of a run was entered on a bar where the entry condition of the engine holds. -/
theorem entryDate_of_run {runId : String} {dataset : MarketDataset}
    (ran : run numerals runId strategy dataset assumptions = .ok result)
    (prepared : prepare numerals strategy assumptions (tradedBars strategy dataset)
      (peerBars strategy dataset) = .ok input)
    {trade : RealBacktestTrade} (traded : trade ∈ result.trades) :
    input.EntryDate numerals trade.entryDate ∧ input.Evaluable := by
  rcases lt_or_ge (tradedBars strategy dataset).length 61 with short | enough
  · rw [(rejected_of_run ran short).2] at traded
    cases traded
  · obtain ⟨other, capital, final, made⟩ := ran_of_run ran enough
    obtain rfl := Except.ok.inj (prepared.symm.trans made.prepared)
    rw [made.result] at traded
    obtain ⟨number, within, rfl⟩ := List.mem_mapIdx.mp traded
    exact ⟨(enteredLate_simulate made.simulated).closed _ (List.getElem_mem within),
      evaluable_of_simulate made.simulated⟩

/-- A simulation with an entry has an entry signal. -/
theorem entrySignals_pos {date : String} (entered : input.EntryDate numerals date) :
    0 < input.entrySignals numerals := by
  obtain ⟨index, bar, late, there, -, decision⟩ := entered
  refine List.countP_pos_iff.mpr ⟨index, List.mem_range.mpr (List.getElem?_eq_some_iff.mp there).1, ?_⟩
  simp [late, there, decision, Except.toOption]

variable {diagnostics : SignalDiagnostics}

/-- The diagnostics keep the warm-up they start with. -/
theorem signalDiagnostics_warmup {bars : List MarketBar} {tradeCount : Nat}
    (made : signalDiagnostics numerals strategy bars tradeCount = .ok diagnostics) :
    maxRequiredLookback numerals strategy = .ok diagnostics.warmupBars := by
  obtain ⟨breakoutN, -, rest⟩ := Raise.bind_eq_ok.mp made
  obtain ⟨exitN, -, rest⟩ := Raise.bind_eq_ok.mp rest
  obtain ⟨warmup, lookback, looped⟩ := Raise.bind_eq_ok.mp rest
  -- No pass of the loop changes the warm-up.
  have kept := @Loop.upTo_invariant _ _ _ _
    (fun _ (counts : SignalDiagnostics) => counts.warmupBars = warmup) rfl ?_ _ _ looped
  · rw [lookback, kept]
  · intro index before after same stepped
    unfold countBar at stepped
    split at stepped
    · split at stepped
      · exact Except.ok.inj stepped ▸ same
      · obtain ⟨signals, -, rfl⟩ := Raise.map_eq_ok.mp stepped
        exact (before.count_combined signals).2.trans same
    · exact Except.ok.inj stepped ▸ same

/-- What the diagnostics of a single symbol have in common with the engine. -/
structure DiagnosticsAgree (numerals : Py.Numerals) (strategy : CanonicalStrategySpec)
    (dataset : MarketDataset) (assumptions : BacktestExecutionAssumptionSet)
    (input : SimulationInput) : Prop where
  warmup : NotSwitchedOff strategy.filters "relative_strength_min" →
    NotSwitchedOff strategy.filters "regime_bullish_only" →
    (∀ tradeCount diagnostics, signalDiagnostics numerals strategy (sortedBars dataset.bars)
      tradeCount = .ok diagnostics → diagnostics.warmupBars = input.warmup) ∧
    ∀ runId result, run numerals runId strategy dataset assumptions = .ok result →
      ∀ trade ∈ result.trades, input.EntryDate numerals trade.entryDate
  signals : PlainBreakout strategy → input.rsActive = false → input.regimeActive = false →
    input.Evaluable → ∀ tradeCount, ∃ diagnostics,
      signalDiagnostics numerals strategy (sortedBars dataset.bars) tradeCount = .ok diagnostics ∧
        diagnostics.combinedEntrySignals = input.entrySignals numerals
  status : PlainBreakout strategy → ∀ runId result,
    run numerals runId strategy dataset assumptions = .ok result → result.trades ≠ [] →
      ∀ minimum, ∃ coverage, validationCoverageDiagnostic numerals strategy dataset (some result)
        minimum = .ok coverage ∧ coverage.sampleSufficiencyStatus ≠ .insufficientSignals

/-- Where there are combined signals, a coverage is never short of signals. -/
theorem coverage_of_signals {dataset : MarketDataset} {minimum : Nat} {warmup : Int}
    (lookback : maxRequiredLookback numerals strategy = .ok warmup)
    (made : signalDiagnostics numerals strategy (sortedBars dataset.bars)
      result.metrics.tradeCount = .ok diagnostics)
    (some_ : 0 < diagnostics.combinedEntrySignals) :
    ∃ coverage, validationCoverageDiagnostic numerals strategy dataset (some result) minimum =
      .ok coverage ∧ coverage.sampleSufficiencyStatus ≠ .insufficientSignals := by
  refine ⟨_, Raise.bind_eq_ok.mpr ⟨warmup, lookback,
    Raise.bind_eq_ok.mpr ⟨diagnostics, made, rfl⟩⟩, ?_⟩
  -- The status of too few signals is only given without any.
  dsimp only
  rw [if_neg some_.ne', if_neg some_.ne']
  split_ifs <;> simp

/-- On a single symbol the diagnostics have the warm-up of the engine unless a gate is stored as
switched off, count the entries of a plain breakout without further gates, and never report a
plain breakout that traded as short of signals. -/
theorem signal_diagnostics_agree {dataset : MarketDataset}
    {assumptions : BacktestExecutionAssumptionSet}
    (single : (distinctSymbols dataset).length ≤ 1)
    (prepared : prepare numerals strategy assumptions (tradedBars strategy dataset)
      (peerBars strategy dataset) = .ok input) :
    DiagnosticsAgree numerals strategy dataset assumptions input := by
  have reads := readFrom_of_prepare prepared
  have bars : sortedBars dataset.bars = input.bars := by
    rw [(prepare_eq_ok prepared).1, tradedBars, if_pos single]
  refine ⟨fun strength regime => ⟨?_, ?_⟩, ?_, ?_⟩
  · intro tradeCount diagnostics made
    exact Except.ok.inj ((signalDiagnostics_warmup made).symm.trans
      (maxRequiredLookback_eq reads strength regime))
  · exact fun runId result ran trade traded => (entryDate_of_run ran prepared traded).1
  · intro plain noStrength noRegime evaluable tradeCount
    obtain ⟨diagnostics, made, -, -, same⟩ :=
      signalDiagnostics_plain plain reads evaluable tradeCount
    exact ⟨diagnostics, bars ▸ made, same noStrength noRegime⟩
  · intro plain runId result ran traded minimum
    obtain ⟨trade, member⟩ := List.exists_mem_of_ne_nil _ traded
    obtain ⟨entered, evaluable⟩ := entryDate_of_run ran prepared member
    obtain ⟨diagnostics, made, -, most, -⟩ :=
      signalDiagnostics_plain plain reads evaluable result.metrics.tradeCount
    exact coverage_of_signals (maxRequiredLookback_eq reads plain.strength plain.regime)
      (bars ▸ made) ((entrySignals_pos entered).trans_le most)

set_option maxRecDepth 4096 in
/-- A breakout that traded has the signals of the engine, and enough of them. -/
theorem breakout_diagnostics_agree :
    ∃ input result, run noNumerals "run" breakoutSpec (flatThen [11, 9, 9]) onePercentCosts =
        .ok result ∧ result.trades.length = 1 ∧ input.entrySignals noNumerals = 1 ∧
      DiagnosticsAgree noNumerals breakoutSpec (flatThen [11, 9, 9]) onePercentCosts input := by
  have counted : ((prepare noNumerals breakoutSpec onePercentCosts
      (tradedBars breakoutSpec (flatThen [11, 9, 9]))
      (peerBars breakoutSpec (flatThen [11, 9, 9]))).toOption.bind fun input =>
        (run noNumerals "run" breakoutSpec (flatThen [11, 9, 9]) onePercentCosts).toOption.map
          fun result => (result.trades.length, input.entrySignals noNumerals)) = some (1, 1) := by
    decide +kernel
  cases prepared : prepare noNumerals breakoutSpec onePercentCosts
      (tradedBars breakoutSpec (flatThen [11, 9, 9]))
      (peerBars breakoutSpec (flatThen [11, 9, 9])) with
  | error raised => simp [prepared, Except.toOption] at counted
  | ok input =>
    cases ran : run noNumerals "run" breakoutSpec (flatThen [11, 9, 9]) onePercentCosts with
    | error raised => simp [prepared, ran, Except.toOption] at counted
    | ok result =>
      simp only [prepared, ran, Except.toOption, Option.bind_some, Option.map_some,
        Option.some.injEq, Prod.mk.injEq] at counted
      exact ⟨input, result, rfl, counted.1, counted.2,
        signal_diagnostics_agree (by decide +kernel) prepared⟩

/-- A strategy that buys dips below its average. -/
def dipSpec : CanonicalStrategySpec :=
  { breakoutSpec with entry := userRules [("mean_reversion_ma_lookback", .int 20)] }

set_option maxRecDepth 4096 in
/-- A dip that was bought and sold is reported as a sample without signals. -/
theorem dip_reported_without_signals :
    RuleBasedBacktestCapabilities.validate noNumerals dipSpec = .ok () ∧
      (distinctSymbols (flatThen [9, 10, 10])).length = 1 ∧
      (flatThen [9, 10, 10]).bars.length = 63 ∧
      ∃ input result coverage,
        prepare noNumerals dipSpec onePercentCosts (tradedBars dipSpec (flatThen [9, 10, 10]))
          (peerBars dipSpec (flatThen [9, 10, 10])) = .ok input ∧
        run noNumerals "run" dipSpec (flatThen [9, 10, 10]) onePercentCosts = .ok result ∧
        result.trades.length = 1 ∧
        validationCoverageDiagnostic noNumerals dipSpec (flatThen [9, 10, 10]) (some result)
          defaultMinimumRequiredTrades = .ok coverage ∧
        input.entrySignals noNumerals = 1 ∧
        coverage.signalDiagnostics.combinedEntrySignals = 0 ∧
        coverage.sampleSufficiencyStatus = .insufficientSignals := by
  refine ⟨by decide +kernel, by decide +kernel, by decide +kernel, ?_⟩
  have counted : ((prepare noNumerals dipSpec onePercentCosts
      (tradedBars dipSpec (flatThen [9, 10, 10]))
      (peerBars dipSpec (flatThen [9, 10, 10]))).toOption.bind fun input =>
        (run noNumerals "run" dipSpec (flatThen [9, 10, 10]) onePercentCosts).toOption.bind
          fun result => (validationCoverageDiagnostic noNumerals dipSpec (flatThen [9, 10, 10])
            (some result) defaultMinimumRequiredTrades).toOption.map fun coverage =>
              (result.trades.length, input.entrySignals noNumerals,
                coverage.signalDiagnostics.combinedEntrySignals,
                coverage.sampleSufficiencyStatus)) = some (1, 1, 0, .insufficientSignals) := by
    decide +kernel
  cases prepared : prepare noNumerals dipSpec onePercentCosts
      (tradedBars dipSpec (flatThen [9, 10, 10])) (peerBars dipSpec (flatThen [9, 10, 10])) with
  | error raised => simp [prepared, Except.toOption] at counted
  | ok input =>
    cases ran : run noNumerals "run" dipSpec (flatThen [9, 10, 10]) onePercentCosts with
    | error raised => simp [prepared, ran, Except.toOption] at counted
    | ok result =>
      cases judged : validationCoverageDiagnostic noNumerals dipSpec (flatThen [9, 10, 10])
          (some result) defaultMinimumRequiredTrades with
      | error raised => simp [prepared, ran, judged, Except.toOption] at counted
      | ok coverage =>
        simp only [prepared, ran, judged, Except.toOption, Option.bind_some, Option.map_some,
          Option.some.injEq, Prod.mk.injEq] at counted
        exact ⟨input, result, coverage, rfl, rfl, counted.1, judged, counted.2.1, counted.2.2.1,
          counted.2.2.2⟩

end StrategyLab
