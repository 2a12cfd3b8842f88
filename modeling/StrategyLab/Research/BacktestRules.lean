import StrategyLab.Research.StrategySpec
import Mathlib.Algebra.BigOperators.Group.List.Basic
import Mathlib.Data.List.Sort

/-! The rules the backtest engine executes, and the specifications it accepts. -/

namespace StrategyLab

/-- How a traded symbol stands against its moving average and its past level. -/
inductive MarketRegime where
  | bull
  | bear
  | neutral
  deriving DecidableEq, Repr

/-- Everything a rule may look at on the bar it decides on. -/
structure BarEvalContext where
  close : ℚ
  ma20 : ℚ
  ma60 : ℚ
  volume : Int
  volumeMa20 : ℚ
  priorHigh : ℚ
  priorLow : ℚ
  priorCloses : List ℚ
  priorHighs : List ℚ
  priorLows : List ℚ
  relativeStrength : Option ℚ
  marketRegime : Option MarketRegime

/-- The part of a specification that a rule belongs to. -/
inductive RuleComponent where
  | entry
  | exit
  | filter
  deriving DecidableEq, Repr

/-- The text a component is reported as. -/
def RuleComponent.value : RuleComponent → String
  | .entry => "entry"
  | .exit => "exit"
  | .filter => "filter"

/-- The rules of a specification in one component. -/
def CanonicalStrategySpec.rules (spec : CanonicalStrategySpec) : RuleComponent → RuleMap
  | .entry => spec.entry
  | .exit => spec.exit
  | .filter => spec.filters

/-! ### Predicate handlers: whether an entry is allowed on this bar -/

/-- The close is above its 20-bar average. -/
def predicateCloseGtMa20 (active : Bool) (ctx : BarEvalContext) : Bool :=
  !active || ctx.ma20 < ctx.close

/-- The 20-bar average is above the 60-bar average. -/
def predicateMa20GtMa60 (active : Bool) (ctx : BarEvalContext) : Bool :=
  !active || ctx.ma60 < ctx.ma20

/-- The volume is at least its 20-bar average. -/
def predicateVolumeGteMa20 (active : Bool) (ctx : BarEvalContext) : Bool :=
  !active || ctx.volumeMa20 ≤ ctx.volume

/-- The symbol is at least as strong as the benchmark; an unknown strength blocks the entry. -/
def predicateRelativeStrengthMin (active : Bool) (ctx : BarEvalContext) : Bool :=
  !active || ctx.relativeStrength.any fun strength => 0 ≤ strength

/-- The regime is bullish; an unknown regime blocks the entry. -/
def predicateRegimeBullishOnly (active : Bool) (ctx : BarEvalContext) : Bool :=
  !active || ctx.marketRegime = some .bull

section Handlers

variable (numerals : Py.Numerals)

/-! ### Parameter handlers: the values the engine reads from a specification -/

/-- An integer entry rule that has to be there. -/
def paramEntryLookback (key : String) (spec : CanonicalStrategySpec) : Except BacktestError Int :=
  spec.entry.require key >>= (·.toInt numerals)

/-- An optional integer rule with its default. -/
def paramIntOr (component : RuleComponent) (key : String) (default : Int)
    (spec : CanonicalStrategySpec) : Except BacktestError Int :=
  match (spec.rules component).get key with
  | some field => field.toInt numerals
  | none => .ok default

/-- An optional entry percentage with its default, whatever its sign. -/
def paramAbsPctOr (key : String) (default : ℚ) (spec : CanonicalStrategySpec) :
    Except BacktestError ℚ :=
  match spec.entry.get key with
  | some field => do return |← field.toFloat numerals|
  | none => .ok default

/-- How many bars a breakout has to exceed. -/
def paramBreakoutLookback := paramEntryLookback numerals "breakout_lookback"

/-- How many bars an exit channel spans. -/
def paramChannelExitLookback := paramIntOr numerals .exit "channel_exit_lookback" 10

/-- How far below the entry price the stop lies, as a fraction. -/
def paramProtectiveStopPct (spec : CanonicalStrategySpec) : Except BacktestError ℚ := do
  let field ← spec.exit.require "protective_stop_pct"
  return |← field.toFloat numerals| / 100

/-- Over how many bars the relative strength is measured. -/
def paramRelativeStrengthLookback :=
  paramIntOr numerals .filter "relative_strength_lookback" 20

/-- Over how many bars the regime is classified. -/
def paramRegimeMaLookback := paramIntOr numerals .filter "regime_ma_lookback" 50

/-- Over how many closes the reversion average is taken. -/
def paramMeanReversionMaLookback := paramEntryLookback numerals "mean_reversion_ma_lookback"

/-- How far below the average a dip has to fall, in percent. -/
def paramMeanReversionBandPct := paramAbsPctOr numerals "mean_reversion_band_pct" 5

/-- Over how many bars the rate of change is taken. -/
def paramMomentumRocLookback := paramEntryLookback numerals "momentum_roc_lookback"

/-- The smallest rate of change that opens a position, in percent. -/
def paramMomentumMinRocPct := paramAbsPctOr numerals "momentum_min_roc_pct" 10

/-- Over how many bars the average range is taken. -/
def paramVolatilityAtrLookback := paramEntryLookback numerals "volatility_atr_lookback"

/-- How many average ranges an advance has to span. -/
def paramVolatilityThrustK := paramAbsPctOr numerals "volatility_thrust_k" (3 / 2)

/-! ### Entry triggers: whether this bar opens a position -/

/-- The close is above every high of the lookback. -/
def entryTriggerBreakout (_ : CanonicalStrategySpec) (ctx : BarEvalContext) :
    Except BacktestError Bool :=
  .ok (ctx.priorHigh < ctx.close)

/-- The close is a band below the average of the lookback. -/
def entryTriggerMeanReversion (spec : CanonicalStrategySpec) (ctx : BarEvalContext) :
    Except BacktestError Bool := do
  let lookback ← paramMeanReversionMaLookback numerals spec
  if lookback ≤ 0 then return false
  let window := Py.lastSlice lookback ctx.priorCloses
  if (window.length : Int) < lookback then return false
  let sma := window.sum / lookback
  let band := (← paramMeanReversionBandPct numerals spec) / 100
  return ctx.close ≤ sma * (1 - band)

/-- The close has risen enough over the lookback. -/
def entryTriggerMomentum (spec : CanonicalStrategySpec) (ctx : BarEvalContext) :
    Except BacktestError Bool := do
  let lookback ← paramMomentumRocLookback numerals spec
  if lookback ≤ 0 then return false
  let window := Py.lastSlice lookback ctx.priorCloses
  if (window.length : Int) < lookback then return false
  let pastClose := window.headD 0
  if pastClose ≤ 0 then return false
  let roc := ctx.close / pastClose - 1
  let threshold := (← paramMomentumMinRocPct numerals spec) / 100
  return threshold ≤ roc

/-- The close has advanced by enough average ranges on this bar. -/
def entryTriggerVolatility (spec : CanonicalStrategySpec) (ctx : BarEvalContext) :
    Except BacktestError Bool := do
  let lookback ← paramVolatilityAtrLookback numerals spec
  if lookback ≤ 0 then return false
  let highs := Py.lastSlice lookback ctx.priorHighs
  let lows := Py.lastSlice lookback ctx.priorLows
  match ctx.priorCloses.getLast? with
  | none => return false
  | some lastClose =>
    if (highs.length : Int) < lookback ∨ (lows.length : Int) < lookback then return false
    let avgRange := (List.zipWith (· - ·) highs lows).sum / lookback
    if avgRange ≤ 0 then return false
    let k ← paramVolatilityThrustK numerals spec
    return k * avgRange ≤ ctx.close - lastClose

/-! ### The registry -/

/-- What executes a rule; a parameter is read by the engine through its own handler above. -/
inductive RuleHandler where
  | parameter
  | predicate (allows : Bool → BarEvalContext → Bool)
  | entryTrigger (opens : CanonicalStrategySpec → BarEvalContext → Except BacktestError Bool)
      (lookback : CanonicalStrategySpec → Except BacktestError Int)

/-- One rule the engine can execute. -/
structure BacktestRuleDefinition where
  key : String
  component : RuleComponent
  required : Bool
  handler : RuleHandler

/-- Whether the rule decides if a bar opens a position. -/
def BacktestRuleDefinition.isEntryTrigger (definition : BacktestRuleDefinition) : Bool :=
  match definition.handler with
  | .entryTrigger _ _ => true
  | _ => false

/-- Whether the rule is a gate that can be switched on. -/
def BacktestRuleDefinition.isPredicate (definition : BacktestRuleDefinition) : Bool :=
  match definition.handler with
  | .predicate _ => true
  | _ => false

/-- Every rule the engine can execute. -/
def backtestRuleDefinitions : List BacktestRuleDefinition :=
  [⟨"breakout_lookback", .entry, false,
      .entryTrigger entryTriggerBreakout (paramBreakoutLookback numerals)⟩,
    ⟨"mean_reversion_ma_lookback", .entry, false,
      .entryTrigger (entryTriggerMeanReversion numerals) (paramMeanReversionMaLookback numerals)⟩,
    ⟨"mean_reversion_band_pct", .entry, false, .parameter⟩,
    ⟨"momentum_roc_lookback", .entry, false,
      .entryTrigger (entryTriggerMomentum numerals) (paramMomentumRocLookback numerals)⟩,
    ⟨"momentum_min_roc_pct", .entry, false, .parameter⟩,
    ⟨"volatility_atr_lookback", .entry, false,
      .entryTrigger (entryTriggerVolatility numerals) (paramVolatilityAtrLookback numerals)⟩,
    ⟨"volatility_thrust_k", .entry, false, .parameter⟩,
    ⟨"close_gt_ma20", .entry, false, .predicate predicateCloseGtMa20⟩,
    ⟨"ma20_gt_ma60", .entry, false, .predicate predicateMa20GtMa60⟩,
    ⟨"protective_stop_pct", .exit, true, .parameter⟩,
    ⟨"channel_exit_lookback", .exit, false, .parameter⟩,
    ⟨"volume_gte_ma20", .filter, false, .predicate predicateVolumeGteMa20⟩,
    ⟨"relative_strength_min", .filter, false, .predicate predicateRelativeStrengthMin⟩,
    ⟨"relative_strength_lookback", .filter, false, .parameter⟩,
    ⟨"regime_bullish_only", .filter, false, .predicate predicateRegimeBullishOnly⟩,
    ⟨"regime_ma_lookback", .filter, false, .parameter⟩]

end Handlers

/-- A predicate rule is active when the specification carries it with a true value. -/
def predicateRuleActive (rules : RuleMap) (key : String) : Bool :=
  (rules.get key).any fun field => field.value.truthy

namespace RuleBasedBacktestCapabilities

variable (numerals : Py.Numerals)

/-- The keys of one component that the engine supports. -/
def supportedRules (component : RuleComponent) : List String :=
  ((backtestRuleDefinitions numerals).filter (·.component = component)).map (·.key)

/-- The keys of one component that a specification has to carry. -/
def requiredRules (component : RuleComponent) : List String :=
  ((backtestRuleDefinitions numerals).filter fun definition =>
    definition.component = component && definition.required).map (·.key)

/-- The keys of which a specification carries exactly one. -/
def entryTriggerRules : List String :=
  ((backtestRuleDefinitions numerals).filter (·.isEntryTrigger)).map (·.key)

/-- Keys in the order they are reported. -/
def sorted (keys : List String) : List String := keys.insertionSort (· ≤ ·)

/-- What is wrong with a specification. -/
inductive Problem where
  | missing (component : RuleComponent) (key : String)
  | unsupported (component : RuleComponent) (key : String)
  | nonBool (component : RuleComponent) (key : String)
  | entryTriggerGroup (key : String)
  deriving DecidableEq, Repr

/-- The component and the key a problem is reported under. -/
def Problem.component : Problem → String × String
  | .missing component key => (component.value, key)
  | .unsupported component key => (component.value, key)
  | .nonBool component key => (component.value, key)
  | .entryTriggerGroup key => ("entry", key)

/-- Required rules that the specification lacks. -/
def missingRules (spec : CanonicalStrategySpec) (component : RuleComponent) : List Problem :=
  (sorted ((requiredRules numerals component).filter (· ∉ (spec.rules component).keys))).map
    (.missing component)

/-- Rules of the specification that the engine does not know. -/
def unknownRules (spec : CanonicalStrategySpec) (component : RuleComponent) : List Problem :=
  (sorted ((spec.rules component).keys.filter (· ∉ supportedRules numerals component))).map
    (.unsupported component)

/-- Predicate rules that carry something else than a `bool`. -/
def nonBoolRules (spec : CanonicalStrategySpec) : List Problem :=
  (((backtestRuleDefinitions numerals).filter (·.isPredicate)).insertionSort
    fun left right => left.key ≤ right.key).filterMap fun definition =>
      match (spec.rules definition.component).get definition.key with
      | some field =>
        if field.value.isBool then none else some (.nonBool definition.component definition.key)
      | none => none

/-- Every trigger of a specification that does not carry exactly one. -/
def triggerGroup (spec : CanonicalStrategySpec) : List Problem :=
  match sorted ((entryTriggerRules numerals).filter (· ∈ spec.entry.keys)) with
  | [] => [.entryTriggerGroup "none"]
  | [_] => []
  | present => present.map .entryTriggerGroup

/-- Everything in a specification that the engine cannot honour. -/
def unsupportedComponents (spec : CanonicalStrategySpec) : List Problem :=
  missingRules numerals spec .entry ++ missingRules numerals spec .exit ++
    unknownRules numerals spec .entry ++ unknownRules numerals spec .exit ++
    unknownRules numerals spec .filter ++ nonBoolRules numerals spec ++ triggerGroup numerals spec

/-- Refuse a specification that cannot be executed as a whole. -/
def validate (spec : CanonicalStrategySpec) : Except BacktestError Unit :=
  match unsupportedComponents numerals spec with
  | [] => .ok ()
  | problems => .error (.unsupportedStrategyRule (problems.map (·.component)))

end RuleBasedBacktestCapabilities

end StrategyLab
