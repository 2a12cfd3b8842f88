import StrategyLab.Lib.Python
import StrategyLab.Lib.Table

/-! Strategy specifications, market bars, and the assumptions a backtest is run under. -/

namespace StrategyLab

/-- Where a field of a specification comes from. -/
inductive FieldProvenance where
  | userProvided
  | default
  | derived
  | fixture
  | real
  | researchCandidate
  deriving DecidableEq, Repr

/-- A value together with where it comes from. -/
structure ProvenancedValue where
  value : Py.Value
  provenance : FieldProvenance
  deriving DecidableEq

/-- One rule of a specification under its key. -/
structure StrategyRule where
  key : String
  field : ProvenancedValue
  deriving DecidableEq

/-- The rules of one part of a specification, at most one under each key. -/
abbrev RuleMap := Table StrategyRule.key

/-- The field under a key, if there is one. -/
def RuleMap.get (rules : RuleMap) (key : String) : Option ProvenancedValue :=
  (rules.find? key).map (·.field)

/-- The keys of the rules. -/
def RuleMap.keys (rules : RuleMap) : List String := rules.rows.map (·.key)

/-- Rules given by a user. -/
def userRules (rules : List (String × Py.Value)) : RuleMap :=
  rules.foldl (fun built rule => built.replace ⟨rule.1, rule.2, .userProvided⟩) Table.empty

/-- The reading of texts as numbers where every text is refused. -/
def noNumerals : Py.Numerals := ⟨fun _ => none, fun _ => none⟩

/-- A strategy that a backtest engine can be asked to run. -/
structure CanonicalStrategySpec where
  specId : String
  symbol : String
  entry : RuleMap
  exit : RuleMap
  filters : RuleMap
  sourceText : String
  createdAt : String

/-- What a backtest assumes about costs, sizing and capital. -/
structure BacktestExecutionAssumptionSet where
  commission : ProvenancedValue
  tax : ProvenancedValue
  slippage : ProvenancedValue
  executionTiming : ProvenancedValue
  positionSizing : ProvenancedValue
  initialCapital : ProvenancedValue

/-- One day of one symbol. -/
structure MarketBar where
  timestamp : String
  symbol : String
  open_ : ℚ
  high : ℚ
  low : ℚ
  close : ℚ
  volume : Int
  tradingValue : Int
  deriving DecidableEq

/-- The bars a backtest is run on, of one or of several symbols. -/
structure MarketDataset where
  datasetId : String
  bars : List MarketBar
  fixtureBacked : Bool

/-- Where the bars of a dataset come from. -/
inductive MarketDataAvailability where
  | real
  | fixture
  | realDataUnavailable
  deriving DecidableEq, Repr

/-- The availability a dataset discloses. -/
def MarketDataset.source (dataset : MarketDataset) : MarketDataAvailability :=
  if dataset.fixtureBacked then .fixture else .real

/-- What running a backtest can raise. -/
inductive BacktestError where
  | unsupportedStrategyRule (components : List (String × String))
  | keyError (key : String)
  | indexError
  | valueError
  | zeroDivision
  deriving DecidableEq, Repr

/-- Raise unless there is a value. -/
def BacktestError.orRaise {α : Type} (error : BacktestError) : Option α → Except BacktestError α
  | some value => .ok value
  | none => .error error

/-- The field under a key that has to be there. -/
def RuleMap.require (rules : RuleMap) (key : String) : Except BacktestError ProvenancedValue :=
  (BacktestError.keyError key).orRaise (rules.get key)

namespace ProvenancedValue

variable (numerals : Py.Numerals)

/-- The value read by `int`. -/
def toInt (field : ProvenancedValue) : Except BacktestError Int :=
  BacktestError.valueError.orRaise (field.value.toInt numerals)

/-- The value read by `float`. -/
def toFloat (field : ProvenancedValue) : Except BacktestError ℚ :=
  BacktestError.valueError.orRaise (field.value.toFloat numerals)

end ProvenancedValue

end StrategyLab
