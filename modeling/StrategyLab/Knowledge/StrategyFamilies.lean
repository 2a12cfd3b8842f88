import StrategyLab.Research.StrategyCandidates

/-! The strategy families a mission can try, and the identity of the rules they stand for. -/

namespace StrategyLab

/-- The rules of a strategy, without a symbol or a run they belong to. -/
structure SpecRules where
  entry : RuleMap
  exit : RuleMap
  filters : RuleMap

/-- What rules say, in the order of their keys; where the values come from is left out. -/
def RuleMap.values (rules : RuleMap) : List (String × Py.Value) :=
  (Py.sortedBy StrategyRule.key rules.rows).map fun rule => (rule.key, rule.field.value)

/-- Rules that research came up with. -/
def researchRules (rules : List (String × Py.Value)) : RuleMap :=
  rules.foldl (fun built rule => built.replace ⟨rule.1, rule.2, .researchCandidate⟩) Table.empty

/-- Values under their keys as a JSON object. -/
def valuesJson (values : List (String × Py.Value)) : Json :=
  .obj (values.map fun value => (value.1, match value.2 with
    | .str value => Json.str value
    | .int value => .int value
    | .float value => .float value
    | .bool value => .bool value))

/-- The SHA-256 of what the rules say; symbols and runs have no part in it. -/
def SpecRules.strategyFamilyFingerprint (sha : Json → String) (rules : SpecRules) : String :=
  sha (.obj [("entry", valuesJson rules.entry.values), ("exit", valuesJson rules.exit.values),
    ("filters", valuesJson rules.filters.values)])

/-- A named combination of rules. -/
structure StrategyFamilyTemplate where
  family : String
  labelKo : String
  entry : List (String × Py.Value)
  exit : List (String × Py.Value)
  filters : List (String × Py.Value)
  deriving DecidableEq

/-- The rules of a template, as a specification is built with them. -/
def StrategyFamilyTemplate.specRules (template : StrategyFamilyTemplate) : SpecRules :=
  ⟨researchRules template.entry, researchRules template.exit, researchRules template.filters⟩

namespace StrategyFamilies

/-- The entry on a new high. -/
def breakout (lookback : Int) : List (String × Py.Value) := [("breakout_lookback", .int lookback)]

/-- The entry on a new high above both moving averages. -/
def breakoutInTrend (lookback : Int) : List (String × Py.Value) :=
  breakout lookback ++ [("close_gt_ma20", .bool true), ("ma20_gt_ma60", .bool true)]

/-- The entry below a moving average. -/
def meanReversion : List (String × Py.Value) :=
  [("mean_reversion_ma_lookback", .int 20), ("mean_reversion_band_pct", .float 5)]

/-- The entry on a rate of change. -/
def momentum : List (String × Py.Value) :=
  [("momentum_roc_lookback", .int 20), ("momentum_min_roc_pct", .float 10)]

/-- The entry on an advance that is wide against the ranges before it. -/
def volatilityThrust : List (String × Py.Value) :=
  [("volatility_atr_lookback", .int 20), ("volatility_thrust_k", .float (3 / 2))]

/-- The exits at a stop and at a channel. -/
def exits (stop : ℚ) (channel : Int) : List (String × Py.Value) :=
  [("protective_stop_pct", .float stop), ("channel_exit_lookback", .int channel)]

/-- The filter on the volume. -/
def volume : List (String × Py.Value) := [("volume_gte_ma20", .bool true)]

/-- The filter on a bullish market. -/
def bullish : List (String × Py.Value) :=
  [("regime_bullish_only", .bool true), ("regime_ma_lookback", .int 50)]

/-- The filter on the strength against other symbols. -/
def relativeStrength : List (String × Py.Value) :=
  [("relative_strength_min", .bool true), ("relative_strength_lookback", .int 20)]

/-- The families that are tried first. -/
def strategyFamilyTemplates : List StrategyFamilyTemplate :=
  [⟨"breakout_standard", "표준 돌파", breakout 20, exits (-5) 10, []⟩,
    ⟨"breakout_trend_confirmed", "추세 확인 돌파 (MA20/MA60 필터)", breakoutInTrend 20,
      exits (-5) 10, []⟩,
    ⟨"breakout_volume_confirmed", "거래량 확인 돌파", breakout 20, exits (-5) 10, volume⟩,
    ⟨"breakout_multi_confirmed", "복합 확인 돌파 (추세+거래량)", breakoutInTrend 20,
      exits (-5) 10, volume⟩]

/-- The families of the first expansion. -/
def strategySpaceExpansionTemplates : List StrategyFamilyTemplate :=
  [⟨"breakout_fast_volume_confirmed", "빠른 거래량 확인 돌파", breakout 10, exits (-4) 7, volume⟩,
    ⟨"breakout_slow_trend_confirmed", "느린 추세 확인 돌파", breakoutInTrend 30,
      exits (-5) 15, []⟩,
    ⟨"breakout_slow_multi_confirmed", "느린 복합 확인 돌파", breakoutInTrend 30,
      exits (-6) 15, volume⟩,
    ⟨"breakout_wide_standard", "넓은 채널 돌파", breakout 40, exits (-8) 20, []⟩,
    ⟨"breakout_fast_trend_confirmed", "빠른 추세 확인 돌파", breakoutInTrend 10,
      exits (-4) 7, []⟩]

/-- The families of the second expansion. -/
def strategySpaceExpansionRound2Templates : List StrategyFamilyTemplate :=
  [⟨"breakout_fast_standard", "빠른 표준 돌파", breakout 10, exits (-4) 7, []⟩,
    ⟨"breakout_fast_multi_confirmed", "빠른 복합 확인 돌파 (추세+거래량)", breakoutInTrend 10,
      exits (-4) 7, volume⟩,
    ⟨"breakout_slow_standard", "느린 표준 돌파", breakout 30, exits (-5) 15, []⟩,
    ⟨"breakout_slow_volume_confirmed", "느린 거래량 확인 돌파", breakout 30, exits (-5) 15, volume⟩,
    ⟨"breakout_wide_trend_confirmed", "넓은 채널 추세 확인 돌파", breakoutInTrend 40,
      exits (-8) 20, []⟩,
    ⟨"breakout_wide_volume_confirmed", "넓은 채널 거래량 확인 돌파", breakout 40,
      exits (-8) 20, volume⟩,
    ⟨"breakout_wide_multi_confirmed", "넓은 채널 복합 확인 돌파 (추세+거래량)", breakoutInTrend 40,
      exits (-8) 20, volume⟩]

/-- The families with another entry than a new high. -/
def nonBreakoutStrategyFamilyTemplates : List StrategyFamilyTemplate :=
  [⟨"mean_reversion_standard", "표준 평균회귀", meanReversion, exits (-5) 10, []⟩,
    ⟨"momentum_roc_standard", "표준 모멘텀 (N일 수익률)", momentum, exits (-5) 10, []⟩,
    ⟨"volatility_thrust_standard", "표준 변동성 급등 (레인지 대비 1일 상승)", volatilityThrust,
      exits (-5) 10, []⟩]

/-- The family that enters in a bullish market only. -/
def regimeFilteredStrategyFamilyTemplates : List StrategyFamilyTemplate :=
  [⟨"breakout_regime_filtered", "국면 필터 돌파 (상승 국면 한정)", breakout 20, exits (-5) 10, bullish⟩]

/-- The families that cross the entries with the filters. -/
def structuralFilterStrategyFamilyTemplates : List StrategyFamilyTemplate :=
  [⟨"mean_reversion_volume_confirmed", "평균회귀 + 거래량 확인", meanReversion,
      exits (-5) 10, volume⟩,
    ⟨"mean_reversion_regime_filtered", "평균회귀 + 상승 국면 필터", meanReversion,
      exits (-5) 10, bullish⟩,
    ⟨"mean_reversion_volume_regime_filtered", "평균회귀 + 거래량 + 상승 국면", meanReversion,
      exits (-5) 10, volume ++ bullish⟩,
    ⟨"momentum_roc_volume_confirmed", "ROC 모멘텀 + 거래량 확인", momentum, exits (-5) 10, volume⟩,
    ⟨"momentum_roc_regime_filtered", "ROC 모멘텀 + 상승 국면 필터", momentum,
      exits (-5) 10, bullish⟩,
    ⟨"momentum_roc_volume_regime_filtered", "ROC 모멘텀 + 거래량 + 상승 국면", momentum,
      exits (-5) 10, volume ++ bullish⟩,
    ⟨"volatility_thrust_volume_confirmed", "변동성 급등 + 거래량 확인", volatilityThrust,
      exits (-5) 10, volume⟩,
    ⟨"volatility_thrust_regime_filtered", "변동성 급등 + 상승 국면 필터", volatilityThrust,
      exits (-5) 10, bullish⟩,
    ⟨"volatility_thrust_volume_regime_filtered", "변동성 급등 + 거래량 + 상승 국면",
      volatilityThrust, exits (-5) 10, volume ++ bullish⟩,
    ⟨"breakout_regime_volume_confirmed", "돌파 + 상승 국면 + 거래량", breakout 20,
      exits (-5) 10, bullish ++ volume⟩,
    ⟨"breakout_regime_trend_confirmed", "돌파 + 상승 국면 + 추세 확인", breakoutInTrend 20,
      exits (-5) 10, bullish⟩,
    ⟨"breakout_regime_multi_confirmed", "돌파 + 상승 국면 + 추세 + 거래량", breakoutInTrend 20,
      exits (-5) 10, bullish ++ volume⟩]

/-- The family that needs other symbols to be compared with. -/
def relativeStrengthStrategyFamilyTemplates : List StrategyFamilyTemplate :=
  [⟨"breakout_relative_strength", "상대강도 돌파 (동종 대비 강세 한정)", breakout 20,
    exits (-5) 10, relativeStrength⟩]

/-- Every family that can be looked up by its name. -/
def templates : List StrategyFamilyTemplate :=
  strategyFamilyTemplates ++ strategySpaceExpansionTemplates ++
    strategySpaceExpansionRound2Templates ++ nonBreakoutStrategyFamilyTemplates ++
    regimeFilteredStrategyFamilyTemplates ++ structuralFilterStrategyFamilyTemplates ++
    relativeStrengthStrategyFamilyTemplates

/-- The template of a family. -/
def template? (family : String) : Option StrategyFamilyTemplate :=
  templates.find? (·.family = family)

/-- No two templates are of one family. -/
theorem families_nodup : (templates.map (·.family)).Nodup := by decide +kernel

/-- A template is found under its family. -/
theorem template?_eq_some_iff {family : String} {template : StrategyFamilyTemplate} :
    template? family = some template ↔ template ∈ templates ∧ template.family = family :=
  Table.find?_eq_some_iff (t := ⟨templates, families_nodup⟩)

/-- What the code relies on about the digests: no two families collide, and each is a text that
`strip` leaves as it is. -/
structure DistinctDigests (sha : Json → String) : Prop where
  distinct : (templates.map (·.specRules.strategyFamilyFingerprint sha)).Nodup
  unpadded : ∀ template ∈ templates,
    Py.strip (template.specRules.strategyFamilyFingerprint sha) =
      template.specRules.strategyFamilyFingerprint sha
  nonempty : ∀ template ∈ templates, template.specRules.strategyFamilyFingerprint sha ≠ ""

end StrategyFamilies

end StrategyLab
