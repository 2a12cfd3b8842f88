import StrategyLab.Lib.Json
import StrategyLab.Research.BacktestRules
import StrategyLab.Lib.Sorted
import Mathlib.Data.String.Basic

/-! Specifications as JSON, their fingerprints, and the candidates derived from one. -/

namespace StrategyLab

/-- The version that is written into a specification. -/
def krxRealPipelineSchemaVersion : Int := 1

/-- The text a provenance is written as. -/
def FieldProvenance.text : FieldProvenance → String
  | .userProvided => "user_provided"
  | .default => "default"
  | .derived => "derived"
  | .fixture => "fixture"
  | .real => "real"
  | .researchCandidate => "research_candidate"

/-- A value with its provenance as JSON. -/
def ProvenancedValue.toJson (field : ProvenancedValue) : Json :=
  let value := match field.value with
    | .str value => Json.str value
    | .int value => .int value
    | .float value => .float value
    | .bool value => .bool value
  .obj [("value", value), ("provenance", .str field.provenance.text)]

/-- Rules as a JSON object, in the order of their keys. -/
def RuleMap.toJson (rules : RuleMap) : Json :=
  .obj ((Py.sortedBy StrategyRule.key rules.rows).map fun rule => (rule.key, rule.field.toJson))

/-- Assign a field to a key. -/
def RuleMap.set (rules : RuleMap) (key : String) (field : ProvenancedValue) : RuleMap :=
  rules.replace ⟨key, field⟩

namespace CanonicalStrategySpec

/-- Everything a specification says, as JSON; this is what its fingerprint is taken of. -/
def unsignedFields (spec : CanonicalStrategySpec) : List (String × Json) :=
  [("schema_version", .int krxRealPipelineSchemaVersion), ("spec_id", .str spec.specId),
    ("symbol", .str spec.symbol), ("entry", spec.entry.toJson), ("exit", spec.exit.toJson),
    ("filters", spec.filters.toJson), ("source_text", .str spec.sourceText),
    ("created_at", .str spec.createdAt)]

variable (sha : Json → String)

/-- The SHA-256 of the JSON text of a specification. -/
def fingerprint (spec : CanonicalStrategySpec) : String := sha (.obj spec.unsignedFields)

/-- A specification as JSON, with its fingerprint. -/
def toJson (spec : CanonicalStrategySpec) : Json :=
  .obj (spec.unsignedFields ++ [("fingerprint", .str (spec.fingerprint sha))])

/-- The rules of a specification alone. -/
def rulesJson (spec : CanonicalStrategySpec) : Json :=
  .obj [("entry", spec.entry.toJson), ("exit", spec.exit.toJson),
    ("filters", spec.filters.toJson)]

end CanonicalStrategySpec

/-- Specifications with different identities have different fingerprints: no collision of SHA-256
between their texts. -/
def CollisionFree (sha : Json → String) : Prop :=
  ∀ left right : CanonicalStrategySpec,
    left.fingerprint sha = right.fingerprint sha → left.specId = right.specId

/-- A variation of a strategy that is to be tested against it. -/
structure ImprovementCandidate where
  candidateId : String
  parentStrategyId : String
  strategy : CanonicalStrategySpec
  changedFields : List String
  reason : String
  provenance : FieldProvenance

/-- A strategy with changed rules, under an identity that extends the one it is derived from. -/
def ImprovementCandidate.derive (strategy changed : CanonicalStrategySpec)
    (runId letter suffix createdAt changedField reason : String) : ImprovementCandidate :=
  { candidateId := s!"{runId}:candidate:{letter}", parentStrategyId := strategy.specId,
    strategy := { changed with specId := s!"{strategy.specId}:{suffix}", createdAt },
    changedFields := [changedField], reason, provenance := .researchCandidate }

namespace ImprovementCandidateGenerator

variable (strategy : CanonicalStrategySpec) (runId createdAt : String)

/-- A wider lookback for the entry trigger of the strategy. -/
def entryCandidate (numerals : Py.Numerals) :
    Except BacktestError (List ImprovementCandidate) := do
  let widen := fun (key : String) (lookback : Int) =>
    { strategy with entry := strategy.entry.set key ⟨.int lookback, .researchCandidate⟩ }
  if (strategy.entry.get "breakout_lookback").isSome then
    return [.derive strategy (widen "breakout_lookback" 30) runId "a" "breakout30" createdAt
      "entry.breakout_lookback" "거짓 돌파를 줄이기 위해 돌파 기준을 20일에서 30일로 늘립니다."]
  else
    let triggers := RuleBasedBacktestCapabilities.entryTriggerRules numerals
    match triggers.find? (· ∈ strategy.entry.keys) with
    | some key =>
      let current ← strategy.entry.require key >>= (·.toInt numerals)
      let widened := current + 10
      return [.derive strategy (widen key widened) runId "a" s!"{key}:{widened}" createdAt
        s!"entry.{key}"
        s!"신호 빈도를 낮추기 위해 진입 룩백을 {current}일에서 {widened}일로 늘립니다."]
    | none => return []

/-- A shorter exit channel. -/
def exitCandidate : ImprovementCandidate :=
  .derive strategy
    { strategy with
      exit := strategy.exit.set "channel_exit_lookback" ⟨.int 15, .researchCandidate⟩ }
    runId "b" "exit15" createdAt "exit.channel_exit_lookback"
    "수익 반납을 줄이는지 확인하기 위해 청산 저점 기준을 15일로 완화합니다."

/-- No volume filter. -/
def volumeCandidate : ImprovementCandidate :=
  .derive strategy
    { strategy with
      filters := strategy.filters.set "volume_gte_ma20" ⟨.bool false, .researchCandidate⟩ }
    runId "c" "volume-off" createdAt "filters.volume_gte_ma20"
    "거래량 필터가 지나치게 선택적인지 확인하기 위해 필터 제거 후보를 비교합니다."

/-- The candidates of a strategy; what a critic found about it is not looked at. -/
def generate (numerals : Py.Numerals) : Except BacktestError (List ImprovementCandidate) := do
  let entry ← entryCandidate strategy runId createdAt numerals
  return entry ++ [exitCandidate strategy runId createdAt, volumeCandidate strategy runId createdAt]

end ImprovementCandidateGenerator

end StrategyLab
