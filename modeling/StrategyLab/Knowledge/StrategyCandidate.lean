import StrategyLab.Knowledge.StrategyFamilies
import StrategyLab.Lib.Dict
import StrategyLab.Lib.Decimal

/-! Strategy candidates: what is recorded of one, and how a cycle of research changes the record. -/

namespace StrategyLab

/-- How many cycles in a row may bring no progress. -/
def stagnationCycleThreshold : Nat := 3

/-- How many cycles a candidate may take in all. -/
def absoluteCandidateCycleCap : Nat := 12

/-- How many symbols have to be valid before the evidence counts for the universe. -/
def minValidSymbolsForUniverseEvidence : Int := 5

/-- Which part of the attempted symbols has to be valid for that. -/
def minValidSymbolRatioForUniverseEvidence : ℚ := 3 / 10

/-- How many symbols breadth evidence is kept of. -/
def breadthEvidenceSymbolCap : Nat := 64

/-- How many symbols of robustness cycles are remembered. -/
def robustnessEvidenceSymbolCap : Nat := breadthEvidenceSymbolCap

/-- How many trades a promotion needs. -/
def promotionMinTradeSample : Int := 30

/-- How many attempted validations are remembered. -/
def actionCycleHistoryCap : Nat := 48

/-- The statuses of a validation stage that count as passed. -/
def passLikeStageStatuses : List String :=
  ["pass", "stable", "cost_stable", "acceptable", "sufficient"]

/-- The stage that each executable action validates. -/
def actionStageKeys : List (String × String) :=
  [("RUN_OOS", "out_of_sample"), ("RUN_REGIME", "regime_validation"),
    ("RUN_WALK_FORWARD", "walk_forward"), ("RUN_COST_STRESS", "transaction_cost_stress"),
    ("RUN_SENSITIVITY", "parameter_sensitivity"), ("RUN_MONTE_CARLO", "monte_carlo")]

/-- Where a candidate stands. -/
inductive StrategyCandidateStatus where
  | exploring
  | validating
  | robustness
  | promotionReady
  | rejected
  | stagnant
  deriving DecidableEq, Repr

/-- The text a status is written as. -/
def StrategyCandidateStatus.text : StrategyCandidateStatus → String
  | .exploring => "exploring"
  | .validating => "validating"
  | .robustness => "robustness"
  | .promotionReady => "promotion_ready"
  | .rejected => "rejected"
  | .stagnant => "stagnant"

/-- A text, or a default where there is none or it is empty. -/
def textOr (text : Option String) (default : String) : String :=
  match text with
  | some text => if text = "" then default else text
  | none => default

/-- A text that is there and not empty. -/
def someText (text : Option String) : Option String := text.filter (· ≠ "")

/-- What an evaluation measured on one symbol; a missing number was not reported. -/
structure SymbolMetrics where
  tradeCount : Option Int
  totalReturn : Option ℚ
  mdd : Option ℚ
  deriving DecidableEq

/-- What a cycle reports of one symbol. -/
structure EvidenceDetail where
  symbol : String
  eligible : Bool
  tradeCount : Option Int
  totalReturn : Option ℚ
  mdd : Option ℚ
  metrics : SymbolMetrics
  evidenceId : String
  qualityStatus : String
  source : String
  fixtureBacked : Bool
  deriving DecidableEq

/-- What is recorded of one symbol. -/
structure SymbolEvidence where
  symbol : String
  eligible : Bool
  tradeCount : Int
  totalReturn : Option ℚ
  mdd : Option ℚ
  profitable : Option Bool
  evidenceId : String
  qualityStatus : String
  source : String
  fixtureBacked : Bool
  deriving DecidableEq

/-- The evidence of a candidate, one entry for each symbol. -/
abbrev BreadthEvidence := Table SymbolEvidence.symbol

/-- The details of one cycle, one for each symbol. -/
abbrev EvidenceDetails := Table EvidenceDetail.symbol

/-- An entry that says only whether the symbol was valid. -/
def SymbolEvidence.bare (symbol : String) (eligible : Bool) (source : String) : SymbolEvidence :=
  { symbol, eligible, tradeCount := 0, totalReturn := none, mdd := none, profitable := none,
    evidenceId := "", qualityStatus := "", source, fixtureBacked := false }

/-- The entry that is recorded of a detail: what it lacks is taken from its metrics. -/
def normalizeBreadthEvidenceDetail (detail : EvidenceDetail) : SymbolEvidence :=
  let tradeCount := ((detail.tradeCount).or detail.metrics.tradeCount).getD 0
  let totalReturn := (detail.totalReturn).or detail.metrics.totalReturn
  { symbol := detail.symbol
    eligible := detail.eligible
    tradeCount
    totalReturn
    mdd := (detail.mdd).or detail.metrics.mdd
    profitable := if detail.eligible && 0 < tradeCount then totalReturn.map (0 < ·) else none
    evidenceId := detail.evidenceId
    qualityStatus := detail.qualityStatus
    source := detail.source
    fixtureBacked := detail.fixtureBacked }

/-- The status of one validation stage. -/
structure StageStatus where
  stage : String
  status : String
  deriving DecidableEq

/-- The statuses of validation stages, at most one for each of them. -/
abbrev StageStatuses := Table StageStatus.stage

/-- The status of a stage, if there is one. -/
def StageStatuses.get (statuses : StageStatuses) (stage : String) : Option String :=
  (statuses.find? stage).map (·.status)

/-- One validation that was attempted, with the evidence before and after it. -/
structure ValidationAttempt where
  action : String
  stage : String
  symbol : String
  stateKey : String
  resultStateKey : String
  progressed : Bool
  reference : String
  deriving DecidableEq

/-- What is known of one strategy candidate. -/
structure StrategyCandidateRecord where
  candidateId : String
  strategyFingerprint : String
  strategyFamily : String
  specRules : SpecRules
  hypothesisSummary : String
  parentCandidateId : Option String
  generation : Nat
  status : StrategyCandidateStatus
  attemptedSymbols : Int
  validSymbols : Int
  tradeCount : Int
  evidenceSymbols : List String
  excludedSymbols : List String
  cyclesCompleted : Nat
  cyclesWithoutProgress : Nat
  lastDirectorAction : Option String
  rejectedReason : Option String
  promotionReadyAt : Option String
  createdAt : String
  updatedAt : String
  validationStageStatus : StageStatuses
  robustnessEvidenceSymbols : List String
  robustnessAttemptCount : Nat
  lastValidationSymbol : Option String
  lastValidationReference : Option String
  breadthEvidence : BreadthEvidence
  breadthLegacyTradeCount : Int
  sampleExhaustionReason : Option String
  breadthSummary : List (String × Json)
  validationAttemptHistory : List ValidationAttempt

/-- A record as it was stored; one from before breadth evidence was kept has none. -/
structure PersistedCandidate where
  /-- Every field but the breadth evidence. -/
  fields : StrategyCandidateRecord
  breadthEvidence : Option BreadthEvidence

/-- The evidence that two lists of symbols stand for. -/
def seededEvidence (evidenceSymbols excludedSymbols : List String) : BreadthEvidence :=
  (Table.ofRows (evidenceSymbols.map (.bare · true "legacy_candidate_state"))).setDefaults
    (excludedSymbols.map (.bare · false "legacy_candidate_state"))

namespace StrategyCandidateRecord

/-- The record as it is stored. -/
def toJson (candidate : StrategyCandidateRecord) : PersistedCandidate :=
  ⟨candidate, some candidate.breadthEvidence⟩

/-- The record that is read back: empty texts are none, and without breadth evidence the symbols
stand for themselves and the trades that were counted are kept as one number. -/
def fromJson (raw : PersistedCandidate) : StrategyCandidateRecord :=
  let seeded := seededEvidence raw.fields.evidenceSymbols raw.fields.excludedSymbols
  { raw.fields with
    parentCandidateId := someText raw.fields.parentCandidateId
    lastDirectorAction := someText raw.fields.lastDirectorAction
    rejectedReason := someText raw.fields.rejectedReason
    promotionReadyAt := someText raw.fields.promotionReadyAt
    lastValidationSymbol := someText raw.fields.lastValidationSymbol
    lastValidationReference := someText raw.fields.lastValidationReference
    breadthEvidence := raw.breadthEvidence.getD seeded
    breadthLegacyTradeCount :=
      if raw.breadthEvidence.isSome then raw.fields.breadthLegacyTradeCount
      else if seeded.rows = [] then 0
      else raw.fields.tradeCount
    sampleExhaustionReason := someText raw.fields.sampleExhaustionReason
    validationAttemptHistory :=
      Py.lastSlice actionCycleHistoryCap raw.fields.validationAttemptHistory }

/-- The valid part of the attempted symbols. -/
def validSymbolRatio (candidate : StrategyCandidateRecord) : Option ℚ :=
  if candidate.attemptedSymbols ≤ 0 then none
  else some (candidate.validSymbols / candidate.attemptedSymbols)

/-- Whether the evidence counts for the whole universe. -/
def hasSufficientUniverseEvidence (candidate : StrategyCandidateRecord) : Bool :=
  match candidate.validSymbolRatio with
  | none => false
  | some ratio =>
    minValidSymbolsForUniverseEvidence ≤ candidate.validSymbols &&
      minValidSymbolRatioForUniverseEvidence ≤ ratio

end StrategyCandidateRecord

/-- The text of a candidate's number. -/
def candidateId (sequence : Nat) : String :=
  "KR-ST-" ++ .ofList
    (List.replicate (3 - (Nat.repr sequence).length) '0' ++ (Nat.repr sequence).toList)

/-- The number in the text of a candidate; zero where there is none. -/
def sequenceFromCandidateId (candidateId : String) : Nat :=
  ((Py.intOfText (.ofList
    (candidateId.toList.reverse.takeWhile (· ≠ '-')).reverse)).map Int.toNat).getD 0

/-- The record of a candidate nothing was done with yet. -/
def StrategyFamilyTemplate.newRecord (template : StrategyFamilyTemplate) (sha : Json → String)
    (sequence : Nat) (now : String) : StrategyCandidateRecord :=
  { candidateId := candidateId sequence
    strategyFingerprint := template.specRules.strategyFamilyFingerprint sha
    strategyFamily := template.family
    specRules := template.specRules
    hypothesisSummary := template.labelKo
    parentCandidateId := none
    generation := 0
    status := .exploring
    attemptedSymbols := 0
    validSymbols := 0
    tradeCount := 0
    evidenceSymbols := []
    excludedSymbols := []
    cyclesCompleted := 0
    cyclesWithoutProgress := 0
    lastDirectorAction := none
    rejectedReason := none
    promotionReadyAt := none
    createdAt := now
    updatedAt := now
    validationStageStatus := Table.empty
    robustnessEvidenceSymbols := []
    robustnessAttemptCount := 0
    lastValidationSymbol := none
    lastValidationReference := none
    breadthEvidence := Table.empty
    breadthLegacyTradeCount := 0
    sampleExhaustionReason := none
    breadthSummary := []
    validationAttemptHistory := [] }

/-- A new candidate of a family; `none` stands for the error that an unknown family raises. -/
def newCandidate (sha : Json → String) (family : String) (sequence : Nat) (now : String) :
    Option StrategyCandidateRecord :=
  (StrategyFamilies.template? family).map (·.newRecord sha sequence now)

/-- What a breadth cycle reports; details are missing where only the totals are known. -/
structure BreadthProgress where
  attempted : Int
  valid : Int
  tradeCount : Int
  evidenceSymbols : List String
  excludedSymbols : List String
  providerBlocked : Bool
  now : String
  evidenceDetails : Option EvidenceDetails
  sampleExhaustionReason : Option String
  breadthSummary : List (String × Json)

/-- What a record says about the symbols it was evaluated on. -/
structure BreadthCounts where
  attempted : Int
  valid : Int
  tradeCount : Int
  evidenceSymbols : List String
  excludedSymbols : List String
  evidence : BreadthEvidence

/-- The evidence of a candidate, or what its lists of symbols stand for while it has none. -/
def seedBreadthEvidence (candidate : StrategyCandidateRecord) : BreadthEvidence :=
  if candidate.breadthEvidence.rows = [] then
    seededEvidence candidate.evidenceSymbols candidate.excludedSymbols
  else candidate.breadthEvidence

/-- Details as the entries that are recorded of them. -/
def EvidenceDetails.normalized (details : EvidenceDetails) : BreadthEvidence where
  rows := details.rows.map normalizeBreadthEvidenceDetail
  distinct := by
    have same : (details.rows.map normalizeBreadthEvidenceDetail).map SymbolEvidence.symbol =
        details.rows.map EvidenceDetail.symbol := by
      rw [List.map_map]
      rfl
    rw [same]
    exact details.distinct

/-- The totals alone, laid over what was known. -/
def mergedCounts (candidate : StrategyCandidateRecord) (progress : BreadthProgress) :
    BreadthCounts :=
  let evidenceSymbols := (Py.fromkeys (candidate.evidenceSymbols ++ progress.evidenceSymbols)).take
    breadthEvidenceSymbolCap
  let excludedSymbols := (Py.fromkeys (candidate.excludedSymbols ++ progress.excludedSymbols)).take
    breadthEvidenceSymbolCap
  { attempted := max (max candidate.attemptedSymbols progress.attempted)
      (evidenceSymbols.length + excludedSymbols.length)
    valid := max (max candidate.validSymbols progress.valid) evidenceSymbols.length
    tradeCount := max candidate.tradeCount progress.tradeCount
    evidenceSymbols
    excludedSymbols
    evidence := candidate.breadthEvidence }

/-- The evidence after a cycle: details overwrite, exclusions only fill in, and the cap cuts. -/
def BreadthEvidence.record (evidence : BreadthEvidence) (details : EvidenceDetails)
    (excludedSymbols : List String) : BreadthEvidence :=
  ((evidence.overlay details.normalized).setDefaults
    (excludedSymbols.map (.bare · false "multi_symbol_research"))).take breadthEvidenceSymbolCap

/-- The trades that were counted on valid symbols. -/
def BreadthEvidence.eligibleTrades (evidence : BreadthEvidence) : Int :=
  ((evidence.rows.filter (·.eligible)).map (·.tradeCount)).sum

/-- What evidence says, counted anew. -/
def BreadthEvidence.counts (evidence : BreadthEvidence) (legacyTradeCount : Int) :
    BreadthCounts :=
  let evidenceSymbols := (evidence.rows.filter (·.eligible)).map (·.symbol)
  { attempted := evidence.rows.length
    valid := evidenceSymbols.length
    tradeCount := legacyTradeCount + evidence.eligibleTrades
    evidenceSymbols
    excludedSymbols := (evidence.rows.filter (!·.eligible)).map (·.symbol)
    evidence }

/-- What a record says about its symbols after a cycle. -/
def breadthCounts (candidate : StrategyCandidateRecord) (progress : BreadthProgress) :
    BreadthCounts :=
  match progress.evidenceDetails with
  | none => mergedCounts candidate progress
  | some details =>
    ((seedBreadthEvidence candidate).record details progress.excludedSymbols).counts
      candidate.breadthLegacyTradeCount

/-- Whether a cycle brought more than was known. -/
def breadthProgressed (candidate : StrategyCandidateRecord) (counts : BreadthCounts) : Bool :=
  candidate.validSymbols < counts.valid || candidate.tradeCount < counts.tradeCount ||
    counts.evidenceSymbols ≠ candidate.evidenceSymbols

/-- The record after a breadth cycle. -/
def recordBreadthProgress (candidate : StrategyCandidateRecord) (progress : BreadthProgress) :
    StrategyCandidateRecord :=
  let counts := breadthCounts candidate progress
  { candidate with
    attemptedSymbols := counts.attempted
    validSymbols := counts.valid
    tradeCount := counts.tradeCount
    evidenceSymbols := counts.evidenceSymbols
    excludedSymbols := counts.excludedSymbols
    cyclesCompleted := candidate.cyclesCompleted + 1
    cyclesWithoutProgress :=
      if breadthProgressed candidate counts then 0
      else if progress.providerBlocked then candidate.cyclesWithoutProgress
      else candidate.cyclesWithoutProgress + 1
    status := if candidate.status = .exploring then .validating else candidate.status
    updatedAt := progress.now
    breadthEvidence := counts.evidence
    sampleExhaustionReason :=
      (someText progress.sampleExhaustionReason).or candidate.sampleExhaustionReason
    breadthSummary :=
      if progress.breadthSummary = [] then candidate.breadthSummary else progress.breadthSummary }

end StrategyLab
