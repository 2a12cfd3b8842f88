import StrategyLab.Knowledge.ResearchMission
import StrategyLab.Knowledge.StrategySpace
import StrategyLab.Research.ResearchDirector
import StrategyLab.Lib.Machine

/-! A turn of a mission: one message, at most one cycle of research, and what it leaves. -/

namespace StrategyLab

/-- What a message asks of a mission. -/
structure MissionRequest where
  /-- The message asks for another kind of strategy, and is no question about those there are. -/
  diversity : Bool
  requestedFamily : Option String
  preferredSymbols : List String
  readOnly : Bool
  familyPreferences : List (String × ℚ)
  now : String

/-- What a breadth cycle asks its tool for; without symbols the tool finds them itself. -/
structure MultiSymbolRequest where
  symbols : List String
  candidateSpec : SpecRules
  avoidSymbols : List String

/-- What a breadth cycle is told of one symbol. -/
structure EvidenceItem where
  symbol : Option String
  eligible : Bool
  tradeCount : Option Nat
  metricsTradeCount : Option Nat
  totalReturn : Option ℚ
  mdd : Option ℚ
  evidenceId : String
  qualityStatus : String
  source : String
  fixtureBacked : Bool

/-- What a breadth cycle is told. -/
structure MultiSymbolOutput where
  evidence : List EvidenceItem
  stopReason : Option String
  aggregateTradeCount : Int
  totalExcluded : Int
  providerRelatedExcluded : Int
  excludedByCategory : List (String × Int)
  summary : List (String × Json)

/-- What a robustness cycle asks its tool for. -/
structure LearningRequest where
  symbol : String
  plannedAction : ResearchAction
  plannedActionReason : String
  candidateSpec : SpecRules

/-- A tool call that failed, classified. -/
structure ToolFailure where
  stage : String
  errorType : String

/-- The tools of a turn, which answer whatever they like. -/
structure ResearchTools where
  multiSymbolResearch : MultiSymbolRequest → Except ToolFailure MultiSymbolOutput
  autonomousLearningResearch : LearningRequest → Except ToolFailure LearningPayload

/-- A cycle that was run to its end, on the candidate with a name. -/
inductive ExecutedCycle where
  | breadth (candidateId : String) (providerBlocked : Bool)
  | robustness (candidateId : String) (action : ResearchAction) (stateKey : String)
      (identityVerified : Bool)
  deriving DecidableEq

/-- What a turn leaves behind. -/
structure TurnResult where
  mission : ResearchMission
  executed : Option ExecutedCycle

/-- The trades of an item, from its metrics where it has none of its own. -/
def EvidenceItem.trades (item : EvidenceItem) : Nat :=
  if item.tradeCount.getD 0 = 0 then item.metricsTradeCount.getD 0 else item.tradeCount.getD 0

/-- An item as it is handed on, under its symbol. -/
def EvidenceItem.detail (item : EvidenceItem) (symbol : String) : EvidenceDetail :=
  { symbol
    eligible := item.eligible
    tradeCount := some item.trades
    totalReturn := none
    mdd := none
    metrics := ⟨item.metricsTradeCount.map Int.ofNat, item.totalReturn, item.mdd⟩
    evidenceId := item.evidenceId
    qualityStatus := item.qualityStatus
    source := item.source
    fixtureBacked := item.fixtureBacked }

namespace MultiSymbolOutput

/-- Whether the symbols were left out for want of data. -/
def isProviderAcquisitionBlocker (output : MultiSymbolOutput) : Bool :=
  0 < output.totalExcluded && 0 < output.providerRelatedExcluded &&
    output.totalExcluded ≤ output.providerRelatedExcluded

/-- The details of the items that name a symbol. -/
def details (output : MultiSymbolOutput) : EvidenceDetails :=
  Table.ofRows (output.evidence.filterMap fun item => (someText item.symbol).map item.detail)

/-- The symbols of items. -/
def symbolsOf (items : List EvidenceItem) : List String :=
  items.filterMap fun item => someText item.symbol

/-- What a breadth cycle reports. -/
def progress (output : MultiSymbolOutput) (now : String) : BreadthProgress :=
  { attempted := output.evidence.length
    valid := output.evidence.countP (·.eligible)
    tradeCount := output.aggregateTradeCount
    evidenceSymbols := symbolsOf (output.evidence.filter (·.eligible))
    excludedSymbols := symbolsOf (output.evidence.filter (!·.eligible))
    providerBlocked := output.isProviderAcquisitionBlocker
    now
    evidenceDetails := some output.details
    sampleExhaustionReason := (someText output.stopReason).filter (· ∈ sampleExhaustionReasons)
    breadthSummary := output.summary }

/-- Whether every symbol was left out for want of data. -/
def outage (output : MultiSymbolOutput) : Bool :=
  output.evidence.length ≠ 0 && output.evidence.countP (·.eligible) = 0 &&
    output.isProviderAcquisitionBlocker

/-- The reason a mission is blocked for after an outage. -/
def outageReason (output : MultiSymbolOutput) : String :=
  "provider_acquisition_blocker: " ++ ",".intercalate
    ((Py.sortedBy Prod.fst output.excludedByCategory).map fun category =>
      category.1 ++ "=" ++ toString category.2)

end MultiSymbolOutput

/-- The record of a candidate that is rotated out, turned down if it lost money. -/
def rotatedCandidate (candidate : StrategyCandidateRecord) (reason : Option String)
    (now : String) : StrategyCandidateRecord :=
  match someText reason with
  | none => markStagnant candidate stagnationReason now
  | some reason =>
    if Py.startswith reason "economic_viability_failed" then markRejected candidate reason now
    else markStagnant candidate reason now

/-- The mission after its candidate is rotated out. -/
def rotateStagnantCandidate (mission : ResearchMission) (candidate : StrategyCandidateRecord)
    (reason : Option String) (now : String) : ResearchMission :=
  ((mission.updateCandidate (rotatedCandidate candidate reason now) now).setActiveCandidate none
    now).clearFocusSymbol now

/-- The symbols a breadth cycle asks for; `none` where a selection has none left. -/
def breadthSymbols (mission : ResearchMission) (preferredSymbols : List String) :
    Option (List String) :=
  if preferredSymbols ≠ [] then some (preferredSymbols.take 5)
  else if mission.universeScope = .selectedSymbols then
    let batch := mission.nextUnexploredSymbols 5
    if batch = [] then none else some batch
  else some []

/-- The symbols a breadth cycle leaves out, unless it asks for some. -/
def avoidedSymbols (candidate : StrategyCandidateRecord) (symbols : List String) : List String :=
  if symbols = [] then
    Py.fromkeys (candidate.excludedSymbols ++ candidate.evidenceSymbols ++
      candidate.robustnessEvidenceSymbols)
  else []

/-- The mission with the next symbol to look at in depth, if there is one. -/
def focusedOnEvidence (mission : ResearchMission) (candidate : StrategyCandidateRecord)
    (now : String) : ResearchMission :=
  if candidate.hasSufficientUniverseEvidence && candidate.evidenceSymbols ≠ [] then
    match nextRobustnessEvidenceSymbol candidate none with
    | some symbol => mission.recordFocusSymbol symbol now
    | none => mission
  else mission

/-- What is remembered of a breadth cycle. -/
def breadthRecorded (mission : ResearchMission) (candidate : StrategyCandidateRecord)
    (output : MultiSymbolOutput) (now : String) : TurnResult :=
  let updated := recordBreadthProgress candidate (output.progress now)
  let stored := (mission.recordCycleResult (MultiSymbolOutput.symbolsOf output.evidence)
    now).updateCandidate updated now
  let executed :=
    some (.breadth candidate.candidateId output.isProviderAcquisitionBlocker)
  if output.outage then ⟨stored.recordBlocked output.outageReason now, executed⟩
  else if isStagnant updated then ⟨rotateStagnantCandidate stored updated none now, executed⟩
  else ⟨focusedOnEvidence stored updated now, executed⟩

/-- A cycle that evaluates a candidate on many symbols. -/
def tryCandidateBreadthCycle (tools : ResearchTools) (mission : ResearchMission)
    (candidate : StrategyCandidateRecord) (preferredSymbols : List String) (now : String) :
    TurnResult :=
  let planned := nextBlockerDrivenResearchAction candidate
  if planned.1 = .rotateCandidate then
    ⟨rotateStagnantCandidate mission candidate (some planned.2) now, none⟩
  else match breadthSymbols mission preferredSymbols with
    | none => ⟨mission.recordBlocked "selected_symbol_universe_exhausted" now, none⟩
    | some symbols =>
      match tools.multiSymbolResearch
          ⟨symbols, candidate.specRules, avoidedSymbols candidate symbols⟩ with
      | .error failure =>
        ⟨mission.recordBlocked (failure.stage ++ ":" ++ failure.errorType) now, none⟩
      | .ok output => breadthRecorded mission candidate output now

/-- The stages whose statuses are taken over from a validation. -/
def persistedStages : List String :=
  ["multi_symbol_validation", "out_of_sample", "walk_forward", "regime_validation",
    "parameter_sensitivity", "transaction_cost_stress", "monte_carlo"]

/-- The statuses that a validation reports. -/
def LearningPayload.validationStageStatus (payload : LearningPayload) : StageStatuses :=
  Table.ofRows (persistedStages.filterMap fun stage =>
    (payload.productionGradeValidation.find? stage).map fun graded =>
      ⟨stage, graded.status.getD "unavailable"⟩)

/-- The reference to what an action validated on a symbol. -/
def plannedActionEvidenceReference (candidate : StrategyCandidateRecord) (action : ResearchAction)
    (symbol : String) (statuses : StageStatuses) : String :=
  match action.stageKey with
  | none => evidenceReference action.text symbol "none" ""
  | some stage =>
    evidenceReference action.text symbol stage
      ((statuses.get stage).getD (candidate.stageStatus stage))

/-- Whether a validation was one of the rules that the candidate's fingerprint stands for. -/
def identityVerified (sha : Json → String) (candidate : StrategyCandidateRecord) : Bool :=
  candidate.specRules.strategyFamilyFingerprint sha = candidate.strategyFingerprint

/-- What a robustness cycle reports; of rules that are not the candidate's, only the decision. -/
def robustnessReport (sha : Json → String) (candidate : StrategyCandidateRecord)
    (action : ResearchAction) (symbol : String) (payload : LearningPayload) (now : String) :
    RobustnessProgress :=
  let statuses := payload.validationStageStatus
  let verified := identityVerified sha candidate
  { directorAction := (payload.researchDirectorDecision.map (·.action)).getD "unknown"
    terminal := payload.researchDirectorDecision.any (·.terminal)
    now
    validationStageStatus := if verified then statuses else Table.empty
    symbol := if verified then some symbol else none
    reference :=
      if verified then some (plannedActionEvidenceReference candidate action symbol statuses)
      else none }

/-- What becomes of a mission and its candidate when a robustness cycle is over. -/
def robustnessVerdict (mission : ResearchMission) (candidate : StrategyCandidateRecord)
    (verified : Bool) (symbol : String) (progress : RobustnessProgress) :
    ResearchMission × StrategyCandidateRecord :=
  let updated := recordRobustnessProgress candidate progress
  let viability := economicViability updated
  let now := progress.now
  let cleared := mission.clearFocusSymbol now
  if !progress.terminal then (mission, updated)
  else if progress.directorAction = "request_human_promotion_review" then
    if !verified then (cleared, updated)
    else match viability.status with
      | .pass =>
        ((cleared.recordPromotionCandidate candidate.strategyFingerprint candidate.candidateId
            now).setActiveCandidate none now,
          markPromotionReady updated now)
      | .fail =>
        (cleared.setActiveCandidate none now,
          markRejected updated ("economic_viability_failed:" ++ viability.reason) now)
      | .needsMoreEvidence => (cleared, updated)
  else if progress.directorAction = "reject_candidate" then
    (cleared.setActiveCandidate none now,
      markRejected updated "research_director_rejected_candidate" now)
  else match nextRobustnessEvidenceSymbol updated (some symbol) with
    | some next => (mission.recordFocusSymbol next now, updated)
    | none => (cleared, updated)

/-- What is remembered of a robustness cycle. -/
def robustnessRecorded (sha : Json → String) (mission : ResearchMission)
    (candidate : StrategyCandidateRecord) (action : ResearchAction) (payload : LearningPayload)
    (now : String) : TurnResult :=
  let symbol := mission.pendingPromotionSymbol.getD "None"
  let verified := identityVerified sha candidate
  let verdict := robustnessVerdict mission candidate verified symbol
    (robustnessReport sha candidate action symbol payload now)
  let stored := verdict.1.updateCandidate verdict.2 now
  let executed := some (.robustness candidate.candidateId action
    (candidateMaterialEvidenceKey candidate) verified)
  if isStagnant verdict.2 then ⟨rotateStagnantCandidate stored verdict.2 none now, executed⟩
  else ⟨stored, executed⟩

/-- A cycle that validates a candidate in depth, on the symbol the mission looks at. -/
def tryCandidateRobustnessCycle (sha : Json → String) (tools : ResearchTools)
    (mission : ResearchMission) (candidate : StrategyCandidateRecord) (now : String) :
    TurnResult :=
  let planned := nextBlockerDrivenResearchAction candidate
  if planned.1 = .expandSample then
    tryCandidateBreadthCycle tools (mission.clearFocusSymbol now) candidate [] now
  else if planned.1 = .rotateCandidate then
    ⟨rotateStagnantCandidate mission candidate (some planned.2) now, none⟩
  else match tools.autonomousLearningResearch
      ⟨mission.pendingPromotionSymbol.getD "None", planned.1, planned.2, candidate.specRules⟩ with
    | .error _ => ⟨mission.clearFocusSymbol now, none⟩
    | .ok payload => robustnessRecorded sha mission candidate planned.1 payload now

/-- The only reason for having been given up that a mission can come back from. -/
def recoverableStagnationReason : String := "validation_cycle_exhausted_without_progress"

/-- The record of a candidate that was given up and is taken up again. -/
def reopened (candidate : StrategyCandidateRecord) (now : String) : StrategyCandidateRecord :=
  { candidate with
    status := .validating, cyclesWithoutProgress := 0, rejectedReason := none, updatedAt := now }

/-- Whether a candidate was given up for nothing but a want of progress. -/
def recoverable (candidate : StrategyCandidateRecord) : Bool :=
  candidate.status = .stagnant && candidate.rejectedReason = some recoverableStagnationReason

/-- A mission that ran out of families, with one of its candidates taken up again. -/
def attemptBoundedStagnationRecovery (mission : ResearchMission) (now : String)
    (maxCandidates : Nat) : Option ResearchMission :=
  if mission.status = .blocked ∧
      Py.startswith (textOr mission.blockedReason "") "strategy_hypothesis_space_exhausted" then
    let scanned := (mission.candidateRecords.filter recoverable).take maxCandidates
    (scanned.find? fun candidate => candidateRemainingBlockers candidate ≠ [] &&
        (economicViability candidate).status ≠ .fail).map fun candidate =>
      { (mission.updateCandidate (reopened candidate now) now).setActiveCandidate
          (some candidate.candidateId) now with
        status := .active, blockedReason := none }
  else none

/-- A mission that can go on; `error` stands for the end of the turn. -/
def unblocked (request : MissionRequest) (mission : ResearchMission) :
    Except ResearchMission ResearchMission :=
  if mission.status ≠ .blocked then .ok mission
  else match attemptBoundedStagnationRecovery mission request.now 2 with
    | none => .error mission
    | some recovered => if request.readOnly then .error recovered else .ok recovered

/-- The mission without its candidate, if the message asks for another kind of strategy. -/
def rotatedForDiversity (request : MissionRequest) (mission : ResearchMission) :
    ResearchMission :=
  match mission.getActiveCandidate with
  | none => mission
  | some active =>
    if request.diversity then
      ((mission.updateCandidate
        (markStagnant active "user_requested_different_strategy_family" request.now)
        request.now).setActiveCandidate none request.now).clearFocusSymbol request.now
    else mission

/-- The mission without its candidate, because the message names another family. -/
def rotatedForFamily (request : MissionRequest) (mission : ResearchMission) : ResearchMission :=
  match mission.getActiveCandidate with
  | none => mission
  | some active =>
    (mission.updateCandidate
      (markStagnant active "user_requested_specific_strategy_family" request.now)
      request.now).clearFocusSymbol request.now

/-- The mission with a candidate of the family that the message names, and that candidate. -/
def withRequestedFamily (sha : Json → String) (request : MissionRequest)
    (mission : ResearchMission) : ResearchMission × Option StrategyCandidateRecord :=
  let active := mission.getActiveCandidate
  match request.requestedFamily.bind StrategyFamilies.template? with
  | none => (mission, active)
  | some template =>
    if active.any (·.strategyFamily = template.family) then (mission, active)
    else
      let released := rotatedForFamily request mission
      match mission.candidateRecords.find? (·.strategyFamily = template.family) with
      | some already =>
        let selected := released.setActiveCandidate (some already.candidateId) request.now
        (selected, selected.getActiveCandidate)
      | none =>
        let created := template.newRecord sha released.nextCandidateSequence request.now
        ((released.addCandidate created request.now).setActiveCandidate
          (some created.candidateId) request.now, some created)

/-- The next candidate of a mission that has none. -/
def nextCandidate (sha : Json → String) (request : MissionRequest) (mission : ResearchMission) :
    Option StrategyCandidateRecord :=
  let existing := mission.candidateRecords
  let sequence := mission.nextCandidateSequence
  match nextUntriedFamily existing request.familyPreferences with
  | some family => newCandidate sha family sequence request.now
  | none =>
    (expandStrategySpaceCandidate sha existing sequence request.now
      mission.multiSymbolContextAvailable request.familyPreferences).candidate

/-- The mission with a candidate; `error` stands for the end of the turn. -/
def withCandidate (sha : Json → String) (request : MissionRequest) (mission : ResearchMission)
    (active : Option StrategyCandidateRecord) :
    Except ResearchMission (ResearchMission × StrategyCandidateRecord) :=
  match active with
  | some active => .ok (mission, active)
  | none =>
    match nextCandidate sha request mission with
    | some candidate => .ok (mission.addCandidate candidate request.now, candidate)
    | none =>
      .error (mission.recordBlocked ("strategy_hypothesis_space_exhausted: " ++
        "bounded declarative strategy expansion budget exhausted") request.now)

/-- The cycle that a candidate is due. -/
def candidateCycle (sha : Json → String) (tools : ResearchTools) (request : MissionRequest)
    (mission : ResearchMission) (active : StrategyCandidateRecord) : TurnResult :=
  let now := request.now
  let planned := nextBlockerDrivenResearchAction active
  let breadth := tryCandidateBreadthCycle tools mission active request.preferredSymbols now
  if (someText mission.pendingPromotionSymbol).isSome then
    tryCandidateRobustnessCycle sha tools mission active now
  else if candidateSampleExhausted active then
    if planned.1 = .rotateCandidate then
      ⟨rotateStagnantCandidate mission active (some planned.2) now, none⟩
    else if planned.1 = .expandSample then breadth
    else match nextRobustnessEvidenceSymbol active none with
      | some symbol =>
        tryCandidateRobustnessCycle sha tools (mission.recordFocusSymbol symbol now) active now
      | none => breadth
  else breadth

/-- The mission and its candidate before the cycle of a turn; `error` stands for a turn without
one. -/
def preparedTurn (sha : Json → String) (request : MissionRequest) (mission : ResearchMission) :
    Except ResearchMission (ResearchMission × StrategyCandidateRecord) :=
  (unblocked request mission).bind fun mission =>
    let selected := withRequestedFamily sha request (rotatedForDiversity request mission)
    withCandidate sha request selected.1 selected.2

/-- A turn of a mission. -/
def tryMissionDrivenResearchCycle (sha : Json → String) (tools : ResearchTools)
    (request : MissionRequest) (mission : ResearchMission) : TurnResult :=
  match preparedTurn sha request mission with
  | .error mission => ⟨mission, none⟩
  | .ok (mission, active) => candidateCycle sha tools request mission active

/-- A mission with every cycle that was run for it. -/
structure MissionJournal where
  mission : ResearchMission
  executed : List ExecutedCycle

/-- What happens to a mission: a message tells of its scope, or a turn is taken. -/
inductive MissionEvent where
  | message (scope : ResearchMission.ScopeUpdate)
  | turn (request : MissionRequest) (tools : ResearchTools)

/-- What an event leaves of a mission that was read back. -/
def MissionEvent.apply (sha : Json → String) (event : MissionEvent) (mission : ResearchMission) :
    TurnResult :=
  match event with
  | .message scope => ⟨mission.updated scope, none⟩
  | .turn request tools => tryMissionDrivenResearchCycle sha tools request mission

/-- The missions of a conversation, event after event, with a journal of their cycles. -/
def missionMachine (sha : Json → String) : Machine MissionJournal MissionEvent Unit where
  step journal event :=
    let result := event.apply sha journal.mission.reloaded
    ((), ⟨result.mission, journal.executed ++ result.executed.toList⟩)

/-- The journal of a new mission. -/
def MissionJournal.create (first : ResearchMission.ScopeUpdate) : MissionJournal :=
  ⟨ResearchMission.create first, []⟩

end StrategyLab
