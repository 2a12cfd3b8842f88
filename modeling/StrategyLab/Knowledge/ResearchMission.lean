import StrategyLab.Knowledge.CandidatePlanner

/-! Research missions: what is remembered of one between two messages, and what is written to it. -/

namespace StrategyLab

/-- Which symbols a mission is about. -/
inductive MissionUniverseScope where
  | singleSymbol
  | selectedSymbols
  | marketWide
  deriving DecidableEq, Repr

/-- Where a mission stands. -/
inductive MissionStatus where
  | active
  | blocked
  | completed
  | cancelled
  | awaitingHumanApproval
  deriving DecidableEq, Repr

/-- A strategy that was found ready for its promotion. -/
structure PromotionReadyStrategy where
  strategyFingerprint : String
  candidateId : String
  detectedAt : String
  deriving DecidableEq

/-- A mission, with its candidates as they are stored. -/
structure ResearchMission where
  market : String
  universeScope : MissionUniverseScope
  symbols : List String
  exchanges : List String
  strategyFamily : Option String
  improveReturn : Bool
  improveSafety : Bool
  baselineComparison : Option String
  targetPromotionReadyCandidates : Option Int
  currentPromotionReadyCandidates : Nat
  promotionReadyCandidates : List PromotionReadyStrategy
  exploredSymbols : List String
  status : MissionStatus
  blockedReason : Option String
  cyclesCompleted : Nat
  updatedAt : String
  pendingPromotionSymbol : Option String
  candidates : List PersistedCandidate
  activeCandidateId : Option String
  candidateSequence : Nat

/-- The exchanges of a Korean mission that names none. -/
def defaultKrExchanges : List String := ["KOSPI", "KOSDAQ"]

/-- How many strategies a Korean mission looks for. -/
def canonicalPromotionReadyTarget : Int := 3

/-- Texts without the blank ones, each once. -/
def tupleOfStr (texts : List String) : List String :=
  Py.fromkeys (texts.filter (!Py.isBlank ·))

/-- How many distinct strategies are among those found ready. -/
def distinctFingerprints (ready : List PromotionReadyStrategy) : Nat :=
  (Py.fromkeys ((ready.map (·.strategyFingerprint)).filter (· ≠ ""))).length

/-- Whether as many strategies were found as a mission looks for. -/
def targetReached (target : Option Int) (found : Nat) : Bool := target.any (· ≤ (found : Int))

namespace ResearchMission

/-- Whether a mission looks for strategies. -/
def isStrategyMission (mission : ResearchMission) : Bool :=
  (someText mission.strategyFamily).isSome || mission.improveReturn || mission.improveSafety ||
    (someText mission.baselineComparison).isSome || !mission.candidates.isEmpty

/-- A target, which is at least the usual one for a Korean mission. -/
def canonicalTarget (mission : ResearchMission) (target : Option Int) : Option Int :=
  if mission.market = "KR" ∧ mission.universeScope = .marketWide ∧ mission.isStrategyMission ∧
      target.all (· < canonicalPromotionReadyTarget) then
    some canonicalPromotionReadyTarget
  else target

/-- The mission that is read back: what has no fingerprint is not ready, and only as many
strategies as the target asks for can have brought it before a human. -/
def reloaded (mission : ResearchMission) : ResearchMission :=
  let ready := mission.promotionReadyCandidates.filter fun strategy =>
    Py.strip strategy.strategyFingerprint ≠ ""
  let found := (Py.fromkeys (ready.map (·.strategyFingerprint))).length
  let target := mission.canonicalTarget mission.targetPromotionReadyCandidates
  { mission with
    symbols := tupleOfStr mission.symbols
    exchanges :=
      if tupleOfStr mission.exchanges = [] then defaultKrExchanges
      else tupleOfStr mission.exchanges
    strategyFamily := someText mission.strategyFamily
    baselineComparison := someText mission.baselineComparison
    targetPromotionReadyCandidates := target
    currentPromotionReadyCandidates := found
    promotionReadyCandidates := ready
    exploredSymbols := tupleOfStr mission.exploredSymbols
    status :=
      if mission.status = .awaitingHumanApproval ∧ !targetReached target found then .active
      else mission.status
    blockedReason := someText mission.blockedReason
    pendingPromotionSymbol :=
      if mission.candidates.isEmpty then none else someText mission.pendingPromotionSymbol
    activeCandidateId := someText mission.activeCandidateId }

/-- What was said last of a mission's scope, and with which words. -/
structure ScopeUpdate where
  market : String
  universeScope : MissionUniverseScope
  symbols : List String
  exchanges : List String
  strategyFamily : Option String
  improveReturn : Bool
  improveSafety : Bool
  baselineComparison : Option String
  target : Option Int
  /-- The message names the whole market, several symbols, or asks to go on. -/
  resumes : Bool
  now : String

/-- The code in front of the reason why a mission is blocked. -/
def blockedReasonCode (reason : Option String) : Option String :=
  (someText reason).bind fun reason =>
    someText (some (Py.strip (.ofList (reason.toList.takeWhile (· ≠ ':')))))

/-- Whether a blocked mission can go on without anything else having changed. -/
def isRetryableMissionBlocker (reason : Option String) : Bool :=
  blockedReasonCode reason = some "provider_acquisition_blocker" ||
    blockedReasonCode reason = some "data_acquisition"

/-- The target of a mission after a message, which can only raise it. -/
def mergedTarget (mission : ResearchMission) (extracted : Option Int) : Option Int :=
  match mission.canonicalTarget mission.targetPromotionReadyCandidates, extracted with
  | existing, none => existing
  | none, some extracted => some extracted
  | some existing, some extracted => some (max existing extracted)

/-- The mission after what a message says of its scope. -/
def updated (mission : ResearchMission) (update : ScopeUpdate) : ResearchMission :=
  let resumes := mission.status = .blocked ∧ update.resumes ∧
    isRetryableMissionBlocker mission.blockedReason
  let told : ResearchMission :=
    { mission with
      market := update.market
      universeScope := update.universeScope
      symbols := if update.symbols = [] then mission.symbols else update.symbols
      exchanges := update.exchanges
      strategyFamily := (someText update.strategyFamily).or mission.strategyFamily
      improveReturn := update.improveReturn || mission.improveReturn
      improveSafety := update.improveSafety || mission.improveSafety
      baselineComparison := (someText update.baselineComparison).or mission.baselineComparison
      status := if resumes then .active else mission.status
      blockedReason := if resumes then none else mission.blockedReason
      updatedAt := update.now }
  { told with
    targetPromotionReadyCandidates := told.canonicalTarget (mission.mergedTarget update.target) }

/-- The mission that a first message makes. -/
def create (first : ScopeUpdate) : ResearchMission :=
  let mission : ResearchMission :=
    { market := first.market
      universeScope := first.universeScope
      symbols := first.symbols
      exchanges := first.exchanges
      strategyFamily := first.strategyFamily
      improveReturn := first.improveReturn
      improveSafety := first.improveSafety
      baselineComparison := first.baselineComparison
      targetPromotionReadyCandidates := none
      currentPromotionReadyCandidates := 0
      promotionReadyCandidates := []
      exploredSymbols := []
      status := .active
      blockedReason := none
      cyclesCompleted := 0
      updatedAt := first.now
      pendingPromotionSymbol := none
      candidates := []
      activeCandidateId := none
      candidateSequence := 0 }
  { mission with targetPromotionReadyCandidates := mission.canonicalTarget first.target }

/-- The symbols of a mission that no cycle has reached yet, a few at a time. -/
def nextUnexploredSymbols (mission : ResearchMission) (batchSize : Nat) : List String :=
  (mission.symbols.filter (· ∉ mission.exploredSymbols)).take batchSize

/-- Whether a mission can compare symbols with each other. -/
def multiSymbolContextAvailable (mission : ResearchMission) : Bool :=
  2 ≤ mission.symbols.length ||
    mission.universeScope = .marketWide && mission.market.toUpper = "KR" &&
      !mission.exchanges.isEmpty

/-- The mission after a cycle on symbols. -/
def recordCycleResult (mission : ResearchMission) (researchedSymbols : List String)
    (now : String) : ResearchMission :=
  { mission with
    exploredSymbols := Py.fromkeys (mission.exploredSymbols ++ researchedSymbols)
    cyclesCompleted := mission.cyclesCompleted + 1
    updatedAt := now }

/-- The mission after a strategy was found ready for its promotion. -/
def recordPromotionCandidate (mission : ResearchMission)
    (strategyFingerprint candidateId now : String) : ResearchMission :=
  let fingerprint := Py.strip strategyFingerprint
  if fingerprint = "" ∨
      fingerprint ∈ mission.promotionReadyCandidates.map (·.strategyFingerprint) then mission
  else
    let ready := mission.promotionReadyCandidates ++ [⟨fingerprint, candidateId, now⟩]
    { mission with
      promotionReadyCandidates := ready
      currentPromotionReadyCandidates := distinctFingerprints ready
      status :=
        if targetReached mission.targetPromotionReadyCandidates (distinctFingerprints ready) then
          .awaitingHumanApproval
        else mission.status
      updatedAt := now }

/-- The mission with a symbol that the next cycle looks at in depth. -/
def recordFocusSymbol (mission : ResearchMission) (symbol now : String) : ResearchMission :=
  { mission with pendingPromotionSymbol := some symbol, updatedAt := now }

/-- The mission without such a symbol. -/
def clearFocusSymbol (mission : ResearchMission) (now : String) : ResearchMission :=
  { mission with pendingPromotionSymbol := none, updatedAt := now }

/-- The mission with a reason for which it cannot go on. -/
def recordBlocked (mission : ResearchMission) (reason now : String) : ResearchMission :=
  { mission with status := .blocked, blockedReason := some reason, updatedAt := now }

/-- The candidates of a mission, read back. -/
def candidateRecords (mission : ResearchMission) : List StrategyCandidateRecord :=
  mission.candidates.map .fromJson

/-- The candidate with a name. -/
def getCandidate (mission : ResearchMission) (candidateId : String) :
    Option StrategyCandidateRecord :=
  mission.candidateRecords.find? (·.candidateId = candidateId)

/-- The candidate that research is done on. -/
def getActiveCandidate (mission : ResearchMission) : Option StrategyCandidateRecord :=
  mission.activeCandidateId.bind mission.getCandidate

/-- The mission with one more candidate, which research goes on with. -/
def addCandidate (mission : ResearchMission) (candidate : StrategyCandidateRecord)
    (now : String) : ResearchMission :=
  if (mission.getCandidate candidate.candidateId).isSome then mission
  else
    { mission with
      candidates := mission.candidates ++ [candidate.toJson]
      activeCandidateId := some candidate.candidateId
      candidateSequence :=
        max mission.candidateSequence (sequenceFromCandidateId candidate.candidateId)
      updatedAt := now }

/-- The mission with a new record of one of its candidates. -/
def updateCandidate (mission : ResearchMission) (candidate : StrategyCandidateRecord)
    (now : String) : ResearchMission :=
  if mission.candidates.any (·.fields.candidateId = candidate.candidateId) then
    { mission with
      candidates := mission.candidates.map fun stored =>
        if stored.fields.candidateId = candidate.candidateId then candidate.toJson else stored
      updatedAt := now }
  else mission

/-- The mission with another candidate that research is done on. -/
def setActiveCandidate (mission : ResearchMission) (candidateId : Option String)
    (now : String) : ResearchMission :=
  { mission with activeCandidateId := candidateId, updatedAt := now }

/-- The number of the next candidate. -/
def nextCandidateSequence (mission : ResearchMission) : Nat := mission.candidateSequence + 1

/-- How many distinct strategies were found ready for their promotion. -/
def distinctPromotionReadyStrategyCount (mission : ResearchMission) : Nat :=
  distinctFingerprints mission.promotionReadyCandidates

end ResearchMission

end StrategyLab
