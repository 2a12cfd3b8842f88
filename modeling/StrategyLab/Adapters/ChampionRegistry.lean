import Mathlib.Data.List.Sort
import StrategyLab.Adapters.Validation
import StrategyLab.Lib.Commits
import StrategyLab.Lib.Table

/-! The approval-gated champion registry: its tables, their writes, and the service calls. -/

namespace StrategyLab

/-- The slot deployments look at. -/
def defaultChampionSlot : String := "default"

/-- Where a promotion request stands. -/
inductive PromotionStatus where
  | pendingApproval
  | approved
  | rejected
  | activated
  | rolledBack
  deriving DecidableEq, Repr

/-- What was decided about a promotion. -/
inductive PromotionDecision where
  | approve
  | reject
  deriving DecidableEq, Repr

/-- The outcome of comparing a challenger with the champion. -/
inductive ChampionChallengerDecision where
  | keepChampion
  | promotionCandidate
  | review
  deriving DecidableEq, Repr

/-- The fields of an evaluation report that promotions read. -/
structure ChampionChallengerEvaluationReport where
  evaluationId : String
  decision : ChampionChallengerDecision
  championBacktestId : String
  challengerBacktestId : String
  validationId : String
  championFingerprint : String
  challengerFingerprint : String
  deriving DecidableEq, Repr

/-- The evaluation reports, replaced when an id is evaluated again. -/
abbrev EvaluationReports := Table ChampionChallengerEvaluationReport.evaluationId

/-- The active champion of a slot. -/
structure ChampionRegistryEntry where
  slot : String
  activeVersionId : String
  strategyRef : String
  fingerprint : String
  sourceBacktestId : String
  sourceValidationId : String
  sourceEvaluationId : String
  activatedAt : String
  revision : Int
  previousVersionId : Option String
  deriving DecidableEq, Repr

/-- A version that was active in a slot at some time. -/
structure ChampionStrategyVersion where
  versionId : String
  slot : String
  revision : Int
  strategyRef : String
  fingerprint : String
  sourceBacktestId : String
  sourceValidationId : String
  sourceEvaluationId : String
  activatedAt : String
  previousVersionId : Option String
  activationType : String
  deriving DecidableEq, Repr

/-- A request to make a challenger the champion. -/
structure PromotionRequest where
  promotionId : String
  evaluationId : String
  slot : String
  status : PromotionStatus
  championBacktestId : String
  challengerBacktestId : String
  validationId : String
  candidateFingerprint : String
  currentChampionFingerprint : String
  requestedBy : String
  requestedAt : String
  deriving DecidableEq, Repr

/-- One decision on a promotion request. -/
structure PromotionDecisionRecord where
  decisionId : String
  promotionId : String
  decision : PromotionDecision
  actorRef : String
  decidedAt : String
  reason : String
  deriving DecidableEq, Repr

/-- A request to return to the previous champion. -/
structure ChampionRollbackRequest where
  rollbackId : String
  slot : String
  actorRef : String
  requestedAt : String
  deriving DecidableEq, Repr

/-- What a rollback reports. -/
structure ChampionRollbackResult where
  rollbackId : String
  slot : String
  restoredVersionId : String
  newVersionId : String
  status : PromotionStatus
  rolledBackAt : String
  deriving DecidableEq, Repr

/-- Require a reference that the registry accepts. -/
def validateRegistryRef (value label : String) : Except ServiceError Unit :=
  require (safeRef value) s!"invalid {label}"

/-- The checks a registry entry is constructed with. -/
def ChampionRegistryEntry.validate (entry : ChampionRegistryEntry) : Except ServiceError Unit := do
  validateRegistryRef entry.slot "slot"
  validateRegistryRef entry.strategyRef "strategy_ref"
  validateRegistryRef entry.fingerprint "fingerprint"
  validateUtc entry.activatedAt
  require (1 ≤ entry.revision) "champion revision must be positive"

/-- The checks a promotion request is constructed with. -/
def PromotionRequest.validate (request : PromotionRequest) : Except ServiceError Unit := do
  validateRegistryRef request.promotionId "promotion_id"
  validateRegistryRef request.slot "slot"
  validateUtc request.requestedAt
  require (request.candidateFingerprint ≠ "" && request.currentChampionFingerprint ≠ "")
    "promotion request requires fingerprints"

/-- The checks a decision record is constructed with. -/
def PromotionDecisionRecord.validate (decision : PromotionDecisionRecord) :
    Except ServiceError Unit := do
  validateRegistryRef decision.decisionId "decision_id"
  validateUtc decision.decidedAt
  require (decision.actorRef ≠ "") "promotion decision requires actor"

/-- The four tables of the registry. -/
structure ChampionRegistryRepository where
  registry : Table ChampionRegistryEntry.slot
  history : Table ChampionStrategyVersion.versionId
  requests : Table PromotionRequest.promotionId
  decisions : Table PromotionDecisionRecord.decisionId

/-- One committed write of the registry. -/
inductive ChampionWrite where
  | putActive (entry : ChampionRegistryEntry)
  | addHistory (version : ChampionStrategyVersion)
  | addRequest (request : PromotionRequest)
  | updateRequest (request : PromotionRequest)
  | addDecision (decision : PromotionDecisionRecord)
  deriving DecidableEq, Repr

namespace ChampionRegistryRepository

/-- A registry in which nothing has happened. -/
def empty : ChampionRegistryRepository := ⟨Table.empty, Table.empty, Table.empty, Table.empty⟩

/-- The active entry of a slot. -/
def getActive (repository : ChampionRegistryRepository) (slot : String) :
    Option ChampionRegistryEntry :=
  repository.registry.find? slot

/-- The order history is listed in. -/
def ListedBefore (left right : ChampionStrategyVersion) : Prop :=
  left.revision < right.revision ∨ left.revision = right.revision ∧
    (left.activatedAt < right.activatedAt ∨
      left.activatedAt = right.activatedAt ∧ left.versionId ≤ right.versionId)

instance : DecidableRel ListedBefore := fun _ _ => inferInstanceAs (Decidable (_ ∨ _))

/-- The versions of a slot, oldest revision first. -/
def listHistory (repository : ChampionRegistryRepository) (slot : String) :
    List ChampionStrategyVersion :=
  (repository.history.rows.filter (·.slot = slot)).insertionSort ListedBefore

/-- Read a promotion request by its id. -/
def getRequest (repository : ChampionRegistryRepository) (promotionId : String) :
    Except ServiceError PromotionRequest :=
  match repository.requests.find? promotionId with
  | some request => .ok request
  | none => .error (.keyError promotionId)

/-- The request made for an evaluation, if there is one. -/
def findRequestByEvaluation (repository : ChampionRegistryRepository) (evaluationId : String) :
    Option PromotionRequest :=
  repository.requests.rows.find? (·.evaluationId = evaluationId)

/-- Commit one write, or refuse it. -/
def write (repository : ChampionRegistryRepository) :
    ChampionWrite → Except ServiceError ChampionRegistryRepository
  | .putActive entry => .ok { repository with registry := repository.registry.replace entry }
  | .addHistory version =>
    -- A slot has one version per revision, besides the primary key.
    if repository.history.rows.any fun old =>
        old.slot = version.slot && old.revision = version.revision then
      .error (.integrityError "UNIQUE constraint failed: champion_history.slot, revision")
    else match repository.history.insert? version with
      | some grown => .ok { repository with history := grown }
      | none => .error (.integrityError "UNIQUE constraint failed: champion_history.version_id")
  | .addRequest request =>
    if repository.requests.rows.any (·.evaluationId = request.evaluationId) then
      .error (.integrityError "UNIQUE constraint failed: promotion_requests.evaluation_id")
    else match repository.requests.insert? request with
      | some grown => .ok { repository with requests := grown }
      | none => .error (.integrityError "UNIQUE constraint failed: promotion_requests.promotion_id")
  | .updateRequest request =>
    match repository.requests.find? request.promotionId with
    | none => .error (.keyError request.promotionId)
    | some _ =>
      .ok { repository with
        requests := repository.requests.update (·.promotionId = request.promotionId)
          (fun row => { request with promotionId := row.promotionId }) (fun _ => rfl) }
  | .addDecision decision =>
    -- `INSERT OR IGNORE` keeps the first decision under an id.
    match repository.decisions.insert? decision with
    | some grown => .ok { repository with decisions := grown }
    | none => .ok repository

end ChampionRegistryRepository

/-- A call of the registry service. -/
abbrev ChampionCall := Commits ChampionWrite ServiceError

namespace ChampionRegistryService

open ChampionRegistryRepository

/-- Read an evaluation report by its id. -/
def getReport (evaluations : EvaluationReports) (evaluationId : String) :
    Except ServiceError ChampionChallengerEvaluationReport :=
  match evaluations.find? evaluationId with
  | some report => .ok report
  | none => .error (.keyError evaluationId)

/-- The checks a report has to pass against the active champion. -/
def validatePromotionCandidate (report : ChampionChallengerEvaluationReport)
    (current : Option ChampionRegistryEntry) : Except ServiceError Unit := do
  require (report.decision = .promotionCandidate)
    "only promotion_candidate evaluations can create promotion requests"
  require (report.challengerFingerprint ≠ "" && report.championFingerprint ≠ "")
    "promotion candidate requires fingerprints"
  require (report.challengerFingerprint ≠ report.championFingerprint)
    "candidate fingerprint must differ from champion"
  require (current.map (·.fingerprint) ≠ some report.challengerFingerprint)
    "candidate is already the active champion"

/-- The reference of a strategy: the last part of its backtest id, up to 24 characters. -/
def strategyRefFromBacktestId (backtestId : String) : String :=
  let last := (backtestId.toList.reverse.takeWhile (· ≠ ':')).reverse
  "strategy:" ++ String.ofList (last.take 24)

/-- Make a version the active champion of its slot, one revision after the previous one. -/
def activate (slot strategyRef fingerprint backtestId validationId evaluationId : String)
    (activatedAt : String) (previous : Option ChampionRegistryEntry) (activationType : String) :
    ChampionCall ChampionRegistryEntry := do
  let revision := match previous with
    | none => 1
    | some entry => entry.revision + 1
  let versionId := s!"champion-version:{slot}:{revision}"
  let version : ChampionStrategyVersion :=
    { versionId, slot, revision, strategyRef, fingerprint, sourceBacktestId := backtestId,
      sourceValidationId := validationId, sourceEvaluationId := evaluationId, activatedAt,
      previousVersionId := previous.map (·.activeVersionId), activationType }
  let entry : ChampionRegistryEntry :=
    { slot, activeVersionId := versionId, strategyRef, fingerprint,
      sourceBacktestId := backtestId, sourceValidationId := validationId,
      sourceEvaluationId := evaluationId, activatedAt, revision,
      previousVersionId := version.previousVersionId }
  .read entry.validate
  .write (.addHistory version)
  .write (.putActive entry)
  return entry

/-- Give an empty slot its first champion. -/
def bootstrap (repository : ChampionRegistryRepository)
    (strategyRef fingerprint backtestId activatedAt slot : String) :
    ChampionCall ChampionRegistryEntry :=
  if (getActive repository slot).isSome then
    .raise (.valueError "champion slot already has an active champion")
  else
    activate slot strategyRef fingerprint backtestId "bootstrap" "bootstrap" activatedAt none
      "bootstrap"

/-- Ask for the promotion of an evaluated challenger; asking again returns the same request. -/
def requestPromotion (repository : ChampionRegistryRepository) (evaluations : EvaluationReports)
    (promotionId evaluationId actorRef requestedAt slot : String) :
    ChampionCall PromotionRequest :=
  match findRequestByEvaluation repository evaluationId with
  | some existing =>
    if existing.promotionId ≠ promotionId then
      .raise (.valueError "promotion request already exists for evaluation")
    else pure existing
  | none => do
    let report ← .read (getReport evaluations evaluationId)
    let current := getActive repository slot
    .read (validatePromotionCandidate report current)
    let request : PromotionRequest :=
      { promotionId, evaluationId, slot, status := .pendingApproval,
        championBacktestId := report.championBacktestId,
        challengerBacktestId := report.challengerBacktestId, validationId := report.validationId,
        candidateFingerprint := report.challengerFingerprint,
        currentChampionFingerprint := report.championFingerprint, requestedBy := actorRef,
        requestedAt }
    .read request.validate
    .write (.addRequest request)
    return request

/-- Approve a promotion and activate its challenger. -/
def approve (repository : ChampionRegistryRepository) (evaluations : EvaluationReports)
    (promotionId actorRef decidedAt reason : String) : ChampionCall ChampionRegistryEntry := do
  let request ← .read (getRequest repository promotionId)
  match request.status with
  | .activated =>
    match getActive repository request.slot with
    | none => .raise (.valueError "activated request has no active champion")
    | some active => return active
  | .rejected => .raise (.valueError "rejected promotion cannot be approved")
  | .rolledBack =>
    .raise (.valueError "promotion request cannot be approved from current state")
  | .pendingApproval | .approved =>
    let report ← .read (getReport evaluations request.evaluationId)
    let current := getActive repository request.slot
    .read (validatePromotionCandidate report current)
    let decision : PromotionDecisionRecord :=
      { decisionId := s!"decision:{promotionId}:approve", promotionId, decision := .approve,
        actorRef, decidedAt, reason }
    .read decision.validate
    .write (.addDecision decision)
    let entry ← activate request.slot (strategyRefFromBacktestId report.challengerBacktestId)
      report.challengerFingerprint report.challengerBacktestId report.validationId
      report.evaluationId decidedAt current "promotion"
    .write (.updateRequest { request with status := .activated })
    return entry

/-- Reject a promotion that has not been activated. -/
def reject (repository : ChampionRegistryRepository)
    (promotionId actorRef decidedAt reason : String) : ChampionCall PromotionRequest := do
  let request ← .read (getRequest repository promotionId)
  match request.status with
  | .rejected => return request
  | .activated => .raise (.valueError "activated promotion cannot be rejected")
  | .pendingApproval | .approved | .rolledBack =>
    let decision : PromotionDecisionRecord :=
      { decisionId := s!"decision:{promotionId}:reject", promotionId, decision := .reject,
        actorRef, decidedAt, reason }
    .read decision.validate
    .write (.addDecision decision)
    let rejected : PromotionRequest := { request with status := .rejected }
    .write (.updateRequest rejected)
    return rejected

/-- Activate the previous version of a slot once more, as a new revision. -/
def rollback (repository : ChampionRegistryRepository) (request : ChampionRollbackRequest) :
    ChampionCall ChampionRollbackResult :=
  match getActive repository request.slot with
  | none => .raise (.valueError "no previous champion exists for rollback")
  | some active =>
    match active.previousVersionId with
    | none => .raise (.valueError "no previous champion exists for rollback")
    | some previousId =>
      match (listHistory repository request.slot).find? (·.versionId = previousId) with
      | none => .raise (.keyError previousId)
      | some previous => do
        let entry ← activate request.slot previous.strategyRef previous.fingerprint
          previous.sourceBacktestId previous.sourceValidationId previous.sourceEvaluationId
          request.requestedAt (some active) "rollback"
        return { rollbackId := request.rollbackId, slot := request.slot,
                 restoredVersionId := previous.versionId, newVersionId := entry.activeVersionId,
                 status := .rolledBack, rolledBackAt := request.requestedAt }

end ChampionRegistryService

end StrategyLab
