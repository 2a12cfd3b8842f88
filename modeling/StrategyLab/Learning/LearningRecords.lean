import StrategyLab.Learning.Contracts

/-! Learning records, claims, revisions of policies and audit events, with their payloads. -/

namespace StrategyLab.Learning

variable (builtins : Builtins)

/-- The object under `data` of a payload of a kind. -/
def loadVersioned (decoded : Json) (kind : String) : Except LearningError Json := do
  requireObject decoded
  if !(getDefault decoded "schema_version" .null).same (.int 1) then
    throw (.valueError "unsupported Learning Memory schema version")
  if !(getDefault decoded "kind" .null).same (.str kind) then
    throw (.valueError s!"expected {kind} payload")
  let data := getDefault decoded "data" .null
  if !data.isObject then throw (.valueError "Learning Memory payload data must be an object")
  return data

/-- The types of records. -/
inductive LearningRecordType where
  | knowledgeClaim
  | researchOutcome
  | failurePattern
  | successPattern
  | userPreference
  | conversationSummary
  deriving DecidableEq, Repr

/-- The value of a type. -/
def LearningRecordType.value : LearningRecordType → String
  | knowledgeClaim => "knowledge_claim"
  | researchOutcome => "research_outcome"
  | failurePattern => "failure_pattern"
  | successPattern => "success_pattern"
  | userPreference => "user_preference"
  | conversationSummary => "conversation_summary"

/-- The types by their values. -/
def learningRecordTypes : List (String × LearningRecordType) :=
  [.knowledgeClaim, .researchOutcome, .failurePattern, .successPattern, .userPreference,
    .conversationSummary].map fun kind => (kind.value, kind)

/-- The fields of a record. -/
structure LearningRecordFields where
  recordId : Json
  recordType : LearningRecordType
  content : Json
  scope : Json
  project : Json
  strategy : Json
  market : Json
  createdAt : Json
  updatedAt : Json
  version : Json
  evidence : List EvidenceRecord
  confidence : ConfidenceScore
  revalidation : RevalidationSchedule builtins
  auditRef : Json

/-- The checks on a record. -/
def LearningRecordFields.check (fields : LearningRecordFields builtins) :
    Except LearningError Unit := do
  requireText fields.recordId "record_id"
  requireText fields.content "content"
  requireScope fields.scope fields.project fields.strategy fields.market
  validateIso8601Utc builtins fields.createdAt "created_at"
  validateIso8601Utc builtins fields.updatedAt "updated_at"
  requireAtLeast 1 fields.version "version must be positive"
  requireEvidence fields.evidence "learning record"
  requireText fields.auditRef "audit_ref"

/-- A record of the memory. -/
abbrev LearningRecord := Object (LearningRecordFields.check builtins)

/-- The payload of a record. -/
def LearningRecord.toDict (record : LearningRecord builtins) : Json :=
  .obj [("record_id", record.fields.recordId),
    ("record_type", .str record.fields.recordType.value), ("content", record.fields.content),
    ("scope", record.fields.scope), ("project", record.fields.project),
    ("strategy", record.fields.strategy), ("market", record.fields.market),
    ("created_at", record.fields.createdAt), ("updated_at", record.fields.updatedAt),
    ("version", record.fields.version), ("evidence", evidenceToList record.fields.evidence),
    ("confidence", ConfidenceScore.toDict record.fields.confidence),
    ("revalidation", RevalidationSchedule.toDict builtins record.fields.revalidation),
    ("audit_ref", record.fields.auditRef)]

/-- Read a record. -/
def LearningRecord.fromDict (data : Json) : Except LearningError (LearningRecord builtins) := do
  let recordId ← subscript data "record_id"
  let recordType ← member "LearningRecordType" learningRecordTypes (← subscript data "record_type")
  let content ← subscript data "content"
  let scope ← subscript data "scope"
  let project ← subscript data "project"
  let strategy ← subscript data "strategy"
  let market ← subscript data "market"
  let createdAt ← subscript data "created_at"
  let updatedAt ← subscript data "updated_at"
  let version ← subscript data "version"
  let evidence ← evidenceFromList (← subscript data "evidence")
  let confidence ← ConfidenceScore.fromDict (← subscript data "confidence")
  let revalidation ← RevalidationSchedule.fromDict builtins (← subscript data "revalidation")
  let auditRef ← subscript data "audit_ref"
  construct (LearningRecordFields.check builtins)
    { recordId, recordType, content, scope, project, strategy, market, createdAt, updatedAt,
      version, evidence, confidence, revalidation, auditRef }

/-- Where a claim stands. -/
inductive KnowledgeStatus where
  | collected
  | reviewed
  | needValidation
  | validated
  | deprecated
  deriving DecidableEq, Repr

/-- The value of a status. -/
def KnowledgeStatus.value : KnowledgeStatus → String
  | collected => "collected"
  | reviewed => "reviewed"
  | needValidation => "need_validation"
  | validated => "validated"
  | deprecated => "deprecated"

/-- The statuses by their values. -/
def knowledgeStatuses : List (String × KnowledgeStatus) :=
  [.collected, .reviewed, .needValidation, .validated, .deprecated].map fun status =>
    (status.value, status)

/-- The fields of a claim. -/
structure KnowledgeClaimFields where
  claimId : Json
  statement : Json
  topic : Json
  status : KnowledgeStatus
  scope : Json
  project : Json
  strategy : Json
  market : Json
  evidence : List EvidenceRecord
  confidence : ConfidenceScore
  conflicts : List Json
  approval : Option (KnowledgeApproval builtins)

/-- The checks on a claim. -/
def KnowledgeClaimFields.check (fields : KnowledgeClaimFields builtins) :
    Except LearningError Unit := do
  requireText fields.claimId "claim_id"
  requireText fields.statement "statement"
  requireText fields.topic "topic"
  requireScope fields.scope fields.project fields.strategy fields.market
  requireEvidence fields.evidence "knowledge claim"
  if fields.conflicts.any fun conflict => !conflict.truthy then
    throw (.valueError "conflicts must not contain empty values")
  if fields.status = .validated && fields.approval.isNone then
    throw (.permissionError "validated knowledge requires KnowledgeApproval")

/-- A claim, which is only validated with an approval. -/
abbrev KnowledgeClaim := Object (KnowledgeClaimFields.check builtins)

/-- Validate a claim with an approval of it. -/
def KnowledgeClaim.validate (claim : KnowledgeClaim builtins)
    (approval : Option (KnowledgeApproval builtins)) :
    Except LearningError (KnowledgeClaim builtins) :=
  match approval with
  | none => .error (.permissionError "KnowledgeApproval is required")
  | some approval => do
    if !approval.fields.claimId.same claim.fields.claimId then
      throw (.valueError "KnowledgeApproval claim_id mismatch")
    if !approval.fields.scope.same claim.fields.scope ||
        !approval.fields.project.same claim.fields.project ||
        !approval.fields.strategy.same claim.fields.strategy ||
        !approval.fields.market.same claim.fields.market then
      throw (.valueError "KnowledgeApproval scope mismatch")
    if !claim.fields.conflicts.isEmpty then
      throw (.valueError "conflicting claims cannot be validated")
    construct (KnowledgeClaimFields.check builtins)
      { claim.fields with status := .validated, approval := some approval }

/-- The payload of a claim. -/
def KnowledgeClaim.toDict (claim : KnowledgeClaim builtins) : Json :=
  .obj [("claim_id", claim.fields.claimId), ("statement", claim.fields.statement),
    ("topic", claim.fields.topic), ("status", .str claim.fields.status.value),
    ("scope", claim.fields.scope), ("project", claim.fields.project),
    ("strategy", claim.fields.strategy), ("market", claim.fields.market),
    ("evidence", evidenceToList claim.fields.evidence),
    ("confidence", ConfidenceScore.toDict claim.fields.confidence),
    ("conflicts", .list claim.fields.conflicts),
    ("approval", (claim.fields.approval.map (KnowledgeApproval.toDict builtins)).getD .null)]

/-- Read a claim; an approval that is empty is none. -/
def KnowledgeClaim.fromDict (data : Json) : Except LearningError (KnowledgeClaim builtins) := do
  requireObject data
  let approval := getDefault data "approval" .null
  let claimId ← subscript data "claim_id"
  let statement ← subscript data "statement"
  let topic ← subscript data "topic"
  let status ← member "KnowledgeStatus" knowledgeStatuses (← subscript data "status")
  let scope ← subscript data "scope"
  let project ← subscript data "project"
  let strategy ← subscript data "strategy"
  let market ← subscript data "market"
  let evidence ← evidenceFromList (← subscript data "evidence")
  let confidence ← ConfidenceScore.fromDict (← subscript data "confidence")
  let conflicts ← iterate (← subscript data "conflicts")
  let approval ← if approval.truthy then
      (KnowledgeApproval.fromDict builtins approval).map some
    else .ok none
  construct (KnowledgeClaimFields.check builtins)
    { claimId, statement, topic, status, scope, project, strategy, market, evidence, confidence,
      conflicts, approval }

/-- Read a claim from the payload of one. -/
def KnowledgeClaim.fromJson (decoded : Json) : Except LearningError (KnowledgeClaim builtins) := do
  KnowledgeClaim.fromDict builtins (← loadVersioned decoded "knowledge_claim")

/-- The fields of a revision of a policy. -/
structure PolicyRevisionFields where
  revisionId : Json
  policyRef : Json
  proposedChange : Json
  previousVersion : Json
  nextVersion : Json
  scope : Json
  project : Json
  strategy : Json
  market : Json
  evidence : List EvidenceRecord
  rollbackRef : Json
  approval : Option (PolicyApproval builtins)
  applied : Json

/-- The checks on a revision. -/
def PolicyRevisionFields.check (fields : PolicyRevisionFields builtins) :
    Except LearningError Unit := do
  requireText fields.revisionId "revision_id"
  requireText fields.policyRef "policy_ref"
  requireText fields.proposedChange "proposed_change"
  requireAtLeast 1 fields.previousVersion "policy revision versions are invalid"
  if ← isBelow true fields.nextVersion fields.previousVersion then
    throw (.valueError "policy revision versions are invalid")
  requireScope fields.scope fields.project fields.strategy fields.market
  requireEvidence fields.evidence "policy revision"
  requireText fields.rollbackRef "rollback_ref"
  if fields.applied.truthy && fields.approval.isNone then
    throw (.permissionError "applied policy revision requires PolicyApproval")

/-- A revision of a policy, which is only applied with an approval. -/
abbrev PolicyRevision := Object (PolicyRevisionFields.check builtins)

/-- Apply a revision with an approval of it. -/
def PolicyRevision.apply (revision : PolicyRevision builtins)
    (approval : Option (PolicyApproval builtins)) :
    Except LearningError (PolicyRevision builtins) :=
  match approval with
  | none => .error (.permissionError "PolicyApproval is required")
  | some approval => do
    if !approval.fields.revisionId.same revision.fields.revisionId then
      throw (.valueError "PolicyApproval revision_id mismatch")
    if !approval.fields.rollbackRef.same revision.fields.rollbackRef then
      throw (.valueError "PolicyApproval rollback_ref mismatch")
    if !approval.fields.scope.same revision.fields.scope ||
        !approval.fields.project.same revision.fields.project ||
        !approval.fields.strategy.same revision.fields.strategy ||
        !approval.fields.market.same revision.fields.market then
      throw (.valueError "PolicyApproval scope mismatch")
    construct (PolicyRevisionFields.check builtins)
      { revision.fields with approval := some approval, applied := .bool true }

/-- Read a revision; an approval that is empty is none. -/
def PolicyRevision.fromDict (data : Json) : Except LearningError (PolicyRevision builtins) := do
  requireObject data
  let approval := getDefault data "approval" .null
  let revisionId ← subscript data "revision_id"
  let policyRef ← subscript data "policy_ref"
  let proposedChange ← subscript data "proposed_change"
  let previousVersion ← subscript data "previous_version"
  let nextVersion ← subscript data "next_version"
  let scope ← subscript data "scope"
  let project ← subscript data "project"
  let strategy ← subscript data "strategy"
  let market ← subscript data "market"
  let evidence ← evidenceFromList (← subscript data "evidence")
  let rollbackRef ← subscript data "rollback_ref"
  let approval ← if approval.truthy then
      (PolicyApproval.fromDict builtins approval).map some
    else .ok none
  let applied ← subscript data "applied"
  construct (PolicyRevisionFields.check builtins)
    { revisionId, policyRef, proposedChange, previousVersion, nextVersion, scope, project,
      strategy, market, evidence, rollbackRef, approval, applied }

/-- Read a revision from the payload of one. -/
def PolicyRevision.fromJson (decoded : Json) :
    Except LearningError (PolicyRevision builtins) := do
  PolicyRevision.fromDict builtins (← loadVersioned decoded "policy_revision")

/-- The actions that are audited. -/
inductive AuditAction where
  | create
  | update
  | transition
  | approve
  | deprecate_
  | rollback
  | import_
  | migrate
  deriving DecidableEq, Repr

/-- The value of an action. -/
def AuditAction.value : AuditAction → String
  | create => "create"
  | update => "update"
  | transition => "transition"
  | approve => "approve"
  | deprecate_ => "deprecate"
  | rollback => "rollback"
  | import_ => "import"
  | migrate => "migrate"

/-- The actions by their values. -/
def auditActions : List (String × AuditAction) :=
  [.create, .update, .transition, .approve, .deprecate_, .rollback, .import_, .migrate].map
    fun action => (action.value, action)

/-- The fields of an audit event. -/
structure AuditEventFields where
  eventId : Json
  actor : Json
  action : AuditAction
  targetRef : Json
  beforeVersion : Json
  afterVersion : Json
  scope : Json
  project : Json
  strategy : Json
  market : Json
  evidence : List EvidenceRecord
  timestamp : Json
  rollbackRef : Json

/-- Whether a value is the one of a missing field. -/
def isNull : Json → Bool
  | .null => true
  | _ => false

/-- The checks on an audit event. -/
def AuditEventFields.check (fields : AuditEventFields) : Except LearningError Unit := do
  requireText fields.eventId "event_id"
  requireText fields.actor "actor"
  requireText fields.targetRef "target_ref"
  if !isNull fields.beforeVersion then
    requireAtLeast 1 fields.beforeVersion "before_version must be positive when provided"
  requireAtLeast 1 fields.afterVersion "after_version must be positive"
  requireScope fields.scope fields.project fields.strategy fields.market
  requireEvidence fields.evidence "audit event"
  validateIso8601Utc builtins fields.timestamp "timestamp"

/-- An audit event. -/
abbrev AuditEvent := Object (AuditEventFields.check builtins)

/-- The payload of an audit event. -/
def AuditEvent.toDict (event : AuditEvent builtins) : Json :=
  .obj [("event_id", event.fields.eventId), ("actor", event.fields.actor),
    ("action", .str event.fields.action.value), ("target_ref", event.fields.targetRef),
    ("before_version", event.fields.beforeVersion), ("after_version", event.fields.afterVersion),
    ("scope", event.fields.scope), ("project", event.fields.project),
    ("strategy", event.fields.strategy), ("market", event.fields.market),
    ("evidence", evidenceToList event.fields.evidence), ("timestamp", event.fields.timestamp),
    ("rollback_ref", event.fields.rollbackRef)]

/-- Read an audit event. -/
def AuditEvent.fromDict (data : Json) : Except LearningError (AuditEvent builtins) := do
  let eventId ← subscript data "event_id"
  let actor ← subscript data "actor"
  let action ← member "AuditAction" auditActions (← subscript data "action")
  let targetRef ← subscript data "target_ref"
  let beforeVersion ← subscript data "before_version"
  let afterVersion ← subscript data "after_version"
  let scope ← subscript data "scope"
  let project ← subscript data "project"
  let strategy ← subscript data "strategy"
  let market ← subscript data "market"
  let evidence ← evidenceFromList (← subscript data "evidence")
  let timestamp ← subscript data "timestamp"
  let rollbackRef ← subscript data "rollback_ref"
  construct (AuditEventFields.check builtins)
    { eventId, actor, action, targetRef, beforeVersion, afterVersion, scope, project, strategy,
      market, evidence, timestamp, rollbackRef }

end StrategyLab.Learning
