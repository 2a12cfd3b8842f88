import StrategyLab.Lib.Json
import StrategyLab.Lib.Python
import StrategyLab.Lib.Raise

/-! The contracts of the learning memory: evidence, approvals, claims, revisions, and payloads. -/

namespace StrategyLab.Learning

/-- What the learning memory can raise. -/
inductive LearningError where
  | valueError (message : String)
  | keyError (key : String)
  | typeError
  | attributeError
  | permissionError (message : String)
  | decodeError
  deriving DecidableEq, Repr

/-- A date that was read: how far it is from UTC, if it says so, and its moment. -/
structure ReadDate where
  utcoffset : Option ℚ
  moment : ℚ

/-- How a date is read, where `none` stands for a `ValueError`, and how a value that is no text is
shown as one. -/
structure Builtins where
  fromisoformat : String → Option ReadDate
  str : Json → String

/-- A field of an object. -/
def subscript : Json → String → Except LearningError Json
  | .obj fields, key =>
    match fields.lookup key with
    | none => .error (.keyError key)
    | some value => .ok value
  | _, _ => .error .typeError

/-- A field of an object, or a default. -/
def getDefault (data : Json) (key : String) (default : Json) : Json :=
  (data.get? key).getD default

/-- Only an object can be asked for a field that may be missing. -/
def requireObject (data : Json) : Except LearningError Unit :=
  if data.isObject then .ok () else .error .attributeError

/-- The items of an iterable: of a list, the keys of an object, or the characters of a text. -/
def iterate : Json → Except LearningError (List Json)
  | .list items => .ok items
  | .obj fields => .ok (fields.map fun field => .str field.1)
  | .str text => .ok (text.toList.map fun c => .str (String.singleton c))
  | _ => .error .typeError

/-- The member of an enumeration with a value. -/
def member {α : Type} (kind : String) (members : List (String × α)) (value : Json) :
    Except LearningError α :=
  match value.text?.bind fun text => members.lookup text with
  | none => .error (.valueError s!"not a valid {kind}")
  | some found => .ok found

/-- A text is required. -/
def requireText (value : Json) (field : String) : Except LearningError Unit :=
  if value.truthy then .ok () else .error (.valueError s!"{field} is required")

/-- A scope is required, with all of its parts. -/
def requireScope (scope project strategy market : Json) : Except LearningError Unit := do
  requireText scope "scope"
  requireText project "project"
  requireText strategy "strategy"
  requireText market "market"

/-- A date in UTC is required. -/
def validateIso8601Utc (builtins : Builtins) (value : Json) (field : String) :
    Except LearningError Unit :=
  if value.truthy then
    match value with
    | .str text =>
      match builtins.fromisoformat (Py.replace text "Z" "+00:00") with
      | none => .error (.valueError s!"{field} must be ISO 8601 UTC")
      | some date =>
        if date.utcoffset = some 0 then .ok () else .error (.valueError s!"{field} must be UTC")
    | _ => .error .attributeError
  else .error (.valueError s!"{field} is required")

/-- Whether a value is a number, or a float that is none. -/
def isNumber : Json → Bool
  | .nan => true
  | .infinity _ => true
  | value => value.number?.isSome

/-- The size of a number, behind the side of the finite ones that it is on. -/
def magnitude? : Json → Option (Int × ℚ)
  | .infinity negative => some (if negative then -1 else 1, 0)
  | value => value.number?.map fun number => (0, number)

/-- Whether a number is below another one, or equal to it where that counts; only numbers can be
compared, and nothing is below what is no number. -/
def isBelow (orEqual : Bool) (left right : Json) : Except LearningError Bool :=
  if isNumber left && isNumber right then
    .ok (match magnitude? left, magnitude? right with
      | some first, some second => first.1 < second.1 ||
        first.1 = second.1 && (first.2 < second.2 || orEqual && first.2 = second.2)
      | _, _ => false)
  else .error .typeError

/-- A number that is not below a bound is required. -/
def requireAtLeast (bound : Int) (value : Json) (message : String) : Except LearningError Unit := do
  if ← isBelow false value (.int bound) then throw (.valueError message)

/-- A number from zero to one is required. -/
def requireUnit (value : Json) (message : String) : Except LearningError Unit := do
  requireAtLeast 0 value message
  if ← isBelow false (.int 1) value then throw (.valueError message)

/-- An object of a class: its fields have passed the checks of the class. -/
structure Object {α : Type} (check : α → Except LearningError Unit) where
  fields : α
  checked : check fields = .ok ()

/-- Construct an object of a class. -/
def construct {α : Type} (check : α → Except LearningError Unit) (fields : α) :
    Except LearningError (Object check) :=
  match checked : check fields with
  | .ok () => .ok ⟨fields, checked⟩
  | .error raised => .error raised

/-- The categories of evidence. -/
inductive EvidenceType where
  | source
  | url
  | document
  | research
  | paper
  | officialDocumentation
  | backtest
  | experiment
  deriving DecidableEq, Repr

/-- The value of a category. -/
def EvidenceType.value : EvidenceType → String
  | source => "source"
  | url => "url"
  | document => "document"
  | research => "research"
  | paper => "paper"
  | officialDocumentation => "official_documentation"
  | backtest => "backtest"
  | experiment => "experiment"

/-- The categories by their values. -/
def evidenceTypes : List (String × EvidenceType) :=
  [.source, .url, .document, .research, .paper, .officialDocumentation, .backtest,
    .experiment].map fun kind => (kind.value, kind)

/-- The fields of a piece of evidence. -/
structure EvidenceFields where
  evidenceId : Json
  evidenceType : EvidenceType
  reference : Json
  summary : Json

/-- The checks on a piece of evidence. -/
def EvidenceFields.check (fields : EvidenceFields) : Except LearningError Unit := do
  requireText fields.evidenceId "evidence_id"
  requireText fields.reference "evidence reference"
  requireText fields.summary "evidence summary"

/-- A piece of evidence. -/
abbrev EvidenceRecord := Object EvidenceFields.check

/-- The payload of a piece of evidence. -/
def EvidenceRecord.toDict (record : EvidenceRecord) : Json :=
  .obj [("evidence_id", record.fields.evidenceId),
    ("evidence_type", .str record.fields.evidenceType.value),
    ("reference", record.fields.reference), ("summary", record.fields.summary)]

/-- Read a piece of evidence. -/
def EvidenceRecord.fromDict (data : Json) : Except LearningError EvidenceRecord := do
  let evidenceId ← subscript data "evidence_id"
  let evidenceType ← member "EvidenceType" evidenceTypes (← subscript data "evidence_type")
  let reference ← subscript data "reference"
  let summary ← subscript data "summary"
  construct EvidenceFields.check { evidenceId, evidenceType, reference, summary }

/-- Some evidence is required. -/
def requireEvidence (evidence : List EvidenceRecord) (owner : String) :
    Except LearningError Unit :=
  if evidence.isEmpty then .error (.valueError s!"{owner} requires evidence") else .ok ()

/-- The payload of some evidence. -/
def evidenceToList (evidence : List EvidenceRecord) : Json :=
  .list (evidence.map EvidenceRecord.toDict)

/-- Read some evidence. -/
def evidenceFromList (items : Json) : Except LearningError (List EvidenceRecord) := do
  (← iterate items).mapM EvidenceRecord.fromDict

/-- The fields of a confidence. -/
structure ConfidenceFields where
  value : Json
  reason : Json
  evidenceCount : Json
  validationState : Json
  recency : Json
  conflictPenalty : Json

/-- The checks on a confidence. -/
def ConfidenceFields.check (fields : ConfidenceFields) : Except LearningError Unit := do
  requireUnit fields.value "confidence value must be between 0.0 and 1.0"
  requireText fields.reason "confidence reason"
  requireAtLeast 0 fields.evidenceCount "evidence_count must be non-negative"
  requireUnit fields.recency "recency must be between 0.0 and 1.0"
  requireUnit fields.conflictPenalty "conflict_penalty must be between 0.0 and 1.0"

/-- A confidence. -/
abbrev ConfidenceScore := Object ConfidenceFields.check

/-- The payload of a confidence. -/
def ConfidenceScore.toDict (confidence : ConfidenceScore) : Json :=
  .obj [("value", confidence.fields.value), ("reason", confidence.fields.reason),
    ("evidence_count", confidence.fields.evidenceCount),
    ("validation_state", confidence.fields.validationState),
    ("recency", confidence.fields.recency),
    ("conflict_penalty", confidence.fields.conflictPenalty)]

/-- Read a confidence. -/
def ConfidenceScore.fromDict (data : Json) : Except LearningError ConfidenceScore := do
  let value ← subscript data "value"
  let reason ← subscript data "reason"
  construct ConfidenceFields.check {
    value, reason
    evidenceCount := getDefault data "evidence_count" (.int 0)
    validationState := getDefault data "validation_state" (.str "unvalidated")
    recency := getDefault data "recency" (.float 0)
    conflictPenalty := getDefault data "conflict_penalty" (.float 0) }

/-- The states of a schedule. -/
inductive RevalidationStatus where
  | pending
  | due
  | completed
  deriving DecidableEq, Repr

/-- The value of a state. -/
def RevalidationStatus.value : RevalidationStatus → String
  | pending => "pending"
  | due => "due"
  | completed => "completed"

/-- The states by their values. -/
def revalidationStatuses : List (String × RevalidationStatus) :=
  [.pending, .due, .completed].map fun status => (status.value, status)

/-- The fields of a schedule. -/
structure ScheduleFields where
  scheduleId : Json
  targetRef : Json
  reason : Json
  dueAt : Json
  frequency : Json
  status : RevalidationStatus
  scope : Json
  project : Json
  strategy : Json
  market : Json

variable (builtins : Builtins)

/-- The checks on a schedule. -/
def ScheduleFields.check (fields : ScheduleFields) : Except LearningError Unit := do
  requireText fields.scheduleId "schedule_id"
  requireText fields.targetRef "target_ref"
  requireText fields.reason "reason"
  validateIso8601Utc builtins fields.dueAt "due_at"
  requireText fields.frequency "frequency"
  requireScope fields.scope fields.project fields.strategy fields.market

/-- When a record is looked at again. -/
abbrev RevalidationSchedule := Object (ScheduleFields.check builtins)

/-- The payload of a schedule. -/
def RevalidationSchedule.toDict (schedule : RevalidationSchedule builtins) : Json :=
  .obj [("schedule_id", schedule.fields.scheduleId), ("target_ref", schedule.fields.targetRef),
    ("reason", schedule.fields.reason), ("due_at", schedule.fields.dueAt),
    ("frequency", schedule.fields.frequency), ("status", .str schedule.fields.status.value),
    ("scope", schedule.fields.scope), ("project", schedule.fields.project),
    ("strategy", schedule.fields.strategy), ("market", schedule.fields.market)]

/-- Read a schedule. -/
def RevalidationSchedule.fromDict (data : Json) :
    Except LearningError (RevalidationSchedule builtins) := do
  let scheduleId ← subscript data "schedule_id"
  let targetRef ← subscript data "target_ref"
  let reason ← subscript data "reason"
  let dueAt ← subscript data "due_at"
  let frequency ← subscript data "frequency"
  let status ← member "RevalidationStatus" revalidationStatuses (← subscript data "status")
  let scope ← subscript data "scope"
  let project ← subscript data "project"
  let strategy ← subscript data "strategy"
  let market ← subscript data "market"
  construct (ScheduleFields.check builtins)
    { scheduleId, targetRef, reason, dueAt, frequency, status, scope, project, strategy, market }

/-- The fields of an approval of a claim. -/
structure KnowledgeApprovalFields where
  approvalId : Json
  claimId : Json
  approvedBy : Json
  approvedAt : Json
  evidence : List EvidenceRecord
  scope : Json
  project : Json
  strategy : Json
  market : Json

/-- The checks on an approval of a claim. -/
def KnowledgeApprovalFields.check (fields : KnowledgeApprovalFields) :
    Except LearningError Unit := do
  requireText fields.approvalId "approval_id"
  requireText fields.claimId "claim_id"
  requireText fields.approvedBy "approved_by"
  validateIso8601Utc builtins fields.approvedAt "approved_at"
  requireEvidence fields.evidence "knowledge approval"
  requireScope fields.scope fields.project fields.strategy fields.market

/-- An approval of a claim. -/
abbrev KnowledgeApproval := Object (KnowledgeApprovalFields.check builtins)

/-- The payload of an approval of a claim. -/
def KnowledgeApproval.toDict (approval : KnowledgeApproval builtins) : Json :=
  .obj [("approval_id", approval.fields.approvalId), ("claim_id", approval.fields.claimId),
    ("approved_by", approval.fields.approvedBy), ("approved_at", approval.fields.approvedAt),
    ("evidence", evidenceToList approval.fields.evidence), ("scope", approval.fields.scope),
    ("project", approval.fields.project), ("strategy", approval.fields.strategy),
    ("market", approval.fields.market)]

/-- Read an approval of a claim. -/
def KnowledgeApproval.fromDict (data : Json) :
    Except LearningError (KnowledgeApproval builtins) := do
  let approvalId ← subscript data "approval_id"
  let claimId ← subscript data "claim_id"
  let approvedBy ← subscript data "approved_by"
  let approvedAt ← subscript data "approved_at"
  let evidence ← evidenceFromList (← subscript data "evidence")
  let scope ← subscript data "scope"
  let project ← subscript data "project"
  let strategy ← subscript data "strategy"
  let market ← subscript data "market"
  construct (KnowledgeApprovalFields.check builtins)
    { approvalId, claimId, approvedBy, approvedAt, evidence, scope, project, strategy, market }

/-- The fields of an approval of a revision. -/
structure PolicyApprovalFields where
  approvalId : Json
  revisionId : Json
  approvedBy : Json
  approvedAt : Json
  evidence : List EvidenceRecord
  rollbackRef : Json
  scope : Json
  project : Json
  strategy : Json
  market : Json

/-- The checks on an approval of a revision. -/
def PolicyApprovalFields.check (fields : PolicyApprovalFields) : Except LearningError Unit := do
  requireText fields.approvalId "approval_id"
  requireText fields.revisionId "revision_id"
  requireText fields.approvedBy "approved_by"
  validateIso8601Utc builtins fields.approvedAt "approved_at"
  requireText fields.rollbackRef "rollback_ref"
  requireEvidence fields.evidence "policy approval"
  requireScope fields.scope fields.project fields.strategy fields.market

/-- An approval of a revision. -/
abbrev PolicyApproval := Object (PolicyApprovalFields.check builtins)

/-- Read an approval of a revision. -/
def PolicyApproval.fromDict (data : Json) : Except LearningError (PolicyApproval builtins) := do
  let approvalId ← subscript data "approval_id"
  let revisionId ← subscript data "revision_id"
  let approvedBy ← subscript data "approved_by"
  let approvedAt ← subscript data "approved_at"
  let evidence ← evidenceFromList (← subscript data "evidence")
  let rollbackRef ← subscript data "rollback_ref"
  let scope ← subscript data "scope"
  let project ← subscript data "project"
  let strategy ← subscript data "strategy"
  let market ← subscript data "market"
  construct (PolicyApprovalFields.check builtins)
    { approvalId, revisionId, approvedBy, approvedAt, evidence, rollbackRef, scope, project,
      strategy, market }

end StrategyLab.Learning
