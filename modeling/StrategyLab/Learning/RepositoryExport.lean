import StrategyLab.Learning.LearningRepository
import StrategyLab.Lib.SortedJson

/-! The repository of the learning memory in use: what is added, listed, exported and imported. -/

namespace StrategyLab.Learning

namespace InMemoryLearningRepository

section

variable {α : Type} (moment : α → ℚ) (ident : α → Json)

/-- Whether an item does not come after another one: by the moment, and then by the id. -/
def isNotAfter (left right : α) : Bool :=
  moment left < moment right || moment left = moment right && idNotAfter (ident left) (ident right)

/-- Items in the order of their moments and ids, if ids of one moment can be compared; an id that is
a list, which no import accepts, counts as one that cannot. -/
def sortByMoment (items : List α) : Except LearningError (List α) :=
  if items.Pairwise fun left right =>
      moment left ≠ moment right ∨ areOrderable (ident left) (ident right) = true then
    .ok (items.mergeSort (isNotAfter moment ident))
  else .error .typeError

end

variable {builtins : Builtins} (repository : InMemoryLearningRepository builtins)

/-- Whether a record with an id is stored. -/
def holdsRecord (recordId : Json) : Bool :=
  repository.records.any fun record => record.fields.recordId.same recordId

/-- Store a record. -/
def add (record : LearningRecord builtins) :
    Except LearningError Unit × InMemoryLearningRepository builtins :=
  let stored : Except LearningError (LearningRecord builtins) := do
    requireEvidence record.fields.evidence "learning record"
    if !isHashable record.fields.recordId then throw .typeError
    if repository.holdsRecord record.fields.recordId then
      throw (.valueError s!"duplicate record_id: {record.fields.recordId.textOf builtins.str}")
    copyRecord record
  match stored with
  | .error raised => (.error raised, repository)
  | .ok copy => (.ok (), { repository with records := repository.records ++ [copy] })

/-- Whether an audit event with an id is stored. -/
def holdsEvent (eventId : Json) : Bool :=
  repository.auditEvents.any fun event => event.fields.eventId.same eventId

/-- Store an audit event behind the others. -/
def appendAudit (event : AuditEvent builtins) :
    Except LearningError Unit × InMemoryLearningRepository builtins :=
  let stored : Except LearningError (AuditEvent builtins) := do
    requireEvidence event.fields.evidence "audit event"
    if repository.holdsEvent event.fields.eventId then
      throw (.valueError s!"duplicate event_id: {event.fields.eventId.textOf builtins.str}")
    copyAudit event
  match stored with
  | .error raised => (.error raised, repository)
  | .ok copy => (.ok (), { repository with auditEvents := repository.auditEvents ++ [copy] })

/-- The moment that a record was made. -/
def createdMoment (record : LearningRecord builtins) : ℚ :=
  match record.fields.createdAt with
  | .str text => ((builtins.fromisoformat (Py.replace text "Z" "+00:00")).map
      ReadDate.moment).getD 0
  | _ => 0

/-- The records in the order they were made in. -/
def listChronological : Except LearningError (List (LearningRecord builtins)) := do
  sortByMoment createdMoment (·.fields.recordId) (← repository.records.mapM copyRecord)

/-- The claims in the order of their ids. -/
def listClaims : Except LearningError (List (KnowledgeClaim builtins)) := do
  (← sortByMoment (fun _ => 0) (·.fields.claimId) repository.claims).mapM copyClaim

/-- Whether an audit event is of a target and an action, where these are given. -/
def isAuditOf (targetRef : Option String) (action : Option AuditAction)
    (event : AuditEvent builtins) : Bool :=
  (targetRef.all fun target => event.fields.targetRef.same (.str target)) &&
    action.all fun given => event.fields.action = given

/-- The audit events in their order, those of a target and an action if these are given. -/
def filterAuditEvents (events : List (AuditEvent builtins)) (targetRef : Option String)
    (action : Option AuditAction) : Except LearningError (List (AuditEvent builtins)) := do
  return (← sortAuditEvents events).filter (isAuditOf targetRef action)

/-- The audit events that are stored, of a target and an action if these are given. -/
def listAudit (targetRef : Option String) (action : Option AuditAction) :
    Except LearningError (List (AuditEvent builtins)) := do
  filterAuditEvents (← repository.auditEvents.mapM copyAudit) targetRef action

end InMemoryLearningRepository

variable {builtins : Builtins}

/-- The text of a repository, as the value that is read back from it: all keys are sorted. -/
def repositoryToJson (records : List (LearningRecord builtins))
    (auditEvents : List (AuditEvent builtins)) (claims : List (KnowledgeClaim builtins)) : Json :=
  Json.sortKeys (.obj [("schema_version", .int 1), ("kind", learningRepositoryKind),
    ("records", .list (records.map (LearningRecord.toDict builtins))),
    ("claims", .list (claims.map (KnowledgeClaim.toDict builtins))),
    ("audit_events", .list (auditEvents.map (AuditEvent.toDict builtins)))])

/-- The text of all that is stored. -/
def InMemoryLearningRepository.exportJson (repository : InMemoryLearningRepository builtins) :
    Except LearningError Json := do
  let records ← repository.listChronological
  let auditEvents ← repository.listAudit none none
  let claims ← repository.listClaims
  return repositoryToJson records auditEvents claims

variable (builtins)

/-- What changes a repository. -/
inductive RepositoryOp where
  | add (record : LearningRecord builtins)
  | addClaim (claim : KnowledgeClaim builtins)
  | appendAudit (event : AuditEvent builtins)
  | importJson (payload : Option Json)

/-- The repository as a machine. -/
def repositoryMachine : Machine (InMemoryLearningRepository builtins) (RepositoryOp builtins)
    (Except LearningError Unit) where
  step repository
    | .add record => repository.add record
    | .addClaim claim => repository.addClaim claim
    | .appendAudit event => repository.appendAudit event
    | .importJson payload => repository.importJson payload

end StrategyLab.Learning
