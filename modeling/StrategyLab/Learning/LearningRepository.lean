import StrategyLab.Learning.LearningRecords
import StrategyLab.Lib.Machine
import Mathlib.Data.List.Sort

/-! The in-memory repository of the learning memory, and the objects that enter it. -/

namespace StrategyLab.Learning

variable (builtins : Builtins)

/-- Whether a value can be a key of a dictionary. -/
def isHashable : Json → Bool
  | .list _ => false
  | .obj _ => false
  | _ => true

/-- The keys are as many as they are distinct. -/
def requireDistinct (keys : List Json) (message : String) : Except LearningError Unit :=
  if keys.all isHashable then
    if keys.Pairwise fun first second => first.same second = false then .ok ()
    else .error (.valueError message)
  else .error .typeError

/-- The list of objects under a key of an object. -/
def requireList (value : Json) (field : String) : Except LearningError (List Json) :=
  match value with
  | .list items =>
    if items.all Json.isObject then .ok items
    else .error (.valueError s!"{field} items must be objects")
  | _ => .error (.valueError s!"{field} must be a list")

/-- Whether a value is a list. -/
def isList : Json → Bool
  | .list _ => true
  | _ => false

/-- The kind of the payload of a repository. -/
def learningRepositoryKind : Json := .str "learning_repository"

/-- Bring the payload of a repository to the current version. -/
def migrateRepositoryJson (decoded : Json) : Except LearningError Json := do
  requireObject decoded
  if !(getDefault decoded "kind" .null).same learningRepositoryKind then
    throw (.valueError "expected learning_repository payload")
  let version := getDefault decoded "schema_version" .null
  if version.same (.int 1) then return decoded
  if version.same (.int 0) then
    let records := getDefault decoded "records" .null
    if !isList records then throw (.valueError "records must be a list")
    let claims := getDefault decoded "claims" (.list [])
    if !isList claims then throw (.valueError "claims must be a list")
    let auditEvents := getDefault decoded "audit_events" .null
    if !isList auditEvents then throw (.valueError "audit_events must be a list")
    return .obj [("schema_version", .int 1), ("kind", learningRepositoryKind),
      ("records", records), ("claims", claims), ("audit_events", auditEvents)]
  throw (.valueError "unsupported Learning Repository schema version")

/-- What the payload of a repository holds. -/
structure RepositoryPayload where
  records : List (LearningRecord builtins)
  claims : List (KnowledgeClaim builtins)
  auditEvents : List (AuditEvent builtins)

/-- Read the payload of a repository. -/
def repositoryFromJson (decoded : Json) : Except LearningError (RepositoryPayload builtins) := do
  requireObject decoded
  if !(getDefault decoded "kind" .null).same learningRepositoryKind then
    throw (.valueError "expected learning_repository payload")
  if !(getDefault decoded "schema_version" .null).same (.int 1) then
    throw (.valueError "unsupported Learning Repository schema version")
  let records ← (← requireList (getDefault decoded "records" .null) "records").mapM
    (LearningRecord.fromDict builtins)
  let claims ← (← requireList (getDefault decoded "claims" (.list [])) "claims").mapM
    (KnowledgeClaim.fromDict builtins)
  let auditEvents ← (← requireList (getDefault decoded "audit_events" .null) "audit_events").mapM
    (AuditEvent.fromDict builtins)
  return { records, claims, auditEvents }

/-- The memory: its records and claims by their ids, and its audit events. -/
structure InMemoryLearningRepository where
  records : List (LearningRecord builtins)
  claims : List (KnowledgeClaim builtins)
  auditEvents : List (AuditEvent builtins)

namespace InMemoryLearningRepository

variable {builtins}

/-- An empty memory. -/
def empty : InMemoryLearningRepository builtins := ⟨[], [], []⟩

/-- A copy of a record, through its payload. -/
def copyRecord (record : LearningRecord builtins) : Except LearningError (LearningRecord builtins) :=
  LearningRecord.fromDict builtins (LearningRecord.toDict builtins record)

/-- A copy of a claim, through its payload. -/
def copyClaim (claim : KnowledgeClaim builtins) : Except LearningError (KnowledgeClaim builtins) :=
  KnowledgeClaim.fromDict builtins (KnowledgeClaim.toDict builtins claim)

/-- A copy of an audit event, through its payload. -/
def copyAudit (event : AuditEvent builtins) : Except LearningError (AuditEvent builtins) :=
  AuditEvent.fromDict builtins (AuditEvent.toDict builtins event)

/-- Whether a claim with an id is stored. -/
def holdsClaim (repository : InMemoryLearningRepository builtins) (claimId : Json) : Bool :=
  repository.claims.any fun claim => claim.fields.claimId.same claimId

/-- Store a claim. -/
def addClaim (repository : InMemoryLearningRepository builtins) (claim : KnowledgeClaim builtins) :
    Except LearningError Unit × InMemoryLearningRepository builtins :=
  let stored : Except LearningError (KnowledgeClaim builtins) := do
    requireEvidence claim.fields.evidence "knowledge claim"
    if !isHashable claim.fields.claimId then throw .typeError
    if repository.holdsClaim claim.fields.claimId then
      throw (.valueError
        s!"duplicate claim_id: {claim.fields.claimId.textOf builtins.str}")
    copyClaim claim
  match stored with
  | .error raised => (.error raised, repository)
  | .ok copy => (.ok (), { repository with claims := repository.claims ++ [copy] })

/-- The moment of an audit event. -/
def moment (event : AuditEvent builtins) : ℚ :=
  match event.fields.timestamp with
  | .str text => ((builtins.fromisoformat (Py.replace text "Z" "+00:00")).map
      ReadDate.moment).getD 0
  | _ => 0

/-- Whether two ids can be ordered: two texts, or two numbers. -/
def areOrderable (left right : Json) : Bool :=
  left.text?.isSome && right.text?.isSome || isNumber left && isNumber right

/-- Whether an id does not come after another one. -/
def idNotAfter (left right : Json) : Bool :=
  match left.text?, right.text? with
  | some first, some second => first ≤ second
  | _, _ => (isBelow false right left).toOption != some true

/-- Whether an audit event does not come after another one: by the moment, and then by the id. -/
def notAfter (left right : AuditEvent builtins) : Bool :=
  moment left < moment right ||
    moment left = moment right && idNotAfter left.fields.eventId right.fields.eventId

/-- Whether events can be sorted: ids of events of one moment are compared, and neighbours of the
sorted list were compared with each other. -/
def areSortable (events : List (AuditEvent builtins)) : Bool :=
  events.Pairwise fun left right =>
    moment left ≠ moment right ∨ areOrderable left.fields.eventId right.fields.eventId = true

/-- The audit events in the order of their moments and ids. -/
def sortAuditEvents (events : List (AuditEvent builtins)) :
    Except LearningError (List (AuditEvent builtins)) :=
  if areSortable events then .ok (events.mergeSort notAfter) else .error .typeError

/-- What is read from a payload before anything of the repository is replaced. -/
def loadImport (payload : Option Json) : Except LearningError (RepositoryPayload builtins) := do
  match payload with
  | none => throw .decodeError
  | some decoded =>
    let loaded ← repositoryFromJson builtins (← migrateRepositoryJson decoded)
    requireDistinct (loaded.records.map fun record => record.fields.recordId)
      "import contains duplicate record_id values"
    requireDistinct (loaded.claims.map fun claim => claim.fields.claimId)
      "import contains duplicate claim_id values"
    requireDistinct (loaded.auditEvents.map fun event => event.fields.eventId)
      "import contains duplicate event_id values"
    let records ← loaded.records.mapM fun record => do
      if record.fields.evidence.isEmpty then
        throw (.valueError "import contains learning record without evidence")
      copyRecord record
    let claims ← loaded.claims.mapM fun claim => do
      if claim.fields.evidence.isEmpty then
        throw (.valueError "import contains knowledge claim without evidence")
      copyClaim claim
    return { loaded with records, claims }

/-- Replace the memory by the one of a payload; the audit events are sorted and copied when the
records and the claims are replaced already. -/
def importJson (repository : InMemoryLearningRepository builtins) (payload : Option Json) :
    Except LearningError Unit × InMemoryLearningRepository builtins :=
  match loadImport payload with
  | .error raised => (.error raised, repository)
  | .ok loaded =>
    let replaced := { repository with records := loaded.records, claims := loaded.claims }
    match sortAuditEvents loaded.auditEvents >>= List.mapM copyAudit with
    | .error raised => (.error raised, replaced)
    | .ok auditEvents => (.ok (), { replaced with auditEvents })

end InMemoryLearningRepository

/-- How a claim is made. -/
inductive ClaimSource where
  | constructed (fields : KnowledgeClaimFields builtins)
  | loaded (payload : Json)
  | validated (source : ClaimSource) (approval : Option (KnowledgeApproval builtins))

/-- How a revision is made. -/
inductive RevisionSource where
  | constructed (fields : PolicyRevisionFields builtins)
  | loaded (payload : Json)
  | applied (source : RevisionSource) (approval : Option (PolicyApproval builtins))

variable {builtins}

/-- The claim that is made. -/
def ClaimSource.claim : ClaimSource builtins → Except LearningError (KnowledgeClaim builtins)
  | constructed fields => construct (KnowledgeClaimFields.check builtins) fields
  | loaded payload => KnowledgeClaim.fromJson builtins payload
  | validated source approval => do KnowledgeClaim.validate builtins (← source.claim) approval

/-- The revision that is made. -/
def RevisionSource.revision :
    RevisionSource builtins → Except LearningError (PolicyRevision builtins)
  | constructed fields => construct (PolicyRevisionFields.check builtins) fields
  | loaded payload => PolicyRevision.fromJson builtins payload
  | applied source approval => do PolicyRevision.apply builtins (← source.revision) approval

variable (builtins)

/-- The memory, and the revisions that were made. -/
structure LearningState where
  repository : InMemoryLearningRepository builtins
  revisions : List (PolicyRevision builtins)

/-- What happens: a claim is made and stored, a payload is imported, or a revision is made. -/
inductive LearningOp where
  | addClaim (source : ClaimSource builtins)
  | importJson (payload : Option Json)
  | revise (source : RevisionSource builtins)

variable {builtins}

/-- Do one of the things that happen. -/
def LearningState.step (state : LearningState builtins) :
    LearningOp builtins → Except LearningError Unit × LearningState builtins
  | .addClaim source =>
    match source.claim with
    | .error raised => (.error raised, state)
    | .ok claim =>
      let (answered, repository) := state.repository.addClaim claim
      (answered, { state with repository })
  | .importJson payload =>
    let (answered, repository) := state.repository.importJson payload
    (answered, { state with repository })
  | .revise source =>
    match source.revision with
    | .error raised => (.error raised, state)
    | .ok revision => (.ok (), { state with revisions := state.revisions ++ [revision] })

variable (builtins)

/-- The learning memory as a machine. -/
def learningMachine : Machine (LearningState builtins) (LearningOp builtins)
    (Except LearningError Unit) :=
  ⟨LearningState.step⟩

end StrategyLab.Learning
