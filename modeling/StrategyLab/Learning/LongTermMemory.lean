import StrategyLab.Lib.Machine
import StrategyLab.Lib.Table

/-! Long-term memory: its records, the table that stores them, and clients that work on copies. -/

namespace StrategyLab.Learning

/-- What a record of long-term memory belongs to. -/
inductive MemoryNamespace where
  | learning
  | research
  | conversation
  | system
  deriving DecidableEq, Repr

/-- Where a record of long-term memory stands. -/
inductive MemoryLifecycle where
  | proposed
  | validated
  | rejected
  | archived
  deriving DecidableEq, Repr

/-- How long a record is to be kept. -/
structure RetentionPolicy where
  /-- The day until which it is kept. -/
  retainUntil : Option String
  /-- The days after which it is archived. -/
  archiveAfterDays : Option Int := none
  deriving DecidableEq, Repr

/-- A record of long-term memory. -/
structure MemoryRecord where
  /-- The id of the record. -/
  memoryId : String
  /-- What the record belongs to. -/
  memoryNamespace : MemoryNamespace
  /-- Where the record stands. -/
  lifecycle : MemoryLifecycle
  /-- What the record says. -/
  content : String
  /-- Where the content comes from. -/
  sourceRefs : List String
  /-- What supports the content. -/
  evidenceRefs : List String
  /-- When the record was proposed. -/
  createdAt : String
  /-- When the record was last changed. -/
  updatedAt : String
  /-- The validation the record passed. -/
  validationRef : Option String := none
  /-- Whether the record conflicts with another one. -/
  conflictFlag : Bool := false
  /-- Whether the record has to be validated again. -/
  revalidationFlag : Bool := false
  /-- How long the record is to be kept. -/
  retention : RetentionPolicy := ⟨none, none⟩
  /-- When the record was archived. -/
  archivedAt : Option String := none
  deriving DecidableEq, Repr

/-- What a record or its repository raises. -/
inductive MemoryError where
  /-- A `PermissionError`. -/
  | permission (message : String)
  /-- A `ValueError`. -/
  | value (message : String)
  /-- A `KeyError`. -/
  | key (memoryId : String)
  /-- An `IntegrityError` of the database. -/
  | integrity
  deriving DecidableEq, Repr

namespace MemoryRecord

/-- Validate a proposed record in a trusted workflow. -/
def validate (record : MemoryRecord) (validationRef : String) (trustedWorkflow : Bool)
    (updatedAt : String) : Except MemoryError MemoryRecord :=
  if !trustedWorkflow then
    .error (.permission "memory validation requires trusted workflow")
  else if record.lifecycle ≠ .proposed then
    .error (.value "only proposed memory can be validated")
  else
    .ok { record with
      lifecycle := .validated
      validationRef := some validationRef
      updatedAt := updatedAt }

/-- Reject a proposed record. -/
def reject (record : MemoryRecord) (updatedAt : String) : Except MemoryError MemoryRecord :=
  if record.lifecycle ≠ .proposed then
    .error (.value "only proposed memory can be rejected")
  else
    .ok { record with lifecycle := .rejected, updatedAt := updatedAt }

/-- Archive a record that is not archived yet. -/
def archive (record : MemoryRecord) (archivedAt : String) : Except MemoryError MemoryRecord :=
  if record.lifecycle = .archived then
    .error (.value "memory is already archived")
  else
    .ok { record with
      lifecycle := .archived
      archivedAt := some archivedAt
      updatedAt := archivedAt }

/-- Mark a record as conflicting with another one. -/
def markConflict (record : MemoryRecord) (updatedAt : String) : MemoryRecord :=
  { record with conflictFlag := true, updatedAt := updatedAt }

/-- Mark a record as one to validate again. -/
def markRevalidation (record : MemoryRecord) (updatedAt : String) : MemoryRecord :=
  { record with revalidationFlag := true, updatedAt := updatedAt }

end MemoryRecord

/-- A row of `long_term_memory`. The two JSON columns hold the lists that they encode. -/
structure MemoryRow where
  /-- The primary key. -/
  memoryId : String
  /-- The namespace column. -/
  memoryNamespace : MemoryNamespace
  /-- The lifecycle column. -/
  lifecycle : MemoryLifecycle
  /-- The content column. -/
  content : String
  /-- The sources. -/
  sourceRefs : List String
  /-- The evidence. -/
  evidenceRefs : List String
  /-- The validation, unless it is null. -/
  validationRef : Option String
  /-- The conflict column. -/
  conflictFlag : Bool
  /-- The revalidation column. -/
  revalidationFlag : Bool
  /-- The only column about retention. -/
  retentionUntil : Option String
  /-- When the record was archived, unless it is null. -/
  archivedAt : Option String
  /-- When the record was proposed. -/
  createdAt : String
  /-- When the record was last changed. -/
  updatedAt : String
  deriving DecidableEq, Repr

/-- The row a record is stored as. -/
def recordRow (record : MemoryRecord) : MemoryRow where
  memoryId := record.memoryId
  memoryNamespace := record.memoryNamespace
  lifecycle := record.lifecycle
  content := record.content
  sourceRefs := record.sourceRefs
  evidenceRefs := record.evidenceRefs
  validationRef := record.validationRef
  conflictFlag := record.conflictFlag
  revalidationFlag := record.revalidationFlag
  retentionUntil := record.retention.retainUntil
  archivedAt := record.archivedAt
  createdAt := record.createdAt
  updatedAt := record.updatedAt

/-- The record a row is read as. -/
def recordFromRow (row : MemoryRow) : MemoryRecord where
  memoryId := row.memoryId
  memoryNamespace := row.memoryNamespace
  lifecycle := row.lifecycle
  content := row.content
  sourceRefs := row.sourceRefs
  evidenceRefs := row.evidenceRefs
  createdAt := row.createdAt
  updatedAt := row.updatedAt
  validationRef := row.validationRef
  conflictFlag := row.conflictFlag
  revalidationFlag := row.revalidationFlag
  -- The policy is built from one column, so its second field takes the default.
  retention := { retainUntil := row.retentionUntil }
  archivedAt := row.archivedAt

/-- The table of long-term memory. -/
abbrev LongTermMemory := Table MemoryRow.memoryId

/-- What an update writes over a row. -/
def MemoryRow.overwrite (record : MemoryRecord) (row : MemoryRow) : MemoryRow :=
  { row with
    lifecycle := record.lifecycle
    validationRef := record.validationRef
    conflictFlag := record.conflictFlag
    revalidationFlag := record.revalidationFlag
    retentionUntil := record.retention.retainUntil
    archivedAt := record.archivedAt
    updatedAt := record.updatedAt }

@[simp] theorem MemoryRow.memoryId_overwrite (record : MemoryRecord) (row : MemoryRow) :
    (row.overwrite record).memoryId = row.memoryId := rfl

namespace SQLiteLongTermMemoryRepository

/-- Insert a record, which has to be proposed. -/
def add (memory : LongTermMemory) (record : MemoryRecord) : Except MemoryError LongTermMemory :=
  if record.lifecycle ≠ .proposed then
    .error (.value "new memory records must enter as proposed")
  else
    match memory.insert? (recordRow record) with
    | none => .error .integrity
    | some grown => .ok grown

/-- Write a record over the row with its id. -/
def update (memory : LongTermMemory) (record : MemoryRecord) :
    Except MemoryError LongTermMemory :=
  -- The statement names a primary key, so it counts one row or none.
  match memory.find? record.memoryId with
  | none => .error (.key record.memoryId)
  | some _ =>
    .ok (memory.update (fun row => row.memoryId = record.memoryId) (MemoryRow.overwrite record)
      (MemoryRow.memoryId_overwrite record))

/-- Read the record with an id. -/
def get (memory : LongTermMemory) (memoryId : String) : Except MemoryError MemoryRecord :=
  match memory.find? memoryId with
  | none => .error (.key memoryId)
  | some row => .ok (recordFromRow row)

end SQLiteLongTermMemoryRepository

/-- A change a client makes to its copy of a record. -/
inductive MemoryChange where
  | validate (validationRef : String) (trustedWorkflow : Bool) (updatedAt : String)
  | reject (updatedAt : String)
  | archive (archivedAt : String)
  | markConflict (updatedAt : String)
  | markRevalidation (updatedAt : String)
  deriving DecidableEq, Repr

/-- The copy after a change. -/
def MemoryChange.apply (record : MemoryRecord) : MemoryChange → Except MemoryError MemoryRecord
  | .validate validationRef trustedWorkflow updatedAt =>
    record.validate validationRef trustedWorkflow updatedAt
  | .reject updatedAt => record.reject updatedAt
  | .archive archivedAt => record.archive archivedAt
  | .markConflict updatedAt => .ok (record.markConflict updatedAt)
  | .markRevalidation updatedAt => .ok (record.markRevalidation updatedAt)

/-- The stored memory and the copy each client holds. -/
structure MemoryClients (κ : Type) where
  /-- What is stored. -/
  memory : LongTermMemory
  /-- The copy of each client that holds one. -/
  copies : κ → Option MemoryRecord

/-- Memory before anything is added to it. -/
def MemoryClients.initial {κ : Type} : MemoryClients κ := ⟨Table.empty, fun _ => none⟩

/-- A step of a client. -/
inductive MemoryStep (κ : Type) where
  /-- Add a record. -/
  | add (record : MemoryRecord)
  /-- Read a record into the client's copy. -/
  | get (client : κ) (memoryId : String)
  /-- Change the client's copy. -/
  | change (client : κ) (change : MemoryChange)
  /-- Store the client's copy. -/
  | update (client : κ)
  deriving DecidableEq, Repr

variable {κ : Type} [DecidableEq κ]

/-- A client takes a new copy, if there is one. -/
def MemoryClients.hold (clients : MemoryClients κ) (client : κ) :
    Except MemoryError MemoryRecord → Except MemoryError Unit × MemoryClients κ
  | .error raised => (.error raised, clients)
  | .ok record =>
    (.ok (), { clients with copies := Function.update clients.copies client (some record) })

/-- The memory is written, unless that raised. -/
def MemoryClients.store (clients : MemoryClients κ) :
    Except MemoryError LongTermMemory → Except MemoryError Unit × MemoryClients κ
  | .error raised => (.error raised, clients)
  | .ok memory => (.ok (), { clients with memory := memory })

/-- Clients of one memory whose steps come in any order. -/
def memoryClients : Machine (MemoryClients κ) (MemoryStep κ) (Except MemoryError Unit) where
  step clients
    | .add record => clients.store (SQLiteLongTermMemoryRepository.add clients.memory record)
    | .get client memoryId =>
      clients.hold client (SQLiteLongTermMemoryRepository.get clients.memory memoryId)
    | .change client change =>
      match clients.copies client with
      | none => (.ok (), clients)
      | some record => clients.hold client (change.apply record)
    | .update client =>
      match clients.copies client with
      | none => (.ok (), clients)
      | some record =>
        clients.store (SQLiteLongTermMemoryRepository.update clients.memory record)

end StrategyLab.Learning
