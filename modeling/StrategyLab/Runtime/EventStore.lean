import Mathlib.Data.Prod.Lex
import Mathlib.Data.String.Basic
import StrategyLab.Lib.Machine
import StrategyLab.Lib.Page
import StrategyLab.Lib.Table

/-! The durable event store: appending events and replaying them into a projection. -/

namespace StrategyLab

/-- The largest payload an event may carry, in bytes of its stored JSON text. -/
def maxEventPayloadBytes : Nat := 32768

/-- One event, its payload kept as the stored JSON text. -/
structure DurableEvent where
  eventId : String
  eventType : String
  occurredAt : String
  actorRef : String
  correlationId : String
  causationId : Option String
  scope : String
  project : String
  strategy : String
  market : String
  payload : String
  evidenceRefs : List String
  auditRefs : List String
  appendedAt : String
  deriving DecidableEq, Repr

/-- The order events are delivered in: by time, and by id within one time. -/
def DurableEvent.position (event : DurableEvent) : String ×ₗ String :=
  toLex (event.occurredAt, event.eventId)

/-- The last event a projection has applied. -/
structure ReplayCheckpoint where
  projectionId : String
  lastEventId : Option String
  updatedAt : String
  deriving DecidableEq, Repr

/-- An event on which a projection raised. -/
structure ReplayFailure where
  failureId : String
  projectionId : String
  eventId : String
  errorType : String
  createdAt : String
  deriving DecidableEq, Repr

/-- What one replay call reports. -/
structure ReplayResult where
  processed : Nat
  failed : Nat
  dryRun : Bool
  lastEventId : Option String
  deriving DecidableEq, Repr

/-- What the store can raise. -/
inductive EventError where
  | valueError (message : String)
  | keyError (eventId : String)
  | integrityError
  deriving DecidableEq, Repr

/-- A consumer of events; `apply` gives the class name of what it raises, if it raises. -/
structure EventProjection where
  projectionId : String
  apply : DurableEvent → Bool → Option String

/-- The three tables of the store. -/
structure SQLiteEventStore where
  durableEvents : Table DurableEvent.eventId
  replayCheckpoints : Table ReplayCheckpoint.projectionId
  replayFailures : Table ReplayFailure.failureId

namespace SQLiteEventStore

/-- A store without events. -/
def empty : SQLiteEventStore := ⟨Table.empty, Table.empty, Table.empty⟩

/-- Append one event, refusing an oversized payload and a known id. -/
def append (store : SQLiteEventStore) (event : DurableEvent) :
    Except EventError Unit × SQLiteEventStore :=
  if event.payload.utf8ByteSize > maxEventPayloadBytes then
    (.error (.valueError "event payload is too large"), store)
  else match store.durableEvents.insert? event with
    | some grown => (.ok (), { store with durableEvents := grown })
    | none => (.error .integrityError, store)

/-- The next events after a cursor, in delivery order. -/
def readAfter (store : SQLiteEventStore) (cursorEventId : Option String) (limit : Int := 100) :
    Except EventError (List DurableEvent) :=
  if limit < 1 ∨ 1000 < limit then
    .error (.valueError "replay batch size must be between 1 and 1000")
  else match cursorEventId with
    | none => .ok (Page.page DurableEvent.position store.durableEvents.rows none limit.toNat)
    | some eventId =>
      match store.durableEvents.find? eventId with
      | none => .error (.keyError eventId)
      | some cursor =>
        .ok (Page.page DurableEvent.position store.durableEvents.rows (some cursor.position)
          limit.toNat)

/-- The id of the last event a projection has applied. -/
def checkpoint (store : SQLiteEventStore) (projectionId : String) : Option String :=
  (store.replayCheckpoints.find? projectionId).bind (·.lastEventId)

/-- The key a failure of one projection on one event is recorded under. -/
def failureId (projectionId eventId : String) : String := s!"failure:{projectionId}:{eventId}"

/-- How far one replay call has come, with every call of `apply` and what it raised. -/
structure Progress where
  store : SQLiteEventStore
  processed : Nat
  failed : Nat
  lastEventId : Option String
  applied : List (DurableEvent × Option String)

/-- The body of the replay loop: a failure is recorded and skipped, a success moves on. -/
def replayEvent (projection : EventProjection) (dryRun : Bool) (now : String)
    (progress : Progress) (event : DurableEvent) : Progress :=
  let store := progress.store
  match projection.apply event dryRun with
  | some errorType =>
    let failure : ReplayFailure :=
      { failureId := failureId projection.projectionId event.eventId,
        projectionId := projection.projectionId, eventId := event.eventId, errorType,
        createdAt := now }
    { progress with
      store := { store with replayFailures := store.replayFailures.replace failure },
      failed := progress.failed + 1,
      applied := progress.applied ++ [(event, some errorType)] }
  | none =>
    let checkpoint : ReplayCheckpoint :=
      { projectionId := projection.projectionId, lastEventId := some event.eventId,
        updatedAt := now }
    { progress with
      store := if dryRun then store else
        { store with replayCheckpoints := store.replayCheckpoints.replace checkpoint },
      processed := progress.processed + 1,
      lastEventId := some event.eventId,
      applied := progress.applied ++ [(event, none)] }

/-- Deliver the next events to a projection, starting after its checkpoint. -/
def replay (store : SQLiteEventStore) (projection : EventProjection) (dryRun : Bool := true)
    (limit : Int := 100) (now : String := "2026-07-18T00:00:00Z") :
    Except EventError (ReplayResult × List (DurableEvent × Option String)) × SQLiteEventStore :=
  let cursor := checkpoint store projection.projectionId
  match readAfter store cursor limit with
  | .error raised => (.error raised, store)
  | .ok events =>
    let progress := events.foldl (replayEvent projection dryRun now) ⟨store, 0, 0, cursor, []⟩
    (.ok (⟨progress.processed, progress.failed, dryRun, progress.lastEventId⟩, progress.applied),
      progress.store)

end SQLiteEventStore

/-- One call on the store, with what the projection does in it. -/
inductive StoreOp where
  | append (event : DurableEvent)
  | replay (apply : DurableEvent → Bool → Option String) (limit : Int) (now : String)

/-- What a call on the store returns, with the calls of `apply` it made. -/
inductive StoreAnswer where
  | appended
  | replayed (result : ReplayResult) (applied : List (DurableEvent × Option String))
  | raised (error : EventError)

/-- Carry out one call; every replay is for the same projection and not a dry run. -/
def SQLiteEventStore.call (projectionId : String) (store : SQLiteEventStore) :
    StoreOp → StoreAnswer × SQLiteEventStore
  | .append event =>
    (store.append event).map (fun | .ok _ => .appended | .error raised => .raised raised) id
  | .replay apply limit now =>
    (store.replay ⟨projectionId, apply⟩ false limit now).map
      (fun | .ok (result, applied) => .replayed result applied | .error raised => .raised raised) id

/-- The store and one projection as a machine. -/
def storeMachine (projectionId : String) : Machine SQLiteEventStore StoreOp StoreAnswer :=
  ⟨SQLiteEventStore.call projectionId⟩

/-- The calls of `apply` behind an answer. -/
def StoreAnswer.applied : StoreAnswer → List (DurableEvent × Option String)
  | .replayed _ applied => applied
  | .appended | .raised _ => []

end StrategyLab
