import Mathlib.Data.List.Sort
import Mathlib.Data.String.Basic
import StrategyLab.Lib.Machine
import StrategyLab.Lib.Table

/-! The durable task queue of the runtime worker, one database statement at a time. -/

namespace StrategyLab

/-- The values of the status column. -/
inductive QueueItemStatus where
  | pending
  | leased
  | running
  | succeeded
  | failed
  | cancelled
  deriving DecidableEq, Repr

/-- The text a status is stored as. -/
def QueueItemStatus.value : QueueItemStatus → String
  | .pending => "pending"
  | .leased => "leased"
  | .running => "running"
  | .succeeded => "succeeded"
  | .failed => "failed"
  | .cancelled => "cancelled"

/-- One row of the queue table, its payload kept as the stored JSON text. -/
structure DurableQueueItem where
  itemId : String
  dedupeKey : String
  payload : String
  status : QueueItemStatus
  priority : Int
  attempts : Int
  maxAttempts : Int
  availableAt : String
  leasedUntil : Option String
  createdAt : String
  updatedAt : String
  lastError : Option String
  deriving DecidableEq, Repr

/-- The queue table, with the item id as its primary key. -/
abbrev RuntimeQueue := Table DurableQueueItem.itemId

/-- What a queue operation can raise. -/
inductive QueueError where
  | keyError (itemId : String)
  | runtimeError (message : String)
  deriving DecidableEq, Repr

namespace DurableTaskQueue

/-- The order `lease_next` selects in: priority first, then availability, then the id. -/
def LeasesBefore (left right : DurableQueueItem) : Prop :=
  right.priority < left.priority ∨ left.priority = right.priority ∧
    (left.availableAt < right.availableAt ∨
      left.availableAt = right.availableAt ∧ left.itemId ≤ right.itemId)

instance : DecidableRel LeasesBefore := fun _ _ => inferInstanceAs (Decidable (_ ∨ _))

/-- A row the selection of `lease_next` may return. -/
def Leasable (now : String) (row : DurableQueueItem) : Prop :=
  row.status = .pending ∧ row.availableAt ≤ now

instance (now : String) : DecidablePred (Leasable now) :=
  fun _ => inferInstanceAs (Decidable (_ ∧ _))

/-- Read one row back by its id. -/
def get (queue : RuntimeQueue) (itemId : String) : Except QueueError DurableQueueItem :=
  match queue.find? itemId with
  | some row => .ok row
  | none => .error (.keyError itemId)

/-- A fresh row, or a refusal when its id or its dedupe key is taken. -/
def enqueue (queue : RuntimeQueue) (itemId dedupeKey payload : String) (priority : Int)
    (availableAt : String) (maxAttempts : Int := 3) : Bool × RuntimeQueue :=
  let row : DurableQueueItem :=
    { itemId, dedupeKey, payload, status := .pending, priority, attempts := 0, maxAttempts,
      availableAt, leasedUntil := none, createdAt := availableAt, updatedAt := availableAt,
      lastError := none }
  -- The dedupe key is a second unique column, checked besides the primary key.
  if queue.rows.any fun old => old.dedupeKey = dedupeKey then (false, queue)
  else match queue.insert? row with
    | some grown => (true, grown)
    | none => (false, queue)

/-- The first statement of `lease_next`: the id of the best leasable row. -/
def selectPending (queue : RuntimeQueue) (now : String) : Option String :=
  ((queue.rows.filter (Leasable now)).insertionSort LeasesBefore).head?.map (·.itemId)

/-- The second statement of `lease_next`: lease the row if it is still pending. -/
def leaseSelected (queue : RuntimeQueue) (itemId now leasedUntil : String) : RuntimeQueue :=
  queue.update (fun row => row.itemId = itemId ∧ row.status = .pending)
    (fun row => { row with
      status := .leased, leasedUntil := some leasedUntil, updatedAt := now })
    (fun _ => rfl)

/-- Select a row, lease it, and read it back, with nothing in between. -/
def leaseNext (queue : RuntimeQueue) (now leasedUntil : String) :
    Except QueueError (Option DurableQueueItem) × RuntimeQueue :=
  match selectPending queue now with
  | none => (.ok none, queue)
  | some itemId =>
    let leased := leaseSelected queue itemId now leasedUntil
    ((get leased itemId).map some, leased)

/-- Move one row from an expected status to another, or raise without a change. -/
def transition (queue : RuntimeQueue) (itemId : String) (expected target : QueueItemStatus)
    (now : String) : Except QueueError DurableQueueItem × RuntimeQueue :=
  let hits := fun row : DurableQueueItem => decide (row.itemId = itemId ∧ row.status = expected)
  -- The count stands for the cursor's rowcount; raising rolls the transaction back.
  if queue.rows.countP hits ≠ 1 then
    (.error (.runtimeError s!"queue item {itemId} is not {expected.value}"), queue)
  else
    let moved := queue.update hits
      (fun row => { row with status := target, updatedAt := now }) (fun _ => rfl)
    (get moved itemId, moved)

/-- A leased row starts running. -/
def markRunning (queue : RuntimeQueue) (itemId now : String) :=
  transition queue itemId .leased .running now

/-- A running row succeeds. -/
def markSucceeded (queue : RuntimeQueue) (itemId now : String) :=
  transition queue itemId .running .succeeded now

/-- The statuses `mark_cancelled` leaves alone. -/
def Terminal (status : QueueItemStatus) : Prop :=
  status = .succeeded ∨ status = .failed ∨ status = .cancelled

instance : DecidablePred Terminal := fun _ => inferInstanceAs (Decidable (_ ∨ _))

/-- A row that has not finished is cancelled. -/
def markCancelled (queue : RuntimeQueue) (itemId now : String) :
    Except QueueError DurableQueueItem × RuntimeQueue :=
  let cancelled := queue.update (fun row => row.itemId = itemId ∧ ¬Terminal row.status)
    (fun row => { row with status := .cancelled, updatedAt := now }) (fun _ => rfl)
  (get cancelled itemId, cancelled)

/-- A failure report counts an attempt, and its update names the row by id alone. -/
def markFailed (queue : RuntimeQueue) (itemId now retryAt error : String) :
    Except QueueError DurableQueueItem × RuntimeQueue :=
  match get queue itemId with
  | .error raised => (.error raised, queue)
  | .ok item =>
    let nextAttempts := item.attempts + 1
    let status := if nextAttempts ≥ item.maxAttempts then .failed else .pending
    let failed := queue.update (fun row => row.itemId = itemId)
      (fun row => { row with
        status, attempts := nextAttempts, availableAt := retryAt, leasedUntil := none,
        lastError := some error, updatedAt := now })
      (fun _ => rfl)
    (get failed itemId, failed)

/-- A leased row whose lease has run out at the cut-off. -/
def Stale (now : String) (row : DurableQueueItem) : Prop :=
  row.status = .leased ∧ ∃ until_ ∈ row.leasedUntil, until_ ≤ now

instance (now : String) : DecidablePred (Stale now) := fun row =>
  inferInstanceAs (Decidable (_ ∧ ∃ until_ ∈ row.leasedUntil, until_ ≤ now))

/-- Return stale leases and every running row to pending, counting both. -/
def recoverStale (queue : RuntimeQueue) (now : String) : Nat × RuntimeQueue :=
  let leased := queue.rows.countP (Stale now)
  let released := queue.update (Stale now)
    (fun row => { row with status := .pending, leasedUntil := none, updatedAt := now })
    (fun _ => rfl)
  let running := released.rows.countP (·.status = .running)
  let restarted := released.update (·.status = .running)
    (fun row => { row with status := .pending, updatedAt := now }) (fun _ => rfl)
  (leased + running, restarted)

end DurableTaskQueue

/-- One call of a queue operation with its arguments. -/
inductive QueueOp where
  | enqueue (itemId dedupeKey payload : String) (priority : Int) (availableAt : String)
      (maxAttempts : Int)
  | leaseNext (now leasedUntil : String)
  | markRunning (itemId now : String)
  | markSucceeded (itemId now : String)
  | markFailed (itemId now retryAt error : String)
  | markCancelled (itemId now : String)
  | recoverStale (now : String)
  deriving DecidableEq, Repr

/-- What a call returns or raises. -/
inductive QueueAnswer where
  | enqueued (accepted : Bool)
  | leased (item : Option DurableQueueItem)
  | item (item : DurableQueueItem)
  | recovered (count : Nat)
  | raised (error : QueueError)
  deriving DecidableEq, Repr

/-- A returned row, or the error raised in its place. -/
def QueueAnswer.ofItem : Except QueueError DurableQueueItem → QueueAnswer
  | .ok row => .item row
  | .error error => .raised error

/-- Carry out one call on the queue table. -/
def DurableTaskQueue.call (queue : RuntimeQueue) : QueueOp → QueueAnswer × RuntimeQueue
  | .enqueue itemId dedupeKey payload priority availableAt maxAttempts =>
    (enqueue queue itemId dedupeKey payload priority availableAt maxAttempts).map .enqueued id
  | .leaseNext now leasedUntil =>
    (leaseNext queue now leasedUntil).map
      (fun | .ok item => .leased item | .error error => .raised error) id
  | .markRunning itemId now => (markRunning queue itemId now).map .ofItem id
  | .markSucceeded itemId now => (markSucceeded queue itemId now).map .ofItem id
  | .markFailed itemId now retryAt error =>
    (markFailed queue itemId now retryAt error).map .ofItem id
  | .markCancelled itemId now => (markCancelled queue itemId now).map .ofItem id
  | .recoverStale now => (recoverStale queue now).map .recovered id

/-- The queue as a machine: calls one after the other on one table. -/
def queueMachine : Machine RuntimeQueue QueueOp QueueAnswer := ⟨DurableTaskQueue.call⟩

end StrategyLab
