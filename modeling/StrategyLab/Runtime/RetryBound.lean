import StrategyLab.Runtime.Service

/-! The retry bound: how often an item can be started before its attempts are used up. -/

namespace StrategyLab

open DurableTaskQueue

/-- One when an item moves into running between two tables, and zero otherwise. -/
def startsItem (itemId : String) (queue later : RuntimeQueue) : Int :=
  if statusOf queue itemId ≠ some .running ∧ statusOf later itemId = some .running then 1 else 0

/-- One when an event moves an item into running, and zero otherwise. -/
def entersRunning (itemId : String) (pool : WorkerPool) (op : PoolOp) : Int :=
  startsItem itemId pool.queue (poolMachine.next pool op).queue

/-- Throughout a run no item starts, or counts, more attempts than it was given. -/
def RetryBounded (ops : List PoolOp) : Prop :=
  ∀ before after, ops = before ++ after → ∀ itemId row,
    (poolMachine.run .initial before).queue.find? itemId = some row →
      poolMachine.tally (entersRunning itemId) .initial before ≤ row.maxAttempts ∧
        row.attempts ≤ row.maxAttempts

/-- A queue operation after which the counter still accounts for every start. -/
def CountsAttempts (queue : RuntimeQueue) : QueueOp → Prop
  | .enqueue _ _ _ _ _ maxAttempts => 1 ≤ maxAttempts
  | .markFailed itemId _ _ _ => statusOf queue itemId ≠ some .failed
  | .recoverStale _ => ∀ row ∈ queue.rows, row.status ≠ .running
  | _ => True

instance (queue : RuntimeQueue) : DecidablePred (CountsAttempts queue)
  | .enqueue _ _ _ _ _ maxAttempts => inferInstanceAs (Decidable (1 ≤ maxAttempts))
  | .markFailed itemId _ _ _ => inferInstanceAs (Decidable (statusOf queue itemId ≠ some .failed))
  | .recoverStale _ => inferInstanceAs (Decidable (∀ row ∈ queue.rows, row.status ≠ .running))
  | .leaseNext .. | .markRunning .. | .markSucceeded .. | .markCancelled .. => isTrue trivial

/-- An event all of whose queue operations keep the counter honest. -/
def PoolCountsAttempts (pool : WorkerPool) (op : PoolOp) : Prop :=
  ∀ call ∈ op.queueOps, CountsAttempts pool.queue call

instance (pool : WorkerPool) : DecidablePred (PoolCountsAttempts pool) := fun op =>
  inferInstanceAs (Decidable (∀ call ∈ op.queueOps, CountsAttempts pool.queue call))

/-- A row that has attempts left, unless it has failed. -/
def WithinBudget (row : DurableQueueItem) : Prop :=
  0 ≤ row.attempts ∧ row.attempts ≤ row.maxAttempts ∧
    (row.status ≠ .failed → row.attempts < row.maxAttempts)

/-- Every row of the table has attempts left, unless it has failed. -/
def QueueWithinBudget (queue : RuntimeQueue) : Prop :=
  ∀ itemId row, queue.find? itemId = some row → WithinBudget row

/-- The starts a row has to answer for: its counted attempts and the one not yet counted. -/
def rowStarts (row : DurableQueueItem) : Int :=
  row.attempts +
    if row.status = .running ∨ row.status = .succeeded ∨ row.status = .cancelled then 1 else 0

/-- The starts an item has to answer for, none before it exists. -/
def itemStarts (queue : RuntimeQueue) (itemId : String) : Int :=
  match queue.find? itemId with
  | some row => rowStarts row
  | none => 0

variable {queue : RuntimeQueue} {op : QueueOp}

/-- A counted step keeps a row within its attempts and pays for a start it makes. -/
theorem RowStep.counted {row row' : DurableQueueItem}
    (step : RowStep op row row') (counts : CountsAttempts queue op)
    (found : queue.find? row.itemId = some row) (within : WithinBudget row) :
    WithinBudget row' ∧
      rowStarts row + (if row.status ≠ .running ∧ row'.status = .running then 1 else 0) ≤
        rowStarts row' := by
  obtain ⟨positive, most, left⟩ := within
  cases step with
  | lease now leasedUntil ready =>
    have spare := left (by rw [ready.1]; decide)
    exact ⟨⟨positive, most, fun _ => spare⟩, by simp [rowStarts, ready.1]⟩
  | start now leased =>
    have spare := left (by rw [leased]; decide)
    exact ⟨⟨positive, most, fun _ => spare⟩, by simp [rowStarts, leased]⟩
  | succeed now running =>
    have spare := left (by rw [running]; decide)
    exact ⟨⟨positive, most, fun _ => spare⟩, by simp [rowStarts, running]⟩
  | fail now retryAt error =>
    -- The report counts the start it ends, and only the last attempt fails the row.
    have spare := left fun failed => counts (by simp only [statusOf, found, Option.map_some, failed])
    constructor
    · refine ⟨by simp only [failedRow]; omega, by simp only [failedRow]; omega, ?_⟩
      simp only [failedRow]
      split
      · intro failed
        exact absurd rfl failed
      · omega
    · have unfinished : ∀ status : QueueItemStatus, status = .failed ∨ status = .pending →
          ¬(status = .running ∨ status = .succeeded ∨ status = .cancelled) := by
        rintro status (rfl | rfl) <;> decide
      have outcome : (failedRow row now retryAt error).status = .failed ∨
          (failedRow row now retryAt error).status = .pending := by
        simp only [failedRow]
        split
        · exact Or.inl rfl
        · exact Or.inr rfl
      have notRunning : (failedRow row now retryAt error).status ≠ .running :=
        fun running => unfinished _ outcome (Or.inl running)
      rw [if_neg (fun enters => notRunning enters.2)]
      unfold rowStarts
      rw [if_neg (unfinished _ outcome)]
      simp only [failedRow]
      split <;> omega
  | cancel now live =>
    have spare := left fun failed => live (Or.inr (Or.inl failed))
    refine ⟨⟨positive, most, fun _ => spare⟩, ?_⟩
    simp only [rowStarts]
    simp
    split <;> omega
  | release now stale =>
    have spare := left (by rw [stale.1]; decide)
    exact ⟨⟨positive, most, fun _ => spare⟩, by simp [rowStarts, stale.1]⟩
  | restart now running =>
    exact absurd running (counts row (Table.find?_eq_some_iff.mp found).1)

/-- A counted operation keeps every row within its attempts. -/
theorem queue_within_budget (counts : CountsAttempts queue op) (within : QueueWithinBudget queue) :
    QueueWithinBudget (queueMachine.next queue op) := by
  intro itemId row later
  cases found : queue.find? itemId with
  | none =>
    -- A new row has counted nothing yet and was given at least one attempt.
    obtain ⟨-, none, -, _, _, _, _, enqueued⟩ := queue_step_new op found later
    rw [enqueued] at counts
    simp only [CountsAttempts] at counts
    exact ⟨by omega, by omega, fun _ => by omega⟩
  | some old =>
    obtain ⟨row', found', changed⟩ := queue_step_row op found
    obtain rfl := Option.some.inj (later.symm.trans found')
    rcases changed with rfl | step
    · exact within itemId row found
    · obtain rfl := Table.key_of_find? found
      exact (step.counted counts found (within _ old found)).1

/-- A counted operation that starts an item is paid for by what the item answers for. -/
theorem queue_starts_paid (itemId : String)
    (counts : CountsAttempts queue op) (within : QueueWithinBudget queue) :
    itemStarts queue itemId + startsItem itemId queue (queueMachine.next queue op) ≤
      itemStarts (queueMachine.next queue op) itemId := by
  cases found : queue.find? itemId with
  | none =>
    cases later : (queueMachine.next queue op).find? itemId with
    | none => simp [itemStarts, startsItem, statusOf, found, later]
    | some row =>
      obtain ⟨pending, none, -⟩ := queue_step_new op found later
      simp [itemStarts, startsItem, statusOf, found, later, rowStarts, pending, none]
  | some old =>
    obtain ⟨row, later, rfl | step⟩ := queue_step_row op found
    · simp [itemStarts, startsItem, statusOf, found, later]
    · obtain rfl := Table.key_of_find? found
      have paid := (step.counted counts found (within _ old found)).2
      simpa [itemStarts, startsItem, statusOf, found, later] using paid

/-- A counted event keeps every row within its attempts. -/
theorem pool_within_budget (pool : WorkerPool) (op : PoolOp)
    (counts : PoolCountsAttempts pool op) (within : QueueWithinBudget pool.queue) :
    QueueWithinBudget (poolMachine.next pool op).queue := by
  rcases pool_step_queue pool op with same | ⟨call, member, next⟩
  · rwa [same]
  · rw [next]
    exact queue_within_budget (counts call member) within

/-- A counted event that starts an item is paid for by what the item answers for. -/
theorem pool_starts_paid (itemId : String) (pool : WorkerPool) (op : PoolOp)
    (counts : PoolCountsAttempts pool op) (within : QueueWithinBudget pool.queue) :
    itemStarts pool.queue itemId + entersRunning itemId pool op ≤
      itemStarts (poolMachine.next pool op).queue itemId := by
  unfold entersRunning
  rcases pool_step_queue pool op with same | ⟨call, member, next⟩
  · simp [same, startsItem]
  · rw [next]
    exact queue_starts_paid itemId (counts call member) within

/-- A row within its attempts answers for at most as many starts as it was given attempts. -/
theorem rowStarts_le {row : DurableQueueItem} (within : WithinBudget row) :
    rowStarts row ≤ row.maxAttempts := by
  obtain ⟨-, most, left⟩ := within
  unfold rowStarts
  split
  · rename_i counted
    have spare := left (by rintro failed; simp [failed] at counted)
    omega
  · omega

/-- A run that counts every attempt starts no item more often than it was given attempts. -/
theorem retry_bounded {ops : List PoolOp}
    (counts : poolMachine.Guarded PoolCountsAttempts .initial ops) : RetryBounded ops := by
  rintro before after rfl itemId row found
  have counted := ((poolMachine.guarded_append _ before after).mp counts).1
  have start : QueueWithinBudget WorkerPool.initial.queue := by
    intro itemId row found
    simp [WorkerPool.initial] at found
  have within := poolMachine.guarded_invariant pool_within_budget counted start
  -- The starts of the run are paid for by the row, and the row by its attempts.
  have paid := poolMachine.tally_le_potential pool_within_budget (pool_starts_paid itemId)
    counted start
  have owed := rowStarts_le (within itemId row found)
  have fresh : itemStarts WorkerPool.initial.queue itemId = 0 := rfl
  have final : itemStarts (poolMachine.run .initial before).queue itemId = rowStarts row := by
    simp only [itemStarts, found]
  rw [fresh, final] at paid
  exact ⟨by omega, (within itemId row found).2.1⟩

/-- One item, started once and reported as failed for good. -/
def countedRun : List PoolOp :=
  [.call 0 (.enqueue "item-1" "dedupe-1" "{}" 0 "2026-07-17T00:00:00Z" 1),
    .call 0 (.leaseNext "2026-07-17T00:00:01Z" "2026-07-17T00:05:00Z"),
    .call 0 (.markRunning "item-1" "2026-07-17T00:00:02Z"),
    .call 0 (.markFailed "item-1" "2026-07-17T00:00:03Z" "2026-07-17T00:00:04Z" "failed"),
    .crash {} ⟨"runtime.db", 46, true⟩]

/-- The bound holds in a run that reports the failure before the restart. -/
theorem counted_run_bounded : RetryBounded countedRun :=
  retry_bounded (by decide)

/-- One item with a single attempt, whose worker crashes before it reports. -/
def crashedRun : List PoolOp :=
  [.call 0 (.enqueue "item-1" "dedupe-1" "{}" 0 "2026-07-17T00:00:00Z" 1),
    .call 0 (.leaseNext "2026-07-17T00:00:01Z" "2026-07-17T00:05:00Z"),
    .call 0 (.markRunning "item-1" "2026-07-17T00:00:02Z"),
    .crash {} ⟨"runtime.db", 46, true⟩,
    .call 1 (.leaseNext "2026-07-17T00:10:01Z" "2026-07-17T00:15:00Z"),
    .call 1 (.markRunning "item-1" "2026-07-17T00:10:02Z")]

/-- A crash hands the item out again without counting, so a single attempt starts it twice. -/
theorem crashed_run_not_bounded :
    poolMachine.Guarded ReportsOwn .initial crashedRun ∧ ¬RetryBounded crashedRun := by
  refine ⟨by decide, fun bounded => ?_⟩
  have starts : poolMachine.tally (entersRunning "item-1") .initial crashedRun = 2 := by decide
  have limit : ((poolMachine.run .initial crashedRun).queue.find? "item-1").map (·.maxAttempts) =
      some 1 := by decide
  obtain ⟨row, found, one⟩ := Option.map_eq_some_iff.mp limit
  have most := (bounded crashedRun [] (List.append_nil _).symm "item-1" row found).1
  omega

end StrategyLab
