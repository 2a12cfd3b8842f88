import StrategyLab.Runtime.WorkerLaws

/-! Finished queue rows: what can still happen to a row that succeeded, failed or was cancelled. -/

namespace StrategyLab

open DurableTaskQueue

/-- In a run, a row that has finished keeps its status and attempts and is not leased again. -/
def TerminalAbsorbed (queue : RuntimeQueue) (ops : List QueueOp) : Prop :=
  ∀ before middle after, ops = before ++ middle ++ after →
    ∀ itemId row, (queueMachine.run queue before).find? itemId = some row →
      Terminal row.status →
      (∃ later, (queueMachine.run queue (before ++ middle)).find? itemId = some later ∧
        later.status = row.status ∧ later.attempts = row.attempts) ∧
      ∀ now leasedUntil item, (.leaseNext now leasedUntil, .leased (some item)) ∈
        queueMachine.answers (queueMachine.run queue before) middle → item.itemId ≠ itemId

/-- An operation that does not report a failure on a finished row. -/
def SparesTerminal (queue : RuntimeQueue) : QueueOp → Prop
  | .markFailed itemId _ _ _ => ∀ row, queue.find? itemId = some row → ¬Terminal row.status
  | _ => True

/-- A change to a finished row can only be a failure report. -/
theorem RowStep.of_terminal {op : QueueOp} {row row' : DurableQueueItem}
    (step : RowStep op row row') (terminal : Terminal row.status) :
    ∃ now retryAt error, op = .markFailed row.itemId now retryAt error := by
  -- Every other step asks for a status that is not a finished one, or checks for it.
  cases step with
  | lease now leasedUntil ready =>
    rw [ready.1] at terminal
    exact absurd terminal (by decide)
  | start now leased =>
    rw [leased] at terminal
    exact absurd terminal (by decide)
  | succeed now running =>
    rw [running] at terminal
    exact absurd terminal (by decide)
  | fail now retryAt error => exact ⟨now, retryAt, error, rfl⟩
  | cancel now live => exact absurd terminal live
  | release now stale =>
    rw [stale.1] at terminal
    exact absurd terminal (by decide)
  | restart now running =>
    rw [running] at terminal
    exact absurd terminal (by decide)

variable {queue : RuntimeQueue} {row : DurableQueueItem}

variable {itemId : String}

/-- One operation that spares finished rows leaves each of them exactly as it was. -/
theorem terminal_row_kept
    {op : QueueOp} (spares : SparesTerminal queue op) (found : queue.find? itemId = some row)
    (terminal : Terminal row.status) :
    (queueMachine.next queue op).find? itemId = some row := by
  obtain ⟨later, laterFound, rfl | step⟩ := queue_step_row op found
  · exact laterFound
  · obtain ⟨now, retryAt, error, rfl⟩ := step.of_terminal terminal
    -- The reported row is the finished one, which the operation was to spare.
    refine absurd terminal (spares row ?_)
    rw [Table.key_of_find? found]
    exact found

/-- A run that spares finished rows leaves each of them exactly as it was. -/
theorem terminal_row_stable {ops : List QueueOp}
    (spares : queueMachine.Guarded SparesTerminal queue ops)
    (found : queue.find? itemId = some row) (terminal : Terminal row.status) :
    (queueMachine.run queue ops).find? itemId = some row := by
  have kept (queue : RuntimeQueue) (op : QueueOp) (spares : SparesTerminal queue op)
      (found : queue.find? itemId = some row) :
      (queueMachine.next queue op).find? itemId = some row :=
    terminal_row_kept spares found terminal
  exact queueMachine.guarded_invariant kept spares found

/-- A failure report advances the attempt counter of any row it names. -/
theorem markFailed_attempts (now retryAt error : String) (found : queue.find? itemId = some row) :
    (queueMachine.next queue (.markFailed itemId now retryAt error)).find? itemId =
      some (failedRow row now retryAt error) := by
  have named := Table.key_of_find? found
  simp only [Machine.next, queueMachine, call, markFailed, DurableTaskQueue.get, found,
    Prod.map_snd, id, Table.find?_update, Option.map_some, named, decide_true, if_true, failedRow]

/-- Finished rows stay finished in a run exactly when no failure is reported on one. -/
theorem terminal_absorbed_iff (queue : RuntimeQueue) (ops : List QueueOp) :
    TerminalAbsorbed queue ops ↔ queueMachine.Guarded SparesTerminal queue ops := by
  constructor
  · intro absorbed
    rw [queueMachine.guarded_iff_split]
    intro before op after split
    cases op with
    | markFailed itemId now retryAt error =>
      -- The report itself moves the counter that was to stay put.
      intro row found terminal
      obtain ⟨⟨later, laterFound, -, attempts⟩, -⟩ :=
        absorbed before [.markFailed itemId now retryAt error] after
          (by rw [split, List.append_assoc, List.singleton_append]) itemId row found terminal
      rw [queueMachine.run_append, Machine.run_cons, Machine.run_nil,
        markFailed_attempts now retryAt error found] at laterFound
      obtain rfl := Option.some.inj laterFound
      simp only [failedRow] at attempts
      omega
    | _ => trivial
  · rintro spares before middle after rfl itemId row found terminal
    rw [queueMachine.guarded_append, queueMachine.guarded_append] at spares
    obtain ⟨⟨-, spared⟩, -⟩ := spares
    constructor
    · refine ⟨row, ?_, rfl, rfl⟩
      rw [queueMachine.run_append]
      exact terminal_row_stable spared found terminal
    · intro now leasedUntil item answered same
      -- At the moment of the lease the row is still finished, so it was not leasable.
      obtain ⟨first, rest, rfl, returned⟩ := (queueMachine.mem_answers_iff _ _ _ _).mp answered
      rw [queueMachine.guarded_append] at spared
      have still := terminal_row_stable spared.1 found terminal
      obtain ⟨leased, leasedFound, ready, -⟩ := leaseNext_returned returned.symm
      rw [same, still] at leasedFound
      obtain rfl := Option.some.inj leasedFound
      rw [ready.1] at terminal
      exact absurd terminal (by decide)

/-- A late failure report puts a succeeded row back in line. -/
def lateFailure : List QueueOp :=
  [.enqueue "item-1" "dedupe-1" "{}" 0 "2026-07-17T00:00:00Z" 3,
    .leaseNext "2026-07-17T00:00:01Z" "2026-07-17T00:05:00Z",
    .markRunning "item-1" "2026-07-17T00:00:02Z",
    .markSucceeded "item-1" "2026-07-17T00:00:03Z",
    .markFailed "item-1" "2026-07-17T00:00:04Z" "2026-07-17T00:00:05Z" "late report"]

/-- A succeeded row does not stay succeeded once a late failure is reported on it. -/
theorem late_failure_not_absorbed : ¬TerminalAbsorbed Table.empty lateFailure := by
  intro absorbed
  have finished := absorbed (lateFailure.take 4) (lateFailure.drop 4) [] (by decide) "item-1"
    { itemId := "item-1", dedupeKey := "dedupe-1", payload := "{}", status := .succeeded,
      priority := 0, attempts := 0, maxAttempts := 3, availableAt := "2026-07-17T00:00:00Z",
      leasedUntil := some "2026-07-17T00:05:00Z", createdAt := "2026-07-17T00:00:00Z",
      updatedAt := "2026-07-17T00:00:03Z", lastError := none } (by decide) (by decide)
  obtain ⟨⟨later, found, status, -⟩, -⟩ := finished
  have pending : ((queueMachine.run Table.empty lateFailure).find? "item-1").map (·.status) =
      some .pending := by decide
  rw [← List.take_append_drop 4 lateFailure, found, Option.map_some, status] at pending
  exact absurd pending (by decide)

end StrategyLab
