import StrategyLab.Runtime.Worker

/-! What each queue operation can do to a row, stated once and used by every queue invariant. -/

namespace StrategyLab

open DurableTaskQueue

/-- The status of an item, when the table has it. -/
def statusOf (queue : RuntimeQueue) (itemId : String) : Option QueueItemStatus :=
  (queue.find? itemId).map (·.status)

/-- The row a failure report leaves behind. -/
def failedRow (row : DurableQueueItem) (now retryAt error : String) : DurableQueueItem :=
  { row with
    status := if row.attempts + 1 ≥ row.maxAttempts then .failed else .pending,
    attempts := row.attempts + 1, availableAt := retryAt, leasedUntil := none,
    lastError := some error, updatedAt := now }

/-- The ways one operation can change a row that is already in the table. -/
inductive RowStep : QueueOp → DurableQueueItem → DurableQueueItem → Prop where
  /-- `lease_next` leases a pending row that has become available. -/
  | lease {row} (now leasedUntil : String) (ready : Leasable now row) :
    RowStep (.leaseNext now leasedUntil) row
      { row with status := .leased, leasedUntil := some leasedUntil, updatedAt := now }
  /-- `mark_running` starts a leased row. -/
  | start {row} (now : String) (leased : row.status = .leased) :
    RowStep (.markRunning row.itemId now) row { row with status := .running, updatedAt := now }
  /-- `mark_succeeded` finishes a running row. -/
  | succeed {row} (now : String) (running : row.status = .running) :
    RowStep (.markSucceeded row.itemId now) row
      { row with status := .succeeded, updatedAt := now }
  /-- `mark_failed` counts an attempt on a row of any status. -/
  | fail {row} (now retryAt error : String) :
    RowStep (.markFailed row.itemId now retryAt error) row (failedRow row now retryAt error)
  /-- `mark_cancelled` stops a row that has not finished. -/
  | cancel {row} (now : String) (live : ¬Terminal row.status) :
    RowStep (.markCancelled row.itemId now) row { row with status := .cancelled, updatedAt := now }
  /-- `recover_stale` releases a lease that has run out. -/
  | release {row} (now : String) (stale : Stale now row) :
    RowStep (.recoverStale now) row
      { row with status := .pending, leasedUntil := none, updatedAt := now }
  /-- `recover_stale` restarts a running row without counting an attempt. -/
  | restart {row} (now : String) (running : row.status = .running) :
    RowStep (.recoverStale now) row { row with status := .pending, updatedAt := now }

/-- No operation changes a row's id or its attempt limit. -/
theorem RowStep.fixed {op : QueueOp} {row row' : DurableQueueItem} (step : RowStep op row row') :
    row'.itemId = row.itemId ∧ row'.maxAttempts = row.maxAttempts := by
  cases step <;> exact ⟨rfl, rfl⟩

variable {queue : RuntimeQueue}

/-- Selection returns the id of a leasable row of the table. -/
theorem selectPending_some {now itemId : String}
    (selected : selectPending queue now = some itemId) :
    ∃ row, queue.find? itemId = some row ∧ Leasable now row := by
  -- Sorting only permutes the filtered rows, so its head is one of them.
  obtain ⟨row, head, same⟩ := Option.map_eq_some_iff.mp selected
  have sorted := List.mem_of_head? head
  have kept := ((List.perm_insertionSort LeasesBefore _).mem_iff).mp sorted
  simp only [List.mem_filter, decide_eq_true_eq] at kept
  exact ⟨row, Table.find?_eq_some_iff.mpr ⟨kept.1, same⟩, kept.2⟩

/-- Selection comes back empty only when no row is leasable. -/
theorem selectPending_none {now : String}
    (selected : selectPending queue now = none) : ∀ row ∈ queue.rows, ¬Leasable now row := by
  intro row member ready
  have kept : row ∈ queue.rows.filter (Leasable now) := by simp [member, ready]
  have sorted := ((List.perm_insertionSort LeasesBefore _).mem_iff).mpr kept
  simp only [selectPending, Option.map_eq_none_iff, List.head?_eq_none_iff] at selected
  simp [selected] at sorted

/-- The guarded update of `lease_next` on the row under an id. -/
theorem find?_leaseSelected (queue : RuntimeQueue) (itemId now leasedUntil other : String) :
    (leaseSelected queue itemId now leasedUntil).find? other =
      (queue.find? other).map fun row =>
        if row.itemId = itemId ∧ row.status = .pending then
          { row with status := .leased, leasedUntil := some leasedUntil, updatedAt := now }
        else row := by
  simp [leaseSelected]

variable {itemId : String} {row : DurableQueueItem}

variable {expected : QueueItemStatus}

/-- A transition moves the named row when its status is the expected one. -/
theorem transition_ok (target : QueueItemStatus) (now : String)
    (found : queue.find? itemId = some row) (status : row.status = expected) :
    transition queue itemId expected target now =
      (.ok { row with status := target, updatedAt := now },
        queue.update (fun row => row.itemId = itemId ∧ row.status = expected)
          (fun row => { row with status := target, updatedAt := now }) (fun _ => rfl)) := by
  -- The rowcount is one, and the row read back is the moved one.
  have one : queue.rows.countP
      (fun row => decide (row.itemId = itemId ∧ row.status = expected)) = 1 :=
    Table.countP_key_eq_one_iff.mpr ⟨row, found, status⟩
  have hit : row.itemId = itemId ∧ row.status = expected := ⟨Table.key_of_find? found, status⟩
  simp only [transition, ne_eq, one, not_true_eq_false, if_false, DurableTaskQueue.get,
    Table.find?_update, found, Option.map_some, hit, and_self, decide_true, if_true]

/-- A transition whose row is missing or has another status raises and changes nothing. -/
theorem transition_error (target : QueueItemStatus) (now : String)
    (absent : ¬∃ row, queue.find? itemId = some row ∧ row.status = expected) :
    transition queue itemId expected target now =
      (.error (.runtimeError s!"queue item {itemId} is not {expected.value}"), queue) := by
  have other : queue.rows.countP
      (fun row => decide (row.itemId = itemId ∧ row.status = expected)) ≠ 1 :=
    fun one => absent (Table.countP_key_eq_one_iff.mp one)
  simp only [transition, ne_eq, other, not_false_eq_true, if_true]

/-- Recovery on the row under an id: release a stale lease, else restart a running row. -/
theorem find?_recoverStale (queue : RuntimeQueue) (now other : String) :
    (recoverStale queue now).2.find? other =
      (queue.find? other).map fun row =>
        if Stale now row then
          { row with status := .pending, leasedUntil := none, updatedAt := now }
        else if row.status = .running then { row with status := .pending, updatedAt := now }
        else row := by
  -- A row the first statement releases is pending, so the second statement passes it by.
  simp only [recoverStale, Table.find?_update, Option.map_map]
  congr 1
  funext row
  simp only [Function.comp_apply, decide_eq_true_eq]
  by_cases stale : Stale now row
  · simp [stale]
  · simp [stale]

/-- Every operation keeps every row, unchanged or changed in one of the listed ways. -/
theorem queue_step_row (op : QueueOp) (found : queue.find? itemId = some row) :
    ∃ row', (queueMachine.next queue op).find? itemId = some row' ∧
      (row' = row ∨ RowStep op row row') := by
  have named := Table.key_of_find? found
  cases op with
  | enqueue newId dedupeKey payload priority availableAt maxAttempts =>
    refine ⟨row, ?_, Or.inl rfl⟩
    simp only [Machine.next, queueMachine, call, enqueue, Prod.map_snd, id]
    split
    · exact found
    · split
      · rename_i grown built
        exact Table.find?_insert?_of_found built found
      · exact found
  | leaseNext now leasedUntil =>
    simp only [Machine.next, queueMachine, call, leaseNext, Prod.map_snd, id]
    split
    · exact ⟨row, found, Or.inl rfl⟩
    · rename_i chosen selected
      obtain ⟨best, bestFound, ready⟩ := selectPending_some selected
      simp only [find?_leaseSelected, found, Option.map_some, Option.some.injEq, exists_eq_left']
      split
      · -- The row that is leased is the selected one, which was leasable.
        rename_i hit
        obtain rfl : best = row := by
          rw [← named, hit.1, bestFound] at found
          exact Option.some.inj found
        exact Or.inr (.lease now leasedUntil ready)
      · exact Or.inl rfl
  | markRunning target now =>
    simp only [Machine.next, queueMachine, call, markRunning, Prod.map_snd, id]
    by_cases present : ∃ row, queue.find? target = some row ∧ row.status = .leased
    · obtain ⟨leased, leasedFound, status⟩ := present
      simp only [transition_ok _ now leasedFound status, Table.find?_update, found,
        Option.map_some, Option.some.injEq, exists_eq_left', decide_eq_true_eq]
      split
      · rename_i hit
        rw [← hit.1]
        exact Or.inr (.start now hit.2)
      · exact Or.inl rfl
    · rw [transition_error _ now present]
      exact ⟨row, found, Or.inl rfl⟩
  | markSucceeded target now =>
    simp only [Machine.next, queueMachine, call, markSucceeded, Prod.map_snd, id]
    by_cases present : ∃ row, queue.find? target = some row ∧ row.status = .running
    · obtain ⟨running, runningFound, status⟩ := present
      simp only [transition_ok _ now runningFound status, Table.find?_update, found,
        Option.map_some, Option.some.injEq, exists_eq_left', decide_eq_true_eq]
      split
      · rename_i hit
        rw [← hit.1]
        exact Or.inr (.succeed now hit.2)
      · exact Or.inl rfl
    · rw [transition_error _ now present]
      exact ⟨row, found, Or.inl rfl⟩
  | markFailed target now retryAt error =>
    simp only [Machine.next, queueMachine, call, markFailed, DurableTaskQueue.get, Prod.map_snd, id]
    cases targetFound : queue.find? target with
    | none => exact ⟨row, found, Or.inl rfl⟩
    | some item =>
      simp only [Table.find?_update, found, Option.map_some, Option.some.injEq,
        exists_eq_left', decide_eq_true_eq]
      split
      · -- The counted row is the reported one, so its own counter is advanced.
        rename_i hit
        obtain rfl : item = row := by
          rw [← named, hit, targetFound] at found
          exact Option.some.inj found
        rw [← hit]
        exact Or.inr (.fail now retryAt error)
      · exact Or.inl rfl
  | markCancelled target now =>
    simp only [Machine.next, queueMachine, call, markCancelled, Prod.map_snd, id,
      Table.find?_update, found, Option.map_some, Option.some.injEq, exists_eq_left',
      decide_eq_true_eq]
    split
    · rename_i hit
      rw [← hit.1]
      exact Or.inr (.cancel now hit.2)
    · exact Or.inl rfl
  | recoverStale now =>
    simp only [Machine.next, queueMachine, call, Prod.map_snd, id, find?_recoverStale, found,
      Option.map_some, Option.some.injEq, exists_eq_left']
    split
    · rename_i stale
      exact Or.inr (.release now stale)
    · split
      · rename_i running
        exact Or.inr (.restart now running)
      · exact Or.inl rfl

/-- A row that an operation adds is a fresh one, enqueued under its own id. -/
theorem queue_step_new (op : QueueOp) (missing : queue.find? itemId = none)
    (found : (queueMachine.next queue op).find? itemId = some row) :
    row.status = .pending ∧ row.attempts = 0 ∧ row.leasedUntil = none ∧
      ∃ dedupeKey payload priority availableAt,
        op = .enqueue itemId dedupeKey payload priority availableAt row.maxAttempts := by
  -- Every other operation only rewrites rows that are already there.
  cases op with
  | enqueue newId dedupeKey payload priority availableAt maxAttempts =>
    simp only [Machine.next, queueMachine, call, enqueue, Prod.map_snd, id] at found
    split at found
    · simp [missing] at found
    · split at found
      · rename_i grown built
        rw [Table.find?_insert? built] at found
        split at found
        · rename_i same
          subst same
          simp only [Option.some.injEq] at found
          subst found
          exact ⟨rfl, rfl, rfl, dedupeKey, payload, priority, availableAt, rfl⟩
        · simp [missing] at found
      · simp [missing] at found
  | leaseNext now leasedUntil =>
    simp only [Machine.next, queueMachine, call, leaseNext, Prod.map_snd, id] at found
    split at found <;> simp [find?_leaseSelected, missing] at found
  | markRunning target now =>
    simp only [Machine.next, queueMachine, call, markRunning, transition, Prod.map_snd, id] at found
    split at found <;> simp [missing] at found
  | markSucceeded target now =>
    simp only [Machine.next, queueMachine, call, markSucceeded, transition, Prod.map_snd,
      id] at found
    split at found <;> simp [missing] at found
  | markFailed target now retryAt error =>
    simp only [Machine.next, queueMachine, call, markFailed, Prod.map_snd, id] at found
    split at found <;> simp [missing] at found
  | markCancelled target now =>
    simp [Machine.next, queueMachine, call, markCancelled, missing] at found
  | recoverStale now =>
    simp [Machine.next, queueMachine, call, find?_recoverStale, missing] at found

/-- With nothing selected, `lease_next` returns nothing and changes nothing. -/
theorem leaseNext_none {now : String} (leasedUntil : String)
    (selected : selectPending queue now = none) :
    queueMachine.step queue (.leaseNext now leasedUntil) = (.leased none, queue) := by
  simp [queueMachine, call, leaseNext, selected]

/-- With a row selected, `lease_next` leases that row and returns it as stored. -/
theorem leaseNext_some {now itemId : String} (leasedUntil : String)
    (selected : selectPending queue now = some itemId) :
    ∃ row, queue.find? itemId = some row ∧ Leasable now row ∧
      queueMachine.step queue (.leaseNext now leasedUntil) =
        (.leased (some { row with
            status := .leased, leasedUntil := some leasedUntil, updatedAt := now }),
          leaseSelected queue itemId now leasedUntil) := by
  obtain ⟨row, found, ready⟩ := selectPending_some selected
  refine ⟨row, found, ready, ?_⟩
  -- The selected row is still pending, so the update hits it and the re-read finds it.
  have stored : (leaseSelected queue itemId now leasedUntil).find? itemId =
      some { row with status := .leased, leasedUntil := some leasedUntil, updatedAt := now } := by
    rw [find?_leaseSelected, found, Option.map_some, if_pos ⟨Table.key_of_find? found, ready.1⟩]
  simp only [queueMachine, call, leaseNext, selected, DurableTaskQueue.get, stored, Prod.map,
    Except.map, id]

/-- The row `lease_next` returns was leasable, is stored as returned, and is the only change. -/
theorem leaseNext_returned {now leasedUntil : String} {item : DurableQueueItem}
    (returned : queueMachine.answer queue (.leaseNext now leasedUntil) = .leased (some item)) :
    ∃ row, queue.find? item.itemId = some row ∧ Leasable now row ∧
      item = { row with
        status := .leased, leasedUntil := some leasedUntil, updatedAt := now } ∧
      queueMachine.next queue (.leaseNext now leasedUntil) =
        leaseSelected queue item.itemId now leasedUntil := by
  cases selected : selectPending queue now with
  | none => simp [Machine.answer, leaseNext_none leasedUntil selected] at returned
  | some itemId =>
    obtain ⟨row, found, ready, stepped⟩ := leaseNext_some leasedUntil selected
    simp only [Machine.answer, stepped, QueueAnswer.leased.injEq, Option.some.injEq] at returned
    subst returned
    obtain rfl := Table.key_of_find? found
    exact ⟨row, found, ready, rfl, by simp only [Machine.next, stepped]⟩

end StrategyLab
