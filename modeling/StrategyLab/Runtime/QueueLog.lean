import StrategyLab.Runtime.WorkerLaws

/-! The queue as a log: its rows are the submissions it accepted, each once and in their order. -/

namespace StrategyLab

open DurableTaskQueue

/-- What a row keeps of the call that submitted it. -/
structure Submission where
  itemId : String
  dedupeKey : String
  payload : String
  priority : Int
  maxAttempts : Int
  createdAt : String
  deriving DecidableEq

/-- The submission of a row. -/
def DurableQueueItem.submission (row : DurableQueueItem) : Submission :=
  ⟨row.itemId, row.dedupeKey, row.payload, row.priority, row.maxAttempts, row.createdAt⟩

/-- The submission that a call made, if it was accepted. -/
def acceptedSubmission : QueueOp × QueueAnswer → Option Submission
  | (.enqueue itemId dedupeKey payload priority availableAt maxAttempts, .enqueued true) =>
    some ⟨itemId, dedupeKey, payload, priority, maxAttempts, availableAt⟩
  | _ => none

/-- The submissions of a table, oldest first. -/
def submissions (queue : RuntimeQueue) : List Submission := queue.rows.map (·.submission)

variable {queue : RuntimeQueue}

/-- An update of rows that leaves their submissions alone leaves those of the table alone. -/
theorem submissions_update (hits : DurableQueueItem → Bool)
    (change : DurableQueueItem → DurableQueueItem) (keeps : ∀ row, (change row).itemId = row.itemId)
    (same : ∀ row, (change row).submission = row.submission) :
    submissions (queue.update hits change keeps) = submissions queue := by
  simp only [submissions, Table.update_rows, List.map_map]
  refine List.map_congr_left fun row _ => ?_
  simp only [Function.comp_apply]
  split
  · exact same row
  · rfl

/-- A transition leaves the submissions alone, whether it raises or not. -/
theorem submissions_transition (itemId : String) (expected target : QueueItemStatus)
    (now : String) :
    submissions (transition queue itemId expected target now).2 = submissions queue := by
  unfold transition
  dsimp only
  split
  · rfl
  · refine submissions_update _ _ ?_ ?_ <;> exact fun _ => rfl

/-- Whether an id or a dedupe key was submitted. -/
def Taken (earlier : List Submission) (itemId dedupeKey : String) : Prop :=
  ∃ old ∈ earlier, old.itemId = itemId ∨ old.dedupeKey = dedupeKey

/-- A submission is refused exactly if its id or its key is taken, and is added otherwise. -/
theorem enqueue_cases (queue : RuntimeQueue) (itemId dedupeKey payload : String) (priority : Int)
    (availableAt : String) (maxAttempts : Int) :
    let after := enqueue queue itemId dedupeKey payload priority availableAt maxAttempts
    (after.1 = false ∧ Taken (submissions queue) itemId dedupeKey ∧ after.2 = queue) ∨
      (after.1 = true ∧ ¬Taken (submissions queue) itemId dedupeKey ∧
        submissions after.2 = submissions queue ++
          [⟨itemId, dedupeKey, payload, priority, maxAttempts, availableAt⟩]) := by
  intro after
  simp only [after, enqueue]
  split
  · rename_i taken
    obtain ⟨old, member, same⟩ := List.any_eq_true.mp taken
    exact .inl ⟨rfl, ⟨old.submission, List.mem_map_of_mem member, .inr (of_decide_eq_true same)⟩, rfl⟩
  · rename_i free
    split
    · rename_i grown built
      obtain ⟨missing, rows⟩ := Table.insert?_eq_some_iff.mp built
      refine .inr ⟨rfl, ?_, by simp [submissions, rows, DurableQueueItem.submission]⟩
      rintro ⟨_, listed, either⟩
      obtain ⟨old, member, rfl⟩ := List.mem_map.mp listed
      rcases either with named | keyed
      · exact Table.find?_eq_none_iff.mp missing old member named
      · exact free (List.any_eq_true.mpr ⟨old, member, decide_eq_true keyed⟩)
    · rename_i refused
      obtain ⟨old, found⟩ := Table.insert?_eq_none_iff.mp refused
      obtain ⟨member, named⟩ := Table.find?_eq_some_iff.mp found
      exact .inl ⟨rfl, ⟨old.submission, List.mem_map_of_mem member, .inl named⟩, rfl⟩

/-- A call adds the submission that it accepts, which is a new one, and keeps all others. -/
theorem submissions_next (queue : RuntimeQueue) (op : QueueOp) :
    (∃ new, acceptedSubmission (op, queueMachine.answer queue op) = some new ∧
      ¬Taken (submissions queue) new.itemId new.dedupeKey ∧
      submissions (queueMachine.next queue op) = submissions queue ++ [new]) ∨
    (acceptedSubmission (op, queueMachine.answer queue op) = none ∧
      submissions (queueMachine.next queue op) = submissions queue) := by
  cases op with
  | enqueue itemId dedupeKey payload priority availableAt maxAttempts =>
    rcases enqueue_cases queue itemId dedupeKey payload priority availableAt maxAttempts with
      ⟨answer, -, same⟩ | ⟨answer, free, added⟩
    · refine .inr ⟨?_, congrArg submissions same⟩
      simp [Machine.answer, queueMachine, call, answer, acceptedSubmission]
    · refine .inl ⟨_, ?_, free, added⟩
      simp [Machine.answer, queueMachine, call, answer, acceptedSubmission]
  | leaseNext now leasedUntil =>
    refine .inr ⟨rfl, ?_⟩
    change submissions (leaseNext queue now leasedUntil).2 = _
    unfold leaseNext
    split
    · rfl
    · refine submissions_update _ _ ?_ ?_ <;> exact fun _ => rfl
  | markRunning itemId now => exact .inr ⟨rfl, submissions_transition itemId .leased .running now⟩
  | markSucceeded itemId now =>
    exact .inr ⟨rfl, submissions_transition itemId .running .succeeded now⟩
  | markFailed itemId now retryAt error =>
    refine .inr ⟨rfl, ?_⟩
    change submissions (markFailed queue itemId now retryAt error).2 = _
    unfold markFailed
    split
    · rfl
    · refine submissions_update _ _ ?_ ?_ <;> exact fun _ => rfl
  | markCancelled itemId now =>
    refine .inr ⟨rfl, submissions_update _ _ ?_ ?_⟩ <;> exact fun _ => rfl
  | recoverStale now =>
    -- Two updates, one after the other.
    refine .inr ⟨rfl, (submissions_update _ _ ?_ ?_).trans (submissions_update (Stale now)
      (fun row => { row with status := .pending, leasedUntil := none, updatedAt := now }) ?_ ?_)⟩
    all_goals exact fun _ => rfl

/-- After any calls the rows of the queue are the submissions that were accepted, in their order and
as they were submitted; no id and no key was accepted twice, and the next submission is refused
exactly if its id or its key was accepted before. -/
theorem queue_is_log (ops : List QueueOp) :
    let queue := queueMachine.run Table.empty ops
    let accepted := (queueMachine.answers Table.empty ops).filterMap acceptedSubmission
    queue.rows.map (·.submission) = accepted ∧ (accepted.map (·.itemId)).Nodup ∧
      (accepted.map (·.dedupeKey)).Nodup ∧
      ∀ itemId dedupeKey payload priority availableAt maxAttempts,
        queueMachine.answer queue
            (.enqueue itemId dedupeKey payload priority availableAt maxAttempts) =
          .enqueued false ↔ Taken accepted itemId dedupeKey := by
  intro queue accepted
  have log : submissions queue = accepted ∧ ((submissions queue).map (·.dedupeKey)).Nodup := by
    refine @Machine.answers_invariant _ _ _ queueMachine (fun history queue =>
      submissions queue = history.filterMap acceptedSubmission ∧
        ((submissions queue).map (·.dedupeKey)).Nodup) ?_ Table.empty ops ⟨rfl, List.nodup_nil⟩
    rintro history before op ⟨same, distinct⟩
    rw [List.filterMap_append, ← same]
    rcases submissions_next before op with ⟨new, made, free, added⟩ | ⟨none_, kept⟩
    · rw [added]
      refine ⟨by simp [made], ?_⟩
      rw [List.map_append]
      refine List.nodup_append_comm.mpr (List.nodup_cons.mpr ⟨fun used => ?_, distinct⟩)
      obtain ⟨old, member, keyed⟩ := List.mem_map.mp used
      exact free ⟨old, member, .inr keyed⟩
    · rw [kept]
      exact ⟨by simp [none_], distinct⟩
  refine ⟨log.1, ?_, log.1 ▸ log.2, ?_⟩
  · have ids : (submissions queue).map (·.itemId) = queue.rows.map (·.itemId) := by
      simp [submissions, DurableQueueItem.submission]
    rw [← log.1, ids]
    exact queue.distinct
  · intro itemId dedupeKey payload priority availableAt maxAttempts
    rw [← log.1]
    rcases enqueue_cases queue itemId dedupeKey payload priority availableAt maxAttempts with
      ⟨answer, taken, -⟩ | ⟨answer, free, -⟩
    · simp [Machine.answer, queueMachine, call, answer, taken]
    · simp [Machine.answer, queueMachine, call, answer, free]

end StrategyLab
