import StrategyLab.Runtime.Service

/-! Start-up recovery: which expired leases the service returns to the queue. -/

namespace StrategyLab

open DurableTaskQueue

/-- A leased row whose lease ran out before a time. -/
def Expired (time : String) (row : DurableQueueItem) : Prop :=
  row.status = .leased ∧ ∃ until_ ∈ row.leasedUntil, until_ < time

instance (time : String) : DecidablePred (Expired time) := fun row =>
  inferInstanceAs (Decidable (_ ∧ ∃ until_ ∈ row.leasedUntil, until_ < time))

/-- Some later calls of `lease_next`, one after the other, return the item. -/
def ReturnedLater (queue : RuntimeQueue) (itemId : String) : Prop :=
  ∃ calls : List (String × String), ∃ now leasedUntil item,
    (.leaseNext now leasedUntil, .leased (some item)) ∈
      queueMachine.answers queue (calls.map fun call => .leaseNext call.1 call.2) ∧
    item.itemId = itemId

/-- After start-up no lease that ran out by `time` is left, and its item is back in line. -/
def RecoversExpired (config : GaonRuntimeConfig) (store : RuntimeDatabaseStatus)
    (queue : RuntimeQueue) (time : String) : Prop :=
  let started := (GaonRuntimeService.start config store queue).2
  (∀ row ∈ started.rows, ¬Expired time row) ∧
    ∀ row ∈ queue.rows, Expired time row →
      ∃ recovered, started.find? row.itemId = some recovered ∧
        recovered.status = .pending ∧ ReturnedLater started row.itemId

variable {queue : RuntimeQueue}

/-- A call of `lease_next` on a table with a leasable row returns a row. -/
theorem leaseNext_progress {now : String} {row : DurableQueueItem}
    (leasedUntil : String) (member : row ∈ queue.rows) (ready : Leasable now row) :
    ∃ item, queueMachine.answer queue (.leaseNext now leasedUntil) = .leased (some item) := by
  cases selected : selectPending queue now with
  | none => exact absurd ready (selectPending_none selected row member)
  | some itemId =>
    obtain ⟨best, -, -, stepped⟩ := leaseNext_some leasedUntil selected
    exact ⟨_, congrArg Prod.fst stepped⟩

/-- A call of `lease_next` that returns a row leaves one leasable row fewer. -/
theorem leaseNext_countP {now leasedUntil : String} {item : DurableQueueItem}
    (returned : queueMachine.answer queue (.leaseNext now leasedUntil) = .leased (some item)) :
    (queueMachine.next queue (.leaseNext now leasedUntil)).rows.countP (Leasable now) <
      queue.rows.countP (Leasable now) := by
  obtain ⟨row, found, ready, -, next⟩ := leaseNext_returned returned
  obtain ⟨member, named⟩ := Table.find?_eq_some_iff.mp found
  rw [next]
  -- The selected row is no longer pending, and a lease makes no row pending.
  exact Table.countP_update_lt member (by simp [named, ready.1]) (by simpa using ready)
    (by simp [Leasable]) (by simp [Leasable])

/-- A pending row is returned after finitely many calls of `lease_next`. -/
theorem returnedLater_of_pending {itemId : String}
    {row : DurableQueueItem} (found : queue.find? itemId = some row)
    (pending : row.status = .pending) : ReturnedLater queue itemId := by
  have ready : Leasable row.availableAt row := ⟨pending, le_refl _⟩
  -- Each call that returns another row uses up one leasable row.
  induction count : queue.rows.countP (Leasable row.availableAt)
    using Nat.strong_induction_on generalizing queue with
  | _ count ih =>
    obtain ⟨member, named⟩ := Table.find?_eq_some_iff.mp found
    obtain ⟨item, returned⟩ := leaseNext_progress "" member ready
    by_cases same : item.itemId = itemId
    · refine ⟨[(row.availableAt, "")], row.availableAt, "", item, ?_, same⟩
      rw [List.map_singleton, Machine.answers_cons, returned]
      exact List.mem_cons_self
    · have kept : (queueMachine.next queue (.leaseNext row.availableAt "")).find? itemId =
          some row := by
        obtain ⟨_, -, -, -, next⟩ := leaseNext_returned returned
        have other : ¬(row.itemId = item.itemId ∧ row.status = .pending) := fun hit =>
          same (hit.1.symm.trans named)
        rw [next, find?_leaseSelected, found, Option.map_some, if_neg other]
      have fewer := leaseNext_countP returned
      obtain ⟨calls, now, leasedUntil, last, answered, lastNamed⟩ := ih _ (by omega) kept rfl
      refine ⟨(row.availableAt, "") :: calls, now, leasedUntil, last, ?_, lastNamed⟩
      rw [List.map_cons, Machine.answers_cons]
      exact List.mem_cons_of_mem _ answered

/-- Start-up returns exactly the leases that ran out by its own cut-off. -/
theorem find?_start {config : GaonRuntimeConfig} {store : RuntimeDatabaseStatus}
    (ready : ∀ check ∈ readiness config (some store), check.ready = true) (queue : RuntimeQueue)
    (itemId : String) :
    (GaonRuntimeService.start config store queue).2.find? itemId =
      (recoverStale queue GaonRuntimeService.recoveryCutoff).2.find? itemId := by
  have passed : (readiness config (some store)).all (·.ready) = true :=
    List.all_eq_true.mpr ready
  simp [GaonRuntimeService.start, passed]

/-- Start-up recovers every lease that ran out by `time` exactly when its cut-off covers them. -/
theorem recoversExpired_iff {config : GaonRuntimeConfig} {store : RuntimeDatabaseStatus}
    (ready : ∀ check ∈ readiness config (some store), check.ready = true) (queue : RuntimeQueue)
    (time : String) :
    RecoversExpired config store queue time ↔
      ∀ row ∈ queue.rows, Expired time row →
        ∀ until_ ∈ row.leasedUntil, until_ ≤ GaonRuntimeService.recoveryCutoff := by
  constructor
  · rintro ⟨noneLeft, -⟩ row member expired until_ leased
    -- A lease past the cut-off is passed over, and its row would still be there.
    by_contra late
    have skipped : ¬Stale GaonRuntimeService.recoveryCutoff row := by
      rintro ⟨-, other, same, covered⟩
      rw [Option.mem_def.mp leased] at same
      obtain rfl := Option.some.inj same
      exact late covered
    have running : row.status ≠ .running := by
      rw [expired.1]
      decide
    have kept : (GaonRuntimeService.start config store queue).2.find? row.itemId = some row := by
      rw [find?_start ready, find?_recoverStale, Table.find?_of_mem member, Option.map_some,
        if_neg skipped, if_neg running]
    exact noneLeft row (Table.find?_eq_some_iff.mp kept).1 expired
  · intro covered
    have released : ∀ row ∈ queue.rows, Expired time row →
        Stale GaonRuntimeService.recoveryCutoff row := by
      rintro row member ⟨leased, until_, leasedUntil, past⟩
      exact ⟨leased, until_, leasedUntil,
        covered row member ⟨leased, until_, leasedUntil, past⟩ until_ leasedUntil⟩
    constructor
    · intro row member expired
      have found := Table.find?_of_mem member
      rw [find?_start ready, find?_recoverStale] at found
      obtain ⟨old, oldFound, changed⟩ := Option.map_eq_some_iff.mp found
      -- A row that is leased after start-up was passed over, so it is unchanged.
      split at changed
      · subst changed
        simp [Expired] at expired
      · split at changed
        · subst changed
          simp [Expired] at expired
        · subst changed
          rename_i skipped _
          exact skipped (released old (Table.find?_eq_some_iff.mp oldFound).1 expired)
    · intro row member expired
      have recovered : (GaonRuntimeService.start config store queue).2.find? row.itemId =
          some { row with
            status := .pending, leasedUntil := none,
            updatedAt := GaonRuntimeService.recoveryCutoff } := by
        rw [find?_start ready, find?_recoverStale, Table.find?_of_mem member, Option.map_some,
          if_pos (released row member expired)]
      exact ⟨_, recovered, rfl, returnedLater_of_pending recovered rfl⟩

/-- A queue with one row whose lease runs to a given time. -/
def leasedUntilQueue (leasedUntil : String) : RuntimeQueue :=
  queueMachine.run Table.empty
    [.enqueue "item-1" "dedupe-1" "{}" 0 "2026-07-16T00:00:00Z" 3,
      .leaseNext "2026-07-16T00:00:01Z" leasedUntil]

/-- A lease that ran out before the literal cut-off is recovered. -/
theorem early_lease_recovered :
    RecoversExpired {} ⟨"runtime.db", 46, true⟩ (leasedUntilQueue "2026-07-16T00:05:00Z")
      "2026-07-18T00:00:00Z" :=
  (recoversExpired_iff (by decide) _ _).mpr (by decide)

/-- A lease that ran out after the literal cut-off stays leased however late the start is. -/
theorem late_lease_not_recovered :
    ¬RecoversExpired {} ⟨"runtime.db", 46, true⟩ (leasedUntilQueue "2026-08-01T00:05:00Z")
      "2026-08-02T00:00:00Z" := by
  rintro ⟨noneLeft, -⟩
  have left : ∃ row ∈ (GaonRuntimeService.start {} ⟨"runtime.db", 46, true⟩
      (leasedUntilQueue "2026-08-01T00:05:00Z")).2.rows, Expired "2026-08-02T00:00:00Z" row := by
    decide
  obtain ⟨row, member, expired⟩ := left
  exact noneLeft row member expired

end StrategyLab
