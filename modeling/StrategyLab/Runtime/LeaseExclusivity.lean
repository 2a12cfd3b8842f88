import Mathlib.Logic.Function.Basic
import StrategyLab.Runtime.WorkerLaws

/-! Lease exclusivity: `lease_next` as three database steps taken by any number of callers. -/

namespace StrategyLab

open DurableTaskQueue

/-- How far one call of `lease_next` has come. -/
inductive LeaseCall where
  /-- The selection has returned an id, and the update is still to come. -/
  | selected (itemId now leasedUntil : String)
  /-- The update has been committed, and the row is still to be read back. -/
  | updated (itemId : String)
  /-- The call has returned. -/
  | returned (result : Except QueueError (Option DurableQueueItem))

/-- The shared queue and the calls in flight, each on a connection of its own. -/
structure LeaseState where
  queue : RuntimeQueue
  calls : Nat → Option LeaseCall

/-- An operation other than `lease_next`, which takes effect in one step. -/
def OtherOp : Type := { op : QueueOp // ∀ now leasedUntil, op ≠ .leaseNext now leasedUntil }

/-- One database step: a step of some call of `lease_next`, or another operation. -/
inductive LeaseStep where
  | select (call : Nat) (now leasedUntil : String)
  | update (call : Nat)
  | reread (call : Nat)
  | other (op : OtherOp)

/-- Record how far a call has come. -/
def LeaseState.advance (state : LeaseState) (call : Nat) (stage : LeaseCall) : LeaseState :=
  { state with calls := Function.update state.calls call (some stage) }

/-- Take one database step; a step whose call is not ready for it does nothing. -/
def LeaseState.step (state : LeaseState) : LeaseStep → Unit × LeaseState
  | .select call now leasedUntil =>
    match state.calls call with
    | none =>
      match selectPending state.queue now with
      | none => ((), state.advance call (.returned (.ok none)))
      | some itemId => ((), state.advance call (.selected itemId now leasedUntil))
    | some _ => ((), state)
  | .update call =>
    match state.calls call with
    | some (.selected itemId now leasedUntil) =>
      let leased := { state with queue := leaseSelected state.queue itemId now leasedUntil }
      ((), leased.advance call (.updated itemId))
    | _ => ((), state)
  | .reread call =>
    match state.calls call with
    | some (.updated itemId) =>
      ((), state.advance call (.returned ((DurableTaskQueue.get state.queue itemId).map some)))
    | _ => ((), state)
  | .other op => ((), { state with queue := queueMachine.next state.queue op.1 })

/-- The interleavings of database steps as a machine. -/
def leaseMachine : Machine LeaseState LeaseStep Unit := ⟨LeaseState.step⟩

/-- A queue on which no call of `lease_next` has begun. -/
def LeaseState.initial (queue : RuntimeQueue) : LeaseState := ⟨queue, fun _ => none⟩

/-- A call has selected an id and has not yet updated. -/
def Selecting (state : LeaseState) (call : Nat) : Prop :=
  ∃ itemId now leasedUntil, state.calls call = some (.selected itemId now leasedUntil)

/-- A call has returned a row. -/
def Returned (state : LeaseState) (call : Nat) (item : DurableQueueItem) : Prop :=
  state.calls call = some (.returned (.ok (some item)))

/-- Two calls return the same item only if it was pending again between their leases. -/
def LeaseExclusive (queue : RuntimeQueue) (steps : List LeaseStep) : Prop :=
  ∀ first second item again, first ≠ second →
    Returned (leaseMachine.run (.initial queue) steps) first item →
    Returned (leaseMachine.run (.initial queue) steps) second again →
    item.itemId = again.itemId →
    ∀ before between after,
      steps = before ++ .update first :: (between ++ .update second :: after) →
      Selecting (leaseMachine.run (.initial queue) before) first →
      Selecting (leaseMachine.run (.initial queue) (before ++ .update first :: between)) second →
      ∃ early late, between = early ++ late ∧
        statusOf (leaseMachine.run (.initial queue) (before ++ .update first :: early)).queue
          item.itemId = some .pending

/-- An update finds the row its call selected still pending. -/
def UpdateWins (state : LeaseState) : LeaseStep → Prop
  | .update call =>
    match state.calls call with
    | some (.selected itemId _ _) => statusOf state.queue itemId = some .pending
    | _ => True
  | _ => True

instance (state : LeaseState) : DecidablePred (UpdateWins state)
  | .update call =>
    match stage : state.calls call with
    | some (.selected itemId _ _) =>
      decidable_of_iff (statusOf state.queue itemId = some .pending) (by simp [UpdateWins, stage])
    | some (.updated _) | some (.returned _) | none => isTrue (by simp [UpdateWins, stage])
  | .select .. | .reread _ | .other _ => isTrue trivial

/-- A call that has settled on an item, whatever it has done about it since. -/
def SettledOn (itemId : String) : Option LeaseCall → Prop
  | some (.selected chosen _ _) => chosen = itemId
  | some (.updated chosen) => chosen = itemId
  | some (.returned (.ok (some item))) => item.itemId = itemId
  | some (.returned (.ok none)) => False
  | some (.returned (.error _)) => True
  | none => False

variable {state : LeaseState}

/-- A call that has settled on an item stays settled on it. -/
theorem settled_step {call : Nat} {itemId : String} (step : LeaseStep)
    (settled : SettledOn itemId (state.calls call)) :
    SettledOn itemId ((leaseMachine.next state step).calls call) := by
  cases step with
  | select other now leasedUntil =>
    simp only [Machine.next, leaseMachine, LeaseState.step]
    split
    · -- A call that begins now cannot be the one that has settled.
      rename_i fresh
      have differs : call ≠ other := by
        rintro rfl
        simp [fresh, SettledOn] at settled
      split <;> simpa [LeaseState.advance, Function.update_of_ne differs] using settled
    · exact settled
  | update other =>
    simp only [Machine.next, leaseMachine, LeaseState.step]
    split
    · rename_i chosen now leasedUntil stage
      by_cases same : call = other
      · subst same
        simpa [LeaseState.advance, stage, SettledOn] using settled
      · simpa [LeaseState.advance, Function.update_of_ne same] using settled
    · exact settled
  | reread other =>
    simp only [Machine.next, leaseMachine, LeaseState.step]
    split
    · rename_i chosen stage
      by_cases same : call = other
      · subst same
        simp only [stage, SettledOn] at settled
        subst settled
        -- The row read back carries the id it was looked up by.
        simp only [LeaseState.advance, Function.update_self, DurableTaskQueue.get]
        cases found : state.queue.find? chosen with
        | none => trivial
        | some row => exact Table.key_of_find? found
      · simpa [LeaseState.advance, Function.update_of_ne same] using settled
    · exact settled
  | other op => exact settled

/-- A call that has settled on an item is still settled on it after any run. -/
theorem settled_run {call : Nat} {itemId : String} (steps : List LeaseStep)
    (settled : SettledOn itemId (state.calls call)) :
    SettledOn itemId ((leaseMachine.run state steps).calls call) := by
  have kept (state : LeaseState) (step : LeaseStep) (settled : SettledOn itemId (state.calls call)) :
      SettledOn itemId ((leaseMachine.next state step).calls call) := settled_step step settled
  exact leaseMachine.invariant kept steps settled

/-- When every update finds its row still pending, leases are exclusive. -/
theorem lease_exclusive {queue : RuntimeQueue} {steps : List LeaseStep}
    (wins : leaseMachine.Guarded UpdateWins (.initial queue) steps) :
    LeaseExclusive queue steps := by
  rintro first second item again - - returned named before between after rfl - selecting
  obtain ⟨itemId, now, leasedUntil, chosen⟩ := selecting
  -- The second call returns the item it selected, so that item is the shared one.
  have settled : SettledOn itemId ((leaseMachine.run (.initial queue)
      (before ++ .update first :: (between ++ .update second :: after))).calls second) := by
    have split : before ++ .update first :: (between ++ .update second :: after) =
        (before ++ .update first :: between) ++ .update second :: after := by simp
    rw [split, leaseMachine.run_append]
    refine settled_run _ ?_
    rw [chosen]
    rfl
  rw [Returned] at returned
  rw [returned] at settled
  -- Its update found that item pending, after the first call had leased it.
  have won := (leaseMachine.guarded_iff_split _ _).mp wins
    (before ++ .update first :: between) (.update second) after (by simp)
  simp only [UpdateWins, chosen] at won
  refine ⟨between, [], (List.append_nil _).symm, ?_⟩
  have same : item.itemId = itemId := named.trans settled
  rw [same]
  exact won

/-- The three steps of one call with nothing in between are `lease_next` itself. -/
theorem lease_steps_eq_leaseNext {call : Nat} (now leasedUntil : String)
    (fresh : state.calls call = none) :
    let final := leaseMachine.run state [.select call now leasedUntil, .update call, .reread call]
    final.queue = (leaseNext state.queue now leasedUntil).2 ∧
      final.calls call = some (.returned (leaseNext state.queue now leasedUntil).1) := by
  cases selected : selectPending state.queue now with
  | none =>
    simp [Machine.next, leaseMachine, LeaseState.step, LeaseState.advance, fresh, selected,
      leaseNext]
  | some itemId =>
    simp [Machine.next, leaseMachine, LeaseState.step, LeaseState.advance, fresh, selected,
      leaseNext]

/-- One pending item for two callers. -/
def contendedQueue : RuntimeQueue :=
  queueMachine.run Table.empty
    [.enqueue "item-1" "dedupe-1" "{}" 0 "2026-07-17T00:00:00Z" 3]

/-- Two callers one after the other, the first one's lease having run out in between. -/
def successiveSteps : List LeaseStep :=
  [.select 0 "2026-07-17T00:00:01Z" "2026-07-17T00:05:01Z", .update 0, .reread 0,
    .other ⟨.recoverStale "2026-07-17T00:06:00Z", nofun⟩,
    .select 1 "2026-07-17T00:06:01Z" "2026-07-17T00:11:01Z", .update 1, .reread 1]

/-- The second caller may return the item, since it was pending again. -/
theorem successive_leases_exclusive : LeaseExclusive contendedQueue successiveSteps :=
  lease_exclusive (by decide)

/-- Two callers select the same item before either of them updates it. -/
def contendedSteps : List LeaseStep :=
  [.select 0 "2026-07-17T00:00:01Z" "2026-07-17T00:05:01Z",
    .select 1 "2026-07-17T00:00:02Z" "2026-07-17T00:05:02Z",
    .update 0, .update 1, .reread 0, .reread 1]

/-- Both callers return the item, which was never pending between the two updates. -/
theorem contended_leases_not_exclusive : ¬LeaseExclusive contendedQueue contendedSteps := by
  intro exclusive
  let item : DurableQueueItem :=
    { itemId := "item-1", dedupeKey := "dedupe-1", payload := "{}", status := .leased,
      priority := 0, attempts := 0, maxAttempts := 3, availableAt := "2026-07-17T00:00:00Z",
      leasedUntil := some "2026-07-17T00:05:01Z", createdAt := "2026-07-17T00:00:00Z",
      updatedAt := "2026-07-17T00:00:01Z", lastError := none }
  obtain ⟨early, late, split, pending⟩ := exclusive 0 1 item item (by decide) rfl rfl rfl
    (contendedSteps.take 2) [] (contendedSteps.drop 4) rfl
    ⟨_, _, _, rfl⟩ ⟨_, _, _, rfl⟩
  -- Nothing lies between the two updates, and right after the first the item is leased.
  obtain ⟨rfl, -⟩ := List.append_eq_nil_iff.mp split.symm
  exact absurd pending (by decide)

end StrategyLab
