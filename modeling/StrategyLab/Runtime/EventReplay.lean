import StrategyLab.Runtime.EventStore

/-! What one replay call delivers, records and moves, and what one append leaves alone. -/

namespace StrategyLab

open SQLiteEventStore

variable (projectionId : String)

/-- The position of a projection's checkpoint, when it has one. -/
def cursorPosition (store : SQLiteEventStore) : Option (String ×ₗ String) :=
  ((checkpoint store projectionId).bind store.durableEvents.find?).map (·.position)

/-- An event still lies ahead of a projection's checkpoint. -/
def Ahead (store : SQLiteEventStore) (event : DurableEvent) : Prop :=
  Page.Past (cursorPosition projectionId store) event.position

/-- A failure of the projection on the event is on record. -/
def Recorded (store : SQLiteEventStore) (event : DurableEvent) : Prop :=
  ∃ failure, store.replayFailures.find? (failureId projectionId event.eventId) = some failure ∧
    failure.projectionId = projectionId ∧ failure.eventId = event.eventId

/-- A checkpoint always names a stored event. -/
def CheckpointStored (store : SQLiteEventStore) : Prop :=
  ∀ eventId, checkpoint store projectionId = some eventId →
    ∃ event, store.durableEvents.find? eventId = some event

/-- The last event of a batch that the projection applied without raising. -/
def lastApplied (apply : DurableEvent → Bool → Option String) (events : List DurableEvent) :
    Option DurableEvent :=
  (events.filter fun event => apply event false = none).getLast?

variable {projectionId}

/-- Two failures of one projection share a key only when they are about one event. -/
theorem failureId_injective {left right : String}
    (same : failureId projectionId left = failureId projectionId right) : left = right := by
  simpa [failureId, toString, String.append_assoc, String.append_right_inj] using same

/-- The next events for a projection. -/
def batch (projectionId : String) (store : SQLiteEventStore) (limit : Int) : List DurableEvent :=
  Page.page DurableEvent.position store.durableEvents.rows (cursorPosition projectionId store)
    limit.toNat

/-- The loop hands every event of the batch to the projection once and in order. -/
theorem replay_fold_applied (projectionId : String) (apply : DurableEvent → Bool → Option String) (now : String)
    (events : List DurableEvent) (progress : Progress) :
    let final := events.foldl (replayEvent ⟨projectionId, apply⟩ false now) progress
    final.store.durableEvents = progress.store.durableEvents ∧
      final.applied = progress.applied ++ events.map fun event => (event, apply event false) := by
  induction events generalizing progress with
  | nil => simp
  | cons event rest ih =>
    have first : (replayEvent ⟨projectionId, apply⟩ false now progress event).store.durableEvents =
          progress.store.durableEvents ∧
        (replayEvent ⟨projectionId, apply⟩ false now progress event).applied =
          progress.applied ++ [(event, apply event false)] := by
      cases raised : apply event false <;> simp [replayEvent, raised]
    obtain ⟨events', applied⟩ := ih (replayEvent ⟨projectionId, apply⟩ false now progress event)
    simp only [List.foldl_cons, List.map_cons]
    exact ⟨events'.trans first.1, by rw [applied, first.2, List.append_assoc]; rfl⟩

/-- The loop leaves the checkpoint at the last event that did not raise. -/
theorem replay_fold_checkpoint (apply : DurableEvent → Bool → Option String) (now : String)
    (events : List DurableEvent) (progress : Progress) :
    checkpoint (events.foldl (replayEvent ⟨projectionId, apply⟩ false now) progress).store
        projectionId =
      ((lastApplied apply events).map (·.eventId)).or
        (checkpoint progress.store projectionId) := by
  induction events generalizing progress with
  | nil => simp [lastApplied]
  | cons event rest ih =>
    rw [List.foldl_cons, ih]
    cases raised : apply event false with
    | some errorType => simp [replayEvent, raised, lastApplied, checkpoint]
    | none =>
      -- A success sets the checkpoint, and any later success overrides it.
      cases later : lastApplied apply rest with
      | some last =>
        simp only [lastApplied] at later
        simp [lastApplied, raised, List.getLast?_cons, later]
      | none =>
        simp only [lastApplied] at later
        simp [replayEvent, raised, lastApplied, List.getLast?_cons, later, checkpoint]

/-- The loop records every failure of the batch and forgets no recorded one. -/
theorem replay_fold_recorded (apply : DurableEvent → Bool → Option String) (now : String)
    (events : List DurableEvent) (progress : Progress) (event : DurableEvent)
    (cause : Recorded projectionId progress.store event ∨
      event ∈ events ∧ apply event false ≠ none) :
    Recorded projectionId
      (events.foldl (replayEvent ⟨projectionId, apply⟩ false now) progress).store event := by
  induction events generalizing progress with
  | nil =>
    rcases cause with recorded | ⟨member, -⟩
    · exact recorded
    · simp at member
  | cons head rest ih =>
    rw [List.foldl_cons]
    apply ih
    cases raised : apply head false with
    | none =>
      rcases cause with recorded | ⟨member, failed⟩
      · exact Or.inl (by simpa [replayEvent, raised, Recorded] using recorded)
      · rcases List.mem_cons.mp member with rfl | later
        · exact absurd raised failed
        · exact Or.inr ⟨later, failed⟩
    | some errorType =>
      by_cases same : event.eventId = head.eventId
      · -- The failure just written is about this very event.
        left
        simp only [Recorded, replayEvent, raised, same]
        exact ⟨_, Table.find?_replace_self _ _, rfl, rfl⟩
      · rcases cause with ⟨failure, found, named⟩ | ⟨member, failed⟩
        · refine Or.inl ⟨failure, ?_, named⟩
          simp only [replayEvent, raised, Table.find?_replace]
          rw [if_neg fun key => same (failureId_injective key)]
          exact found
        · rcases List.mem_cons.mp member with rfl | later
          · exact absurd rfl same
          · exact Or.inr ⟨later, failed⟩

/-- What a replay call with a valid limit does to the store. -/
structure Delivers (projectionId : String) (store : SQLiteEventStore)
    (apply : DurableEvent → Bool → Option String) (limit : Int) (later : SQLiteEventStore)
    (applied : List (DurableEvent × Option String)) : Prop where
  /-- No event is added or lost. -/
  events : later.durableEvents = store.durableEvents
  /-- The projection is handed the next batch. -/
  calls : applied = (batch projectionId store limit).map fun event => (event, apply event false)
  /-- The checkpoint moves to the last event that did not raise. -/
  moves : checkpoint later projectionId =
    ((lastApplied apply (batch projectionId store limit)).map (·.eventId)).or
      (checkpoint store projectionId)
  /-- Recorded failures stay on record. -/
  keeps : ∀ event, Recorded projectionId store event → Recorded projectionId later event
  /-- Every failure of the batch is put on record. -/
  records : ∀ event ∈ batch projectionId store limit, apply event false ≠ none →
    Recorded projectionId later event

/-- With a stored checkpoint and a valid limit, reading after the checkpoint gives the batch. -/
theorem readAfter_checkpoint {store : SQLiteEventStore} {limit : Int}
    (stored : CheckpointStored projectionId store) (low : 1 ≤ limit) (high : limit ≤ 1000) :
    readAfter store (checkpoint store projectionId) limit =
      .ok (batch projectionId store limit) := by
  have valid : ¬(limit < 1 ∨ 1000 < limit) := by omega
  simp only [readAfter, if_neg valid, batch, cursorPosition]
  cases named : checkpoint store projectionId with
  | none => rfl
  | some eventId =>
    obtain ⟨event, found⟩ := stored eventId named
    simp only [found, Option.bind_some, Option.map_some]

/-- What one call can do to the store: nothing, append an event, or deliver a batch. -/
theorem store_step_cases {store : SQLiteEventStore} (op : StoreOp)
    (stored : CheckpointStored projectionId store) :
    ((storeMachine projectionId).next store op = store ∧
        ((storeMachine projectionId).answer store op).applied = [] ∧
        ∀ apply limit now, op = .replay apply limit now → ¬(1 ≤ limit ∧ limit ≤ 1000)) ∨
      (∃ event grown, op = .append event ∧ store.durableEvents.insert? event = some grown ∧
        (storeMachine projectionId).next store op = { store with durableEvents := grown } ∧
        ((storeMachine projectionId).answer store op).applied = []) ∨
      ∃ apply limit now, op = .replay apply limit now ∧
        Delivers projectionId store apply limit ((storeMachine projectionId).next store op)
          ((storeMachine projectionId).answer store op).applied := by
  cases op with
  | append event =>
    simp only [Machine.next, Machine.answer, storeMachine, call, append]
    split
    · exact Or.inl ⟨rfl, rfl, nofun⟩
    · cases built : store.durableEvents.insert? event with
      | none => exact Or.inl ⟨rfl, rfl, nofun⟩
      | some grown => exact Or.inr (Or.inl ⟨event, grown, rfl, built, rfl, rfl⟩)
  | replay apply limit now =>
    by_cases valid : 1 ≤ limit ∧ limit ≤ 1000
    · right
      right
      refine ⟨apply, limit, now, rfl, ?_⟩
      have batched := readAfter_checkpoint stored valid.1 valid.2
      simp only [Machine.next, Machine.answer, storeMachine, call, replay, batched, Prod.map,
        StoreAnswer.applied, id]
      obtain ⟨events, calls⟩ := replay_fold_applied projectionId apply now
        (batch projectionId store limit) ⟨store, 0, 0, checkpoint store projectionId, []⟩
      exact {
        events := events
        calls := calls
        moves := replay_fold_checkpoint apply now _ _
        keeps := fun event recorded => replay_fold_recorded apply now _ _ event (Or.inl recorded)
        records := fun event member failed =>
          replay_fold_recorded apply now _ _ event (Or.inr ⟨member, failed⟩) }
    · -- A limit out of range raises before anything is delivered.
      have refused : limit < 1 ∨ 1000 < limit := by omega
      have raised : readAfter store (checkpoint store projectionId) limit =
          .error (.valueError "replay batch size must be between 1 and 1000") := by
        simp only [readAfter, if_pos refused]
      left
      simp only [Machine.next, Machine.answer, storeMachine, call, replay, raised, Prod.map,
        StoreAnswer.applied, id]
      refine ⟨trivial, trivial, ?_⟩
      rintro _ _ _ ⟨⟩
      exact valid

variable {apply : DurableEvent → Bool → Option String}

/-- The event a replay leaves the checkpoint at is one of its batch, and did not raise. -/
theorem mem_of_lastApplied {events : List DurableEvent} {last : DurableEvent}
    (found : lastApplied apply events = some last) : last ∈ events ∧ apply last false = none := by
  have member := List.mem_of_getLast? found
  simpa using member

/-- A replay moves the cursor to the last event it applied, or leaves it where it was. -/
theorem Delivers.cursor {store later : SQLiteEventStore} {limit : Int}
    {applied : List (DurableEvent × Option String)}
    (delivers : Delivers projectionId store apply limit later applied) :
    cursorPosition projectionId later =
      ((lastApplied apply (batch projectionId store limit)).map (·.position)).or
        (cursorPosition projectionId store) := by
  simp only [cursorPosition, delivers.moves, delivers.events]
  cases moved : lastApplied apply (batch projectionId store limit) with
  | none => simp
  | some last =>
    have member := (Page.mem_of_page (mem_of_lastApplied moved).1).1
    simp [Table.find?_of_mem member]

/-- Every call keeps the checkpoint on a stored event. -/
theorem checkpointStored_step (store : SQLiteEventStore) (op : StoreOp)
    (stored : CheckpointStored projectionId store) :
    CheckpointStored projectionId ((storeMachine projectionId).next store op) := by
  rcases store_step_cases op stored with ⟨same, -⟩ | ⟨event, grown, -, built, next, -⟩ |
    ⟨apply, limit, now, -, delivers⟩
  · rwa [same]
  · intro eventId named
    rw [next] at named ⊢
    obtain ⟨old, found⟩ := stored eventId named
    exact ⟨old, Table.find?_insert?_of_found built found⟩
  · intro eventId named
    rw [delivers.moves] at named
    rw [delivers.events]
    cases moved : lastApplied apply (batch projectionId store limit) with
    | none =>
      rw [moved] at named
      exact stored eventId named
    | some last =>
      rw [moved] at named
      obtain rfl := Option.some.inj named
      exact ⟨last, Table.find?_of_mem (Page.mem_of_page (mem_of_lastApplied moved).1).1⟩

end StrategyLab
