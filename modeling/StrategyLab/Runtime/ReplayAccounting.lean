import Mathlib.Data.List.Induction
import StrategyLab.Runtime.EventReplay

/-! Replay accounting: what becomes of every stored event that a projection has not applied. -/

namespace StrategyLab

open SQLiteEventStore

variable (projectionId : String)

/-- Some call of the run applied the event without raising. -/
def AppliedIn (ops : List StoreOp) (event : DurableEvent) : Prop :=
  ∃ op answer, (op, answer) ∈ (storeMachine projectionId).answers .empty ops ∧
    (event, none) ∈ answer.applied

/-- The run appended the event when the checkpoint had already passed its position. -/
def AppendedBehind (ops : List StoreOp) (event : DurableEvent) : Prop :=
  ∃ before after, ops = before ++ .append event :: after ∧
    ((storeMachine projectionId).run .empty before).durableEvents.find? event.eventId = none ∧
    ¬Ahead projectionId ((storeMachine projectionId).run .empty before) event

/-- A schedule that ends in replay calls with a valid batch limit. -/
def EndsInReplays (schedule : Nat → StoreOp) : Prop :=
  ∃ n, ∀ k, n ≤ k → ∃ apply limit now,
    schedule k = .replay apply limit now ∧ 1 ≤ limit ∧ limit ≤ 1000

/-- Every event raises in finitely many calls of a schedule. -/
def RaisesFinitely (store : SQLiteEventStore) (schedule : Nat → StoreOp) : Prop :=
  ∀ event, ∃ n, ∀ k, n ≤ k → ∀ errorType,
    (event, some errorType) ∉ ((storeMachine projectionId).answerAt store schedule k).applied

/-- Every such schedule delivers the event in one of its calls. -/
def DeliveredLater (store : SQLiteEventStore) (event : DurableEvent) : Prop :=
  ∀ schedule, EndsInReplays schedule → RaisesFinitely projectionId store schedule →
    ∃ k outcome,
      (event, outcome) ∈ ((storeMachine projectionId).answerAt store schedule k).applied

/-- Every stored event that was never applied is delivered by some later replay. -/
def ReplayLosesNothing (ops : List StoreOp) : Prop :=
  ∀ event ∈ ((storeMachine projectionId).run .empty ops).durableEvents.rows,
    ¬AppliedIn projectionId ops event →
      DeliveredLater projectionId ((storeMachine projectionId).run .empty ops) event

/-- Every stored event that was never applied is ahead of the checkpoint and delivered later, or
its failure is on record, or it was appended behind the checkpoint. -/
def ReplayAccounts (ops : List StoreOp) : Prop :=
  ∀ event ∈ ((storeMachine projectionId).run .empty ops).durableEvents.rows,
    ¬AppliedIn projectionId ops event →
      let store := (storeMachine projectionId).run .empty ops
      (Ahead projectionId store event → DeliveredLater projectionId store event) ∧
        (¬Ahead projectionId store event →
          Recorded projectionId store event ∨ AppendedBehind projectionId ops event)

variable {projectionId}

variable {store : SQLiteEventStore}

/-- A position of the store belongs to one event only. -/
theorem position_injective {left right : DurableEvent}
    (leftStored : left ∈ store.durableEvents.rows) (rightStored : right ∈ store.durableEvents.rows)
    (same : left.position = right.position) : left = right := by
  have ids : left.eventId = right.eventId := congrArg (fun place => (ofLex place).2) same
  have found := Table.find?_of_mem leftStored
  rw [ids, Table.find?_of_mem rightStored] at found
  exact (Option.some.inj found).symm

variable {event : DurableEvent}

variable {apply : DurableEvent → Bool → Option String}
  {applied : List (DurableEvent × Option String)}

/-- A replay that overtakes an event has handed it to the projection. -/
theorem Delivers.overtaken {store later : SQLiteEventStore} {limit : Int}
    (delivers : Delivers projectionId store apply limit later applied)
    (member : event ∈ store.durableEvents.rows) (ahead : Ahead projectionId store event)
    (behind : ¬Ahead projectionId later event) : event ∈ batch projectionId store limit := by
  rw [Ahead, delivers.cursor] at behind
  cases moved : lastApplied apply (batch projectionId store limit) with
  | none =>
    rw [moved] at behind
    exact absurd ahead behind
  | some last =>
    -- The cursor now stands on a batch member at or after the event.
    rw [moved] at behind
    have listed := (mem_of_lastApplied moved).1
    simp only [Option.map_some, Option.some_or, Page.past_some, not_lt] at behind
    rcases lt_or_eq_of_le behind with before | same
    · exact Page.page_closed listed member ahead before
    · rwa [position_injective member (Page.mem_of_page listed).1 same]

/-- Every call keeps the checkpoint stored in any run from an empty store. -/
theorem checkpointStored_run (projectionId : String) (ops : List StoreOp) :
    CheckpointStored projectionId ((storeMachine projectionId).run .empty ops) := by
  have start : CheckpointStored projectionId SQLiteEventStore.empty := by
    intro eventId named
    simp [checkpoint, SQLiteEventStore.empty] at named
  exact (storeMachine projectionId).invariant checkpointStored_step ops start

/-- An appended event leaves the cursor where it was. -/
theorem cursorPosition_append
    {grown : Table DurableEvent.eventId} (stored : CheckpointStored projectionId store)
    (built : store.durableEvents.insert? event = some grown) :
    cursorPosition projectionId { store with durableEvents := grown } =
      cursorPosition projectionId store := by
  have same : checkpoint { store with durableEvents := grown } projectionId =
      checkpoint store projectionId := rfl
  simp only [cursorPosition, same]
  cases named : checkpoint store projectionId with
  | none => rfl
  | some eventId =>
    obtain ⟨cursor, found⟩ := stored eventId named
    rw [Option.bind_some, Option.bind_some, found, Table.find?_insert?_of_found built found]

/-- What a run applied, a longer run has applied. -/
theorem AppliedIn.append {ops more : List StoreOp}
    (applied : AppliedIn projectionId ops event) : AppliedIn projectionId (ops ++ more) event := by
  obtain ⟨op, answer, answered, member⟩ := applied
  refine ⟨op, answer, ?_, member⟩
  rw [Machine.answers_append]
  exact List.mem_append_left _ answered

/-- What a run appended behind the checkpoint, a longer run has appended there. -/
theorem AppendedBehind.append {ops more : List StoreOp}
    (late : AppendedBehind projectionId ops event) :
    AppendedBehind projectionId (ops ++ more) event := by
  obtain ⟨before, after, rfl, rest⟩ := late
  exact ⟨before, after ++ more, by simp, rest⟩

/-- A call whose answer shows the event applied makes it applied in the run. -/
theorem appliedIn_last {ops : List StoreOp} {op : StoreOp}
    (member : (event, none) ∈ ((storeMachine projectionId).answer
      ((storeMachine projectionId).run .empty ops) op).applied) :
    AppliedIn projectionId (ops ++ [op]) event := by
  refine ⟨op, _, ?_, member⟩
  rw [Machine.answers_append]
  exact List.mem_append_right _ List.mem_cons_self

/-- An event that is not ahead of the checkpoint was applied, recorded, or appended behind it. -/
theorem behind_accounted (ops : List StoreOp) :
    ∀ event ∈ ((storeMachine projectionId).run .empty ops).durableEvents.rows,
      ¬Ahead projectionId ((storeMachine projectionId).run .empty ops) event →
        AppliedIn projectionId ops event ∨
          Recorded projectionId ((storeMachine projectionId).run .empty ops) event ∨
          AppendedBehind projectionId ops event := by
  -- Follow the run call by call, looking at the last call each time.
  induction ops using List.reverseRecOn with
  | nil => simp [SQLiteEventStore.empty]
  | append_singleton before op ih =>
    intro event stored behind
    have cursorStored := checkpointStored_run projectionId before
    have final : (storeMachine projectionId).run .empty (before ++ [op]) =
        (storeMachine projectionId).next ((storeMachine projectionId).run .empty before) op := by
      rw [Machine.run_append]
      rfl
    rw [final] at stored behind ⊢
    -- An event that was already behind stays accounted for.
    have carried (store : SQLiteEventStore)
        (kept : Recorded projectionId ((storeMachine projectionId).run .empty before) event →
          Recorded projectionId store event)
        (was : event ∈ ((storeMachine projectionId).run .empty before).durableEvents.rows)
        (past : ¬Ahead projectionId ((storeMachine projectionId).run .empty before) event) :
        AppliedIn projectionId (before ++ [op]) event ∨ Recorded projectionId store event ∨
          AppendedBehind projectionId (before ++ [op]) event := by
      rcases ih event was past with applied | recorded | late
      · exact Or.inl applied.append
      · exact Or.inr (Or.inl (kept recorded))
      · exact Or.inr (Or.inr late.append)
    rcases store_step_cases op cursorStored with ⟨same, -⟩ | ⟨new, grown, rfl, built, next, -⟩ |
      ⟨apply, limit, now, rfl, delivers⟩
    · rw [same] at stored behind ⊢
      exact carried _ id stored behind
    · rw [next] at stored behind ⊢
      rw [Ahead, cursorPosition_append cursorStored built] at behind
      obtain ⟨fresh, rows⟩ := Table.insert?_eq_some_iff.mp built
      rw [rows, List.mem_append, List.mem_singleton] at stored
      rcases stored with old | rfl
      · exact carried _ id old behind
      · -- The event arrives now, and the checkpoint is already past its position.
        exact Or.inr (Or.inr ⟨before, [], rfl, fresh, behind⟩)
    · rw [delivers.events] at stored
      by_cases ahead : Ahead projectionId ((storeMachine projectionId).run .empty before) event
      · -- The checkpoint overtakes the event in this call, so the call delivers it.
        have listed := delivers.overtaken stored ahead behind
        cases raised : apply event false with
        | none =>
          left
          apply appliedIn_last
          rw [delivers.calls]
          exact List.mem_map.mpr ⟨event, listed, by rw [raised]⟩
        | some errorType =>
          right
          left
          exact delivers.records event listed (by rw [raised]; exact Option.some_ne_none _)
      · exact carried _ (delivers.keeps event) stored ahead

/-- A call leaves a stored event ahead of the checkpoint, or delivers it. -/
theorem ahead_step (op : StoreOp) (cursorStored : CheckpointStored projectionId store)
    (stored : event ∈ store.durableEvents.rows) (ahead : Ahead projectionId store event) :
    event ∈ ((storeMachine projectionId).next store op).durableEvents.rows ∧
      (Ahead projectionId ((storeMachine projectionId).next store op) event ∨
        ∃ outcome, (event, outcome) ∈ ((storeMachine projectionId).answer store op).applied) := by
  rcases store_step_cases op cursorStored with ⟨same, -⟩ | ⟨new, grown, -, built, next, -⟩ |
    ⟨apply, limit, now, -, delivers⟩
  · rw [same]
    exact ⟨stored, Or.inl ahead⟩
  · rw [next, Ahead, cursorPosition_append cursorStored built]
    refine ⟨?_, Or.inl ahead⟩
    rw [(Table.insert?_eq_some_iff.mp built).2]
    exact List.mem_append_left _ stored
  · rw [delivers.events]
    refine ⟨stored, ?_⟩
    by_cases still : Ahead projectionId ((storeMachine projectionId).next store op) event
    · exact Or.inl still
    · -- An event that is overtaken was part of the batch.
      right
      refine ⟨apply event false, ?_⟩
      rw [delivers.calls]
      exact List.mem_map.mpr ⟨event, delivers.overtaken stored ahead still, rfl⟩

/-- The number of stored events ahead of the checkpoint. -/
def backlog (projectionId : String) (store : SQLiteEventStore) : Nat :=
  store.durableEvents.rows.countP fun event =>
    Page.Past (cursorPosition projectionId store) event.position

/-- A replay in which no stored event raises shortens a backlog that is not empty. -/
theorem Delivers.backlog_lt {store later : SQLiteEventStore} {limit : Int}
    (delivers : Delivers projectionId store apply limit later applied) (valid : 1 ≤ limit)
    (stored : event ∈ store.durableEvents.rows) (ahead : Ahead projectionId store event)
    (quiet : ∀ other ∈ store.durableEvents.rows, ∀ errorType,
      (other, some errorType) ∉ applied) :
    backlog projectionId later < backlog projectionId store := by
  have room : 0 < limit.toNat := by omega
  have nonempty : batch projectionId store limit ≠ [] := Page.page_ne_nil room stored ahead
  have calm : ∀ other ∈ batch projectionId store limit, apply other false = none := by
    intro other listed
    cases raised : apply other false with
    | none => rfl
    | some errorType =>
      refine absurd ?_ (quiet other (Page.mem_of_page listed).1 errorType)
      rw [delivers.calls]
      exact List.mem_map.mpr ⟨other, listed, by rw [raised]⟩
  -- Nothing raises, so the checkpoint moves to the last event of the batch.
  have moved : lastApplied apply (batch projectionId store limit) =
      some ((batch projectionId store limit).getLast nonempty) := by
    rw [lastApplied, List.filter_eq_self.mpr (by simpa using calm),
      List.getLast?_eq_some_getLast nonempty]
  have last := Page.mem_of_page (List.getLast_mem nonempty)
  rw [backlog, delivers.cursor, delivers.events, moved, Option.map_some, Option.some_or]
  exact Page.countP_past_lt last.1 last.2

/-- What holds of each member of a list from some point on holds of all of them from some point. -/
theorem exists_common_start {α : Type*} {settled : α → Nat → Prop} (members : List α)
    (each : ∀ a ∈ members, ∃ n, ∀ k, n ≤ k → settled a k) :
    ∃ n, ∀ k, n ≤ k → ∀ a ∈ members, settled a k := by
  induction members with
  | nil => exact ⟨0, by simp⟩
  | cons head rest ih =>
    obtain ⟨first, fromFirst⟩ := each head List.mem_cons_self
    obtain ⟨second, fromSecond⟩ := ih fun a member => each a (List.mem_cons_of_mem _ member)
    refine ⟨max first second, fun k late a member => ?_⟩
    rcases List.mem_cons.mp member with rfl | member
    · exact fromFirst k (by omega)
    · exact fromSecond k (by omega) a member

/-- Replays neither add nor remove events. -/
theorem replays_keep_events {schedule : Nat → StoreOp} {n : Nat}
    (cursorStored : CheckpointStored projectionId store)
    (replays : ∀ k, n ≤ k → ∃ apply limit now, schedule k = .replay apply limit now) (k : Nat) :
    ((storeMachine projectionId).stateAt store schedule (n + k)).durableEvents =
      ((storeMachine projectionId).stateAt store schedule n).durableEvents := by
  induction k with
  | zero => rfl
  | succ k ih =>
    rw [← ih, ← Nat.add_assoc, Machine.stateAt_succ]
    have valid := (storeMachine projectionId).stateAt_invariant checkpointStored_step schedule
      cursorStored (n + k)
    obtain ⟨apply, limit, now, called⟩ := replays (n + k) (by omega)
    rcases store_step_cases (schedule (n + k)) valid with ⟨same, -⟩ | ⟨new, -, appended, -⟩ |
      ⟨_, _, _, -, delivers⟩
    · rw [same]
    · rw [called] at appended
      cases appended
    · exact delivers.events

/-- An event ahead of the checkpoint is delivered by every schedule of later replays. -/
theorem deliveredLater_of_ahead (cursorStored : CheckpointStored projectionId store)
    (stored : event ∈ store.durableEvents.rows) (ahead : Ahead projectionId store event) :
    DeliveredLater projectionId store event := by
  rintro schedule ⟨settled, replays⟩ raises
  by_contra never
  push Not at never
  have valid (k : Nat) := (storeMachine projectionId).stateAt_invariant checkpointStored_step
    schedule cursorStored k
  -- An event that is never delivered stays stored and ahead for ever.
  have waiting (k : Nat) :
      event ∈ ((storeMachine projectionId).stateAt store schedule k).durableEvents.rows ∧
        Ahead projectionId ((storeMachine projectionId).stateAt store schedule k) event := by
    induction k with
    | zero => exact ⟨stored, ahead⟩
    | succ k ih =>
      obtain ⟨member, still | ⟨outcome, delivered⟩⟩ := ahead_step (schedule k) (valid k) ih.1 ih.2
      · exact ⟨member, still⟩
      · exact absurd delivered (never k outcome)
  -- From some call on no stored event raises any more, and only replays are left.
  obtain ⟨healed, quiet⟩ := exists_common_start
    ((storeMachine projectionId).stateAt store schedule settled).durableEvents.rows
    fun other _ => raises other
  have shrinks (k : Nat) : backlog projectionId
        ((storeMachine projectionId).stateAt store schedule (settled + healed + k)) + k ≤
      backlog projectionId
        ((storeMachine projectionId).stateAt store schedule (settled + healed)) := by
    induction k with
    | zero => simp
    | succ k ih =>
      obtain ⟨apply, limit, now, called, low, high⟩ := replays (settled + healed + k) (by omega)
      obtain ⟨member, ahead⟩ := waiting (settled + healed + k)
      have events := replays_keep_events cursorStored
        (fun k late => (replays k late).imp fun _ => Exists.imp fun _ => Exists.imp fun _ => And.left)
        (healed + k)
      rw [← Nat.add_assoc] at events
      rcases store_step_cases (schedule (settled + healed + k)) (valid _) with
        ⟨-, -, refused⟩ | ⟨new, -, appended, -⟩ | ⟨_, _, _, same, delivers⟩
      · exact absurd ⟨low, high⟩ (refused apply limit now called)
      · rw [called] at appended
        cases appended
      · rw [called] at same
        cases same
        have fewer := delivers.backlog_lt low member ahead fun other listed errorType =>
          quiet _ (by omega) other (events ▸ listed) errorType
        rw [show settled + healed + (k + 1) = settled + healed + k + 1 by omega,
          Machine.stateAt_succ]
        omega
  have final := shrinks (backlog projectionId
    ((storeMachine projectionId).stateAt store schedule (settled + healed)) + 1)
  omega

/-- In every run each unapplied event is still to be delivered, or is accounted for. -/
theorem replay_accounts (projectionId : String) (ops : List StoreOp) :
    ReplayAccounts projectionId ops := by
  intro event stored unapplied
  refine ⟨deliveredLater_of_ahead (checkpointStored_run projectionId ops) stored, fun behind => ?_⟩
  rcases behind_accounted ops event stored behind with applied | recorded | late
  · exact absurd applied unapplied
  · exact Or.inl recorded
  · exact Or.inr late

/-- An event of the test stream, told apart by its id and its time. -/
def streamEvent (eventId occurredAt : String) : DurableEvent :=
  { eventId, eventType := "note", occurredAt, actorRef := "actor", correlationId := "correlation",
    causationId := none, scope := "scope", project := "project", strategy := "strategy",
    market := "market", payload := "{}", evidenceRefs := [], auditRefs := [],
    appendedAt := occurredAt }

/-- A projection raises once on the first of two events and applies the second. -/
def skippedFailure : List StoreOp :=
  [.append (streamEvent "event-1" "2026-07-18T00:00:01Z"),
    .append (streamEvent "event-2" "2026-07-18T00:00:02Z"),
    .replay (fun event _ => if event.eventId = "event-1" then some "ValueError" else none) 100
      "2026-07-18T00:00:03Z"]

/-- After the skipped failure a replay finds nothing left to deliver. -/
theorem skipped_failure_settled (apply : DurableEvent → Bool → Option String) (now : String) :
    let store := (storeMachine "projection-1").run .empty skippedFailure
    (storeMachine "projection-1").next store (.replay apply 100 now) = store ∧
      ((storeMachine "projection-1").answer store (.replay apply 100 now)).applied = [] :=
  ⟨rfl, rfl⟩

/-- The failed event is stored, was never applied, and is not delivered by any later replay. -/
theorem skipped_failure_lost : ¬ReplayLosesNothing "projection-1" skippedFailure := by
  intro losesNothing
  have calls : ((storeMachine "projection-1").answers .empty skippedFailure).flatMap
      (fun answered => answered.2.applied) =
        [(streamEvent "event-1" "2026-07-18T00:00:01Z", some "ValueError"),
          (streamEvent "event-2" "2026-07-18T00:00:02Z", none)] := rfl
  have unapplied : ¬AppliedIn "projection-1" skippedFailure
      (streamEvent "event-1" "2026-07-18T00:00:01Z") := by
    rintro ⟨op, answer, answered, member⟩
    have listed : (streamEvent "event-1" "2026-07-18T00:00:01Z", none) ∈
        ((storeMachine "projection-1").answers .empty skippedFailure).flatMap
          (fun answered => answered.2.applied) :=
      List.mem_flatMap.mpr ⟨(op, answer), answered, member⟩
    rw [calls] at listed
    exact absurd listed (by decide)
  -- From here on every replay finds the same store and delivers nothing.
  let schedule : Nat → StoreOp := fun _ => .replay (fun _ _ => none) 100 "2026-07-18T00:00:04Z"
  have still (k : Nat) : (storeMachine "projection-1").stateAt
      ((storeMachine "projection-1").run .empty skippedFailure) schedule k =
        (storeMachine "projection-1").run .empty skippedFailure := by
    induction k with
    | zero => rfl
    | succ k ih => rw [Machine.stateAt_succ, ih, (skipped_failure_settled _ _).1]
  have silent (k : Nat) : ((storeMachine "projection-1").answerAt
      ((storeMachine "projection-1").run .empty skippedFailure) schedule k).applied = [] := by
    rw [Machine.answerAt, still k, (skipped_failure_settled _ _).2]
  obtain ⟨k, outcome, delivered⟩ := losesNothing (streamEvent "event-1" "2026-07-18T00:00:01Z")
    (by decide) unapplied schedule ⟨0, fun k _ => ⟨_, _, _, rfl, by decide, by decide⟩⟩
    (fun event => ⟨0, fun k _ errorType => by rw [silent k]; exact List.not_mem_nil⟩)
  rw [silent k] at delivered
  exact absurd delivered List.not_mem_nil

end StrategyLab
