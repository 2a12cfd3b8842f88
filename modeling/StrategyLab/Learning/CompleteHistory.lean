import StrategyLab.Learning.ProductionLearning
import StrategyLab.Lib.Lines
import StrategyLab.Lib.Numeral

/-! The history of the learning memory: its versions, its creations, and what is audited of it. -/

namespace StrategyLab.ProductionLearning

open Learning (LearningRecordType)
open LearningStore

/-- The number of the current version of a lesson; it is zero where nothing was learned. -/
def LearningStore.currentVersion (store : LearningStore) (recordId : String) : Nat :=
  ((store.get? recordId).map (·.version)).getD 0

/-- The kept versions of a lesson in the order they were written. -/
def LearningStore.versionsOf (store : LearningStore) (recordId : String) : List VersionRow :=
  store.versions.rows.filter (·.recordId = recordId)

/-- When a lesson was created, as its column says. -/
def LearningStore.createdAt? (store : LearningStore) (recordId : String) : Option String :=
  (store.records.find? recordId).map (·.createdAt)

/-- An event tells of a version that is kept, and of the one before it. -/
structure Tells (store : LearningStore) (event : AuditEvent) : Prop where
  kept : ∃ row ∈ store.versions.rows,
    row.recordId = event.targetRef ∧ row.version = event.afterVersion
  before : event.beforeVersion =
    if event.afterVersion = 1 then none else some (event.afterVersion - 1)

/-- The history of a database. -/
structure HistoryIntact (store : LearningStore) : Prop where
  /-- The versions of a lesson are numbered from one to the current one, without gaps. -/
  numbered : ∀ recordId, (store.versionsOf recordId).map (·.version) =
    List.range' 1 (store.currentVersion recordId)
  /-- The current lesson is the version with its number. -/
  current : ∀ row ∈ store.records.rows, row.record.recordId = row.recordId ∧
    ∃ version ∈ store.versions.rows, version.recordId = row.recordId ∧
      version.version = row.record.version ∧ version.record = row.record
  /-- All versions of a lesson were created when it was. -/
  created : ∀ version ∈ store.versions.rows,
    store.createdAt? version.recordId = some version.record.createdAt
  /-- An event tells of a version. -/
  audited : ∀ event ∈ store.audit.rows, Tells store event
  /-- No two events tell of the same version. -/
  once : (store.audit.rows.map fun event => (event.targetRef, event.afterVersion)).Nodup

section Steps

variable {texts : LessonTexts} {store next : LearningStore} {record : LearningRecord}

/-- The name that an event has. -/
def eventIdOf (texts : LessonTexts) (event : AuditEvent) : String :=
  "audit:" ++ stableId texts [event.targetRef, toString event.afterVersion, event.timestamp]

/-- Texts that are cut at the last mark agree in both parts. -/
theorem split_end {mark : Char} {first second rest other : List Char} (left : mark ∉ rest)
    (right : mark ∉ other) (same : first ++ mark :: rest = second ++ mark :: other) :
    first = second ∧ rest = other := by
  have backwards := congrArg List.reverse same
  simp only [List.reverse_append, List.reverse_cons, List.append_assoc,
    List.singleton_append] at backwards
  obtain ⟨ends, fronts⟩ := Numeral.split_first (by rwa [List.mem_reverse])
    (by rwa [List.mem_reverse]) backwards
  exact ⟨List.reverse_inj.mp fronts, List.reverse_inj.mp ends⟩

/-- Events at times of the format have the same name only if they tell of the same version. -/
theorem same_of_eventIdOf {first second : AuditEvent} (clean : '|' ∉ first.timestamp.toList)
    (clean' : '|' ∉ second.timestamp.toList)
    (same : eventIdOf texts first = eventIdOf texts second) :
    (first.targetRef, first.afterVersion) = (second.targetRef, second.afterVersion) := by
  have joined := texts.collisionFree ((String.append_right_inj _).mp same)
  have chars := congrArg String.toList joined
  rw [String.toList_intercalate, String.toList_intercalate] at chars
  have bar : "|".toList = ['|'] := rfl
  simp only [bar, List.map_cons, List.map_nil, Lines.intercalate_cons_cons,
    List.intercalate_singleton] at chars
  rw [← List.cons_append, ← List.append_assoc, ← List.cons_append, ← List.append_assoc] at chars
  -- The time comes last, and the number before it.
  obtain ⟨fronts, _⟩ := split_end clean clean' chars
  obtain ⟨targets, versions⟩ := Numeral.split_last (by decide) fronts
  rw [String.toList_inj.mp targets, versions]

/-- A lesson is one version further: its version is kept, and it is the current one. -/
structure Appended (store : LearningStore) (record : LearningRecord) (next : LearningStore) :
    Prop where
  versions : next.versions.rows =
    store.versions.rows ++ [⟨record.recordId, record.version, record, record.updatedAt⟩]
  audit : next.audit = store.audit
  records : ∀ recordId, next.records.find? recordId =
    if recordId = record.recordId then
      some ⟨record.recordId, record, (store.createdAt? recordId).getD record.createdAt⟩
    else store.records.find? recordId

/-- A row whose key is free comes last. -/
theorem rows_insert_of_free {κ ρ : Type} [DecidableEq κ] {key : ρ → κ} {table : Table key} {row : ρ}
    (free : table.find? (key row) = none) :
    ((table.insert? row).getD table).rows = table.rows ++ [row] := by
  cases built : table.insert? row with
  | none =>
    obtain ⟨old, found⟩ := Table.insert?_eq_none_iff.mp built
    rw [free] at found
    cases found
  | some grown => exact (Table.insert?_eq_some_iff.mp built).2

/-- The first version of a lesson is written. -/
theorem appended_insert (free : store.records.find? record.recordId = none)
    (unkept : store.versions.find? (record.recordId, record.version) = none) :
    Appended store record (store.writeCurrent record true) where
  versions := rows_insert_of_free unkept
  audit := rfl
  records recordId := by
    change ((store.records.insert? _).getD store.records).find? recordId = _
    rw [Table.find?_getD_insert?]
    by_cases same : recordId = record.recordId
    · rw [if_pos same, if_pos same, same, LearningStore.createdAt?, free]
      rfl
    · rw [if_neg same, if_neg same, Option.or_none]

/-- A further version of a lesson is written. -/
theorem appended_update {row : LearningRow} (found : store.records.find? record.recordId = some row)
    (unkept : store.versions.find? (record.recordId, record.version) = none) :
    Appended store record (store.writeCurrent record false) where
  versions := rows_insert_of_free unkept
  audit := rfl
  records recordId := by
    change (store.records.update (·.recordId = record.recordId)
      (fun row => { row with record }) fun _ => rfl).find? recordId = _
    rw [Table.find?_update]
    by_cases same : recordId = record.recordId
    · rw [if_pos same, same, LearningStore.createdAt?, found]
      have named := Table.key_of_find? found
      simp [named]
    · rw [if_neg same]
      cases there : store.records.find? recordId with
      | none => rfl
      | some other =>
        have named := Table.key_of_find? there
        simp [named, same]

variable {lesson : Lesson} {now : String}

/-- The record of a lesson, if it can be made, is the next version of what there was. -/
theorem record_eq_some {previous : Option LearningRecord}
    (built : lesson.record texts previous now = some record) :
    record.recordId = lesson.recordId ∧ record.material = lesson.material ∧
      record.version = (previous.map (·.version)).getD 0 + 1 ∧
      record.createdAt = (previous.map (·.createdAt)).getD now ∧ '|' ∉ now.toList := by
  unfold Lesson.record at built
  obtain ⟨dueAt, due, built⟩ := Option.bind_eq_some_iff.mp built
  split at built
  · cases built
  · obtain rfl := Option.some.inj built
    exact ⟨rfl, rfl, rfl, rfl, texts.dueAtDays_clean now lesson.days (by rw [due]; rfl)⟩

/-- A number after the current one is not kept yet. -/
theorem HistoryIntact.unkept (intact : HistoryIntact store) (recordId : String) :
    store.versions.find? (recordId, store.currentVersion recordId + 1) = none := by
  rw [Table.find?_eq_none_iff]
  rintro row member same
  obtain ⟨named, number⟩ := Prod.mk.inj same
  have listed : row.version ∈ (store.versionsOf recordId).map (·.version) :=
    List.mem_map.mpr ⟨row, List.mem_filter.mpr ⟨member, by simpa using named⟩, rfl⟩
  rw [intact.numbered, List.mem_range'_1] at listed
  omega

/-- A lesson is written as its next version or not at all. -/
theorem upsert_cases (intact : HistoryIntact store)
    (built : lesson.record texts (store.get? lesson.recordId) now = some record) :
    store.upsert texts record = none ∨
      ∃ next, store.upsert texts record = some next ∧ Appended store record next := by
  obtain ⟨named, _, version, _⟩ := record_eq_some built
  rw [← named] at version
  have unkept := intact.unkept record.recordId
  rw [LearningStore.currentVersion, ← version] at unkept
  unfold LearningStore.upsert
  cases found : store.records.find? record.recordId with
  | none =>
    have missing : store.get? record.recordId = none := by rw [LearningStore.get?, found]; rfl
    rw [missing]
    exact Or.inr ⟨_, rfl, appended_insert found unkept⟩
  | some row =>
    have there : store.get? record.recordId = some row.record := by
      rw [LearningStore.get?, found]; rfl
    rw [there] at version ⊢
    dsimp only
    split
    · exact Or.inl rfl
    · -- The engine has counted the version already.
      have later : ¬record.version ≤ row.record.version := by
        simp only [Option.map_some, Option.getD_some] at version
        omega
      rw [if_neg later]
      exact Or.inr ⟨_, rfl, appended_update found unkept⟩

variable {state after : LearningState}

/-- A lesson has been written, and the event of it is still to be committed. -/
structure Writes (texts : LessonTexts) (state : LearningState) (record : LearningRecord)
    (after : LearningState) : Prop where
  appended : Appended state.store record after.store
  version : record.version = state.store.currentVersion record.recordId + 1
  createdAt : record.createdAt =
    ((state.store.get? record.recordId).map (·.createdAt)).getD state.now
  clean : '|' ∉ state.now.toList
  pending : after.pending =
    some (auditFor texts record (state.store.get? record.recordId) state.now)

/-- The current lesson after it was written. -/
theorem Appended.get? (appended : Appended store record next) :
    next.get? record.recordId = some record := by
  rw [LearningStore.get?, appended.records, if_pos rfl]
  rfl

/-- Going on with a lesson writes its next version or leaves the database as it is. -/
theorem learn_cases (intact : HistoryIntact state.store) (work : Work) (rest : List Work) :
    ((state.learn texts work rest).2.store = state.store ∧
        (state.learn texts work rest).2.pending = state.pending) ∨
      ∃ record, Writes texts state record (state.learn texts work rest).2 := by
  unfold LearningState.learn
  split
  · exact Or.inl ⟨rfl, rfl⟩
  · rename_i lesson _
    dsimp only
    cases built : lesson.record texts (state.store.get? lesson.recordId) state.now with
    | none => exact Or.inl ⟨rfl, rfl⟩
    | some record =>
      obtain ⟨named, _, version, createdAt, clean⟩ := record_eq_some built
      dsimp only
      rcases upsert_cases intact built with same | ⟨next, wrote, appended⟩
      · rw [same]
        exact Or.inl ⟨rfl, rfl⟩
      · rw [wrote]
        rw [← named] at version createdAt ⊢
        refine Or.inr ⟨record, appended, version, createdAt, clean, ?_⟩
        dsimp only
        rw [appended.get?]
        rfl

/-- What holds between the steps: the names of events tell them apart, and a pending event tells of
a version that no other event tells of. -/
structure Consistent (texts : LessonTexts) (state : LearningState) : Prop
    extends HistoryIntact state.store where
  named : ∀ event ∈ state.store.audit.rows,
    event.eventId = eventIdOf texts event ∧ '|' ∉ event.timestamp.toList
  pendingTells : ∀ event, state.pending = some event → Tells state.store event
  pendingNamed : ∀ event, state.pending = some event →
    event.eventId = eventIdOf texts event ∧ '|' ∉ event.timestamp.toList
  pendingFirst : ∀ event, state.pending = some event → (event.targetRef, event.afterVersion) ∉
    state.store.audit.rows.map fun event => (event.targetRef, event.afterVersion)

variable {event : AuditEvent}

/-- What an event tells goes on to hold while versions are added. -/
theorem Tells.appended (tells : Tells store event)
    (appended : Appended store record next) : Tells next event := by
  obtain ⟨⟨row, member, named, number⟩, before⟩ := tells
  refine ⟨⟨row, ?_, named, number⟩, before⟩
  rw [appended.versions]
  exact List.mem_append_left _ member

/-- The current number of the lesson that is written, and those of the others. -/
theorem Appended.currentVersion (appended : Appended store record next) (recordId : String) :
    next.currentVersion recordId =
      if recordId = record.recordId then record.version else store.currentVersion recordId := by
  unfold LearningStore.currentVersion LearningStore.get?
  rw [appended.records]
  split <;> rfl

/-- The creation of a lesson stays as it is, and that of a new one is its own. -/
theorem Appended.createdAt? (appended : Appended store record next) (recordId : String) :
    next.createdAt? recordId = (store.createdAt? recordId).or
      (if recordId = record.recordId then some record.createdAt else none) := by
  unfold LearningStore.createdAt?
  rw [appended.records]
  split
  · unfold LearningStore.createdAt?
    cases store.records.find? recordId <;> rfl
  · rw [Option.or_none]

/-- The column of a lesson says when its current version was created. -/
theorem HistoryIntact.createdAt?_eq (intact : HistoryIntact store) {row : LearningRow}
    (member : row ∈ store.records.rows) :
    store.createdAt? row.recordId = some row.record.createdAt := by
  obtain ⟨_, version, kept, named, _, equal⟩ := intact.current row member
  rw [← equal, ← named]
  exact intact.created version kept

/-- The next version keeps the history intact. -/
theorem HistoryIntact.appended (intact : HistoryIntact store)
    (appended : Appended store record next)
    (version : record.version = store.currentVersion record.recordId + 1)
    (createdAt : ∀ old, store.get? record.recordId = some old → record.createdAt = old.createdAt) :
    HistoryIntact next where
  numbered recordId := by
    unfold LearningStore.versionsOf
    rw [appended.versions, List.filter_append, List.map_append, appended.currentVersion]
    have before := intact.numbered recordId
    unfold LearningStore.versionsOf at before
    rw [before]
    by_cases same : recordId = record.recordId
    · rw [if_pos same, version, List.range'_1_concat, List.filter_singleton, ← same]
      simp [same, Nat.add_comm]
    · rw [if_neg same, List.filter_singleton]
      simp [Ne.symm same]
  current row member := by
    have found := appended.records row.recordId
    rw [Table.find?_of_mem member] at found
    rw [appended.versions]
    by_cases same : row.recordId = record.recordId
    · rw [if_pos same] at found
      have equal : row.record = record := congrArg LearningRow.record (Option.some.inj found)
      rw [equal, same]
      exact ⟨rfl, _, List.mem_append_right _ (List.mem_singleton_self _), rfl, rfl, rfl⟩
    · rw [if_neg same] at found
      obtain ⟨named, old, inside, rest⟩ :=
        intact.current row (Table.find?_eq_some_iff.mp found.symm).1
      exact ⟨named, old, List.mem_append_left _ inside, rest⟩
  created kept member := by
    rw [appended.versions] at member
    rcases List.mem_append.mp member with before | new
    · rw [appended.createdAt?, intact.created kept before]
      rfl
    · rw [List.mem_singleton.mp new]
      dsimp only
      rw [appended.createdAt?, if_pos rfl]
      cases found : store.records.find? record.recordId with
      | none => rw [LearningStore.createdAt?, found]; rfl
      | some row =>
        -- The next version takes over the creation of the one before.
        have named := Table.key_of_find? found
        have old := intact.createdAt?_eq (Table.find?_eq_some_iff.mp found).1
        rw [named] at old
        rw [old, createdAt row.record (by rw [LearningStore.get?, found]; rfl)]
        rfl
  audited event member := by
    rw [appended.audit] at member
    exact (intact.audited event member).appended appended
  once := by
    rw [appended.audit]
    exact intact.once

/-- Versions are counted from one. -/
theorem HistoryIntact.version_pos (intact : HistoryIntact store) {version : VersionRow}
    (kept : version ∈ store.versions.rows) : 1 ≤ version.version := by
  have listed : version.version ∈ (store.versionsOf version.recordId).map (·.version) :=
    List.mem_map.mpr ⟨version, List.mem_filter.mpr ⟨kept, by simp⟩, rfl⟩
  rw [intact.numbered, List.mem_range'_1] at listed
  exact listed.1

section

variable (consistent : Consistent texts state)

include consistent

/-- What was written last keeps everything consistent. -/
theorem Consistent.written (writes : Writes texts state record after) : Consistent texts after := by
  have kept : (⟨record.recordId, record.version, record, record.updatedAt⟩ : VersionRow) ∈
      after.store.versions.rows := by
    rw [writes.appended.versions]
    exact List.mem_append_right _ (List.mem_singleton_self _)
  refine ⟨?_, ?_, ?_, ?_, ?_⟩
  · apply consistent.toHistoryIntact.appended writes.appended writes.version
    intro old found
    rw [writes.createdAt, found]
    rfl
  · rw [writes.appended.audit]
    exact consistent.named
  · intro event waits
    rw [writes.pending] at waits
    obtain rfl := Option.some.inj waits
    refine ⟨⟨_, kept, rfl, rfl⟩, ?_⟩
    change (state.store.get? record.recordId).map (·.version) =
      if record.version = 1 then none else some (record.version - 1)
    have number := writes.version
    rw [LearningStore.currentVersion] at number
    cases found : state.store.get? record.recordId with
    | none =>
      rw [found] at number
      have first : record.version = 1 := number
      rw [if_pos first]
      rfl
    | some old =>
      rw [found] at number
      -- The version before was counted from one.
      obtain ⟨row, there, rfl⟩ := Option.map_eq_some_iff.mp found
      obtain ⟨_, version, before, _, same, _⟩ :=
        consistent.current row (Table.find?_eq_some_iff.mp there).1
      have positive := consistent.version_pos before
      simp only [Option.map_some, Option.getD_some] at number ⊢
      rw [if_neg (by omega), number, Nat.add_sub_cancel]
  · intro event waits
    rw [writes.pending] at waits
    obtain rfl := Option.some.inj waits
    exact ⟨rfl, writes.clean⟩
  · intro event waits taken
    rw [writes.pending] at waits
    obtain rfl := Option.some.inj waits
    rw [writes.appended.audit] at taken
    obtain ⟨other, member, same⟩ := List.mem_map.mp taken
    obtain ⟨target, number⟩ := Prod.mk.inj same
    -- Another event would tell of a version that was not kept before.
    obtain ⟨row, old, named, version⟩ := (consistent.audited other member).kept
    have unkept := consistent.unkept record.recordId
    rw [← writes.version, Table.find?_eq_none_iff] at unkept
    exact unkept row old (by rw [named, version, target, number]; rfl)

/-- The event that is committed has a name of its own. -/
theorem Consistent.audit_rows (waits : state.pending = some event) :
    (state.store.appendAudit event).audit.rows = state.store.audit.rows ++ [event] := by
  apply rows_insert_of_free
  rw [Table.find?_eq_none_iff]
  intro other member same
  obtain ⟨name, clean⟩ := consistent.pendingNamed event waits
  obtain ⟨name', clean'⟩ := consistent.named other member
  rw [name, name'] at same
  exact consistent.pendingFirst event waits
    (List.mem_map.mpr ⟨other, member, same_of_eventIdOf clean' clean same⟩)

/-- An event that is committed keeps everything consistent. -/
theorem Consistent.committed (waits : state.pending = some event) : Consistent texts
      { state with store := state.store.appendAudit event, pending := none } := by
  have rows := consistent.audit_rows waits
  have tells {told : AuditEvent} (before : Tells state.store told) :
      Tells (state.store.appendAudit event) told := ⟨before.kept, before.before⟩
  refine ⟨⟨consistent.numbered, consistent.current, consistent.created, ?_, ?_⟩, ?_,
    fun _ => nofun, fun _ => nofun, fun _ => nofun⟩
  · intro told member
    rw [rows] at member
    rcases List.mem_append.mp member with before | new
    · exact tells (consistent.audited told before)
    · rw [List.mem_singleton.mp new]
      exact tells (consistent.pendingTells event waits)
  · rw [rows, List.map_append, List.nodup_append]
    refine ⟨consistent.once, List.nodup_singleton _, ?_⟩
    intro pair member other single same
    rw [same, List.mem_singleton.mp single] at member
    exact consistent.pendingFirst event waits member
  · intro told member
    rw [rows] at member
    rcases List.mem_append.mp member with before | new
    · exact consistent.named told before
    · rw [List.mem_singleton.mp new]
      exact consistent.pendingNamed event waits

/-- The database and its pending event are all that has to be consistent. -/
theorem Consistent.of_same (store : after.store = state.store)
    (pending : after.pending = state.pending ∨ after.pending = none) :
    Consistent texts after := by
  have waits (event : AuditEvent) (there : after.pending = some event) :
      state.pending = some event := by
    rcases pending with same | gone
    · rwa [same] at there
    · rw [gone] at there
      cases there
  refine ⟨store ▸ consistent.toHistoryIntact, store ▸ consistent.named, ?_, ?_, ?_⟩
  · intro event there
    exact store ▸ consistent.pendingTells event (waits event there)
  · intro event there
    exact consistent.pendingNamed event (waits event there)
  · intro event there
    exact store ▸ consistent.pendingFirst event (waits event there)

end

/-- Starting a call changes neither the database nor what is pending. -/
theorem call_same (state : LearningState) (queue : List Work) (now : String) :
    (state.call queue now).store = state.store ∧
      (state.call queue now).pending = state.pending := by
  unfold LearningState.call
  split <;> exact ⟨rfl, rfl⟩

/-- What one step does to the database and to what is pending. -/
theorem step_cases (consistent : Consistent texts state) (step : LearningStep) :
    let after := (learningMachine texts).next state step
    (after.store = state.store ∧ (after.pending = state.pending ∨
        step = .crash ∧ after.pending = none)) ∨
      (∃ event, state.pending = some event ∧ after.store = state.store.appendAudit event ∧
        after.pending = none) ∨
      ∃ record, state.pending = none ∧ Writes texts state record after := by
  cases step with
  | learnCandidate missionId market candidate now =>
    obtain ⟨store, pending⟩ := call_same state [.candidate missionId market candidate] now
    exact Or.inl ⟨store, Or.inl pending⟩
  | syncOperationalFeedback feedback now =>
    cases feedback with
    | none =>
      obtain ⟨store, pending⟩ := call_same state [] now
      exact Or.inl ⟨store, Or.inl pending⟩
    | some feedback =>
      obtain ⟨store, pending⟩ := call_same state
        (feedback.strategyPerformance.map (.strategy feedback) ++ [.execution feedback]) now
      exact Or.inl ⟨store, Or.inl pending⟩
  | advance =>
    cases waits : state.pending with
    | some event =>
      refine Or.inr (Or.inl ⟨event, rfl, ?_, ?_⟩) <;>
        simp [Machine.next, learningMachine, LearningState.step, waits]
    | none =>
      cases queued : state.queue with
      | nil =>
        refine Or.inl ⟨?_, Or.inl ?_⟩ <;>
          simp [Machine.next, learningMachine, LearningState.step, waits, queued]
      | cons work rest =>
        have moves : (learningMachine texts).next state .advance =
            (state.learn texts work rest).2 := by
          simp [Machine.next, learningMachine, LearningState.step, waits, queued]
        rw [moves]
        rcases learn_cases consistent.toHistoryIntact work rest with ⟨store, pending⟩ | writes
        · exact Or.inl ⟨store, Or.inl (pending.trans waits)⟩
        · obtain ⟨record, writes⟩ := writes
          exact Or.inr (Or.inr ⟨record, rfl, writes⟩)
  | crash => exact Or.inl ⟨rfl, Or.inr ⟨rfl, rfl⟩⟩

/-- Every step keeps everything consistent. -/
theorem consistent_step (consistent : Consistent texts state) (step : LearningStep) :
    Consistent texts ((learningMachine texts).next state step) := by
  rcases step_cases consistent step with ⟨store, pending⟩ | committed | written
  · exact consistent.of_same store (pending.imp id And.right)
  · obtain ⟨event, waits, store, pending⟩ := committed
    exact (consistent.committed waits).of_same store (Or.inl pending)
  · obtain ⟨record, _, writes⟩ := written
    exact consistent.written writes

/-- Everything is consistent in the beginning. -/
theorem consistent_initial : Consistent texts .initial :=
  ⟨⟨fun _ => rfl, nofun, nofun, nofun, List.nodup_nil⟩, nofun, nofun, nofun, nofun⟩

/-- Everything is consistent after any steps. -/
theorem consistent_run (steps : List LearningStep) :
    Consistent texts ((learningMachine texts).run .initial steps) := by
  have kept (state : LearningState) (step : LearningStep) (before : Consistent texts state) :
      Consistent texts ((learningMachine texts).next state step) := consistent_step before step
  exact (learningMachine texts).invariant kept steps consistent_initial

variable {recordId createdAt : String}

/-- No step changes when a lesson was created. -/
theorem createdAt?_step (consistent : Consistent texts state) (step : LearningStep)
    (created : state.store.createdAt? recordId = some createdAt) :
    ((learningMachine texts).next state step).store.createdAt? recordId = some createdAt := by
  rcases step_cases consistent step with ⟨store, _⟩ | committed | written
  · rwa [store]
  · obtain ⟨event, _, store, _⟩ := committed
    rw [store]
    exact created
  · obtain ⟨record, _, writes⟩ := written
    rw [writes.appended.createdAt?, created, Option.some_or]

/-- No steps change when a lesson was created. -/
theorem createdAt?_run (consistent : Consistent texts state) (steps : List LearningStep)
    (created : state.store.createdAt? recordId = some createdAt) :
    ((learningMachine texts).run state steps).store.createdAt? recordId = some createdAt := by
  induction steps generalizing state with
  | nil => exact created
  | cons step rest ih =>
    exact ih (consistent_step consistent step) (createdAt?_step consistent step created)

/-- A process stops only where no event waits to be committed. -/
def StopsBetweenWrites (state : LearningState) (step : LearningStep) : Prop :=
  step = .crash → state.pending = none

/-- Every version has an event that tells of it, committed or pending. -/
def Audited (state : LearningState) : Prop :=
  ∀ version ∈ state.store.versions.rows, ∃ event ∈ state.store.audit.rows ++ state.pending.toList,
    event.targetRef = version.recordId ∧ event.afterVersion = version.version

/-- A step that stops no write leaves every version with its event. -/
theorem audited_step (consistent : Consistent texts state) (step : LearningStep)
    (stops : StopsBetweenWrites state step) (audited : Audited state) :
    Audited ((learningMachine texts).next state step) := by
  intro version kept
  rcases step_cases consistent step with ⟨store, pending⟩ | committed | written
  · have same : ((learningMachine texts).next state step).pending = state.pending := by
      rcases pending with same | ⟨crashed, gone⟩
      · exact same
      · rw [gone, stops crashed]
    rw [store] at kept ⊢
    rw [same]
    exact audited version kept
  · obtain ⟨event, waits, store, pending⟩ := committed
    rw [store] at kept ⊢
    rw [pending, consistent.audit_rows waits]
    have before := audited version kept
    rw [waits] at before
    simpa using before
  · obtain ⟨record, idle, writes⟩ := written
    rw [writes.appended.versions] at kept
    rw [writes.appended.audit, writes.pending]
    rcases List.mem_append.mp kept with old | new
    · obtain ⟨event, member, tells⟩ := audited version old
      rw [idle] at member
      simp only [Option.toList_none, List.append_nil] at member
      exact ⟨event, List.mem_append_left _ member, tells⟩
    · rw [List.mem_singleton.mp new]
      exact ⟨_, List.mem_append_right _ (List.mem_singleton_self _), rfl, rfl⟩

/-! ### Learning a candidate again -/

variable {missionId market : String} {candidate : StrategyCandidateRecord}

/-- The current lesson of a candidate is the one that would be learned of it now. -/
def Known (texts : LessonTexts) (store : LearningStore) (missionId market : String)
    (candidate : StrategyCandidateRecord) : Prop :=
  ∀ lesson, (Work.candidate missionId market candidate).lesson texts store = some lesson →
    ∃ old, store.get? (candidateRecordId texts missionId candidate.candidateId) = some old ∧
      texts.materialKey old.material = texts.materialKey lesson.material

/-- A lesson of a candidate is recorded under the name of the candidate. -/
theorem recordId_of_lesson
    (learned : (Work.candidate missionId market candidate).lesson texts store = some lesson) :
    lesson.recordId = candidateRecordId texts missionId candidate.candidateId := by
  unfold Work.lesson candidateLesson at learned
  dsimp only at learned
  split at learned
  · cases learned
  · obtain rfl := Option.some.inj learned
    rfl

/-- The opposite lessons are the same where only the lesson of the candidate differs. -/
theorem conflictPenalty_appended (market : String) (intact : HistoryIntact store)
    (intact' : HistoryIntact next) (appended : Appended store record next)
    (named : record.recordId = candidateRecordId texts missionId candidate.candidateId) :
    conflictPenalty texts next missionId market candidate =
      conflictPenalty texts store missionId market candidate := by
  have rows_nodup (table : Table LearningRow.recordId) : table.rows.Nodup :=
    List.Nodup.of_map _ table.distinct
  have opposite (family : String) (recordType : LearningRecordType) :
      (oppositeFamilyRecords next family market recordType record.recordId).length =
        (oppositeFamilyRecords store family market recordType record.recordId).length := by
    unfold oppositeFamilyRecords
    dsimp only
    split
    · rfl
    · rw [List.filter_map, List.filter_map, List.length_map, List.length_map]
      apply List.Perm.length_eq
      apply (List.perm_ext_iff_of_nodup ((rows_nodup _).filter _) ((rows_nodup _).filter _)).mpr
      intro row
      rw [List.mem_filter, List.mem_filter, and_congr_left_iff]
      intro meets
      -- A row of another name is the same before and after.
      have apart : row.record.recordId ≠ record.recordId := by
        simp only [Function.comp_apply, Bool.and_eq_true, decide_eq_true_eq] at meets
        exact meets.2
      have lookup (member : row ∈ next.records.rows ∨ row ∈ store.records.rows) :
          next.records.find? row.recordId = store.records.find? row.recordId := by
        rw [appended.records, if_neg]
        intro same
        rcases member with there | there
        · exact apart ((intact'.current row there).1.trans same)
        · exact apart ((intact.current row there).1.trans same)
      constructor
      · intro there
        have found := Table.find?_of_mem there
        rw [lookup (Or.inl there)] at found
        exact (Table.find?_eq_some_iff.mp found).1
      · intro there
        have found := Table.find?_of_mem there
        rw [← lookup (Or.inr there)] at found
        exact (Table.find?_eq_some_iff.mp found).1
  unfold conflictPenalty
  dsimp only
  rw [← named, opposite]

/-- What was learned of a candidate, if nothing was raised, is known. -/
theorem known_of_learn (consistent : Consistent texts state) {rest : List Work}
    (returned : (state.learn texts (.candidate missionId market candidate) rest).1 ≠ .raised) :
    Known texts (state.learn texts (.candidate missionId market candidate) rest).2.store missionId
      market candidate := by
  have intact := consistent.toHistoryIntact
  cases learned : (Work.candidate missionId market candidate).lesson texts state.store with
  | none =>
    -- A candidate without evidence has no lesson, whatever the others say.
    intro lesson other
    exfalso
    unfold Work.lesson candidateLesson at learned other
    dsimp only at learned other
    split at learned
    · rename_i bare
      rw [if_pos bare] at other
      cases other
    · cases learned
  | some lesson =>
    have named := recordId_of_lesson learned
    unfold LearningState.learn at returned ⊢
    rw [learned] at returned ⊢
    dsimp only at returned ⊢
    cases built : lesson.record texts (state.store.get? lesson.recordId) state.now with
    | none =>
      rw [built] at returned
      exact absurd rfl returned
    | some record =>
      obtain ⟨name, material, version, createdAt, _⟩ := record_eq_some built
      dsimp only
      rcases upsert_cases intact built with same | ⟨next, wrote, appended⟩
      · rw [same]
        dsimp only
        intro again known
        obtain rfl := Option.some.inj (learned.symm.trans known)
        -- The version is left as it is, because it is the same in what is compared.
        unfold LearningStore.upsert at same
        cases found : state.store.get? record.recordId with
        | none =>
          rw [found] at same
          cases same
        | some old =>
          rw [found] at same
          dsimp only at same
          split at same
          · rename_i equal
            rw [← named, ← name]
            exact ⟨old, found, by rw [equal, material]⟩
          · split at same <;> cases same
      · rw [wrote]
        dsimp only
        intro again known
        rw [← name] at version createdAt
        have intact' : HistoryIntact next := by
          apply intact.appended appended version
          intro old found
          rw [createdAt, found]
          rfl
        have penalty := conflictPenalty_appended market intact intact' appended
          (name.trans named)
        unfold Work.lesson at learned known
        dsimp only at learned known
        rw [penalty, learned] at known
        obtain rfl := Option.some.inj known
        rw [← named, ← name]
        exact ⟨record, appended.get?, by rw [material]⟩

/-- What is known is not written again. -/
theorem learn_of_known (known : Known texts state.store missionId market candidate)
    (rest : List Work) :
    (state.learn texts (.candidate missionId market candidate) rest).2.store = state.store ∧
      (state.learn texts (.candidate missionId market candidate) rest).2.pending =
        state.pending := by
  unfold LearningState.learn
  split
  · exact ⟨rfl, rfl⟩
  · rename_i lesson learned
    obtain ⟨old, found, same⟩ := known lesson learned
    have named := recordId_of_lesson learned
    dsimp only
    cases built : lesson.record texts (state.store.get? lesson.recordId) state.now with
    | none => exact ⟨rfl, rfl⟩
    | some record =>
      obtain ⟨name, material, _⟩ := record_eq_some built
      have unchanged : state.store.upsert texts record = none := by
        unfold LearningStore.upsert
        rw [name, named, found]
        dsimp only
        rw [if_pos (by rw [same, material])]
      dsimp only
      rw [unchanged]
      exact ⟨rfl, rfl⟩

/-- A call on a candidate that is learned to its end. -/
def learnSteps (missionId market : String) (candidate : StrategyCandidateRecord) (now : String) :
    List LearningStep :=
  [.learnCandidate missionId market candidate now, .advance, .advance]

/-- The call has started and commits next what is learned of the candidate. -/
theorem start_learning (idle : state.Idle) (now : String) :
    (learningMachine texts).next state (.learnCandidate missionId market candidate now) =
      { state with queue := [.candidate missionId market candidate], now } := by
  obtain ⟨pending, queue⟩ := idle
  simp [Machine.next, learningMachine, LearningState.step, LearningState.call, pending, queue]

/-- What is left of a call after its lesson: at most an event to commit. -/
theorem learn_queue (work : Work) : (state.learn texts work []).2.queue = [] := by
  unfold LearningState.learn
  split
  · rfl
  · dsimp only
    split
    · rfl
    · split <;> rfl

/-- A call of an idle process goes on with its candidate. -/
theorem advance_learning (idle : state.Idle) (now : String) :
    (learningMachine texts).step
        ((learningMachine texts).next state (.learnCandidate missionId market candidate now))
        .advance =
      LearningState.learn texts { state with queue := [.candidate missionId market candidate], now }
        (.candidate missionId market candidate) [] := by
  rw [start_learning idle]
  simp [learningMachine, LearningState.step, idle.1]

/-- The end of a call commits the event of its lesson, if there is one. -/
theorem finish_learning (queue : state.queue = []) :
    ((learningMachine texts).next state .advance).store.records = state.store.records ∧
      (state.pending = none → (learningMachine texts).next state .advance = state) := by
  cases waits : state.pending with
  | none => simp [Machine.next, learningMachine, LearningState.step, waits, queue]
  | some event =>
    simp [Machine.next, learningMachine, LearningState.step, waits, LearningStore.appendAudit]

/-- Only the current lessons decide what is known. -/
theorem Known.of_records (known : Known texts store missionId market candidate)
    (records : next.records = store.records) : Known texts next missionId market candidate := by
  have lessons : (Work.candidate missionId market candidate).lesson texts next =
      (Work.candidate missionId market candidate).lesson texts store := by
    simp only [Work.lesson, conflictPenalty, oppositeFamilyRecords, records]
  intro lesson learned
  rw [lessons] at learned
  rw [LearningStore.get?, records]
  exact known lesson learned

/-- After a call that returned, the candidate is known. -/
theorem known_of_learnSteps (consistent : Consistent texts state) (idle : state.Idle)
    (returned : (learningMachine texts).answer
      ((learningMachine texts).next state (.learnCandidate missionId market candidate now))
        .advance ≠ .raised) :
    Known texts ((learningMachine texts).run state
      (learnSteps missionId market candidate now)).store missionId market candidate := by
  unfold Machine.answer at returned
  rw [advance_learning idle] at returned
  have started : Consistent texts
      { state with queue := [.candidate missionId market candidate], now } :=
    consistent.of_same rfl (Or.inl rfl)
  have known := known_of_learn started returned
  apply known.of_records
  change ((learningMachine texts).next ((learningMachine texts).step _ .advance).2
    .advance).store.records = _
  rw [advance_learning idle]
  exact (finish_learning (learn_queue _)).1

/-- A call on a candidate that is known leaves the database as it is. -/
theorem learnSteps_of_known (idle : state.Idle)
    (known : Known texts state.store missionId market candidate) (now : String) :
    ((learningMachine texts).run state (learnSteps missionId market candidate now)).store =
      state.store := by
  obtain ⟨store, pending⟩ := @learn_of_known texts { state with
    queue := [.candidate missionId market candidate], now } missionId market candidate known []
  change ((learningMachine texts).next ((learningMachine texts).step _ .advance).2
    .advance).store = _
  rw [advance_learning idle, (finish_learning (learn_queue _)).2 (pending.trans idle.1), store]

end Steps

section History

variable (texts : LessonTexts) (steps : List LearningStep)

/-- What is kept of the history by any calls on one database, whenever the process stops. -/
structure HistoryKept : Prop where
  /-- Versions, current lessons, creations and events fit together. -/
  intact : HistoryIntact ((learningMachine texts).run .initial steps).store
  /-- When a lesson was created never changes. -/
  creations : ∀ before after, steps = before ++ after → ∀ recordId createdAt,
    ((learningMachine texts).run .initial before).store.createdAt? recordId = some createdAt →
    ((learningMachine texts).run .initial steps).store.createdAt? recordId = some createdAt
  /-- If the process stops only between the writes, every version has its event. -/
  complete : (learningMachine texts).Guarded StopsBetweenWrites .initial steps →
    Audited ((learningMachine texts).run .initial steps)
  /-- A candidate that is learned again as it was, with as much against it, is not written again. -/
  relearned : ∀ missionId market candidate now later between,
    let start := (learningMachine texts).run .initial steps
    let learned := (learningMachine texts).run start (learnSteps missionId market candidate now)
    let again := (learningMachine texts).run learned between
    start.Idle → again.Idle →
    (learningMachine texts).answer ((learningMachine texts).next start
      (.learnCandidate missionId market candidate now)) .advance ≠ .raised →
    again.store.get? (candidateRecordId texts missionId candidate.candidateId) =
      learned.store.get? (candidateRecordId texts missionId candidate.candidateId) →
    conflictPenalty texts again.store missionId market candidate =
      conflictPenalty texts learned.store missionId market candidate →
    ((learningMachine texts).run again (learnSteps missionId market candidate later)).store =
      again.store

/-- All calls keep the history. -/
theorem history_kept : HistoryKept texts steps where
  intact := (consistent_run steps).toHistoryIntact
  creations before after whole recordId createdAt created := by
    rw [whole, Machine.run_append]
    exact createdAt?_run (consistent_run before) after created
  complete stops := by
    have kept (state : LearningState) (step : LearningStep) (stops : StopsBetweenWrites state step)
        (before : Consistent texts state ∧ Audited state) :
        Consistent texts ((learningMachine texts).next state step) ∧
          Audited ((learningMachine texts).next state step) :=
      ⟨consistent_step before.1 step, audited_step before.1 step stops before.2⟩
    exact ((learningMachine texts).guarded_invariant kept stops ⟨consistent_initial, nofun⟩).2
  relearned := by
    intro missionId market candidate now later between start learned again idle idle' returned
      current penalty
    have known := known_of_learnSteps (consistent_run steps) idle returned
    apply learnSteps_of_known idle'
    intro lesson found
    unfold Work.lesson at found
    dsimp only at found
    rw [penalty] at found
    rw [current]
    exact known lesson found

end History

/-- Only times without a bar have a later one. -/
theorem barless (now : String) (days : Nat)
    (due : (if '|' ∈ now.toList then none else some (now, days)).isSome) : '|' ∉ now.toList := by
  intro bar
  rw [if_pos bar] at due
  cases due

/-- Texts that tell some lessons apart. -/
def plainTexts : LessonTexts where
  fromisoformat _ := none
  str _ := ""
  casefold := id
  float number := toString number.num
  log10 := id
  dueAtDays now days :=
    (if '|' ∈ now.toList then none else some (now, days)).map Prod.fst
  dueAtDays_clean now days due := barless now days (by simpa using due)
  hash24 := id
  collisionFree := Function.injective_id
  materialKey material := s!"{material.content} {material.confidence.conflictPenalty.num}"

/-- There is a template. -/
theorem strategyFamilyTemplates_ne_nil : StrategyFamilies.strategyFamilyTemplates ≠ [] :=
  List.cons_ne_nil _ _

/-- A candidate with one reference to its validation, as a status says. -/
def referredCandidate (candidateId : String) (status : StrategyCandidateStatus) :
    StrategyCandidateRecord :=
  { (StrategyFamilies.strategyFamilyTemplates.head strategyFamilyTemplates_ne_nil).newRecord
      (fun _ => "fingerprint") 1 "now" with
    candidateId, status, lastValidationReference := some "validation:1" }

/-- A candidate that failed is learned. -/
def learnsFailure : List LearningStep :=
  learnSteps "mission" "KRX" (referredCandidate "first" .rejected) "2026-01-01T00:00:00Z"

/-- A candidate of the same family that is ready for promotion is learned. -/
def learnsSuccess : List LearningStep :=
  learnSteps "mission" "KRX" (referredCandidate "second" .promotionReady) "2026-01-02T00:00:00Z"

/-- A version of which the event was not committed never gets one, and a failure is written again
after a success of its family was learned. -/
theorem history_has_gaps :
    (let stopped := (learningMachine plainTexts).run .initial
        (learnsFailure.take 2 ++ [.crash] ++ learnsFailure);
      stopped.pending.isNone ∧ stopped.queue.isEmpty ∧
        stopped.store.versions.rows.map (·.version) = [1] ∧ stopped.store.audit.rows.length = 0) ∧
    (((learningMachine plainTexts).run .initial
        (learnsFailure ++ learnsSuccess ++ learnsFailure)).store.versions.rows.map fun row =>
          (row.recordId, row.version)) =
      [("learning:candidate:mission|first", 1), ("learning:candidate:mission|second", 1),
        ("learning:candidate:mission|first", 2)] := by
  decide +kernel

end StrategyLab.ProductionLearning
