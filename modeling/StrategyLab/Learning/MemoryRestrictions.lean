import StrategyLab.Learning.LongTermMemory

/-! Restrictions on memory: what clients that write from copies keep, and what they can lift. -/

namespace StrategyLab.Learning

variable {κ : Type} [DecidableEq κ]

/-- A later row lifts no restriction of an earlier one. -/
structure CarriesOver (stored later : MemoryRow) : Prop where
  /-- What is rejected can only be archived. -/
  rejected : stored.lifecycle = .rejected →
    later.lifecycle = .rejected ∨ later.lifecycle = .archived
  /-- What is archived stays so. -/
  archived : stored.lifecycle = .archived → later.lifecycle = .archived
  /-- A conflict stays marked. -/
  conflict : stored.conflictFlag → later.conflictFlag
  /-- A need for revalidation stays marked. -/
  revalidation : stored.revalidationFlag → later.revalidationFlag

/-- Whether a row lifts a restriction can be computed. -/
instance (stored later : MemoryRow) : Decidable (CarriesOver stored later) :=
  decidable_of_iff
    ((stored.lifecycle = .rejected → later.lifecycle = .rejected ∨ later.lifecycle = .archived) ∧
      (stored.lifecycle = .archived → later.lifecycle = .archived) ∧
      (stored.conflictFlag → later.conflictFlag) ∧
      (stored.revalidationFlag → later.revalidationFlag))
    ⟨fun law => ⟨law.1, law.2.1, law.2.2.1, law.2.2.2⟩,
      fun law => ⟨law.rejected, law.archived, law.conflict, law.revalidation⟩⟩

namespace CarriesOver

/-- A row lifts no restriction of its own. -/
theorem refl (row : MemoryRow) : CarriesOver row row where
  rejected := Or.inl
  archived := id
  conflict := id
  revalidation := id

/-- Restrictions that are not lifted twice in a row are not lifted. -/
theorem trans {first second third : MemoryRow} (early : CarriesOver first second)
    (late : CarriesOver second third) : CarriesOver first third where
  rejected := by
    intro rejected
    rcases early.rejected rejected with kept | archived
    · exact late.rejected kept
    · exact Or.inr (late.archived archived)
  archived := fun archived => late.archived (early.archived archived)
  conflict := fun marked => late.conflict (early.conflict marked)
  revalidation := fun marked => late.revalidation (early.revalidation marked)

end CarriesOver

/-- A record is read back as the row it was stored as, save for one field of its policy. -/
theorem recordFromRow_recordRow (record : MemoryRecord) : recordFromRow (recordRow record) =
    { record with retention := { retainUntil := record.retention.retainUntil } } := rfl

/-- A row is read as a record that is stored as the same row. -/
@[simp] theorem recordRow_recordFromRow (row : MemoryRow) : recordRow (recordFromRow row) = row :=
  rfl

variable {change : MemoryChange}

variable {record changed : MemoryRecord}

/-- What a change makes of a copy: only a proposed record is validated or rejected. -/
theorem MemoryChange.apply_cases (done : change.apply record = .ok changed) :
    (∃ validationRef updatedAt, record.lifecycle = .proposed ∧ changed = { record with
      lifecycle := .validated, validationRef := some validationRef, updatedAt }) ∨
    (∃ updatedAt, record.lifecycle = .proposed ∧
      changed = { record with lifecycle := .rejected, updatedAt }) ∨
    (∃ archivedAt, changed = { record with
      lifecycle := .archived, archivedAt := some archivedAt, updatedAt := archivedAt }) ∨
    (∃ updatedAt, changed = record.markConflict updatedAt) ∨
    ∃ updatedAt, changed = record.markRevalidation updatedAt := by
  cases change with
  | validate validationRef trustedWorkflow updatedAt =>
    simp only [apply, MemoryRecord.validate] at done
    split_ifs at done with untrusted later
    cases done
    exact Or.inl ⟨validationRef, updatedAt, not_not.mp later, rfl⟩
  | reject updatedAt =>
    simp only [apply, MemoryRecord.reject] at done
    split_ifs at done with later
    cases done
    exact Or.inr (Or.inl ⟨updatedAt, not_not.mp later, rfl⟩)
  | archive archivedAt =>
    simp only [apply, MemoryRecord.archive] at done
    split_ifs at done
    cases done
    exact Or.inr (Or.inr (Or.inl ⟨archivedAt, rfl⟩))
  | markConflict updatedAt =>
    cases done
    exact Or.inr (Or.inr (Or.inr (Or.inl ⟨updatedAt, rfl⟩)))
  | markRevalidation updatedAt =>
    cases done
    exact Or.inr (Or.inr (Or.inr (Or.inr ⟨updatedAt, rfl⟩)))

/-- Changing a copy lifts no restriction that the copy carries. -/
theorem MemoryChange.carriesOver_apply (done : change.apply record = .ok changed) :
    CarriesOver (recordRow record) (recordRow changed) := by
  -- A proposed record carries neither restriction of its lifecycle.
  rcases change.apply_cases done with ⟨_, _, proposed, rfl⟩ | ⟨_, proposed, rfl⟩ | ⟨_, rfl⟩ |
    ⟨_, rfl⟩ | ⟨_, rfl⟩
  · exact ⟨by simp [recordRow, proposed], by simp [recordRow, proposed], id, id⟩
  · exact ⟨by simp [recordRow, proposed], by simp [recordRow, proposed], id, id⟩
  · exact ⟨fun _ => Or.inr rfl, fun _ => rfl, id, id⟩
  · exact ⟨Or.inl, id, fun _ => rfl, id⟩
  · exact ⟨Or.inl, id, id, fun _ => rfl⟩

/-- Changing a copy leaves its id alone. -/
theorem MemoryChange.memoryId_apply
    (done : change.apply record = .ok changed) : changed.memoryId = record.memoryId := by
  rcases change.apply_cases done with ⟨_, _, _, rfl⟩ | ⟨_, _, rfl⟩ | ⟨_, rfl⟩ | ⟨_, rfl⟩ | ⟨_, rfl⟩
  all_goals rfl

/-- What is validated names its validation. -/
def MemoryRow.Backed (row : MemoryRow) : Prop :=
  row.lifecycle = .validated → row.validationRef ≠ none

/-- Changing a copy leaves a validation named. -/
theorem MemoryChange.backed_apply
    (backed : (recordRow record).Backed) (done : change.apply record = .ok changed) :
    (recordRow changed).Backed := by
  intro validated
  rcases change.apply_cases done with ⟨_, _, _, rfl⟩ | ⟨_, _, rfl⟩ | ⟨_, rfl⟩ | ⟨_, rfl⟩ | ⟨_, rfl⟩
  · -- The validation is named together with the step that makes it.
    simp [recordRow]
  · simp [recordRow] at validated
  · simp [recordRow] at validated
  · exact backed validated
  · exact backed validated

variable {memory grown : LongTermMemory}

namespace SQLiteLongTermMemoryRepository

variable {record : MemoryRecord}

/-- What an accepted addition did. -/
theorem add_eq_ok :
    add memory record = .ok grown ↔
      record.lifecycle = .proposed ∧ memory.insert? (recordRow record) = some grown := by
  unfold add
  split
  · simp_all
  · rename_i proposed
    rw [not_not] at proposed
    cases built : memory.insert? (recordRow record) <;> simp [proposed]

/-- What an accepted update did. -/
theorem update_eq_ok {memory written : LongTermMemory} :
    update memory record = .ok written ↔ (∃ stored, memory.find? record.memoryId = some stored) ∧
      written = memory.update (fun row => row.memoryId = record.memoryId)
        (MemoryRow.overwrite record) (MemoryRow.memoryId_overwrite record) := by
  unfold update
  cases found : memory.find? record.memoryId with
  | none => simp
  | some stored => simp [eq_comm]

/-- What is found after an accepted update. -/
theorem find?_of_update {memory written : LongTermMemory}
    (done : update memory record = .ok written) (memoryId : String) :
    written.find? memoryId = (memory.find? memoryId).map fun row =>
      if row.memoryId = record.memoryId then row.overwrite record else row := by
  rw [(update_eq_ok.mp done).2, Table.find?_update]
  simp

/-- What an accepted reading gives. -/
theorem get_eq_ok {memory : LongTermMemory} {memoryId : String} :
    get memory memoryId = .ok record ↔
      ∃ row, memory.find? memoryId = some row ∧ recordFromRow row = record := by
  unfold get
  cases memory.find? memoryId <;> simp

end SQLiteLongTermMemoryRepository

variable {clients : MemoryClients κ}

namespace MemoryClients

open SQLiteLongTermMemoryRepository

/-- What is validated names its validation, in the memory and in every copy. -/
structure Backed (clients : MemoryClients κ) : Prop where
  /-- Every row is backed. -/
  rows : ∀ row ∈ clients.memory.rows, row.Backed
  /-- Every copy is backed. -/
  copies : ∀ client copy, clients.copies client = some copy → (recordRow copy).Backed

/-- A copy that is backed may be taken. -/
theorem backed_hold {client : κ}
    {result : Except MemoryError MemoryRecord} (backed : clients.Backed)
    (good : ∀ record, result = .ok record → (recordRow record).Backed) :
    (clients.hold client result).2.Backed := by
  cases result with
  | error raised => exact backed
  | ok record =>
    refine ⟨backed.rows, fun other copy held => ?_⟩
    by_cases same : other = client
    · subst same
      simp only [hold, Function.update_self, Option.some.injEq] at held
      subst held
      exact good record rfl
    · simp only [hold, Function.update_of_ne same] at held
      exact backed.copies other copy held

omit [DecidableEq κ] in
/-- A memory whose rows are backed may be written. -/
theorem backed_store {result : Except MemoryError LongTermMemory} (backed : clients.Backed)
    (good : ∀ memory, result = .ok memory → ∀ row ∈ memory.rows, row.Backed) :
    (clients.store result).2.Backed := by
  cases result with
  | error raised => exact backed
  | ok memory => exact ⟨good memory rfl, backed.copies⟩

/-- Every step leaves what is validated with its validation. -/
theorem backed_next (clients : MemoryClients κ) (step : MemoryStep κ) (backed : clients.Backed) :
    (memoryClients.next clients step).Backed := by
  cases step with
  | add record =>
    refine backed_store backed fun grown done row member => ?_
    obtain ⟨proposed, built⟩ := add_eq_ok.mp done
    rw [(Table.insert?_eq_some_iff.mp built).2, List.mem_append, List.mem_singleton] at member
    rcases member with old | rfl
    · exact backed.rows row old
    · -- What is added is proposed.
      intro validated
      simp [recordRow, proposed] at validated
  | get client memoryId =>
    refine backed_hold backed fun record done => ?_
    obtain ⟨row, found, rfl⟩ := get_eq_ok.mp done
    exact backed.rows row (Table.find?_eq_some_iff.mp found).1
  | change client change =>
    cases held : clients.copies client with
    | none => simpa [Machine.next, memoryClients, held] using backed
    | some record =>
      simp only [Machine.next, memoryClients, held]
      exact backed_hold backed fun changed done =>
        change.backed_apply (backed.copies client record held) done
  | update client =>
    cases held : clients.copies client with
    | none => simpa [Machine.next, memoryClients, held] using backed
    | some record =>
      simp only [Machine.next, memoryClients, held]
      refine backed_store backed fun written done row member => ?_
      rw [(update_eq_ok.mp done).2, Table.update_rows] at member
      obtain ⟨old, stored, rfl⟩ := List.mem_map.mp member
      split
      · -- The lifecycle and the validation of the row are both those of the copy.
        exact backed.copies client record held
      · exact backed.rows old stored

/-- Whatever the clients do, what is validated names its validation. -/
theorem backed_run (steps : List (MemoryStep κ)) :
    (memoryClients.run (initial (κ := κ)) steps).Backed :=
  memoryClients.invariant backed_next steps
    ⟨fun _ member => (List.not_mem_nil member).elim, fun _ _ held => by cases held⟩

/-- No stored restriction is lifted from one state to another. -/
def Keeps (earlier later : MemoryClients κ) : Prop :=
  ∀ memoryId row, earlier.memory.find? memoryId = some row →
    ∃ now, later.memory.find? memoryId = some now ∧ CarriesOver row now

omit [DecidableEq κ] in
/-- A state lifts no restriction of its own. -/
theorem Keeps.refl (clients : MemoryClients κ) : clients.Keeps clients :=
  fun _ row found => ⟨row, found, .refl row⟩

omit [DecidableEq κ] in
/-- Restrictions that are kept twice in a row are kept. -/
theorem Keeps.trans {first second third : MemoryClients κ} (early : first.Keeps second)
    (late : second.Keeps third) : first.Keeps third := by
  intro memoryId row found
  obtain ⟨now, between, kept⟩ := early memoryId row found
  obtain ⟨last, finally_, still⟩ := late memoryId now between
  exact ⟨last, finally_, kept.trans still⟩

/-- An update carries over what is stored, and what is added can be read back as it is. -/
def CarriesOn (clients : MemoryClients κ) : MemoryStep κ → Prop
  | .add record => record.lifecycle = .proposed → clients.memory.find? record.memoryId = none →
    record.retention.archiveAfterDays = none
  | .update client => ∀ copy ∈ clients.copies client,
    ∀ stored ∈ clients.memory.find? copy.memoryId, CarriesOver stored (recordRow copy)
  | _ => True

/-- Whether a step carries on can be computed. -/
instance decidableCarriesOn (clients : MemoryClients κ) : DecidablePred clients.CarriesOn
  | .add record => inferInstanceAs (Decidable (record.lifecycle = .proposed →
      clients.memory.find? record.memoryId = none → record.retention.archiveAfterDays = none))
  | .get _ _ => isTrue trivial
  | .change _ _ => isTrue trivial
  | .update client => inferInstanceAs (Decidable (∀ copy ∈ clients.copies client,
      ∀ stored ∈ clients.memory.find? copy.memoryId, CarriesOver stored (recordRow copy)))

/-- Only an update from a copy that is behind can lift a restriction. -/
theorem keeps_next (clients : MemoryClients κ) (step : MemoryStep κ)
    (guarded : clients.CarriesOn step) : clients.Keeps (memoryClients.next clients step) := by
  intro memoryId row found
  cases step with
  | add record =>
    cases done : add clients.memory record with
    | error raised => exact ⟨row, by simpa [Machine.next, memoryClients, store, done], .refl row⟩
    | ok grown =>
      -- The added record has a free id, so every row is found as before.
      have still := Table.find?_insert?_of_found (add_eq_ok.mp done).2 found
      exact ⟨row, by simpa [Machine.next, memoryClients, store, done], .refl row⟩
  | get client other =>
    refine ⟨row, ?_, .refl row⟩
    cases done : get clients.memory other <;>
      simpa [Machine.next, memoryClients, hold, done] using found
  | change client change =>
    refine ⟨row, ?_, .refl row⟩
    cases held : clients.copies client with
    | none => simpa [Machine.next, memoryClients, held] using found
    | some record =>
      cases done : change.apply record <;>
        simpa [Machine.next, memoryClients, held, hold, done] using found
  | update client =>
    cases held : clients.copies client with
    | none => exact ⟨row, by simpa [Machine.next, memoryClients, held] using found, .refl row⟩
    | some record =>
      cases done : update clients.memory record with
      | error raised =>
        exact ⟨row, by simpa [Machine.next, memoryClients, held, store, done], .refl row⟩
      | ok written =>
        have after := find?_of_update done memoryId
        rw [found, Option.map_some] at after
        refine ⟨_, by simpa [Machine.next, memoryClients, held, store, done] using after, ?_⟩
        split
        · -- The row takes its lifecycle and its flags from the copy, which carries them over.
          rename_i named
          have same := Table.key_of_find? found
          have stored : clients.memory.find? record.memoryId = some row := by
            rw [← named, same]
            exact found
          have kept := guarded record held row stored
          exact ⟨kept.rejected, kept.archived, kept.conflict, kept.revalidation⟩
        · exact .refl row

/-- Steps that carry on keep every stored restriction from any point of a run to any later one. -/
theorem keeps_run {steps : List (MemoryStep κ)}
    (guarded : memoryClients.Guarded CarriesOn initial steps)
    {before middle after : List (MemoryStep κ)} (split : steps = before ++ middle ++ after) :
    (memoryClients.run initial before).Keeps (memoryClients.run initial (before ++ middle)) := by
  rw [split, Machine.guarded_append, Machine.guarded_append] at guarded
  have part := (Machine.guarded_iff_split _ _ _).mp guarded.1.2
  rw [Machine.run_append]
  refine memoryClients.related_run Keeps.refl (fun _ _ _ => Keeps.trans) ?_
  intro first step rest cut
  exact keeps_next _ step (part first step rest cut)

end MemoryClients

/-- The memory after a run of steps from an empty one. -/
def memoryAfter (steps : List (MemoryStep κ)) : LongTermMemory :=
  (memoryClients.run MemoryClients.initial steps).memory

/-- The lifecycle of long-term memory is one-way, in every part of a run. -/
structure OneWay (steps : List (MemoryStep κ)) : Prop where
  /-- What was stored as rejected is not validated later. -/
  neverValidated : ∀ before middle after, steps = before ++ middle ++ after →
    ∀ memoryId row, (memoryAfter before).find? memoryId = some row → row.lifecycle = .rejected →
      ∃ now, (memoryAfter (before ++ middle)).find? memoryId = some now ∧
        now.lifecycle ≠ .validated
  /-- What was stored as archived stays archived. -/
  staysArchived : ∀ before middle after, steps = before ++ middle ++ after →
    ∀ memoryId row, (memoryAfter before).find? memoryId = some row → row.lifecycle = .archived →
      ∃ now, (memoryAfter (before ++ middle)).find? memoryId = some now ∧
        now.lifecycle = .archived
  /-- A conflict that was stored stays marked. -/
  keepsConflict : ∀ before middle after, steps = before ++ middle ++ after →
    ∀ memoryId row, (memoryAfter before).find? memoryId = some row → row.conflictFlag →
      ∃ now, (memoryAfter (before ++ middle)).find? memoryId = some now ∧ now.conflictFlag
  /-- A need for revalidation that was stored stays marked. -/
  keepsRevalidation : ∀ before middle after, steps = before ++ middle ++ after →
    ∀ memoryId row, (memoryAfter before).find? memoryId = some row → row.revalidationFlag →
      ∃ now, (memoryAfter (before ++ middle)).find? memoryId = some now ∧ now.revalidationFlag
  /-- What is stored as validated names its validation. -/
  backed : ∀ before after, steps = before ++ after → ∀ row ∈ (memoryAfter before).rows,
    row.lifecycle = .validated → row.validationRef ≠ none
  /-- A record that was added is read back as it is. -/
  readsBack : ∀ before record after, steps = before ++ .add record :: after →
    memoryClients.answer (memoryClients.run MemoryClients.initial before) (.add record) = .ok () →
      SQLiteLongTermMemoryRepository.get (memoryAfter (before ++ [.add record])) record.memoryId =
        .ok record

open SQLiteLongTermMemoryRepository in
/-- An accepted record is read back exactly when its policy has no second field. -/
theorem get_after_add {record : MemoryRecord} (done : add memory record = .ok grown) :
    get grown record.memoryId = .ok record ↔ record.retention.archiveAfterDays = none := by
  have found := Table.find?_insert? (add_eq_ok.mp done).2 record.memoryId
  have named : record.memoryId = (recordRow record).memoryId := rfl
  rw [if_pos named] at found
  rw [get_eq_ok]
  constructor
  · rintro ⟨row, stored, same⟩
    rw [found, Option.some.injEq] at stored
    rw [← same, ← stored, recordFromRow_recordRow]
  · intro none_
    refine ⟨_, found, ?_⟩
    rw [recordFromRow_recordRow]
    rcases record with ⟨memoryId, memoryNamespace, lifecycle, content, sources, evidence, created,
      updated, validation, conflict, revalidation, ⟨retainUntil, archiveAfterDays⟩, archived⟩
    simp only at none_
    subst none_
    rfl

/-- Clients whose every update carries over what is stored, and who add no record with days after
which it is archived, lift no restriction and read back what they add. -/
theorem oneWay_of_guarded (steps : List (MemoryStep κ))
    (guarded : memoryClients.Guarded MemoryClients.CarriesOn MemoryClients.initial steps) :
    OneWay steps where
  neverValidated := by
    intro before middle after split memoryId row found rejected
    obtain ⟨now, later, kept⟩ := MemoryClients.keeps_run guarded split memoryId row found
    refine ⟨now, later, ?_⟩
    rcases kept.rejected rejected with still | archived
    · simp [still]
    · simp [archived]
  staysArchived := by
    intro before middle after split memoryId row found archived
    obtain ⟨now, later, kept⟩ := MemoryClients.keeps_run guarded split memoryId row found
    exact ⟨now, later, kept.archived archived⟩
  keepsConflict := by
    intro before middle after split memoryId row found marked
    obtain ⟨now, later, kept⟩ := MemoryClients.keeps_run guarded split memoryId row found
    exact ⟨now, later, kept.conflict marked⟩
  keepsRevalidation := by
    intro before middle after split memoryId row found marked
    obtain ⟨now, later, kept⟩ := MemoryClients.keeps_run guarded split memoryId row found
    exact ⟨now, later, kept.revalidation marked⟩
  backed := by
    -- This holds in every run, for a validation is named by the copy it is made in.
    intro before after split row member
    exact (MemoryClients.backed_run before).rows row member
  readsBack := by
    intro before record after split accepted
    have meets := (Machine.guarded_iff_split _ _ _).mp guarded before (.add record) after split
    cases done : SQLiteLongTermMemoryRepository.add
        (memoryClients.run MemoryClients.initial before).memory record with
    | error raised =>
      -- An addition that raises is not accepted.
      change (MemoryClients.store _ (SQLiteLongTermMemoryRepository.add _ record)).1 = .ok ()
        at accepted
      rw [done] at accepted
      cases accepted
    | ok grown =>
      have reached : memoryAfter (before ++ [.add record]) = grown := by
        rw [memoryAfter, Machine.run_append]
        change (MemoryClients.store _
          (SQLiteLongTermMemoryRepository.add _ record)).2.memory = grown
        rw [done]
        rfl
      obtain ⟨proposed, built⟩ := SQLiteLongTermMemoryRepository.add_eq_ok.mp done
      have free := (Table.insert?_eq_some_iff.mp built).1
      rw [reached]
      exact (get_after_add done).mpr (meets proposed free)

/-- A client that reads a record, changes its copy and stores it. -/
def memorySession (client : κ) (memoryId : String) (changes : List MemoryChange) :
    List (MemoryStep κ) :=
  .get client memoryId :: changes.map (.change client) ++ [.update client]

/-- Nobody lifts a restriction by changing a copy that carries what is stored. -/
theorem guarded_changes {client : κ} {stored : MemoryRow}
    {copy : MemoryRecord} (changes : List MemoryChange)
    (found : clients.memory.find? stored.memoryId = some stored)
    (held : clients.copies client = some copy) (named : copy.memoryId = stored.memoryId)
    (carried : CarriesOver stored (recordRow copy)) :
    memoryClients.Guarded MemoryClients.CarriesOn clients
      (changes.map (.change client) ++ [.update client]) := by
  induction changes generalizing clients copy with
  | nil =>
    refine ⟨fun other same row there => ?_, trivial⟩
    obtain rfl := Option.some.inj (held.symm.trans same)
    rw [named, found] at there
    obtain rfl := Option.some.inj there
    exact carried
  | cons change rest ih =>
    refine ⟨trivial, ?_⟩
    have next : memoryClients.next clients (.change client change) =
        (clients.hold client (change.apply copy)).2 := by
      simp [Machine.next, memoryClients, held]
    rw [next]
    cases done : change.apply copy with
    | error raised => exact ih found held named carried
    | ok changed =>
      refine ih found (Function.update_self client _ _) ?_
        (carried.trans (change.carriesOver_apply done))
      exact (change.memoryId_apply done).trans named

/-- A session that nobody interrupts writes from a copy that is not behind. -/
theorem guarded_memorySession {clients : MemoryClients κ} {memoryId : String} {row : MemoryRow}
    (found : clients.memory.find? memoryId = some row) (client : κ)
    (changes : List MemoryChange) :
    memoryClients.Guarded MemoryClients.CarriesOn clients
      (memorySession client memoryId changes) := by
  obtain rfl := Table.key_of_find? found
  refine ⟨trivial, ?_⟩
  have read : memoryClients.next clients (.get client row.memoryId) =
      (clients.hold client (.ok (recordFromRow row))).2 := by
    simp [Machine.next, memoryClients, SQLiteLongTermMemoryRepository.get, found]
  rw [read]
  exact guarded_changes changes found (Function.update_self client _ _) rfl
    (.refl row)

/-- A record for the examples. -/
def proposedRecord (retention : RetentionPolicy) : MemoryRecord where
  memoryId := "m1"
  memoryNamespace := .learning
  lifecycle := .proposed
  content := "c"
  sourceRefs := ["s"]
  evidenceRefs := ["e"]
  createdAt := "t0"
  updatedAt := "t0"
  retention := retention

/-- A client that rejects a stored record is not behind when it writes. -/
theorem rejection_carries_on :
    memoryClients.Guarded MemoryClients.CarriesOn
      (memoryClients.run (.initial : MemoryClients Nat) [.add (proposedRecord ⟨some "2027", none⟩)])
      (memorySession 0 "m1" [.reject "t1"]) := by
  obtain ⟨row, found⟩ := Option.isSome_iff_exists.mp
    (by decide +kernel : ((memoryAfter ([.add (proposedRecord ⟨some "2027", none⟩)] :
      List (MemoryStep Nat))).find? "m1").isSome)
  exact guarded_memorySession found 0 [.reject "t1"]

/-- One client rejects the record, and another one archives what it reads after that. -/
def turnsTaken : List (MemoryStep Nat) :=
  [.add (proposedRecord ⟨some "2027", none⟩), .get 0 "m1", .change 0 (.reject "t1"), .update 0,
    .get 1 "m1", .change 1 (.markConflict "t2"), .update 1, .get 0 "m1",
    .change 0 (.archive "t3"), .update 0]

/-- Clients that take turns lift no restriction. -/
theorem turnsTaken_oneWay : OneWay turnsTaken :=
  oneWay_of_guarded turnsTaken (by decide +kernel)

/-- Two clients read the same record; one rejects it, and the other one validates its copy. -/
def staleCopy : List (MemoryStep Nat) :=
  [.add (proposedRecord ⟨none, none⟩), .get 0 "m1", .get 1 "m1", .change 0 (.reject "t1"),
    .update 0, .change 1 (.validate "v" true "t2"), .update 1]

/-- A client that writes a stale copy validates what was rejected, and a record that is to be
archived after some days is read back without them. -/
theorem memory_departures :
    ¬OneWay staleCopy ∧
      ¬OneWay ([.add (proposedRecord ⟨none, some 30⟩)] : List (MemoryStep Nat)) := by
  constructor
  · intro law
    have rejected : ((memoryAfter (staleCopy.take 5)).find? "m1").map (·.lifecycle) =
        some .rejected := by decide +kernel
    have validated : ((memoryAfter staleCopy).find? "m1").map (·.lifecycle) =
        some .validated := by decide +kernel
    obtain ⟨row, found, lifecycle⟩ := Option.map_eq_some_iff.mp rejected
    obtain ⟨now, later, differs⟩ :=
      law.neverValidated (staleCopy.take 5) (staleCopy.drop 5) [] (by rfl) "m1" row found lifecycle
    have same : staleCopy.take 5 ++ staleCopy.drop 5 = staleCopy := List.take_append_drop 5 _
    rw [same] at later
    rw [later, Option.map_some, Option.some.injEq] at validated
    exact differs validated
  · intro law
    have back := law.readsBack [] _ [] rfl rfl
    revert back
    decide +kernel

end StrategyLab.Learning
