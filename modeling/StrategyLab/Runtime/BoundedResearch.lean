import StrategyLab.Runtime.CandidateVerdicts

/-! How many cycles a candidate takes, and that none of its validations is repeated on the same
evidence. -/

namespace StrategyLab

open Portfolio

/-- The candidate that a cycle was run on. -/
def ExecutedCycle.candidateId : ExecutedCycle → String
  | .breadth candidateId _ => candidateId
  | .robustness candidateId _ _ _ => candidateId

/-- Whether a cycle counts for a candidate: it is one of its own that found data. -/
def ExecutedCycle.countsFor (candidateId : String) : ExecutedCycle → Bool
  | .breadth other providerBlocked => other = candidateId && !providerBlocked
  | .robustness other _ _ _ => other = candidateId

/-- How many such cycles are in a journal. -/
def cyclesOf (candidateId : String) (journal : List ExecutedCycle) : Nat :=
  journal.countP (·.countsFor candidateId)

/-- Cycles are counted one after the other. -/
@[simp] theorem cyclesOf_append (candidateId : String) (journal : List ExecutedCycle)
    (cycle : ExecutedCycle) : cyclesOf candidateId (journal ++ [cycle]) =
      cyclesOf candidateId journal + if cycle.countsFor candidateId then 1 else 0 := by
  simp only [cyclesOf, List.countP_append, List.countP_cons, List.countP_nil, Nat.zero_add]

variable {cycle : ExecutedCycle}

/-- A cycle of another candidate does not count. -/
theorem countsFor_eq_false {candidateId : String}
    (other : cycle.candidateId ≠ candidateId) : cycle.countsFor candidateId = false := by
  cases cycle with
  | breadth owner blocked => simp [ExecutedCycle.countsFor, show owner ≠ candidateId from other]
  | robustness owner action key verified => exact decide_eq_false other

/-- A journal that does not name a candidate counts nothing for it. -/
theorem cyclesOf_eq_zero {candidateId : String} {journal : List ExecutedCycle}
    (unnamed : ∀ cycle ∈ journal, cycle.candidateId ≠ candidateId) :
    cyclesOf candidateId journal = 0 := by
  refine List.countP_eq_zero.mpr fun cycle member => ?_
  rw [countsFor_eq_false (unnamed cycle member)]
  exact Bool.false_ne_true

/-- The action that a reference was made with is read back from it. -/
theorem actionFromReference_evidenceReference (action : ResearchAction)
    (symbol stage status : String) :
    actionFromReference (evidenceReference action.text symbol stage status) =
      some action.text := by
  -- The part in front of the first bar holds the action, and nothing else is looked at.
  have split : (evidenceReference action.text symbol stage status).toList =
      ("action=" ++ action.text).toList ++ '|' ::
        ("|".intercalate ["symbol=" ++ symbol, "stage=" ++ stage, "status=" ++ status]).toList := by
    rw [evidenceReference, String.intercalate_cons_cons]
    simp only [String.toList_append, List.append_assoc]
    rfl
  have plain : ∀ c ∈ ("action=" ++ action.text).toList, (c == '|') = false := by
    have without : (("action=" ++ action.text).toList.any (· == '|')) = false := by
      cases action <;> decide
    simpa using without
  have parts := List.splitOn_append_cons_of_forall_mem_beq_eq_false plain '|' rfl
    ("|".intercalate ["symbol=" ++ symbol, "stage=" ++ stage, "status=" ++ status]).toList
  rw [actionFromReference, split, parts]
  cases action <;> rfl

variable {candidate : StrategyCandidateRecord}

/-- A validation that is planned was not attempted on the present evidence. -/
theorem not_attempted_of_planned {action : ResearchAction}
    (planned : PlannedValidation candidate action) (runs : action.stageKey.isSome) :
    attemptedForCurrentEvidenceState candidate action = false := by
  have fresh : ∀ stage act, validationDue candidate stage act →
      attemptedForCurrentEvidenceState candidate act = false := by
    intro stage act due
    simp only [validationDue, Bool.and_eq_true, Bool.not_eq_true'] at due
    exact due.1.2
  -- A validation is planned as it is, or given up for another candidate.
  have asPlanned : ∀ act reason,
      (runUnlessExhausted candidate act reason).1 = action → act = action := by
    intro act reason same
    simp only [runUnlessExhausted] at same
    split at same
    · exact absurd same.symm planned.2.2
    · exact same
  have expand : ∀ exhausted reason,
      (expandUnlessExhausted candidate exhausted reason).1 ≠ action := by
    intro exhausted reason same
    simp only [expandUnlessExhausted] at same
    split at same
    · exact planned.2.2 same.symm
    · exact planned.2.1 same.symm
  have same := planned.1
  simp only [nextBlockerDrivenResearchAction] at same
  split at same
  · rw [← same] at runs
    exact absurd runs (by decide)
  split at same
  · exact absurd same.symm planned.2.2
  split at same
  · exact absurd same.symm planned.2.2
  split at same
  · exact absurd same.symm planned.2.1
  split at same
  · exact absurd same.symm planned.2.2
  · simp only [nextValidationAction] at same
    split at same
    · rename_i stage act reason found
      have due := List.find?_some found
      rw [← asPlanned act reason same]
      exact fresh stage act due
    split at same
    · exact absurd same (expand _ _)
    split at same
    · rename_i due
      rw [← asPlanned _ _ same]
      exact fresh _ _ due
    split at same
    · split at same
      · exact absurd same.symm planned.2.2
      · exact absurd same (expand _ _)
    split at same
    · exact absurd same (expand _ _)
    · rw [← same] at runs
      exact absurd runs (by decide)

/-- What a record remembers of the cycles in a journal. -/
structure Tracked (journal : List ExecutedCycle) (record : StrategyCandidateRecord) : Prop where
  completed : cyclesOf record.candidateId journal ≤ record.cyclesCompleted
  bounded : cyclesOf record.candidateId journal ≤ absoluteCandidateCycleCap
  remembered : record.validationAttemptHistory.length ≤ cyclesOf record.candidateId journal
  attempted : ∀ action key, action.stageKey.isSome →
    .robustness record.candidateId action key true ∈ journal →
    ∃ attempt ∈ record.validationAttemptHistory,
      attempt.action = action.text ∧ attempt.stateKey = key

/-- A candidate that is open, or can become so again, has a cycle left. -/
def HasCyclesLeft (journal : List ExecutedCycle) (record : StrategyCandidateRecord) : Prop :=
  record.IsOpen ∨ recoverable record →
    cyclesOf record.candidateId journal < absoluteCandidateCycleCap

/-- A short history is remembered as a whole. -/
theorem lastSlice_eq_self {α : Type} {items : List α}
    (short : items.length ≤ absoluteCandidateCycleCap) :
    Py.lastSlice actionCycleHistoryCap items = items := by
  simp only [absoluteCandidateCycleCap] at short
  have none : items.length - 48 = 0 := by omega
  simp [Py.lastSlice, actionCycleHistoryCap, none]

namespace Tracked

variable {journal : List ExecutedCycle} {record changed : StrategyCandidateRecord}

section

variable (tracked : Tracked journal record)

include tracked

/-- Another record of a candidate with the same cycles remembers the same. -/
theorem of_same (named : changed.candidateId = record.candidateId)
    (cycles : changed.cyclesCompleted = record.cyclesCompleted)
    (history : changed.validationAttemptHistory = record.validationAttemptHistory) :
    Tracked journal changed := by
  refine ⟨?_, ?_, ?_, ?_⟩
  · rw [named, cycles]
    exact tracked.completed
  · rw [named]
    exact tracked.bounded
  · rw [named, history]
    exact tracked.remembered
  · rw [named, history]
    exact tracked.attempted

/-- A record that is read back remembers the same. -/
theorem reloaded : Tracked journal record.reloaded :=
  tracked.of_same rfl rfl (lastSlice_eq_self (tracked.remembered.trans tracked.bounded))

/-- A candidate that is rotated out remembers the same. -/
theorem rotated (reason : Option String) (now : String) :
    Tracked journal (rotatedCandidate record reason now) := by
  unfold rotatedCandidate
  split
  · exact tracked.of_same rfl rfl rfl
  · split <;> exact tracked.of_same rfl rfl rfl

/-- A cycle of another candidate is nothing to remember. -/
theorem other
    (differs : cycle.candidateId ≠ record.candidateId) : Tracked (journal ++ [cycle]) record := by
  have same : cyclesOf record.candidateId (journal ++ [cycle]) =
      cyclesOf record.candidateId journal := by
    simp [countsFor_eq_false differs]
  refine ⟨same ▸ tracked.completed, same ▸ tracked.bounded, same ▸ tracked.remembered, ?_⟩
  intro action key runs member
  rcases List.mem_append.mp member with old | new
  · exact tracked.attempted action key runs old
  · rw [← List.mem_singleton.mp new] at differs
    exact absurd rfl differs

/-- A breadth cycle is counted. -/
theorem breadth (left : cyclesOf record.candidateId journal < absoluteCandidateCycleCap)
    (output : MultiSymbolOutput) (now : String) (blocked : Bool) :
    Tracked (journal ++ [.breadth record.candidateId blocked])
      (breadthUpdated record output now) := by
  have counted : cyclesOf record.candidateId
      (journal ++ [.breadth record.candidateId blocked]) ≤
        cyclesOf record.candidateId journal + 1 := by
    rw [cyclesOf_append]
    split <;> omega
  have older : cyclesOf record.candidateId journal ≤
      cyclesOf record.candidateId (journal ++ [.breadth record.candidateId blocked]) := by
    rw [cyclesOf_append]
    omega
  refine ⟨counted.trans (Nat.succ_le_succ tracked.completed), counted.trans left,
    tracked.remembered.trans older, ?_⟩
  intro action key runs member
  rcases List.mem_append.mp member with old | new
  · exact tracked.attempted action key runs old
  · cases List.mem_singleton.mp new

end

/-- A short history is remembered with one attempt more. -/
theorem remembered_short (short : record.validationAttemptHistory.length < absoluteCandidateCycleCap)
    (attempt : ValidationAttempt) :
    Py.lastSlice actionCycleHistoryCap (record.validationAttemptHistory ++ [attempt]) =
      record.validationAttemptHistory ++ [attempt] := by
  refine lastSlice_eq_self ?_
  rw [List.length_append, List.length_singleton]
  exact short

/-- The history after a validation is the one before it, with at most one attempt more. -/
theorem history_validated (sha : Json → String) (action : ResearchAction) (symbol : String)
    (payload : LearningPayload) (now : String)
    (short : record.validationAttemptHistory.length < absoluteCandidateCycleCap) :
    let history := (validated sha record action symbol payload now).validationAttemptHistory
    history = record.validationAttemptHistory ∨
      ∃ attempt, history = record.validationAttemptHistory ++ [attempt] := by
  intro history
  let progress := robustnessReport sha record action symbol payload now
  cases found : actionStageKeys.lookup
      ((progress.reference.bind actionFromReference).getD progress.directorAction) with
  | none =>
    left
    simp only [history, validated, recordRobustnessProgress, progress, found]
  | some stage =>
    right
    simp only [history, validated, recordRobustnessProgress, progress, found]
    exact ⟨_, remembered_short short _⟩

/-- A validation of a candidate's own rules is noted, on the evidence before it. -/
theorem noted_validated (sha : Json → String) {action : ResearchAction} (symbol : String)
    (payload : LearningPayload) (now : String) (verified : identityVerified sha record)
    (runs : action.stageKey.isSome)
    (short : record.validationAttemptHistory.length < absoluteCandidateCycleCap) :
    ∃ attempt ∈ (validated sha record action symbol payload now).validationAttemptHistory,
      attempt.action = action.text ∧
        attempt.stateKey = candidateMaterialEvidenceKey record := by
  let progress := robustnessReport sha record action symbol payload now
  obtain ⟨stage, staged⟩ := Option.isSome_iff_exists.mp runs
  have reference : progress.reference = some (plannedActionEvidenceReference record action symbol
      payload.validationStageStatus) := if_pos verified
  have named : (progress.reference.bind actionFromReference).getD progress.directorAction =
      action.text := by
    rw [reference, plannedActionEvidenceReference, staged]
    simp only [Option.bind_some, actionFromReference_evidenceReference, Option.getD_some]
  have found : actionStageKeys.lookup
      ((progress.reference.bind actionFromReference).getD progress.directorAction) =
        some stage := by
    rw [named]
    exact staged
  simp only [validated, recordRobustnessProgress, progress, found, remembered_short short]
  exact ⟨_, List.mem_append_right _ List.mem_cons_self, named, rfl⟩

/-- A validation is counted, and noted if it was one of the candidate's own rules. -/
theorem validated (tracked : Tracked journal record)
    (left : cyclesOf record.candidateId journal < absoluteCandidateCycleCap)
    (sha : Json → String) (action : ResearchAction) (symbol : String) (payload : LearningPayload)
    (now : String) :
    Tracked (journal ++ [validationEntry sha record action])
      (StrategyLab.validated sha record action symbol payload now) := by
  have counted : cyclesOf record.candidateId (journal ++ [validationEntry sha record action]) =
      cyclesOf record.candidateId journal + 1 := by
    simp [ExecutedCycle.countsFor]
  have short := tracked.remembered.trans_lt left
  have history := history_validated sha action symbol payload now short
  have kept : ∀ attempt ∈ record.validationAttemptHistory, attempt ∈
      (StrategyLab.validated sha record action symbol payload now).validationAttemptHistory := by
    intro attempt member
    rcases history with same | ⟨next, more⟩
    · rw [same]
      exact member
    · rw [more]
      exact List.mem_append_left _ member
  refine ⟨counted.le.trans (Nat.succ_le_succ tracked.completed), counted.le.trans left, ?_, ?_⟩
  · refine le_trans ?_ counted.ge
    rcases history with same | ⟨next, more⟩
    · rw [same]
      exact tracked.remembered.trans (Nat.le_succ _)
    · rw [more, List.length_append, List.length_singleton]
      exact Nat.succ_le_succ tracked.remembered
  · intro ran key runs member
    rcases List.mem_append.mp member with old | new
    · obtain ⟨attempt, there, noted⟩ := tracked.attempted ran key runs old
      exact ⟨attempt, kept attempt there, noted⟩
    · have same := List.mem_singleton.mp new
      simp only [validationEntry, ExecutedCycle.robustness.injEq] at same
      obtain ⟨-, rfl, rfl, verified⟩ := same
      exact noted_validated sha symbol payload now verified.symm runs short

end Tracked

/-- Which candidates can be taken up again. -/
theorem recoverable_iff : recoverable candidate ↔
    candidate.status = .stagnant ∧
      candidate.rejectedReason = some recoverableStagnationReason := by
  rw [recoverable, Bool.and_eq_true, decide_eq_true_iff, decide_eq_true_iff]

/-- A candidate that is given up can be taken up again for one reason only. -/
theorem recoverable_markStagnant {reason now : String} :
    recoverable (markStagnant candidate reason now) ↔ reason = recoverableStagnationReason := by
  rw [recoverable_iff, markStagnant, Option.some.injEq]
  exact and_iff_right rfl

variable {now : String}

/-- A candidate that is rotated out can be taken up again if that was the reason. -/
theorem recoverable_rotatedCandidate {reason : Option String}
    (given : recoverable (rotatedCandidate candidate reason now)) :
    reason = some recoverableStagnationReason := by
  unfold rotatedCandidate at given
  split at given
  · exact absurd (recoverable_markStagnant.mp given) (by decide)
  · rename_i told found
    split at given
    · cases (recoverable_iff.mp given).1
    · rw [← recoverable_markStagnant.mp given]
      exact (Option.filter_eq_some_iff.mp found).1

/-- A text that is no default was given. -/
theorem eq_some_of_textOr {text : Option String} {default given : String}
    (same : textOr text default = given) (differs : default ≠ given) : text = some given := by
  unfold textOr at same
  split at same
  · split at same
    · exact absurd same differs
    · rw [same]
  · exact absurd same differs

/-- A record that remembers its cycles, with one left while its candidate can be researched. -/
structure Paced (journal : List ExecutedCycle) (record : StrategyCandidateRecord) : Prop where
  tracked : Tracked journal record
  left : HasCyclesLeft journal record

namespace Paced

variable {journal : List ExecutedCycle} {record : StrategyCandidateRecord}

/-- A candidate that cannot be researched any more needs no cycle. -/
theorem ended (tracked : Tracked journal record) (closed : ¬record.IsOpen)
    (lost : ¬recoverable record) : Paced journal record :=
  ⟨tracked, fun going => going.elim (fun isOpen => absurd isOpen closed)
    fun given => absurd given lost⟩

/-- A record that is read back is paced. -/
theorem reloaded (paced : Paced journal record) : Paced journal record.reloaded := by
  refine ⟨paced.tracked.reloaded, fun going => paced.left ?_⟩
  rcases going with isOpen | given
  · exact .inl isOpen
  · obtain ⟨stagnant, reason⟩ := recoverable_iff.mp given
    exact .inr (recoverable_iff.mpr ⟨stagnant, (Option.filter_eq_some_iff.mp reason).1⟩)

/-- A cycle of another candidate leaves a record paced. -/
theorem other (paced : Paced journal record)
    (differs : cycle.candidateId ≠ record.candidateId) : Paced (journal ++ [cycle]) record := by
  refine ⟨paced.tracked.other differs, fun going => ?_⟩
  rw [cyclesOf_append, countsFor_eq_false differs]
  exact paced.left going

/-- A candidate whose verdict is not taken back is paced when it is rotated out. -/
theorem rotated (paced : Paced journal record) (fixed : ¬record.Reversible) (now : String) :
    Paced journal (rotatedCandidate record (some (nextBlockerDrivenResearchAction record).2)
      now) := by
  refine ⟨paced.tracked.rotated _ now, fun going => ?_⟩
  rw [(rotatedCandidate_sameIdentity _ _ _).candidateId]
  refine paced.left ?_
  by_cases isOpen : record.IsOpen
  · exact .inl isOpen
  -- It was rejected or given up before, and its reason is the one it had.
  have ended : record.status = .rejected ∨ record.status = .stagnant := by
    by_contra neither
    rw [not_or] at neither
    exact isOpen (StrategyCandidateRecord.isOpen_of_ne (fun ready => fixed (.inl ready)) neither.1
      neither.2)
  have still := rotatedCandidate_ended record (some (nextBlockerDrivenResearchAction record).2) now
  rcases going with open' | given
  · rcases open' with status | status | status <;> rw [status] at still <;> simp at still
  rcases ended with rejected | stagnant
  · have status := (recoverable_iff.mp given).1
    rw [rotatedCandidate_rejected now rejected fixed] at status
    cases status
  · have repeated := Option.some.inj (recoverable_rotatedCandidate given)
    rw [planned_of_ended (.inr stagnant)] at repeated
    exact .inr (recoverable_iff.mpr ⟨stagnant, eq_some_of_textOr repeated (by decide)⟩)

section

variable (tracked : Tracked journal record)

include tracked

/-- A candidate that is given up without a reason cannot be taken up again. -/
theorem retired (now : String) :
    Paced journal (rotatedCandidate record none now) :=
  ended (tracked.rotated none now)
    (by simp [StrategyCandidateRecord.IsOpen, rotatedCandidate, someText, markStagnant])
    fun given => absurd (recoverable_rotatedCandidate given) (by simp)

/-- A candidate that becomes ready is paced. -/
theorem ready (now : String) :
    Paced journal (markPromotionReady record now) :=
  ended (tracked.of_same rfl rfl rfl) (by simp [StrategyCandidateRecord.IsOpen, markPromotionReady])
    (by simp [recoverable, markPromotionReady])

/-- A candidate that is rejected is paced. -/
theorem rejected (reason now : String) :
    Paced journal (markRejected record reason now) :=
  ended (tracked.of_same rfl rfl rfl) (by simp [StrategyCandidateRecord.IsOpen, markRejected])
    (by simp [recoverable, markRejected])

/-- An open candidate that is not stagnant is paced. -/
theorem going (isOpen : record.IsOpen) (moving : ¬isStagnant record) : Paced journal record := by
  refine ⟨tracked, fun _ => lt_of_le_of_lt tracked.completed ?_⟩
  by_contra many
  refine moving ?_
  have unended : ¬(record.status = .promotionReady ∨ record.status = .rejected ∨
      record.status = .stagnant) := by
    rcases isOpen with status | status | status <;> simp [status]
  rw [isStagnant, if_neg unended, if_pos (not_lt.mp many)]

end

end Paced

section Steps

variable {sha : Json → String} {journal : List ExecutedCycle} {before after : Portfolio}

/-- Records stay paced when one of them is replaced by one that is. -/
theorem paced_put (all : ∀ record ∈ before.records, Paced journal record)
    {changed : StrategyCandidateRecord} (next : Paced journal changed) :
    ∀ record ∈ (before.put changed).records, Paced journal record := by
  intro record member
  obtain ⟨old, inside, rfl⟩ := List.mem_map.mp member
  split
  · exact next.reloaded
  · exact all old inside

/-- Records stay paced over a cycle, when the one of its candidate does. -/
theorem paced_replaced (all : ∀ record ∈ before.records, Paced journal record)
    {candidate changed : StrategyCandidateRecord} (known : candidate ∈ before.records)
    (next : Paced (journal ++ [cycle]) changed)
    (same : changed.candidateId = candidate.candidateId)
    (own : cycle.candidateId = candidate.candidateId) :
    ∀ record ∈ (before.put changed).records, Paced (journal ++ [cycle]) record := by
  intro record member
  rcases (mem_put_iff known same).mp member with rfl | ⟨old, differs⟩
  · exact next.reloaded
  · exact (all record old).other fun agree => differs (agree.symm.trans own)

/-- Clearing a portfolio keeps its records paced. -/
theorem Cleared.paced (steps : Cleared before after)
    (all : ∀ record ∈ before.records, Paced journal record) :
    ∀ record ∈ after.records, Paced journal record := by
  induction steps with
  | refl => exact all
  | tail _ last ih =>
    cases last with
    | @reopened candidate now known given =>
      have paced := ih candidate known
      have taken : Paced journal (StrategyLab.reopened candidate now) :=
        ⟨paced.tracked.of_same rfl rfl rfl, fun _ => paced.left (.inr given)⟩
      exact paced_put ih taken
    | @givenUp candidate reason now known active asked =>
      have paced := ih candidate known
      refine paced_put ih (.ended (paced.tracked.of_same rfl rfl rfl) ?_ ?_)
      · simp [StrategyCandidateRecord.IsOpen, markStagnant]
      · -- What a user asks for is no reason that a mission comes back from.
        intro given
        rw [recoverable_markStagnant.mp given] at asked
        exact absurd asked (by decide)

/-- Clearing a portfolio keeps the names of its candidates. -/
theorem Cleared.names (steps : Cleared before after) (formed : before.WellFormed sha) :
    after.records.map (·.candidateId) = before.records.map (·.candidateId) := by
  obtain ⟨still, sequence, -⟩ := Cleared.formed steps formed
  rw [still.numbered, formed.numbered, sequence]

/-- Choosing a candidate keeps the records paced, and the names known. -/
theorem Chosen.paced {request : MissionRequest}
    (choice : Chosen sha request before candidate after) (formed : before.WellFormed sha)
    (all : ∀ record ∈ before.records, Paced journal record)
    (named : ∀ cycle ∈ journal, cycle.candidateId ∈ before.records.map (·.candidateId)) :
    (∀ record ∈ after.records, Paced journal record) ∧
      ∀ cycle ∈ journal, cycle.candidateId ∈ after.records.map (·.candidateId) := by
  cases choice with
  | kept known active => exact ⟨all, named⟩
  | selected known asked => exact ⟨all, named⟩
  | @created template listed untried =>
    let record := template.newRecord sha (before.sequence + 1) request.now
    -- The name is a new one, so the journal has no cycle under it.
    have unnamed : ∀ cycle ∈ journal, cycle.candidateId ≠ record.candidateId :=
      fun cycle member same => formed.next_fresh listed untried
        (show record.candidateId ∈ _ from same ▸ named cycle member)
    have none : cyclesOf record.candidateId journal = 0 := cyclesOf_eq_zero unnamed
    have tracked : Tracked journal record := by
      refine ⟨none.le, none.le.trans (Nat.zero_le _), Nat.zero_le _, ?_⟩
      intro action key _ member
      exact absurd rfl (unnamed _ member)
    have fresh : Paced journal record := ⟨tracked, fun _ => none ▸ by decide⟩
    constructor
    · intro other member
      rcases List.mem_append.mp member with old | new
      · exact all other old
      · rw [List.mem_singleton.mp new]
        exact fresh
    · intro cycle member
      rw [Portfolio.add, List.map_append]
      exact List.mem_append_left _ (named cycle member)

variable {tools : ResearchTools}

variable {executed : Option ExecutedCycle}

/-- A cycle keeps the records paced. -/
theorem CycleStep.paced (step : CycleStep sha tools before candidate now executed after)
    (known : candidate ∈ before.records) (fixed : ¬candidate.Reversible)
    (all : ∀ record ∈ before.records, Paced journal record) :
    ∀ record ∈ after.records, Paced (journal ++ executed.toList) record := by
  have paced := all candidate known
  have going : (nextBlockerDrivenResearchAction candidate).1 ≠ .rotateCandidate →
      candidate.IsOpen :=
    fun planned => isOpen_of_planned planned fun ready => fixed (.inl ready)
  -- A candidate that a cycle is run on is open, so it has a cycle left for it.
  have validation : ∀ {action : ResearchAction} symbol payload, PlannedValidation candidate action →
      Tracked (journal ++ [validationEntry sha candidate action])
        (StrategyLab.validated sha candidate action symbol payload now) :=
    fun symbol payload planned => paced.tracked.validated
      (paced.left (.inl (going (planned.1 ▸ planned.2.2)))) sha _ symbol payload now
  cases step with
  | kept planned =>
    rw [Option.toList_none, List.append_nil]
    exact all
  | rotated planned =>
    rw [Option.toList_none, List.append_nil]
    exact paced_put all (paced.rotated fixed now)
  | breadth output planned moving =>
    have isOpen := going planned
    have left := paced.left (.inl isOpen)
    have tracked := paced.tracked.breadth left output now output.isProviderAcquisitionBlocker
    have stillOpen := breadthUpdated_isOpen output now isOpen
    have updated : Paced (journal ++ [.breadth candidate.candidateId
        output.isProviderAcquisitionBlocker]) (breadthUpdated candidate output now) := by
      by_cases blocked : output.isProviderAcquisitionBlocker
      · refine ⟨tracked, fun _ => ?_⟩
        rw [cyclesOf_append, blocked]
        simp only [ExecutedCycle.countsFor, Bool.not_true, Bool.and_false, Bool.false_eq_true,
          if_false, Nat.add_zero]
        exact left
      · exact .going tracked stillOpen (moving.resolve_left blocked)
    exact paced_replaced all known updated rfl rfl
  | breadthRotated output planned =>
    have tracked := paced.tracked.breadth (paced.left (.inl (going planned))) output now
      output.isProviderAcquisitionBlocker
    exact paced_replaced all known (.retired tracked now)
      (rotatedCandidate_sameIdentity (breadthUpdated candidate output now) none now).candidateId rfl
  | @validated action symbol payload told planned moving =>
    have stillOpen :=
      validated_isOpen sha action symbol payload now (going (planned.1 ▸ planned.2.2))
    exact paced_replaced all known (.going (validation symbol payload planned) stillOpen moving)
      rfl rfl
  | @validatedRotated action symbol payload told planned =>
    exact paced_replaced all known (.retired (validation symbol payload planned) now)
      (rotatedCandidate_sameIdentity (StrategyLab.validated sha candidate action symbol payload now)
        none now).candidateId rfl
  | @promoted action symbol payload told planned verified pass =>
    have inside : candidate ∈ ((before.announce candidate now).focus none).records := by
      simpa using known
    have same : ∀ record ∈ ((before.announce candidate now).focus none).records,
        Paced journal record := by
      simpa using all
    exact paced_replaced same inside (.ready (validation symbol payload planned) now) rfl rfl
  | @rejected action symbol reason payload told planned =>
    have same : ∀ record ∈ (before.focus none).records, Paced journal record := all
    exact paced_replaced same known (.rejected (validation symbol payload planned) reason now)
      rfl rfl

/-- A cycle is one of its candidate, whose validation is a new one. -/
theorem CycleStep.new_cycle (step : CycleStep sha tools before candidate now (some cycle) after)
    (tracked : Tracked journal candidate) :
    cycle.candidateId = candidate.candidateId ∧ ∀ candidateId action key,
      action.stageKey.isSome → cycle = .robustness candidateId action key true →
        cycle ∉ journal := by
  -- A validation of the present evidence would have been noted, and then it is not planned.
  have validation : ∀ {action : ResearchAction}, PlannedValidation candidate action →
      ∀ candidateId other key, other.stageKey.isSome →
        validationEntry sha candidate action = .robustness candidateId other key true →
          validationEntry sha candidate action ∉ journal := by
    intro action planned candidateId other key runs same member
    simp only [validationEntry, ExecutedCycle.robustness.injEq] at same
    obtain ⟨rfl, rfl, rfl, verified⟩ := same
    rw [validationEntry, verified] at member
    obtain ⟨attempt, there, named, state⟩ := tracked.attempted _ _ runs member
    have tried : attemptedForCurrentEvidenceState candidate action = true :=
      List.any_eq_true.mpr ⟨attempt, there, by simp [named, state]⟩
    rw [not_attempted_of_planned planned runs] at tried
    exact Bool.false_ne_true tried
  cases step with
  | breadth output planned moving => exact ⟨rfl, fun _ _ _ _ same => by cases same⟩
  | breadthRotated output planned => exact ⟨rfl, fun _ _ _ _ same => by cases same⟩
  | validated symbol told planned moving => exact ⟨rfl, validation planned⟩
  | validatedRotated symbol told planned => exact ⟨rfl, validation planned⟩
  | promoted symbol told planned verified pass => exact ⟨rfl, validation planned⟩
  | rejected symbol reason told planned => exact ⟨rfl, validation planned⟩

/-- A cycle keeps the names of the candidates. -/
theorem CycleOutcome.names
    (outcome : CycleOutcome before candidate now after) (formed : before.WellFormed sha)
    (known : candidate ∈ before.records) :
    after.records.map (·.candidateId) = before.records.map (·.candidateId) := by
  cases outcome with
  | untouched isOpen => rfl
  | continued same isOpen still =>
    exact formed.map_put known same.candidateId same.candidateId
  | released same unready ended kept =>
    exact formed.map_put known same.candidateId same.candidateId
  | promoted same isOpen ready =>
    have inside : candidate ∈ ((before.announce candidate now).focus none).records := by
      simpa using known
    have names := ((formed.announce candidate now).focus none).map_put inside same.candidateId
      (f := (·.candidateId)) same.candidateId
    simpa using names

/-- A mission with a journal in which no validation is repeated, and whose records are paced. -/
structure WellPaced (sha : Json → String) (journal : List ExecutedCycle)
    (portfolio : Portfolio) : Prop where
  formed : portfolio.WellFormed sha
  activeOpen : portfolio.ActiveOpen
  paced : ∀ record ∈ portfolio.records, Paced journal record
  named : ∀ cycle ∈ journal, cycle.candidateId ∈ portfolio.records.map (·.candidateId)
  once : ∀ candidateId action key, action.stageKey.isSome →
    journal.count (.robustness candidateId action key true) ≤ 1

/-- Clearing the portfolio of such a mission leaves one. -/
theorem Cleared.wellPaced (cleared : Cleared before after)
    (wellPaced : WellPaced sha journal before) : WellPaced sha journal after where
  formed := (cleared.formed wellPaced.formed).1
  activeOpen := (cleared.verdicts wellPaced.formed wellPaced.activeOpen).1
  paced := cleared.paced wellPaced.paced
  named := cleared.names wellPaced.formed ▸ wellPaced.named
  once := wellPaced.once

/-- A turn that takes no verdict back leaves such a mission. -/
theorem TurnStep.wellPaced {request : MissionRequest}
    (step : TurnStep sha tools request before executed after)
    (fixed : ∀ record ∈ before.records, request.requestedFamily = some record.strategyFamily →
      ¬record.Reversible)
    (wellPaced : WellPaced sha journal before) :
    WellPaced sha (journal ++ executed.toList) after := by
  have formed := wellPaced.formed
  have activeOpen := (step.verdicts formed wellPaced.activeOpen fixed).1
  have afterFormed := step.formed formed
  cases step with
  | ended cleared =>
    rw [Option.toList_none, List.append_nil]
    exact cleared.wellPaced wellPaced
  | @cycle cleared chosen _ candidate _ steps choice step =>
    have clearedFormed := (Cleared.formed steps formed).1
    have notReversible :=
      (choice.verdicts_of_cleared steps formed wellPaced.activeOpen fixed).1
    obtain ⟨chosenFormed, known, -⟩ := choice.formed clearedFormed
    obtain ⟨paced, named⟩ := choice.paced clearedFormed (Cleared.paced steps wellPaced.paced)
      (Cleared.names steps formed ▸ wellPaced.named)
    have names := (step.outcome notReversible).names chosenFormed known
    refine ⟨afterFormed, activeOpen, step.paced known notReversible paced, ?_, ?_⟩
    · rw [names]
      intro cycle member
      rcases List.mem_append.mp member with earlier | last
      · exact named cycle earlier
      · obtain rfl := Option.mem_toList.mp last
        rw [(step.new_cycle (paced candidate known).tracked).1]
        exact List.mem_map_of_mem known
    · intro candidateId action key runs
      rw [List.count_append]
      cases executed with
      | none => simpa using wellPaced.once candidateId action key runs
      | some cycle =>
        by_cases same : cycle = .robustness candidateId action key true
        · have new := (step.new_cycle (paced candidate known).tracked).2 _ _ _ runs same
          rw [← same, List.count_eq_zero_of_not_mem new]
          simp
        · have differs :
              (some cycle).toList.count (.robustness candidateId action key true) = 0 := by
            refine List.count_eq_zero.mpr fun member => same ?_
            exact (List.mem_singleton.mp member).symm
          rw [differs]
          exact wellPaced.once candidateId action key runs

end Steps

/-- An event that takes no verdict back leaves such a mission. -/
theorem wellPaced_next {sha : Json → String} {journal : MissionJournal} (event : MissionEvent)
    (keeps : KeepsVerdicts journal event)
    (wellPaced : WellPaced sha journal.executed journal.mission.portfolio) :
    let next := (missionMachine sha).next journal event
    WellPaced sha next.executed next.mission.portfolio := by
  intro next
  have start : WellPaced sha journal.executed journal.mission.reloaded.portfolio :=
    ⟨wellPaced.formed.reloaded, wellPaced.activeOpen.reloaded, wellPaced.paced,
      wellPaced.named, wellPaced.once⟩
  cases event with
  | message scope =>
    have same : next.executed = journal.executed := List.append_nil _
    rw [same]
    exact start
  | turn request tools =>
    by_cases going : request.GoesOn journal.mission.reloaded
    · have step := tryMissionDrivenResearchCycle_step tools request start.formed
      exact step.wellPaced (keeps going) start
    · obtain ⟨nothing, cleared⟩ := cleared_of_not_goesOn sha tools going
      have same : next.executed = journal.executed := by
        have added : next.executed = journal.executed ++ (tryMissionDrivenResearchCycle sha tools
            request journal.mission.reloaded).executed.toList := rfl
        rw [added, nothing, Option.toList_none, List.append_nil]
      rw [same]
      exact Cleared.wellPaced cleared start

/-- In a run whose turns take no verdict back, no candidate executes a validation twice on the same
evidence, and none takes more cycles that find data than the cap allows. -/
theorem research_bounded (sha : Json → String) (first : ResearchMission.ScopeUpdate)
    (events : List MissionEvent)
    (keeps : (missionMachine sha).Guarded KeepsVerdicts (.create first) events)
    (candidateId : String) :
    let journal := ((missionMachine sha).run (.create first) events).executed
    (∀ action key, action.stageKey.isSome →
      journal.count (.robustness candidateId action key true) ≤ 1) ∧
    cyclesOf candidateId journal ≤ absoluteCandidateCycleCap := by
  intro journal
  have next : ∀ (journal : MissionJournal) (event : MissionEvent), KeepsVerdicts journal event →
      WellPaced sha journal.executed journal.mission.portfolio →
        WellPaced sha ((missionMachine sha).next journal event).executed
          ((missionMachine sha).next journal event).mission.portfolio :=
    fun _ event guard wellPaced => wellPaced_next event guard wellPaced
  have start : WellPaced sha (MissionJournal.create first).executed
      (MissionJournal.create first).mission.portfolio :=
    ⟨wellFormed_create sha first, activeOpen_create first,
      fun _ member => absurd member List.not_mem_nil,
      fun _ member => absurd member List.not_mem_nil, fun _ _ _ _ => Nat.zero_le _⟩
  have wellPaced := (missionMachine sha).guarded_invariant next keeps start
  refine ⟨wellPaced.once candidateId, ?_⟩
  -- A candidate without a record has no cycles at all.
  by_cases known : candidateId ∈ ((missionMachine sha).run (.create first)
      events).mission.portfolio.records.map (·.candidateId)
  · obtain ⟨record, member, rfl⟩ := List.mem_map.mp known
    exact (wellPaced.paced record member).tracked.bounded
  · have none : cyclesOf candidateId journal = 0 :=
      cyclesOf_eq_zero fun cycle member same => known (same ▸ wellPaced.named cycle member)
    exact none.le.trans (Nat.zero_le _)

/-- A candidate that is validated once has one validation in the journal. -/
theorem judged_candidate_bounded :
    let journal := ((missionMachine familyDigest).run (.create koreanScope)
      (judged (profitableTools "pass"))).executed
    cyclesOf "KR-ST-001" journal = 2 ∧
    (∀ action key, action.stageKey.isSome →
      journal.count (.robustness "KR-ST-001" action key true) ≤ 1) ∧
    cyclesOf "KR-ST-001" journal ≤ absoluteCandidateCycleCap :=
  ⟨by decide +kernel, research_bounded familyDigest koreanScope (judged (profitableTools "pass"))
    (by decide +kernel) "KR-ST-001"⟩

/-! ### The whole mission -/

/-- Whether a cycle counts for its candidate: it found data. -/
def ExecutedCycle.counts (cycle : ExecutedCycle) : Bool := cycle.countsFor cycle.candidateId

/-- Cycles of candidates with names are counted by name. -/
theorem countP_counts_le {most : Nat} {names : List String} {journal : List ExecutedCycle}
    (named : ∀ cycle ∈ journal, cycle.candidateId ∈ names)
    (few : ∀ name ∈ names, cyclesOf name journal ≤ most) :
    journal.countP (·.counts) ≤ names.length * most := by
  have summed : journal.countP (·.counts) ≤ (names.map (cyclesOf · journal)).sum := by
    clear few
    induction journal with
    | nil => exact Nat.zero_le _
    | cons cycle rest ih =>
      have earlier := ih fun other member => named other (List.mem_cons_of_mem _ member)
      have own : (if cycle.counts then 1 else 0) ≤
          (names.map fun name => if cycle.countsFor name then 1 else 0).sum :=
        List.single_le_sum (fun _ _ => Nat.zero_le _) _
          (List.mem_map_of_mem (named cycle List.mem_cons_self))
      simp only [cyclesOf, List.countP_cons, List.sum_map_add]
      exact Nat.add_le_add earlier own
  refine summed.trans ?_
  have most := List.sum_le_card_nsmul (names.map (cyclesOf · journal)) most (by simpa using few)
  simpa using most

/-- A run whose turns take no verdict back leaves a well-paced mission. -/
theorem wellPaced_run (sha : Json → String) (first : ResearchMission.ScopeUpdate)
    (events : List MissionEvent)
    (keeps : (missionMachine sha).Guarded KeepsVerdicts (.create first) events) :
    let journal := (missionMachine sha).run (.create first) events
    WellPaced sha journal.executed journal.mission.portfolio := by
  refine @Machine.guarded_invariant _ _ _ (missionMachine sha) KeepsVerdicts
    (fun journal => WellPaced sha journal.executed journal.mission.portfolio)
    (fun _ event guard => wellPaced_next event guard) _ _ keeps ?_
  exact ⟨wellFormed_create sha first, activeOpen_create first,
    fun _ member => absurd member List.not_mem_nil,
    fun _ member => absurd member List.not_mem_nil, fun _ _ _ _ => Nat.zero_le _⟩

/-- In a run whose turns take no verdict back there is at most one candidate for each family, and
all candidates together take no more cycles that find data than the cap allows for each of them. -/
theorem mission_bounded (sha : Json → String) (first : ResearchMission.ScopeUpdate)
    (events : List MissionEvent)
    (keeps : (missionMachine sha).Guarded KeepsVerdicts (.create first) events) :
    let journal := (missionMachine sha).run (.create first) events
    journal.mission.portfolio.records.length ≤ StrategyFamilies.templates.length ∧
      journal.executed.countP (·.counts) ≤
        StrategyFamilies.templates.length * absoluteCandidateCycleCap := by
  intro journal
  have paced := wellPaced_run sha first events keeps
  have families : journal.mission.portfolio.records.length ≤ StrategyFamilies.templates.length := by
    rw [paced.formed.length_records]
    exact paced.formed.sequence_le
  have few := @countP_counts_le absoluteCandidateCycleCap _ _ paced.named fun name known => ?_
  · rw [List.length_map] at few
    exact ⟨families, few.trans (Nat.mul_le_mul_right _ families)⟩
  · obtain ⟨record, member, rfl⟩ := List.mem_map.mp known
    exact (paced.paced record member).tracked.bounded

/-- A mission whose first candidate is validated once is bounded. -/
theorem judged_mission_bounded :
    let journal := (missionMachine familyDigest).run (.create koreanScope)
      (judged (profitableTools "pass"))
    journal.executed.countP (·.counts) = 2 ∧
    journal.mission.portfolio.records.length ≤ StrategyFamilies.templates.length ∧
      journal.executed.countP (·.counts) ≤
        StrategyFamilies.templates.length * absoluteCandidateCycleCap :=
  ⟨by decide +kernel, mission_bounded familyDigest koreanScope (judged (profitableTools "pass"))
    (by decide +kernel)⟩

end StrategyLab
