import StrategyLab.Adapters.PromotedAgainst

/-! Stops between the commits of an activation: those that a restarted service recovers from. -/

namespace StrategyLab

open ChampionRegistryRepository ChampionRegistryService

/-- An operation that is carried out, or one during which the process stops after some commits. -/
inductive ServiceStep where
  | finished (op : ChampionOp)
  | stopped (op : ChampionOp) (commits : Nat)
  deriving DecidableEq, Repr

/-- What is stored when the process stops after the first commits of an operation. -/
def ChampionState.stop (state : ChampionState) (op : ChampionOp) (commits : Nat) : ChampionState :=
  { state with
    champions := (Commits.commit write state.champions
      ((op.call state).writes.take commits)).2 }

/-- The registry service with a process that may stop and be restarted. -/
def crashMachine : Machine ChampionState ServiceStep Unit where
  step state
    | .finished op => ((), championMachine.next state op)
    | .stopped op commits => ((), state.stop op commits)

/-- A step that does not stop between recording a version and the last write of its call. -/
def Whole (state : ChampionState) : ServiceStep → Prop
  | .finished _ => True
  | .stopped op commits => (op.call state).writes.length ≤ commits ∨
      ∀ version, .addHistory version ∉ (op.call state).writes.take commits

/-- The slot an approval or a rollback works on. -/
def Concerns (state : ChampionState) (slot : String) : ChampionOp → Prop
  | .approve promotionId _ _ _ =>
    ∃ request, state.champions.requests.find? promotionId = some request ∧ request.slot = slot
  | .rollback request => request.slot = slot
  | _ => False

/-- Approvals and rollbacks of a slot that pass their checks are not refused by the tables. -/
def Unobstructed (state : ChampionState) (slot : String) : Prop :=
  ∀ op answer, Concerns state slot op → (op.call state).result = .ok answer →
    championMachine.answer state op = .ok answer

/-- Active entry, newest version and, after an approval, the request status agree. -/
def Agrees (state : ChampionState) (slot : String) (op : ChampionOp) : Prop :=
  state.champions.getActive slot = (state.champions.listHistory slot).getLast?.map (·.entry) ∧
    ∀ promotionId actorRef decidedAt reason,
      op = .approve promotionId actorRef decidedAt reason →
        requestStatus state promotionId = some .activated

/-- After a stop the same call completes or changes back, and the slot remains usable. -/
def Recovers (state : ChampionState) (slot : String) (op : ChampionOp) (commits : Nat) : Prop :=
  let stopped := state.stop op commits
  let repeated := championMachine.next stopped op
  ((∃ answer, championMachine.answer stopped op = .ok answer ∧ Agrees repeated slot op) ∨
    repeated = state) ∧ Unobstructed repeated slot

/-- The process stops during an approval, right after its decision. -/
def AfterDecision (op : ChampionOp) (commits : Nat) : Prop :=
  (∃ promotionId actorRef decidedAt reason,
    op = .approve promotionId actorRef decidedAt reason) ∧ commits = 1

/-- Whatever an operation writes, a version is recorded right before it becomes active. -/
theorem call_linked (state : ChampionState) (op : ChampionOp) :
    Linked (op.call state).writes := by
  cases op with
  | bootstrap => exact .bind (bootstrap_linked ..) fun _ => .done
  | requestPromotion => exact .bind (requestPromotion_linked ..) fun _ => .done
  | approve => exact .bind (approve_linked ..) fun _ => .done
  | reject => exact .bind (reject_linked ..) fun _ => .done
  | rollback => exact .bind (rollback_linked ..) fun _ => .done
  | addReport => exact .done

variable {commits : Nat}

/-- The first of linked writes are quiet as long as none of them records a version. -/
theorem Linked.quiet_take {writes : List ChampionWrite} (linked : Linked writes)
    (none : ∀ version, .addHistory version ∉ writes.take commits) :
    ∀ entry ∈ writes.take commits, entry.Quiet := by
  induction linked generalizing commits with
  | done => simp
  | @quiet entry rest still _ ih =>
    cases commits with
    | zero => simp
    | succ commits =>
      simp only [List.take_succ_cons, List.mem_cons, not_or] at none ⊢
      rintro other (rfl | member)
      · exact still
      · exact ih (fun version => (none version).2) other member
  | @activate version entry rest =>
    cases commits with
    | zero => simp
    | succ commits => exact absurd List.mem_cons_self (none version)

/-- Quiet writes leave the history and the active entries alone. -/
theorem quiet_commit {repository : ChampionRegistryRepository} {writes : List ChampionWrite}
    (still : ∀ entry ∈ writes, entry.Quiet) :
    (Commits.commit write repository writes).2.history = repository.history ∧
      (Commits.commit write repository writes).2.registry = repository.registry := by
  have kept (middle : ChampionRegistryRepository) (entry : ChampionWrite)
      (next : ChampionRegistryRepository) (member : entry ∈ writes)
      (written : middle.write entry = .ok next)
      (same : middle.history = repository.history ∧ middle.registry = repository.registry) :
      next.history = repository.history ∧ next.registry = repository.registry := by
    obtain ⟨history, registry⟩ := quiet_write (still entry member) written
    exact ⟨history.trans same.1, registry.trans same.2⟩
  exact Commits.commit_invariant kept ⟨rfl, rfl⟩

/-- A step that does not split an activation keeps the registry consistent. -/
theorem whole_step_consistent (state : ChampionState) (step : ServiceStep)
    (whole : Whole state step) (consistent : Consistent state.champions) :
    Consistent (crashMachine.next state step).champions := by
  cases step with
  | finished op => exact step_consistent state op consistent
  | stopped op commits =>
    rcases whole with all | none
    · -- Every write was committed, as if the call had returned.
      have same : (crashMachine.next state (.stopped op commits)).champions =
          (championMachine.next state op).champions := by
        rw [next_champions]
        change (Commits.commit write state.champions ((op.call state).writes.take commits)).2 = _
        rw [List.take_of_length_le all]
      rw [same]
      exact step_consistent state op consistent
    · obtain ⟨history, registry⟩ :=
        @quiet_commit state.champions _ ((call_linked state op).quiet_take none)
      exact consistent.congr (congrArg Table.rows history) registry

/-- Every state of a run whose stops do not split an activation is consistent. -/
theorem whole_run_consistent (evaluations : EvaluationReports) {steps : List ServiceStep}
    (whole : crashMachine.Guarded Whole (.initial evaluations) steps) :
    Consistent (crashMachine.run (.initial evaluations) steps).champions :=
  crashMachine.guarded_invariant whole_step_consistent whole consistent_empty

variable {state : ChampionState}

/-- In a consistent registry an approval or a rollback that passes its checks is carried out. -/
theorem Consistent.unobstructed (consistent : Consistent state.champions)
    (slot : String) : Unobstructed state slot := by
  intro op answer concerns accepted
  have effect := call_effect state op
  rw [answer_champions]
  generalize op.call state = call at effect accepted
  cases effect with
  | refused => cases accepted
  | noted => cases accepted
  | repeatedApproval | repeatedRequest | repeatedRejection | stored => exact accepted
  | bootstrapped | requested | rejected => exact concerns.elim
  | approved promotionId actorRef decidedAt reason request report decision version approvable
      recorded =>
    have positioned := consistent.recorded recorded
    obtain ⟨next, commits, -⟩ := consistent.approval approvable.found decision positioned
    simp only [Commits.perform, commits]
    exact accepted
  | returned request active previous version returnable recorded =>
    have positioned := consistent.restored returnable.found recorded
    obtain ⟨next, -, commits⟩ := consistent.activation positioned
    have committed := commits []
    rw [List.append_nil, Commits.commit_nil] at committed
    simp only [Commits.perform, committed]
    exact accepted

variable {repository : ChampionRegistryRepository}

/-- A version cannot be recorded when another one has its slot and its revision. -/
theorem addHistory_refused
    {version old : ChampionStrategyVersion} (taken : old ∈ repository.history.rows)
    (slot : old.slot = version.slot) (revision : old.revision = version.revision) :
    ∃ error, repository.write (.addHistory version) = .error error := by
  have numbered : repository.history.rows.any (fun row =>
      decide (row.slot = version.slot) && decide (row.revision = version.revision)) = true := by
    rw [List.any_eq_true]
    exact ⟨old, taken, by simp [slot, revision]⟩
  exact ⟨_, by simp only [write, numbered]; rfl⟩

variable {slot : String} {op : ChampionOp}

/-- Once a version is recorded that the active entry does not stand for yet, every approval and
every rollback that would follow the active entry is refused. -/
theorem stuck_of_taken {old : ChampionStrategyVersion} (taken : old ∈ state.champions.history.rows)
    (own : old.slot = slot)
    (next : old.revision = nextRevision (state.champions.getActive slot))
    (concerns : Concerns state slot op)
    (pending : ∀ promotionId, requestStatus state promotionId = some .activated →
      ∀ actorRef decidedAt reason, op ≠ .approve promotionId actorRef decidedAt reason) :
    ∃ error, championMachine.answer state op = .error error := by
  have effect := call_effect state op
  rw [answer_champions]
  generalize op.call state = call at effect
  cases effect with
  | refused op error => exact ⟨error, rfl⟩
  | noted promotionId actorRef decidedAt reason request report decision error =>
    obtain ⟨noted, written, -⟩ := write_addDecision state.champions decision
    refine ⟨error, ?_⟩
    simp only [Commits.perform, Commits.commit_cons_ok written, Commits.commit_nil]
  | repeatedApproval promotionId actorRef decidedAt reason request entry found done =>
    have closed : requestStatus state promotionId = some .activated := by
      simp only [requestStatus, found, Option.map_some, done]
    exact absurd rfl (pending promotionId closed actorRef decidedAt reason)
  | repeatedRequest | repeatedRejection | stored | bootstrapped | requested | rejected =>
    exact concerns.elim
  | approved promotionId actorRef decidedAt reason request report decision version approvable
      recorded =>
    obtain ⟨asked, found, slots⟩ := concerns
    rw [approvable.found] at found
    obtain rfl := Option.some.inj found
    obtain ⟨noted, written, still⟩ := write_addDecision state.champions decision
    have rows : noted.history.rows = state.champions.history.rows := by simpa using still.history
    obtain ⟨error, refused⟩ : ∃ error, noted.write (.addHistory version) = .error error := by
      refine addHistory_refused (rows ▸ taken) ?_ ?_
      · rw [own, recorded, ← slots]; rfl
      · rw [next, recorded, ← slots]; rfl
    refine ⟨error, ?_⟩
    simp only [Commits.perform, Commits.commit_cons_ok written, activationWrites,
      List.cons_append, Commits.commit_cons_error refused]
  | returned request active previous version returnable recorded =>
    obtain ⟨error, refused⟩ :
        ∃ error, state.champions.write (.addHistory version) = .error error := by
      refine addHistory_refused taken ?_ ?_
      · rw [own, recorded]; exact concerns.symm
      · rw [next, recorded, ← concerns, returnable.found]; rfl
    refine ⟨error, ?_⟩
    simp only [Commits.perform, activationWrites, Commits.commit_cons_error refused]

/-- An approval whose challenger is already active raises. -/
theorem approve_refused_of_active {state : ChampionState} {promotionId : String}
    {request : PromotionRequest} {report : ChampionChallengerEvaluationReport}
    {entry : ChampionRegistryEntry} (approvable : request.status ≠ .activated)
    (found : state.champions.requests.find? promotionId = some request)
    (evaluated : state.evaluations.find? request.evaluationId = some report)
    (active : state.champions.getActive request.slot = some entry)
    (same : entry.fingerprint = report.challengerFingerprint)
    (actorRef decidedAt reason : String) :
    ∃ error, championMachine.answer state (.approve promotionId actorRef decidedAt reason) =
      .error error := by
  have effect := call_effect state (.approve promotionId actorRef decidedAt reason)
  rw [answer_champions]
  -- The check against the active champion is the one that fails.
  have unapprovable : ∀ asked checked, ¬Approvable state promotionId asked checked := by
    intro asked checked approvable
    have located := approvable.found
    rw [found] at located
    obtain rfl := Option.some.inj located
    have read := approvable.evaluated
    rw [evaluated] at read
    obtain rfl := Option.some.inj read
    exact (candidate_checked approvable.candidate).2.2 entry active same
  generalize (ChampionOp.approve promotionId actorRef decidedAt reason).call state = call at effect
  cases effect with
  | refused op error => exact ⟨error, rfl⟩
  | repeatedApproval _ _ _ _ asked _ located done =>
    rw [found] at located
    obtain rfl := Option.some.inj located
    exact absurd done approvable
  | noted _ _ _ _ asked checked _ _ approvable =>
    exact absurd approvable (unapprovable asked checked)
  | approved _ _ _ _ asked checked _ _ approvable =>
    exact absurd approvable (unapprovable asked checked)

variable {version : ChampionStrategyVersion}

/-- A stop that leaves a new version behind is not recovered from when the repeated call raises. -/
theorem not_recovers (fresh : state.champions.history.find? version.versionId = none)
    (taken : (state.stop op commits).champions.history.find? version.versionId = some version)
    (failed : ∃ error, championMachine.answer (state.stop op commits) op = .error error) :
    ¬Recovers state slot op commits := by
  rintro ⟨⟨answer, answered, -⟩ | unchanged, -⟩
  · obtain ⟨error, raised⟩ := failed
    rw [raised] at answered
    cases answered
  · -- The version stays, so the state is not the one before the call.
    have kept := history_kept_commit (op.call (state.stop op commits)).writes taken
    rw [← next_champions, unchanged, fresh] at kept
    cases kept

/-- The version of the next place of its slot is not in the history yet. -/
theorem Consistent.fresh (consistent : Consistent repository)
    (positioned : Positioned version.slot (slotVersions repository version.slot).length version) :
    repository.history.find? version.versionId = none := by
  obtain ⟨grown, -, inserted⟩ := consistent.addHistory positioned
  exact (Table.insert?_eq_some_iff.mp inserted).1

/-- After an approval the request it names is activated. -/
theorem approve_activates (consistent : Consistent state.champions)
    {promotionId actorRef decidedAt reason : String} {answer : ChampionAnswer}
    (answered : championMachine.answer state (.approve promotionId actorRef decidedAt reason) =
      .ok answer) :
    requestStatus (championMachine.next state (.approve promotionId actorRef decidedAt reason))
      promotionId = some .activated := by
  have effect := call_effect state (.approve promotionId actorRef decidedAt reason)
  rw [answer_champions] at answered
  rw [requestStatus, next_champions]
  generalize (ChampionOp.approve promotionId actorRef decidedAt reason).call state = call
    at effect answered
  cases effect with
  | refused => cases answered
  | noted _ _ _ _ request report decision error =>
    obtain ⟨noted, written, -⟩ := write_addDecision state.champions decision
    simp only [Commits.perform, Commits.commit_cons_ok written, Commits.commit_nil] at answered
    cases answered
  | repeatedApproval _ _ _ _ request entry found done =>
    change (state.champions.requests.find? promotionId).map _ = _
    rw [found, Option.map_some, done]
  | approved _ _ _ _ request report decision version approvable recorded =>
    have positioned := consistent.recorded recorded
    obtain ⟨next, commits, moved⟩ := consistent.approval approvable.found decision positioned
    have own := Table.key_of_find? approvable.found
    rw [commits, moved.requests]
    simp [own]

/-- An approval reads the requests, the active entries and the reports only. -/
theorem approve_call_congr {state later : ChampionState}
    (evaluations : later.evaluations = state.evaluations)
    (requests : ∀ promotionId, later.champions.requests.find? promotionId =
      state.champions.requests.find? promotionId)
    (registry : later.champions.registry = state.champions.registry)
    (promotionId actorRef decidedAt reason : String) :
    (ChampionOp.approve promotionId actorRef decidedAt reason).call later =
      (ChampionOp.approve promotionId actorRef decidedAt reason).call state := by
  simp only [ChampionOp.call, ChampionRegistryService.approve, getRequest, getActive, evaluations,
    requests, registry]

/-- After its decision an approval can be completed by repeating it. -/
theorem approval_resumes (consistent : Consistent state.champions)
    {promotionId actorRef decidedAt reason slot : String}
    (concerns : Concerns state slot (.approve promotionId actorRef decidedAt reason))
    (unfinished : 1 < ((ChampionOp.approve promotionId actorRef decidedAt reason).call
      state).writes.length) :
    Recovers state slot (.approve promotionId actorRef decidedAt reason) 1 := by
  -- Only the decision has been stored, which none of the checks looks at.
  obtain ⟨noted, stopped, still, accepted⟩ : ∃ noted,
      state.stop (.approve promotionId actorRef decidedAt reason) 1 =
          { state with champions := noted } ∧ Moved state.champions noted none none ∧
        ∃ answer, ((ChampionOp.approve promotionId actorRef decidedAt reason).call state).result =
          .ok answer := by
    have effect := call_effect state (.approve promotionId actorRef decidedAt reason)
    unfold ChampionState.stop
    generalize (ChampionOp.approve promotionId actorRef decidedAt reason).call state = call
      at effect unfinished
    cases effect with
    | refused => simp at unfinished
    | noted => simp at unfinished
    | repeatedApproval => simp at unfinished
    | approved _ _ _ _ request report decision version approvable recorded =>
      obtain ⟨noted, written, still⟩ := write_addDecision state.champions decision
      refine ⟨noted, ?_, still, _, rfl⟩
      rw [List.take_succ_cons, List.take_zero, Commits.commit_cons_ok written]
      rfl
  have ready : Consistent noted := still.consistent consistent (by simp)
  obtain ⟨answer, accepted⟩ := accepted
  rw [Recovers, stopped]
  generalize cut : ({ state with champions := noted } : ChampionState) = later
  have readyLater : Consistent later.champions := by
    rw [← cut]
    exact ready
  have sameCall := @approve_call_congr state later (by rw [← cut])
    (by rw [← cut]; exact still.requests) (by rw [← cut]; exact still.registry) promotionId actorRef
    decidedAt reason
  have concernsLater : Concerns later slot (.approve promotionId actorRef decidedAt reason) := by
    obtain ⟨request, found, own⟩ := concerns
    refine ⟨request, ?_, own⟩
    rw [← cut, still.requests]
    exact found
  have answered := readyLater.unobstructed slot _ answer concernsLater (by rw [sameCall, accepted])
  have consistentNext :=
    step_consistent later (.approve promotionId actorRef decidedAt reason) readyLater
  refine ⟨Or.inl ⟨answer, answered, ?_, ?_⟩, consistentNext.unobstructed slot⟩
  · rw [consistentNext.listHistory_eq, consistentNext.active]
  · intro promotionId actorRef decidedAt reason same
    rw [same] at answered ⊢
    exact approve_activates readyLater answered

/-- A stop that splits the activation of an approval or a rollback is not recovered from. -/
theorem split_not_recovers (consistent : Consistent state.champions)
    (concerns : Concerns state slot op)
    (started : 0 < commits) (unfinished : commits < (op.call state).writes.length)
    (late : ¬AfterDecision op commits) : ¬Recovers state slot op commits := by
  have effect := call_effect state op
  generalize called : op.call state = call at effect unfinished
  cases effect with
  | refused | repeatedApproval | repeatedRequest | repeatedRejection | stored =>
    simp at unfinished
  | noted =>
    simp only [List.length_singleton] at unfinished
    omega
  | bootstrapped | requested | rejected => exact concerns.elim
  | approved promotionId actorRef decidedAt reason request report decision version approvable
      recorded =>
    have positioned := consistent.recorded recorded
    have own : version.slot = slot := by
      obtain ⟨asked, found, same⟩ := concerns
      rw [approvable.found] at found
      obtain rfl := Option.some.inj found
      rw [recorded, ← same]
      rfl
    have opened : request.status ≠ .activated := by
      rcases approvable.open_ with pending | pending <;> rw [pending] <;> decide
    obtain ⟨noted, written, still⟩ := write_addDecision state.champions decision
    have ready : Consistent noted := still.consistent consistent (by simp)
    obtain ⟨grown, added, inserted⟩ := ready.addHistory
      (by simpa [still.slotVersions] using positioned)
    have taken : grown.find? version.versionId = some version := by
      rw [Table.find?_insert? inserted, if_pos rfl]
    have two_or_three : commits = 1 ∨ commits = 2 ∨ commits = 3 := by
      simp only [activationWrites, List.length_cons, List.length_append, List.length_nil]
        at unfinished
      omega
    rcases two_or_three with rfl | rfl | rfl
    · exact absurd ⟨⟨_, _, _, _, rfl⟩, rfl⟩ late
    · -- The version is recorded, but the active entry is still the old one.
      have cut : state.stop (.approve promotionId actorRef decidedAt reason) 2 =
          { state with champions := { noted with history := grown } } := by
        rw [ChampionState.stop, called]
        simp only [activationWrites, List.cons_append, List.take_succ_cons, List.take_zero,
          Commits.commit_cons_ok written, Commits.commit_cons_ok added, Commits.commit_nil]
      refine not_recovers (consistent.fresh positioned) (by rw [cut]; exact taken) ?_
      rw [cut]
      refine stuck_of_taken (Table.find?_eq_some_iff.mp taken).1 own ?_ ?_ ?_
      · rw [recorded, ← own, recorded]
        change nextRevision _ = nextRevision (noted.registry.find? request.slot)
        rw [still.registry]
        rfl
      · obtain ⟨asked, found, same⟩ := concerns
        exact ⟨asked, (still.requests promotionId).trans found, same⟩
      · intro other activated actor time why same
        obtain ⟨rfl, -⟩ := ChampionOp.approve.inj same
        change (noted.requests.find? promotionId).map _ = _ at activated
        rw [still.requests promotionId, Option.elim_none, approvable.found, Option.map_some]
          at activated
        exact opened (Option.some.inj activated)
    · -- The challenger is active already, so the repeated approval turns it down.
      have cut : state.stop (.approve promotionId actorRef decidedAt reason) 3 =
          { state with champions := { noted with
            history := grown, registry := noted.registry.replace version.entry } } := by
        rw [ChampionState.stop, called]
        simp only [activationWrites, List.cons_append, List.nil_append, List.take_succ_cons,
          List.take_zero, Commits.commit_cons_ok written, Commits.commit_cons_ok added]
        rfl
      refine not_recovers (consistent.fresh positioned) (by rw [cut]; exact taken) ?_
      rw [cut]
      have active : (noted.registry.replace version.entry).find? request.slot =
          some version.entry := by
        rw [recorded]
        exact Table.find?_replace_self _ _
      exact @approve_refused_of_active
        { state with champions := { noted with
          history := grown, registry := noted.registry.replace version.entry } }
        promotionId request report version.entry opened
        ((still.requests promotionId).trans approvable.found) approvable.evaluated active
        (by rw [recorded]; rfl) actorRef decidedAt reason
  | returned request active previous version returnable recorded =>
    have positioned := consistent.restored returnable.found recorded
    obtain ⟨grown, added, inserted⟩ := consistent.addHistory positioned
    have taken : grown.find? version.versionId = some version := by
      rw [Table.find?_insert? inserted, if_pos rfl]
    have one : commits = 1 := by
      simp only [activationWrites, List.length_cons, List.length_nil] at unfinished
      omega
    subst one
    have cut : state.stop (.rollback request) 1 =
        { state with champions := { state.champions with history := grown } } := by
      rw [ChampionState.stop, called]
      simp only [activationWrites, List.take_succ_cons, List.take_zero,
        Commits.commit_cons_ok added, Commits.commit_nil]
    refine not_recovers (consistent.fresh positioned) (by rw [cut]; exact taken) ?_
    rw [cut]
    have own : version.slot = slot := by
      rw [recorded, ← concerns]
      rfl
    refine stuck_of_taken (Table.find?_eq_some_iff.mp taken).1 own ?_ concerns ?_
    · rw [recorded, ← concerns]
      change nextRevision (some active) = nextRevision (state.champions.registry.find? request.slot)
      rw [← returnable.found]
      rfl
    · intro promotionId activated actor time why same
      cases same

/-- The restarted service recovers from a stop between two commits of an approval or a rollback
exactly when the process stopped during an approval, right after its decision. -/
theorem recovers_iff_after_decision (evaluations : EvaluationReports) {steps : List ServiceStep}
    (whole : crashMachine.Guarded Whole (.initial evaluations) steps) {slot : String}
    {op : ChampionOp} {commits : Nat}
    (concerns : Concerns (crashMachine.run (.initial evaluations) steps) slot op)
    (started : 0 < commits)
    (unfinished : commits <
      (op.call (crashMachine.run (.initial evaluations) steps)).writes.length) :
    Recovers (crashMachine.run (.initial evaluations) steps) slot op commits ↔
      AfterDecision op commits := by
  have consistent := whole_run_consistent evaluations whole
  constructor
  · intro recovers
    by_contra late
    exact split_not_recovers consistent concerns started unfinished late recovers
  · rintro ⟨⟨promotionId, actorRef, decidedAt, reason, rfl⟩, rfl⟩
    exact approval_resumes consistent concerns unfinished

/-- The operations after which the stops of the examples come: a champion and an open request. -/
def beforeStop : List ServiceStep := (askedAgainst "fingerprint-1").map .finished

set_option maxRecDepth 4096 in
/-- A stop right after the decision of an approval is recovered from. -/
theorem decided_approval_recovers :
    Recovers (crashMachine.run (.initial firstEvaluation) beforeStop) "default" approveFirst 1 ↔
      AfterDecision approveFirst 1 :=
  @recovers_iff_after_decision firstEvaluation beforeStop ⟨trivial, trivial, trivial⟩ "default"
    approveFirst 1
    ⟨⟨"promotion-1", "evaluation-1", "default", .pendingApproval, "backtest-1", "backtest-2",
      "validation-1", "fingerprint-2", "fingerprint-1", "operator", "2026-07-18T00:00:00Z"⟩,
      by decide, rfl⟩ (by decide) (by decide)

set_option maxRecDepth 4096 in
/-- A stop between recording the version and making it active is not recovered from. -/
theorem recorded_approval_stuck :
    ¬∀ slot op commits,
      Concerns (crashMachine.run (.initial firstEvaluation) beforeStop) slot op → 0 < commits →
        commits < (op.call (crashMachine.run (.initial firstEvaluation) beforeStop)).writes.length →
          Recovers (crashMachine.run (.initial firstEvaluation) beforeStop) slot op commits := by
  intro safe
  have recovers := safe "default" approveFirst 2
    ⟨⟨"promotion-1", "evaluation-1", "default", .pendingApproval, "backtest-1", "backtest-2",
      "validation-1", "fingerprint-2", "fingerprint-1", "operator", "2026-07-18T00:00:00Z"⟩,
      by decide, rfl⟩ (by decide) (by decide)
  have refused : ∀ answer, championMachine.answer
      ((crashMachine.run (.initial firstEvaluation) beforeStop).stop approveFirst 2)
        approveFirst ≠ .ok answer := by
    have error : (championMachine.answer
        ((crashMachine.run (.initial firstEvaluation) beforeStop).stop approveFirst 2)
          approveFirst).isOk = false := by decide
    intro answer accepted
    rw [accepted] at error
    cases error
  rcases recovers.1 with ⟨answer, accepted, -⟩ | unchanged
  · exact refused answer accepted
  · have rows := congrArg (fun state : ChampionState => state.champions.history.rows.length)
      unchanged
    revert rows
    decide

end StrategyLab
