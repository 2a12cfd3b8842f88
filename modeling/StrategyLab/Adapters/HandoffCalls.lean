import StrategyLab.Adapters.HandoffSessions
import StrategyLab.Adapters.StrategyHandoffLaws

/-! A decision on a package that one client takes alone: when it succeeds, and what it leaves. -/

namespace StrategyLab

open StrategyHandoffRepository StrategyHandoffService
open Raise (bind_eq_ok)

variable {digest : HandoffDigest} {repository : StrategyHandoffRepository}

/-- The status that a decision gives a package. -/
def decisionStatus (approved : Bool) : StrategyHandoffStatus :=
  if approved then .approvedForDeployment else .rejected

/-- A package that passes its checks, and has the right checksum. -/
structure WellFormed (digest : HandoffDigest) (package : StrategyHandoffPackage) : Prop where
  valid : package.validate = .ok ()
  readable : digest.checksum package.payloadWithoutChecksum = package.checksum

/-- What a decision makes of a package: its status, and nothing that the checksum covers. -/
structure Decided (digest : HandoffDigest) (decision : HandoffDecision)
    (decided : StrategyHandoffPackage) : Prop where
  wellFormed : WellFormed digest decided
  status : decided.status = decisionStatus decision.approved
  packageId : decided.packageId = decision.packageId

/-- Ids of decisions are the same only for the same decision on the same package. -/
theorem decisionId_inj {approved other : Bool} {packageId otherId : String} :
    decisionId approved packageId = decisionId other otherId ↔
      approved = other ∧ packageId = otherId := by
  have text : ∀ approved packageId, decisionId approved packageId =
      (if approved then "handoff-approval:" else "handoff-rejection:") ++ packageId := by
    intro approved packageId
    cases approved <;> rfl
  constructor
  · intro same
    rw [text, text, ← String.toList_inj, String.toList_append, String.toList_append] at same
    cases approved <;> cases other <;> simp_all [String.toList_inj]
  · intro same
    rw [same.1, same.2]

variable {decision : HandoffDecision} {package : StrategyHandoffPackage}

/-- A decision that can start is about a stored package that was not decided on the other way. -/
theorem start_eq_ok :
    decision.start digest repository = .ok package ↔
      getPackage digest repository decision.packageId = .ok package ∧
        package.status ≠ decisionStatus (!decision.approved) ∧
        (decision.approval package).validate = .ok () := by
  have permits : ∀ package, decision.permits package = .ok () ↔
      package.status ≠ decisionStatus (!decision.approved) := by
    intro package
    cases approved : decision.approved <;>
      simp [HandoffDecision.permits, approved, decisionStatus, require_eq_ok]
  simp only [HandoffDecision.start, bind_eq_ok, Raise.pure_eq_ok]
  constructor
  · rintro ⟨_, read, _, permitted, _, validated, rfl⟩
    exact ⟨read, (permits _).mp permitted, validated⟩
  · rintro ⟨read, permitted, validated⟩
    exact ⟨package, read, (), (permits _).mpr permitted, (), validated, rfl⟩

/-- A decision on a well-formed package that is not approved gives it its status. -/
theorem withStatus_decision
    (wellFormed : WellFormed digest package) (named : package.packageId = decision.packageId)
    (validated : (decision.approval package).validate = .ok ())
    (open_ : package.status ≠ .approvedForDeployment) :
    ∃ decided, package.withStatus decision.status decision.actorRef decision.decidedAt =
      .ok decided ∧ Decided digest decision decided := by
  obtain ⟨timed, actor⟩ := approval_validate validated
  cases approved : decision.approved with
  | true =>
    obtain ⟨changed, valid⟩ := withStatus_approved wellFormed.valid actor timed open_
    refine ⟨_, ?_, ⟨⟨valid, wellFormed.readable⟩, ?_, named⟩⟩
    · simpa [HandoffDecision.status, HandoffDecision.approval, approved] using changed
    · simp [decisionStatus, approved]
  | false =>
    obtain ⟨changed, valid⟩ :=
      withStatus_rejected decision.actorRef wellFormed.valid timed open_
    refine ⟨_, ?_, ⟨⟨valid, wellFormed.readable⟩, ?_, named⟩⟩
    · simpa [HandoffDecision.status, HandoffDecision.approval, approved] using changed
    · simp [decisionStatus, approved]

/-- Both calls of the service read, record, and update. -/
theorem call_eq (digest : HandoffDigest) (decision : HandoffDecision)
    (repository : StrategyHandoffRepository) :
    decision.call digest repository = (do
      let package ← .read (decision.start digest repository)
      .write (.addApproval (decision.approval package))
      let decided ← .read
        (package.withStatus decision.status decision.actorRef decision.decidedAt)
      .write (.updatePackage decided)
      return decided) := by
  have known : ∀ package (next : StrategyHandoffPackage → Except ServiceError
      StrategyHandoffPackage), (Except.ok package >>= next) = next package := fun _ _ => rfl
  -- Both sides stop where the package is not found, where it was decided on the other way, and
  -- where the record does not pass its checks.
  cases approved : decision.approved with
  | true =>
    simp only [HandoffDecision.call, approved, if_true, approve, HandoffDecision.start,
      HandoffDecision.permits, HandoffDecision.approval, HandoffDecision.status, decisionId]
    cases getPackage digest repository decision.packageId with
    | error raised => rfl
    | ok package =>
      rw [Commits.read_ok_bind]
      by_cases rejected : package.status = .rejected
      · rw [if_pos rejected]
        simp only [known, rejected, require, ne_eq, not_true_eq_false, decide_false, Bool.false_eq_true,
          if_false]
        rfl
      · rw [if_neg rejected]
        simp only [known, rejected, require, ne_eq, not_false_eq_true, decide_true, if_true]
        cases StrategyDeploymentApproval.validate _ <;> rfl
  | false =>
    simp only [HandoffDecision.call, approved, Bool.false_eq_true, if_false, reject,
      HandoffDecision.start, HandoffDecision.permits, HandoffDecision.approval,
      HandoffDecision.status, decisionId]
    cases getPackage digest repository decision.packageId with
    | error raised => rfl
    | ok package =>
      rw [Commits.read_ok_bind]
      by_cases approved : package.status = .approvedForDeployment
      · rw [if_pos approved]
        simp only [known, approved, require, ne_eq, not_true_eq_false, decide_false, Bool.false_eq_true,
          if_false]
        rfl
      · rw [if_neg approved]
        simp only [known, approved, require, ne_eq, not_false_eq_true, decide_true, if_true]
        cases StrategyDeploymentApproval.validate _ <;> rfl

@[simp] theorem HandoffSessions.goto_self (state : HandoffSessions) (client : Nat)
    (phase : HandoffPhase) : (state.goto client phase).clients client = phase :=
  Function.update_self ..

@[simp] theorem HandoffSessions.goto_repository (state : HandoffSessions) (client : Nat)
    (phase : HandoffPhase) : (state.goto client phase).repository = state.repository := rfl

/-- A client without a call does nothing in a step. -/
theorem next_idle {state : HandoffSessions} {client : Nat} (idle : state.clients client = .idle) :
    (HandoffSessions.machine digest).next state (.step client) = state := by
  simp only [Machine.next, HandoffSessions.machine, HandoffSessions.step,
    HandoffSessions.stepClient, idle]

/-- The steps of a client that nobody interrupts do what its call does at once. -/
theorem decide_alone (digest : HandoffDigest) {state : HandoffSessions} {client : Nat}
    (idle : state.clients client = .idle) (decision : HandoffDecision) :
    ((HandoffSessions.machine digest).run state
      [.decide client decision, .step client, .step client, .step client]).repository =
      (Commits.perform (write digest) state.repository
        (decision.call digest state.repository)).2 := by
  rw [Commits.perform_snd, call_eq]
  simp only [Machine.run_cons, Machine.run_nil]
  cases started : decision.start digest state.repository with
  | error raised =>
    -- Nothing was begun, so nothing goes on.
    have begun : (HandoffSessions.machine digest).next state (.decide client decision) = state := by
      simp only [Machine.next, HandoffSessions.machine, HandoffSessions.step, idle, started]
    simp only [begun, next_idle idle, Commits.read_error_bind, Commits.raise_writes,
      Commits.commit_nil]
  | ok package =>
    have begun : (HandoffSessions.machine digest).next state (.decide client decision) =
        state.goto client (.recording decision package) := by
      simp only [Machine.next, HandoffSessions.machine, HandoffSessions.step, idle, started]
    simp only [begun, Commits.read_ok_bind, Commits.write_bind_writes]
    have stepped : ∀ state, (HandoffSessions.machine digest).next state (.step client) =
        (HandoffSessions.stepClient digest state client).2 := fun _ => rfl
    rw [stepped (state.goto client _)]
    simp only [HandoffSessions.stepClient, HandoffSessions.goto_self,
      HandoffSessions.goto_repository]
    cases written : write digest state.repository (.addApproval (decision.approval package)) with
    | error refused =>
      rw [Commits.commit_cons_error written]
      simp [next_idle]
    | ok after =>
      rw [Commits.commit_cons_ok written]
      dsimp only
      cases changed : package.withStatus decision.status decision.actorRef decision.decidedAt with
      | error raised => simp [next_idle]
      | ok decided =>
        simp only [Commits.read_ok_bind, Commits.write_bind_writes, Commits.pure_writes]
        rw [stepped (HandoffSessions.goto _ client _)]
        simp only [HandoffSessions.stepClient, HandoffSessions.goto_self,
          HandoffSessions.goto_repository]
        cases read : getPackage digest after decided.packageId with
        | error raised =>
          have refused : write digest after (.updatePackage decided) = .error raised := by
            simp only [write, read, bind, Except.bind]
          rw [Commits.commit_cons_error refused]
          simp [next_idle]
        | ok existing =>
          dsimp only
          by_cases immutable : existing.status = .approvedForDeployment ∧ existing ≠ decided
          · have refused : write digest after (.updatePackage decided) =
                .error (.valueError "approved handoff package is immutable") := by
              simp only [write, read, bind, Except.bind, if_pos immutable]
            rw [if_pos immutable, Commits.commit_cons_error refused]
            simp [next_idle]
          · obtain ⟨found, _⟩ := find?_of_getPackage read
            rw [if_neg immutable, stepped (HandoffSessions.goto _ client _)]
            simp only [HandoffSessions.stepClient, HandoffSessions.goto_self,
              HandoffSessions.goto_repository, StrategyHandoffRepository.overwrite, found]
            have updated : write digest after (.updatePackage decided) = .ok { after with
                packages := after.packages.update (·.packageId = decided.packageId)
                  (fun row => { decided with packageId := row.packageId }) (fun _ => rfl) } := by
              simp only [write, read, bind, Except.bind, if_neg immutable]
              rfl
            rw [Commits.commit_cons_ok updated, Commits.commit_nil]

/-- A decision that a client takes alone returns the package, and stores it with its status. -/
def Completes (digest : HandoffDigest) (decision : HandoffDecision)
    (repository : StrategyHandoffRepository) : Prop :=
  ∃ decided after, Commits.perform (write digest) repository (decision.call digest repository) =
    (.ok decided, after) ∧ after.packages.find? decision.packageId = some decided ∧
      decided.status = decisionStatus decision.approved

/-- A decision that completes was not recorded before. -/
theorem fresh_of_completes (completes : Completes digest decision repository) :
    repository.approvals.find? (decisionId decision.approved decision.packageId) = none := by
  obtain ⟨decided, after, performed, _⟩ := completes
  rw [call_eq] at performed
  cases started : decision.start digest repository with
  | error raised =>
    rw [started, Commits.read_error_bind] at performed
    cases performed
  | ok package =>
    rw [started, Commits.read_ok_bind] at performed
    cases inserted : repository.approvals.insert? (decision.approval package) with
    | some grown => exact (Table.insert?_eq_some_iff.mp inserted).1
    | none =>
      -- The record is the first thing written, and it is refused.
      have refused : write digest repository (.addApproval (decision.approval package)) =
          .error (.integrityError "UNIQUE constraint failed") := by
        simp only [write, inserted]
      simp only [Commits.perform, Commits.write_bind_writes,
        Commits.commit_cons_error refused] at performed
      cases performed

/-- A decision on a package that is not decided on, and not recorded yet, completes. -/
theorem completes_of_fresh (found : repository.packages.find? decision.packageId = some package)
    (wellFormed : WellFormed digest package)
    (undecided : ∀ approved, package.status ≠ decisionStatus approved)
    (validated : (decision.approval package).validate = .ok ())
    (fresh : repository.approvals.find? (decisionId decision.approved decision.packageId) = none) :
    Completes digest decision repository := by
  have read := getPackage_of_find? found wellFormed.readable
  have started := start_eq_ok.mpr ⟨read, undecided (!decision.approved), validated⟩
  have named : package.packageId = decision.packageId := Table.key_of_find? found
  obtain ⟨decided, changed, outcome⟩ :=
    withStatus_decision wellFormed named validated (undecided true)
  obtain ⟨grown, inserted⟩ : ∃ grown,
      repository.approvals.insert? (decision.approval package) = some grown := by
    cases inserted : repository.approvals.insert? (decision.approval package) with
    | some grown => exact ⟨grown, rfl⟩
    | none =>
      obtain ⟨old, taken⟩ := Table.insert?_eq_none_iff.mp inserted
      exact absurd (fresh.symm.trans taken) (by simp)
  have added : write digest repository (.addApproval (decision.approval package)) =
      .ok { repository with approvals := grown } := by simp only [write, inserted]
  -- The package that is read back for the update is the one that was read first.
  have again : getPackage digest { repository with approvals := grown } decided.packageId =
      .ok package :=
    getPackage_of_find? (by rw [outcome.packageId]; exact found) wellFormed.readable
  obtain ⟨after, updated, stored⟩ : ∃ after,
      write digest { repository with approvals := grown } (.updatePackage decided) = .ok after ∧
        after.packages.find? decision.packageId = some decided := by
    have open_ : package.status ≠ .approvedForDeployment := undecided true
    refine ⟨{ approvals := grown,
              packages := repository.packages.update (·.packageId = decided.packageId)
                (fun row => { decided with packageId := row.packageId }) (fun _ => rfl) }, ?_, ?_⟩
    · simp only [write, again, bind, Except.bind, open_, false_and, if_false]
      rfl
    · have same : package.packageId = decided.packageId := named.trans outcome.packageId.symm
      rw [Table.find?_update, found, Option.map_some, if_pos (by simpa using same), same]
  refine ⟨decided, after, ?_, stored, outcome.status⟩
  rw [call_eq, started, Commits.read_ok_bind, changed, Commits.perform]
  simp only [Commits.write_bind_writes, Commits.read_ok_bind, Commits.pure_writes,
    Commits.commit_cons_ok added, Commits.commit_cons_ok updated, Commits.commit_nil]
  rfl

end StrategyLab
