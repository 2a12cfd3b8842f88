import StrategyLab.Adapters.ChampionRegistryLaws
import StrategyLab.Lib.Machine
import StrategyLab.Lib.Raise

/-! The champion registry as a machine: its calls in any order, and what each of them writes. -/

namespace StrategyLab

open ChampionRegistryRepository ChampionRegistryService
open Raise (bind_eq_ok)

/-- The evaluation reports and the tables of the registry. -/
structure ChampionState where
  evaluations : EvaluationReports
  champions : ChampionRegistryRepository

/-- A call of the registry service, or a report that the evaluation engine stores. -/
inductive ChampionOp where
  | bootstrap (strategyRef fingerprint backtestId activatedAt slot : String)
  | requestPromotion (promotionId evaluationId actorRef requestedAt slot : String)
  | approve (promotionId actorRef decidedAt reason : String)
  | reject (promotionId actorRef decidedAt reason : String)
  | rollback (request : ChampionRollbackRequest)
  | addReport (report : ChampionChallengerEvaluationReport)
  deriving DecidableEq, Repr

/-- What an operation returns. -/
inductive ChampionAnswer where
  | entry (entry : ChampionRegistryEntry)
  | request (request : PromotionRequest)
  | rolledBack (result : ChampionRollbackResult)
  | stored
  deriving DecidableEq, Repr

namespace ChampionOp

/-- The registry call of an operation; storing a report is no call of the registry. -/
def call (state : ChampionState) : ChampionOp → ChampionCall ChampionAnswer
  | .bootstrap strategyRef fingerprint backtestId activatedAt slot =>
    .entry <$> ChampionRegistryService.bootstrap state.champions strategyRef fingerprint backtestId
      activatedAt slot
  | .requestPromotion promotionId evaluationId actorRef requestedAt slot =>
    .request <$> ChampionRegistryService.requestPromotion state.champions state.evaluations
      promotionId evaluationId actorRef requestedAt slot
  | .approve promotionId actorRef decidedAt reason =>
    .entry <$> ChampionRegistryService.approve state.champions state.evaluations promotionId
      actorRef decidedAt reason
  | .reject promotionId actorRef decidedAt reason =>
    .request <$> ChampionRegistryService.reject state.champions promotionId actorRef decidedAt
      reason
  | .rollback request => .rolledBack <$> ChampionRegistryService.rollback state.champions request
  | .addReport _ => pure .stored

/-- The evaluation reports after an operation. -/
def reports (evaluations : EvaluationReports) : ChampionOp → EvaluationReports
  | .addReport report => evaluations.replace report
  | _ => evaluations

end ChampionOp

namespace ChampionState

/-- A registry in which nothing has happened, next to some evaluation reports. -/
def initial (evaluations : EvaluationReports) : ChampionState := ⟨evaluations, .empty⟩

/-- Carry out one operation. -/
def step (state : ChampionState) (op : ChampionOp) :
    Except ServiceError ChampionAnswer × ChampionState :=
  let (answer, champions) := Commits.perform write state.champions (op.call state)
  (answer, ⟨op.reports state.evaluations, champions⟩)

end ChampionState

/-- The registry service over its database. -/
def championMachine : Machine ChampionState ChampionOp (Except ServiceError ChampionAnswer) :=
  ⟨ChampionState.step⟩

/-- The id of a version of a slot. -/
def versionIdOf (slot : String) (revision : Int) : String :=
  s!"champion-version:{slot}:{revision}"

/-- The active entry that stands for a version. -/
def ChampionStrategyVersion.entry (version : ChampionStrategyVersion) : ChampionRegistryEntry :=
  { slot := version.slot, activeVersionId := version.versionId, strategyRef := version.strategyRef,
    fingerprint := version.fingerprint, sourceBacktestId := version.sourceBacktestId,
    sourceValidationId := version.sourceValidationId,
    sourceEvaluationId := version.sourceEvaluationId, activatedAt := version.activatedAt,
    revision := version.revision, previousVersionId := version.previousVersionId }

/-- The revision that follows the active entry of a slot. -/
def nextRevision (previous : Option ChampionRegistryEntry) : Int :=
  match previous with
  | none => 1
  | some entry => entry.revision + 1

/-- The version that an activation records after the active entry of the slot. -/
def activatedVersion
    (slot strategyRef fingerprint backtestId validationId evaluationId activatedAt : String)
    (previous : Option ChampionRegistryEntry) (activationType : String) :
    ChampionStrategyVersion :=
  { versionId := versionIdOf slot (nextRevision previous), slot,
    revision := nextRevision previous, strategyRef, fingerprint, sourceBacktestId := backtestId,
    sourceValidationId := validationId, sourceEvaluationId := evaluationId, activatedAt,
    previousVersionId := previous.map (·.activeVersionId), activationType }

/-- The writes that make a version the active one. -/
def activationWrites (version : ChampionStrategyVersion) : List ChampionWrite :=
  [.addHistory version, .putActive version.entry]

/-- Activation checks the entry and then writes the version and the entry. -/
theorem activate_eq (slot strategyRef fingerprint backtestId validationId evaluationId : String)
    (activatedAt : String) (previous : Option ChampionRegistryEntry) (activationType : String) :
    activate slot strategyRef fingerprint backtestId validationId evaluationId activatedAt previous
        activationType =
      let version := activatedVersion slot strategyRef fingerprint backtestId validationId
        evaluationId activatedAt previous activationType
      Commits.read version.entry.validate >>= fun _ =>
        ⟨activationWrites version, .ok version.entry⟩ := rfl

/-- The version that approving a request records. -/
def promotedVersion (state : ChampionState) (request : PromotionRequest)
    (report : ChampionChallengerEvaluationReport) (decidedAt : String) :
    ChampionStrategyVersion :=
  activatedVersion request.slot (strategyRefFromBacktestId report.challengerBacktestId)
    report.challengerFingerprint report.challengerBacktestId report.validationId
    report.evaluationId decidedAt (state.champions.getActive request.slot) "promotion"

/-- The version that a rollback to an earlier version records. -/
def restoredVersion (request : ChampionRollbackRequest) (active : ChampionRegistryEntry)
    (previous : ChampionStrategyVersion) : ChampionStrategyVersion :=
  activatedVersion request.slot previous.strategyRef previous.fingerprint
    previous.sourceBacktestId previous.sourceValidationId previous.sourceEvaluationId
    request.requestedAt (some active) "rollback"

/-- An approval that has passed its checks. -/
structure Approvable (state : ChampionState) (promotionId : String) (request : PromotionRequest)
    (report : ChampionChallengerEvaluationReport) : Prop where
  found : state.champions.requests.find? promotionId = some request
  open_ : request.status = .pendingApproval ∨ request.status = .approved
  evaluated : state.evaluations.find? request.evaluationId = some report
  candidate : validatePromotionCandidate report (state.champions.getActive request.slot) = .ok ()

/-- A rollback that has found the version to return to. -/
structure Returnable (state : ChampionState) (request : ChampionRollbackRequest)
    (active : ChampionRegistryEntry) (previous : ChampionStrategyVersion) : Prop where
  found : state.champions.getActive request.slot = some active
  listed : (state.champions.listHistory request.slot).find?
    (fun version => some version.versionId = active.previousVersionId) = some previous

/-- What a report that passed its checks says about the active champion. -/
theorem candidate_checked {report : ChampionChallengerEvaluationReport}
    {current : Option ChampionRegistryEntry}
    (candidate : validatePromotionCandidate report current = .ok ()) :
    report.decision = .promotionCandidate ∧
      report.challengerFingerprint ≠ report.championFingerprint ∧
      ∀ entry, current = some entry → entry.fingerprint ≠ report.challengerFingerprint := by
  -- Every check that was passed is read back, and the last one speaks of the active entry.
  simp only [validatePromotionCandidate, bind_eq_ok, require_eq_ok, decide_eq_true_eq,
    exists_const] at candidate
  obtain ⟨decided, -, differ, other⟩ := candidate
  refine ⟨decided, differ, fun entry active same => other ?_⟩
  rw [active, Option.map_some, same]

/-- What an operation can write and return, with the checks that lead there. -/
inductive ChampionEffect (state : ChampionState) :
    ChampionOp → ChampionCall ChampionAnswer → Prop where
  /-- The operation raises before its first write. -/
  | refused (op : ChampionOp) (error : ServiceError) : ChampionEffect state op (.raise error)
  /-- A request is returned as it stands. -/
  | repeatedRequest (promotionId evaluationId actorRef requestedAt slot : String)
    (request : PromotionRequest) :
    ChampionEffect state (.requestPromotion promotionId evaluationId actorRef requestedAt slot)
      (pure (.request request))
  /-- An approval is repeated after the activation. -/
  | repeatedApproval (promotionId actorRef decidedAt reason : String) (request : PromotionRequest)
    (entry : ChampionRegistryEntry)
    (found : state.champions.requests.find? promotionId = some request)
    (done : request.status = .activated) :
    ChampionEffect state (.approve promotionId actorRef decidedAt reason) (pure (.entry entry))
  /-- A rejection is repeated. -/
  | repeatedRejection (promotionId actorRef decidedAt reason : String)
    (request : PromotionRequest) :
    ChampionEffect state (.reject promotionId actorRef decidedAt reason)
      (pure (.request request))
  /-- A report is stored. -/
  | stored (report : ChampionChallengerEvaluationReport) :
    ChampionEffect state (.addReport report) (pure .stored)
  /-- An empty slot gets its first champion. -/
  | bootstrapped (strategyRef fingerprint backtestId activatedAt slot : String)
    (version : ChampionStrategyVersion)
    (recorded : version = activatedVersion slot strategyRef fingerprint backtestId "bootstrap"
      "bootstrap" activatedAt (state.champions.getActive slot) "bootstrap")
    (empty : state.champions.getActive slot = none) :
    ChampionEffect state (.bootstrap strategyRef fingerprint backtestId activatedAt slot)
      ⟨activationWrites version, .ok (.entry version.entry)⟩
  /-- A promotion is asked for. -/
  | requested (promotionId evaluationId actorRef requestedAt slot : String)
    (report : ChampionChallengerEvaluationReport) (request : PromotionRequest)
    (evaluated : state.evaluations.find? evaluationId = some report)
    (candidate : validatePromotionCandidate report (state.champions.getActive slot) = .ok ())
    (copied : request = ⟨promotionId, evaluationId, slot, .pendingApproval,
      report.championBacktestId, report.challengerBacktestId, report.validationId,
      report.challengerFingerprint, report.championFingerprint, actorRef, requestedAt⟩) :
    ChampionEffect state (.requestPromotion promotionId evaluationId actorRef requestedAt slot)
      ⟨[.addRequest request], .ok (.request request)⟩
  /-- An approval is noted, but the entry of its version is invalid. -/
  | noted (promotionId actorRef decidedAt reason : String) (request : PromotionRequest)
    (report : ChampionChallengerEvaluationReport) (decision : PromotionDecisionRecord)
    (error : ServiceError) (approvable : Approvable state promotionId request report) :
    ChampionEffect state (.approve promotionId actorRef decidedAt reason)
      ⟨[.addDecision decision], .error error⟩
  /-- A promotion is approved and activated. -/
  | approved (promotionId actorRef decidedAt reason : String) (request : PromotionRequest)
    (report : ChampionChallengerEvaluationReport) (decision : PromotionDecisionRecord)
    (version : ChampionStrategyVersion) (approvable : Approvable state promotionId request report)
    (recorded : version = promotedVersion state request report decidedAt) :
    ChampionEffect state (.approve promotionId actorRef decidedAt reason)
      ⟨.addDecision decision ::
        (activationWrites version ++ [.updateRequest { request with status := .activated }]),
        .ok (.entry version.entry)⟩
  /-- A promotion is rejected. -/
  | rejected (promotionId actorRef decidedAt reason : String) (request : PromotionRequest)
    (decision : PromotionDecisionRecord)
    (found : state.champions.requests.find? promotionId = some request)
    (open_ : request.status ≠ .activated) :
    ChampionEffect state (.reject promotionId actorRef decidedAt reason)
      ⟨[.addDecision decision, .updateRequest { request with status := .rejected }],
        .ok (.request { request with status := .rejected })⟩
  /-- The previous version is activated again. -/
  | returned (request : ChampionRollbackRequest) (active : ChampionRegistryEntry)
    (previous version : ChampionStrategyVersion)
    (returnable : Returnable state request active previous)
    (recorded : version = restoredVersion request active previous) :
    ChampionEffect state (.rollback request)
      ⟨activationWrites version, .ok (.rolledBack ⟨request.rollbackId, request.slot,
        previous.versionId, version.versionId, .rolledBack, request.requestedAt⟩)⟩

/-- A bootstrap is refused unless the slot is empty, and then activates its version. -/
theorem bootstrap_effect (state : ChampionState)
    (strategyRef fingerprint backtestId activatedAt slot : String) :
    ChampionEffect state (.bootstrap strategyRef fingerprint backtestId activatedAt slot)
      ((ChampionOp.bootstrap strategyRef fingerprint backtestId activatedAt slot).call state) := by
  simp only [ChampionOp.call, ChampionRegistryService.bootstrap]
  cases empty : state.champions.getActive slot with
  | some entry => exact .refused _ _
  | none =>
    -- An empty slot has no active entry that the first version could follow.
    simp only [Option.isSome_none, Bool.false_eq_true, if_false, activate_eq]
    generalize recorded : activatedVersion slot strategyRef fingerprint backtestId "bootstrap"
      "bootstrap" activatedAt none "bootstrap" = version
    cases version.entry.validate with
    | error error => exact .refused _ _
    | ok done =>
      exact .bootstrapped strategyRef fingerprint backtestId activatedAt slot version
        (by rw [empty, recorded]) empty

/-- Asking for a promotion returns the request there is, or checks and stores a new one. -/
theorem requestPromotion_effect (state : ChampionState)
    (promotionId evaluationId actorRef requestedAt slot : String) :
    ChampionEffect state (.requestPromotion promotionId evaluationId actorRef requestedAt slot)
      ((ChampionOp.requestPromotion promotionId evaluationId actorRef requestedAt slot).call
        state) := by
  simp only [ChampionOp.call, requestPromotion]
  -- An evaluation has at most one request, which is returned if it is asked for again.
  cases findRequestByEvaluation state.champions evaluationId with
  | some existing =>
    dsimp only
    split
    · exact .refused _ _
    · exact .repeatedRequest _ _ _ _ _ existing
  | none =>
    dsimp only [getReport]
    cases evaluated : state.evaluations.find? evaluationId with
    | none => exact .refused _ _
    | some report =>
      simp only [Commits.read_ok_bind]
      cases candidate : validatePromotionCandidate report (state.champions.getActive slot) with
      | error error => exact .refused _ _
      | ok done =>
        simp only [Commits.read_ok_bind]
        -- The request copies the fingerprints of the report it was made for.
        generalize copied : PromotionRequest.mk promotionId evaluationId slot .pendingApproval
          report.championBacktestId report.challengerBacktestId report.validationId
          report.challengerFingerprint report.championFingerprint actorRef requestedAt = request
        cases request.validate with
        | error error => exact .refused _ _
        | ok done =>
          exact .requested promotionId evaluationId actorRef requestedAt slot report request
            evaluated candidate copied.symm

/-- Reading a request finds it under its id. -/
theorem getRequest_eq_ok {repository : ChampionRegistryRepository} {promotionId : String}
    {request : PromotionRequest} :
    getRequest repository promotionId = .ok request ↔
      repository.requests.find? promotionId = some request := by
  unfold getRequest
  cases repository.requests.find? promotionId with
  | none => simp
  | some found => simp

/-- An approval that passed its checks is noted, and then activates the challenger. -/
theorem approve_effect (state : ChampionState)
    (promotionId actorRef decidedAt reason : String) :
    ChampionEffect state (.approve promotionId actorRef decidedAt reason)
      ((ChampionOp.approve promotionId actorRef decidedAt reason).call state) := by
  simp only [ChampionOp.call, ChampionRegistryService.approve]
  cases read : getRequest state.champions promotionId with
  | error error => exact .refused _ _
  | ok request =>
    have found := getRequest_eq_ok.mp read
    simp only [Commits.read_ok_bind]
    -- Which branch is taken depends on how far the request has got.
    cases status : request.status with
    | activated =>
      dsimp only
      cases state.champions.getActive request.slot with
      | none => exact .refused _ _
      | some active =>
        exact .repeatedApproval promotionId actorRef decidedAt reason request active found status
    | rejected => exact .refused _ _
    | rolledBack => exact .refused _ _
    | pendingApproval | approved =>
      dsimp only [getReport]
      cases evaluated : state.evaluations.find? request.evaluationId with
      | none => exact .refused _ _
      | some report =>
        simp only [Commits.read_ok_bind]
        cases candidate : validatePromotionCandidate report
            (state.champions.getActive request.slot) with
        | error error => exact .refused _ _
        | ok done =>
          -- All checks are passed; from here on something is written.
          have approvable : Approvable state promotionId request report :=
            ⟨found, by simp [status], evaluated, candidate⟩
          simp only [Commits.read_ok_bind]
          generalize PromotionDecisionRecord.mk _ promotionId .approve actorRef decidedAt reason =
            decision
          cases decision.validate with
          | error error => exact .refused _ _
          | ok done =>
            simp only [Commits.read_ok_bind, activate_eq]
            generalize recorded : activatedVersion request.slot
              (strategyRefFromBacktestId report.challengerBacktestId) report.challengerFingerprint
              report.challengerBacktestId report.validationId report.evaluationId decidedAt
              (state.champions.getActive request.slot) "promotion" = version
            -- The decision is already noted when the entry turns out to be invalid.
            cases version.entry.validate with
            | error error =>
              exact .noted promotionId actorRef decidedAt reason request report decision error
                approvable
            | ok done =>
              exact .approved promotionId actorRef decidedAt reason request report decision version
                approvable recorded.symm

/-- A rejection returns a rejected request, or notes the decision and closes the request. -/
theorem reject_effect (state : ChampionState)
    (promotionId actorRef decidedAt reason : String) :
    ChampionEffect state (.reject promotionId actorRef decidedAt reason)
      ((ChampionOp.reject promotionId actorRef decidedAt reason).call state) := by
  simp only [ChampionOp.call, ChampionRegistryService.reject]
  cases read : getRequest state.champions promotionId with
  | error error => exact .refused _ _
  | ok request =>
    have found := getRequest_eq_ok.mp read
    simp only [Commits.read_ok_bind]
    cases status : request.status with
    | rejected => exact .repeatedRejection promotionId actorRef decidedAt reason request
    | activated => exact .refused _ _
    | pendingApproval | approved | rolledBack =>
      -- Even a request that was rolled back can still be rejected.
      dsimp only
      generalize PromotionDecisionRecord.mk _ promotionId .reject actorRef decidedAt reason =
        decision
      cases decision.validate with
      | error error => exact .refused _ _
      | ok done =>
        exact .rejected promotionId actorRef decidedAt reason request decision found
          (by rw [status]; decide)

/-- A rollback activates the version that the active entry names as its previous one. -/
theorem rollback_effect (state : ChampionState) (request : ChampionRollbackRequest) :
    ChampionEffect state (.rollback request) ((ChampionOp.rollback request).call state) := by
  simp only [ChampionOp.call, ChampionRegistryService.rollback]
  cases found : state.champions.getActive request.slot with
  | none => exact .refused _ _
  | some active =>
    dsimp only
    cases named : active.previousVersionId with
    | none => exact .refused _ _
    | some previousId =>
      dsimp only
      -- The previous version is looked up in the history of the slot.
      cases listed : (listHistory state.champions request.slot).find?
          (·.versionId = previousId) with
      | none => exact .refused _ _
      | some previous =>
        simp only [activate_eq]
        generalize recorded : activatedVersion request.slot previous.strategyRef
          previous.fingerprint previous.sourceBacktestId previous.sourceValidationId
          previous.sourceEvaluationId request.requestedAt (some active) "rollback" = version
        cases version.entry.validate with
        | error error => exact .refused _ _
        | ok done =>
          exact .returned request active previous version
            ⟨found, by simpa [named] using listed⟩ recorded.symm

/-- What an operation writes and returns is one of the effects. -/
theorem call_effect (state : ChampionState) (op : ChampionOp) :
    ChampionEffect state op (op.call state) := by
  cases op with
  | bootstrap => exact bootstrap_effect ..
  | requestPromotion => exact requestPromotion_effect ..
  | approve => exact approve_effect ..
  | reject => exact reject_effect ..
  | rollback => exact rollback_effect ..
  | addReport report => exact .stored report
end StrategyLab
