import StrategyLab.Adapters.EvaluationLaws
import StrategyLab.Adapters.PromotedAgainst

/-! Whether the challenger that was asked for is the one that is activated. -/

namespace StrategyLab.Adapters

open ChampionRegistryRepository ChampionRegistryService

/-- The decision that an approval records. -/
def approvalDecision (promotionId actorRef decidedAt reason : String) : PromotionDecisionRecord :=
  { decisionId := s!"decision:{promotionId}:approve", promotionId, decision := .approve, actorRef,
    decidedAt, reason }

/-- An approval that passes all of its checks, up to those of the entry that it activates. -/
structure Activatable (state : ChampionState)
    (promotionId actorRef decidedAt reason : String) (request : PromotionRequest)
    (report : ChampionChallengerEvaluationReport) : Prop where
  approvable : Approvable state promotionId request report
  decided : (approvalDecision promotionId actorRef decidedAt reason).validate = .ok ()
  entered : (promotedVersion state request report decidedAt).entry.validate = .ok ()

/-- An approval finds one request and one report. -/
theorem approvable_unique {state : ChampionState} {promotionId : String}
    {request other : PromotionRequest} {report known : ChampionChallengerEvaluationReport}
    (first : Approvable state promotionId request report)
    (second : Approvable state promotionId other known) : request = other ∧ report = known := by
  obtain rfl : request = other := Option.some.inj (first.found.symm.trans second.found)
  exact ⟨rfl, Option.some.inj (first.evaluated.symm.trans second.evaluated)⟩

/-- An approval that passes all of its checks activates its challenger, and any other one writes no
more than a decision. -/
theorem approve_call (state : ChampionState) (promotionId actorRef decidedAt reason : String) :
    (∃ request report,
      Activatable state promotionId actorRef decidedAt reason request report ∧
      ((ChampionOp.approve promotionId actorRef decidedAt reason).call state).writes =
        .addDecision (approvalDecision promotionId actorRef decidedAt reason) ::
          (activationWrites (promotedVersion state request report decidedAt) ++
            [.updateRequest { request with status := .activated }])) ∨
    ((∀ request report,
      ¬Activatable state promotionId actorRef decidedAt reason request report) ∧
      (((ChampionOp.approve promotionId actorRef decidedAt reason).call state).writes = [] ∨
        ∃ decision, ((ChampionOp.approve promotionId actorRef decidedAt reason).call
          state).writes = [.addDecision decision])) := by
  simp only [ChampionOp.call, ChampionRegistryService.approve]
  cases read : getRequest state.champions promotionId with
  | error error =>
    refine .inr ⟨fun request report ready => ?_, .inl rfl⟩
    rw [getRequest_eq_ok.mpr ready.approvable.found] at read
    cases read
  | ok request =>
    have found := getRequest_eq_ok.mp read
    have own : ∀ other report,
        Activatable state promotionId actorRef decidedAt reason other report → other = request :=
      fun other report ready => Option.some.inj (ready.approvable.found.symm.trans found)
    -- A request that is closed has nothing to activate.
    have closed : ¬(request.status = .pendingApproval ∨ request.status = .approved) →
        ∀ other report,
          ¬Activatable state promotionId actorRef decidedAt reason other report := by
      intro shut other report ready
      have same := own other report ready
      subst same
      exact shut ready.approvable.open_
    simp only [Commits.read_ok_bind]
    cases status : request.status with
    | activated =>
      refine .inr ⟨closed (by simp [status]), .inl ?_⟩
      dsimp only
      cases state.champions.getActive request.slot <;> rfl
    | rejected => exact .inr ⟨closed (by simp [status]), .inl rfl⟩
    | rolledBack => exact .inr ⟨closed (by simp [status]), .inl rfl⟩
    | pendingApproval | approved =>
      dsimp only [getReport]
      cases evaluated : state.evaluations.find? request.evaluationId with
      | none =>
        refine .inr ⟨fun other report ready => ?_, .inl rfl⟩
        have same := own other report ready
        subst same
        have known := ready.approvable.evaluated
        rw [evaluated] at known
        cases known
      | some report =>
        have stored : ∀ other known,
            Activatable state promotionId actorRef decidedAt reason other known →
              other = request ∧ known = report := by
          intro other known ready
          obtain rfl := own other known ready
          exact ⟨rfl, Option.some.inj (ready.approvable.evaluated.symm.trans evaluated)⟩
        simp only [Commits.read_ok_bind]
        cases candidate : validatePromotionCandidate report
            (state.champions.getActive request.slot) with
        | error error =>
          refine .inr ⟨fun other known ready => ?_, .inl rfl⟩
          obtain ⟨rfl, rfl⟩ := stored other known ready
          rw [ready.approvable.candidate] at candidate
          cases candidate
        | ok done =>
          simp only [Commits.read_ok_bind]
          have decision : PromotionDecisionRecord.mk s!"decision:{promotionId}:approve" promotionId
              .approve actorRef decidedAt reason =
                approvalDecision promotionId actorRef decidedAt reason := rfl
          have version : activatedVersion request.slot
              (strategyRefFromBacktestId report.challengerBacktestId) report.challengerFingerprint
              report.challengerBacktestId report.validationId report.evaluationId decidedAt
              (state.champions.getActive request.slot) "promotion" =
                promotedVersion state request report decidedAt := rfl
          have approvable : Approvable state promotionId request report :=
            ⟨found, by simp [status], evaluated, candidate⟩
          rw [decision]
          cases decided : (approvalDecision promotionId actorRef decidedAt reason).validate with
          | error error =>
            refine .inr ⟨fun other known ready => ?_, .inl rfl⟩
            rw [ready.decided] at decided
            cases decided
          | ok done =>
            simp only [Commits.read_ok_bind, activate_eq, version]
            cases entered : (promotedVersion state request report decidedAt).entry.validate with
            | error error =>
              refine .inr ⟨fun other known ready => ?_, .inr ⟨_, rfl⟩⟩
              obtain ⟨rfl, rfl⟩ := stored other known ready
              rw [ready.entered] at entered
              cases entered
            | ok done =>
              exact .inl ⟨request, report, ⟨approvable, decided, entered⟩, by rfl⟩

/-- In a consistent registry an approval activates what its report says, or activates nothing. -/
theorem approve_outcome {state : ChampionState} (consistent : Consistent state.champions)
    (promotionId actorRef decidedAt reason : String) :
    (∃ request report,
      Activatable state promotionId actorRef decidedAt reason request report ∧
      Enters state (.approve promotionId actorRef decidedAt reason) promotionId ∧
      (championMachine.next state
          (.approve promotionId actorRef decidedAt reason)).champions.getActive request.slot =
        some (promotedVersion state request report decidedAt).entry) ∨
    ((∀ request report,
      ¬Activatable state promotionId actorRef decidedAt reason request report) ∧
      ¬Enters state (.approve promotionId actorRef decidedAt reason) promotionId) := by
  obtain ⟨request, report, ready, writes⟩ | ⟨unready, writes⟩ :=
    approve_call state promotionId actorRef decidedAt reason
  · refine .inl ⟨request, report, ready, ?_⟩
    have positioned : Positioned (promotedVersion state request report decidedAt).slot
        (slotVersions state.champions (promotedVersion state request report decidedAt).slot).length
        (promotedVersion state request report decidedAt) := consistent.recorded rfl
    obtain ⟨next, commits, moved⟩ := consistent.approval ready.approvable.found
      (approvalDecision promotionId actorRef decidedAt reason) positioned
    rw [Enters, requestStatus, requestStatus, next_champions, writes, commits]
    dsimp only
    rw [moved.requests, getActive, moved.registry]
    have own := Table.key_of_find? ready.approvable.found
    have opened : request.status ≠ .activated := by
      obtain pending | pending := ready.approvable.open_ <;> rw [pending] <;> decide
    refine ⟨⟨?_, ?_⟩, Table.find?_replace_self _ _⟩
    · rw [ready.approvable.found]
      simpa using opened
    · simp [own]
  · refine .inr ⟨unready, fun enters => ?_⟩
    rw [Enters, requestStatus, requestStatus, next_champions] at enters
    -- A decision at most was written, so the request is as it was.
    have same : (Commits.commit write state.champions
        ((ChampionOp.approve promotionId actorRef decidedAt reason).call state).writes
          ).2.requests.find? promotionId = state.champions.requests.find? promotionId := by
      obtain nothing | ⟨decision, single⟩ := writes
      · rw [nothing]
        rfl
      · obtain ⟨next, written, moved⟩ := write_addDecision state.champions decision
        rw [single, Commits.commit_cons_ok written]
        exact moved.requests promotionId
    rw [same] at enters
    exact enters.1 enters.2

/-- The evaluation reports as far as promotions read them. -/
def evaluationsOf (repository : SQLiteChampionChallengerRepository) : EvaluationReports where
  rows := repository.reports.rows.map (·.toChampionChallengerEvaluationReport)
  distinct := by
    rw [List.map_map]
    exact repository.reports.distinct

/-- The tables of the evaluations and of the registry. -/
structure PromotionState where
  evaluations : SQLiteChampionChallengerRepository
  champions : ChampionRegistryRepository

/-- What the registry service sees of the tables. -/
def PromotionState.view (state : PromotionState) : ChampionState :=
  ⟨evaluationsOf state.evaluations, state.champions⟩

/-- An evaluation, or a call of the registry service. -/
inductive PromotionOp where
  | evaluate (policy : ChampionChallengerPolicy) (call : EvaluationCall)
  | registry (op : ChampionOp) (call : KeepsReports op)

/-- What an evaluation or a call of the registry service returns. -/
inductive PromotionAnswer where
  | evaluated (report : Except ServiceError FullEvaluationReport)
  | answered (answer : Except ServiceError ChampionAnswer)

variable (str : ℚ → String) (fromIsoFormat : String → Except String Int)

/-- Evaluations and promotions, in any order. -/
def promotionMachine : Machine PromotionState PromotionOp PromotionAnswer where
  step state
    | .evaluate policy call =>
      match (ChampionChallengerEvaluationEngine.evaluate str fromIsoFormat policy call).run
        state.evaluations with
      | .ok report evaluations => (.evaluated (.ok report), { state with evaluations })
      | .error raised evaluations => (.evaluated (.error raised), { state with evaluations })
    | .registry op _ =>
      let (answer, after) := championMachine.step state.view op
      (.answered answer, { state with champions := after.champions })

/-- A call of the registry service leaves what it would leave next to fixed reports. -/
theorem next_registry (state : PromotionState) (op : ChampionOp) (call : KeepsReports op) :
    ((promotionMachine str fromIsoFormat).next state (.registry op call)).champions =
      (championMachine.next state.view op).champions := rfl

/-- The registry stays consistent, whatever is evaluated in between. -/
theorem promotions_consistent (start : PromotionState) (consistent : Consistent start.champions)
    (ops : List PromotionOp) :
    Consistent ((promotionMachine str fromIsoFormat).run start ops).view.champions := by
  refine @Machine.invariant _ _ _ (promotionMachine str fromIsoFormat)
    (fun state => Consistent state.champions) ?_ start ops consistent
  intro state op consistent
  cases op with
  | evaluate policy call =>
    -- An evaluation only writes to its own tables.
    simp only [Machine.next, promotionMachine]
    split <;> exact consistent
  | registry op call =>
    rw [next_registry]
    exact step_consistent state.view op consistent

/-- The entry that an approval activates is the candidate of the request. -/
def Matches (entry : ChampionRegistryEntry) (request : PromotionRequest) : Prop :=
  entry.fingerprint = request.candidateFingerprint ∧
    entry.sourceBacktestId = request.challengerBacktestId ∧
    entry.sourceValidationId = request.validationId

/-- Whenever an approval activates a champion, it is the one that the request asked for. -/
def ActivatesRequested (start : PromotionState) (ops : List PromotionOp) : Prop :=
  ∀ before promotionId actorRef decidedAt reason call after,
    ops = before ++ .registry (.approve promotionId actorRef decidedAt reason) call :: after →
    let state := ((promotionMachine str fromIsoFormat).run start before).view
    Enters state (.approve promotionId actorRef decidedAt reason) promotionId →
      ∀ request, state.champions.requests.find? promotionId = some request →
        ∃ entry, (championMachine.next state
            (.approve promotionId actorRef decidedAt reason)).champions.getActive request.slot =
              some entry ∧ Matches entry request

/-- The report that an approval relies on still says what the request copied from it. -/
def KeepsToRequest (state : PromotionState) : PromotionOp → Prop
  | .registry (.approve promotionId actorRef decidedAt reason) _ =>
    ∀ request report,
      Activatable state.view promotionId actorRef decidedAt reason request report →
        report.challengerFingerprint = request.candidateFingerprint ∧
          report.challengerBacktestId = request.challengerBacktestId ∧
          report.validationId = request.validationId
  | _ => True

/-- What was asked for is activated in exactly the runs in which every approval meets a report that
still says what its request says. -/
theorem activatesRequested_iff (evaluations : SQLiteChampionChallengerRepository)
    (ops : List PromotionOp) :
    ActivatesRequested str fromIsoFormat ⟨evaluations, .empty⟩ ops ↔
      (promotionMachine str fromIsoFormat).Guarded KeepsToRequest ⟨evaluations, .empty⟩ ops := by
  rw [Machine.guarded_iff_split]
  constructor
  · intro sound before op after split
    cases op with
    | evaluate policy call => trivial
    | registry op call =>
      cases op with
      | approve promotionId actorRef decidedAt reason =>
        intro request report ready
        have consistent := promotions_consistent str fromIsoFormat ⟨evaluations, .empty⟩
          consistent_empty before
        obtain ⟨other, known, activated, enters, active⟩ | ⟨unready, _⟩ :=
          approve_outcome consistent promotionId actorRef decidedAt reason
        · obtain ⟨entry, found, same⟩ := sound before promotionId actorRef decidedAt reason call
            after split enters other activated.approvable.found
          obtain ⟨rfl, rfl⟩ := approvable_unique ready.approvable activated.approvable
          rw [active] at found
          cases found
          exact same
        · exact absurd ready (unready request report)
      | _ => trivial
  · intro guarded before promotionId actorRef decidedAt reason call after split state enters request
      found
    have consistent := promotions_consistent str fromIsoFormat ⟨evaluations, .empty⟩
      consistent_empty before
    obtain ⟨other, report, activated, _, active⟩ | ⟨_, unmoved⟩ :=
      approve_outcome consistent promotionId actorRef decidedAt reason
    · have same : other = request :=
        Option.some.inj (activated.approvable.found.symm.trans found)
      subst same
      exact ⟨_, active, guarded before _ after split other report activated⟩
    · exact absurd enters unmoved

open ChampionChallengerEvaluationEngine (fairCall resultOf dayOf emptyRepository)

/-- The same evaluation once more, with another challenger and its validation. -/
def secondCall : EvaluationCall :=
  { fairCall with
    challenger := resultOf "backtest-3" "fingerprint-3" .completed (3 / 10) 2
    validation := ⟨"validation-3", "backtest-3", "fingerprint-3", .pass⟩ }

/-- The request to promote the first challenger. -/
def requestFirst : PromotionOp :=
  .registry (.requestPromotion "promotion-1" "evaluation-1" "operator" "2026-07-18T00:00:00Z"
    "default") (fun _ => by simp)

/-- The approval of that request. -/
def approveRequested : PromotionOp :=
  .registry approveFirst (fun _ => by simp [approveFirst])

/-- The evaluation is made again between the request and its approval. -/
def evaluatedAgain : List PromotionOp :=
  [.evaluate {} fairCall, requestFirst, .evaluate {} secondCall]

/-- An approval then activates a challenger that nobody asked for. -/
theorem other_challenger_activated :
    ¬ActivatesRequested (Py.fixed 2 false) dayOf ⟨emptyRepository, .empty⟩
      (evaluatedAgain ++ [approveRequested]) := by
  intro activates
  have ran : ∃ state, (promotionMachine (Py.fixed 2 false) dayOf).run ⟨emptyRepository, .empty⟩
      evaluatedAgain = state := ⟨_, rfl⟩
  obtain ⟨state, reached⟩ := ran
  have entered : Enters state.view approveFirst "promotion-1" := by
    subst reached
    unfold Enters
    decide +kernel
  have asked : (state.view.champions.requests.find? "promotion-1").map
      (fun request => (request.slot, request.candidateFingerprint)) =
        some ("default", "fingerprint-2") := by
    subst reached
    decide +kernel
  have active : ((championMachine.next state.view approveFirst).champions.getActive
      "default").map (·.fingerprint) = some "fingerprint-3" := by
    subst reached
    decide +kernel
  obtain ⟨request, found, same⟩ := Option.map_eq_some_iff.mp asked
  obtain ⟨slot, candidate⟩ := Prod.mk.inj same
  obtain ⟨entry, current, matched, _⟩ := activates evaluatedAgain "promotion-1" "operator"
    "2026-07-18T00:00:00Z" "explicit approval" (fun _ => by simp) [] rfl (by rw [reached]; exact entered)
    request (by rw [reached]; exact found)
  rw [reached, slot] at current
  change (championMachine.next state.view approveFirst).champions.getActive "default" = _ at current
  rw [current, Option.map_some, matched, candidate] at active
  revert active
  decide

end StrategyLab.Adapters
