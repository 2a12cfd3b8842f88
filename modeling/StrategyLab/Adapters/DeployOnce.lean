import StrategyLab.Adapters.ReleaseLaws
import StrategyLab.Adapters.FakeStrategyDeployment

/-! How often a package is applied to a target, and what happens to the record of a success. -/

namespace StrategyLab

open DeploymentState StrategyDeploymentService

variable {τ : Type} {config : ReleaseConfig τ}

/-- A run is recorded as succeeded. -/
def RecordedSucceeded (state : DeploymentState τ) (runId : String) : Prop :=
  ∃ run ∈ state.runs.find? runId, run.status = .succeeded

instance (state : DeploymentState τ) (runId : String) : Decidable (RecordedSucceeded state runId) :=
  inferInstanceAs (Decidable (∃ run ∈ state.runs.find? runId, run.status = .succeeded))

/-- How often a package has been applied to a target. -/
def timesApplied (state : DeploymentState τ) (packageId targetId : String) : Nat :=
  state.applyCalls.countP fun call => call.2.packageId = packageId ∧ call.1.targetId = targetId

/-- No package has been applied twice to a target. -/
def AppliedOnce (state : DeploymentState τ) : Prop :=
  ∀ packageId targetId, timesApplied state packageId targetId ≤ 1

/-- Along a run, what is recorded as succeeded at some moment is so at every later one. -/
def SuccessesStay (config : ReleaseConfig τ) (start : ReleaseState τ) (ops : List ReleaseOp) :
    Prop :=
  ∀ before middle after, ops = before ++ middle ++ after → ∀ runId,
    RecordedSucceeded ((releaseMachine config).run start before).deployments runId →
      RecordedSucceeded ((releaseMachine config).run start (before ++ middle)).deployments runId

/-- A run call names a plan whose own run is not yet recorded as succeeded. -/
def RunsUndeployed (state : ReleaseState τ) : ReleaseOp → Prop
  | .run planId _ => ¬RecordedSucceeded state.deployments (runIdOf planId)
  | _ => True

instance (state : ReleaseState τ) : DecidablePred (RunsUndeployed state)
  | .run planId _ =>
    inferInstanceAs (Decidable ¬RecordedSucceeded state.deployments (runIdOf planId))
  | .bootstrap .. | .requestPromotion .. | .approvePromotion .. | .rejectPromotion ..
  | .rollback .. | .createPackage .. | .approvePackage .. | .rejectPackage .. | .plan ..
  | .addEvaluation .. | .addRevalidation .. | .addBacktest .. => isTrue trivial

/-- A package has been deployed when a run for it on the target is recorded as succeeded. -/
theorem hasSuccessfulDeployment_iff {state : DeploymentState τ} {packageId targetId : String} :
    state.hasSuccessfulDeployment packageId targetId = true ↔
      ∃ runId run, state.runs.find? runId = some run ∧ run.packageId = packageId ∧
        run.targetId = targetId ∧ run.status = .succeeded := by
  simp only [hasSuccessfulDeployment, List.any_eq_true, Bool.and_eq_true, decide_eq_true_eq,
    and_assoc]
  constructor
  · rintro ⟨run, member, same⟩
    exact ⟨run.runId, run, Table.find?_of_mem member, same⟩
  · rintro ⟨runId, run, found, same⟩
    exact ⟨run, (Table.find?_eq_some_iff.mp found).1, same⟩

variable {plan : StrategyDeploymentPlan}

variable {state next : DeploymentState τ}

/-- A step for a plan that has not succeeded keeps every success that is recorded. -/
theorem Touches.success (touches : Touches plan state next)
    (undeployed : ¬RecordedSucceeded state (runIdOf plan.planId)) {runId : String}
    {run : StrategyDeploymentRun} (found : state.runs.find? runId = some run)
    (succeeded : run.status = .succeeded) : next.runs.find? runId = some run := by
  rw [touches.others runId, found]
  rintro rfl
  exact undeployed ⟨run, found, succeeded⟩

/-- Every application so far is paid for by a success that is recorded. -/
def Paid (state : DeploymentState τ) : Prop :=
  ∀ packageId targetId, timesApplied state packageId targetId ≤
    if state.hasSuccessfulDeployment packageId targetId then 1 else 0

/-- Applications that are paid for happened at most once. -/
theorem Paid.once {state : DeploymentState τ} (paid : Paid state) : AppliedOnce state := by
  intro packageId targetId
  have bound := paid packageId targetId
  split at bound <;> omega

/-- The applications so far stay paid for while successes stay recorded. -/
theorem Paid.stay (paid : Paid state)
    (kept : ∀ {runId run}, state.runs.find? runId = some run → run.status = .succeeded →
      next.runs.find? runId = some run) (packageId targetId : String) :
    timesApplied state packageId targetId ≤
      if next.hasSuccessfulDeployment packageId targetId then 1 else 0 := by
  refine (paid packageId targetId).trans ?_
  split
  · rename_i deployed
    obtain ⟨runId, run, found, same, there, succeeded⟩ := hasSuccessfulDeployment_iff.mp deployed
    rw [if_pos (hasSuccessfulDeployment_iff.mpr
      ⟨runId, run, kept found succeeded, same, there, succeeded⟩)]
  · omega

/-- A step that applies nothing keeps all applications paid for. -/
theorem Paid.keep (paid : Paid state) (calls : next.applyCalls = state.applyCalls)
    (kept : ∀ {runId run}, state.runs.find? runId = some run → run.status = .succeeded →
      next.runs.find? runId = some run) : Paid next := by
  intro packageId targetId
  rw [timesApplied, calls]
  exact paid.stay kept packageId targetId

/-- An application whose success is recorded is paid for. -/
theorem Paid.apply (paid : Paid state) {package : StrategyHandoffPackage}
    (own : package.packageId = plan.packageId)
    (first : state.hasSuccessfulDeployment plan.packageId plan.targetId = false)
    (calls : next.applyCalls = state.applyCalls ++ [(plan, package)])
    (kept : ∀ {runId run}, state.runs.find? runId = some run → run.status = .succeeded →
      next.runs.find? runId = some run)
    (deployed : next.hasSuccessfulDeployment plan.packageId plan.targetId = true) :
    Paid next := by
  intro packageId targetId
  by_cases here : plan.packageId = packageId ∧ plan.targetId = targetId
  · -- This is the first application of the package to the target.
    obtain ⟨rfl, rfl⟩ := here
    have none := paid plan.packageId plan.targetId
    rw [first] at none
    simp only [Bool.false_eq_true, if_false, timesApplied] at none
    have one : timesApplied next plan.packageId plan.targetId =
        timesApplied state plan.packageId plan.targetId + 1 := by
      rw [timesApplied, timesApplied, calls, List.countP_append]
      simp [own]
    rw [if_pos deployed, one, timesApplied]
    omega
  · -- For every other package or target the call does not count.
    have unchanged : timesApplied next packageId targetId =
        timesApplied state packageId targetId := by
      rw [timesApplied, timesApplied, calls, List.countP_append]
      simp [own, here]
    rw [unchanged]
    exact paid.stay kept packageId targetId

/-- Every call but a run leaves the recorded runs and the applications alone. -/
theorem next_of_not_run (config : ReleaseConfig τ) (state : ReleaseState τ) {op : ReleaseOp}
    (other : ∀ planId time, op ≠ .run planId time) :
    let next := (releaseMachine config).next state op
    next.deployments.runs = state.deployments.runs ∧
      next.deployments.applyCalls = state.deployments.applyCalls := by
  cases op with
  | run planId time => exact absurd rfl (other planId time)
  | createPackage request =>
    simp only [Machine.next, releaseMachine, ReleaseState.step]
    split <;> exact ⟨rfl, rfl⟩
  | plan request =>
    simp only [Machine.next, releaseMachine, ReleaseState.step]
    split
    · exact ⟨rfl, rfl⟩
    · have plans := plan_step config.digest config.adapter config.policy
        state.champions state.handoffs state.deployments request
      exact ⟨plans.runs, plans.applyCalls⟩
  | _ => exact ⟨rfl, rfl⟩

section AllSucceed

variable (succeed : ∀ package target, StepsSucceed config.adapter package target)

include succeed

/-- A call that meets the condition keeps the recorded successes, and every application paid. -/
theorem undeployed_step {state : ReleaseState τ} {op : ReleaseOp}
    (undeployed : RunsUndeployed state op) (sound : ReleaseSound config.digest state) :
    let next := (releaseMachine config).next state op
    (∀ {runId run}, state.deployments.runs.find? runId = some run → run.status = .succeeded →
      next.deployments.runs.find? runId = some run) ∧
    (Paid state.deployments → Paid next.deployments) := by
  by_cases ran : ∃ planId time, op = .run planId time
  · obtain ⟨planId, time, rfl⟩ := ran
    simp only [Machine.next, releaseMachine, ReleaseState.step]
    cases stored : state.deployments.getPlan planId with
    | error raised =>
      rw [run_unread time fun plan read => by rw [stored] at read; cases read]
      exact ⟨fun found _ => found, id⟩
    | ok plan =>
      have own : plan.planId = planId := (sound.planned stored).own
      have kept : ∀ {runId old}, state.deployments.runs.find? runId = some old →
          old.status = .succeeded → (run config.adapter config.digest state.handoffs
            state.deployments planId time).2.runs.find? runId = some old := by
        intro runId old found succeeded
        exact (run_touches time stored).success (by rw [own]; exact undeployed) found succeeded
      refine ⟨kept, fun paid => ?_⟩
      cases read : state.handoffs.getPackage config.digest plan.packageId with
      | error raised =>
        rw [run_unread time fun other same package => by
          obtain rfl := Except.ok.inj (stored.symm.trans same)
          rw [read]
          intro known
          cases known]
        exact paid
      | ok package =>
        by_cases blocked : plan.status = .blocked
        · rw [run_blocked time stored read blocked] at kept ⊢
          exact paid.keep rfl kept
        · cases again : state.deployments.hasSuccessfulDeployment plan.packageId plan.targetId with
          | true =>
            rw [run_duplicate time stored read blocked again] at kept ⊢
            exact paid.keep rfl kept
          | false =>
            -- The only call of `apply_package`, and its success is recorded.
            rw [run_attempted time stored read blocked again] at kept ⊢
            obtain ⟨-, calls, recorded, runs, records, succeeded⟩ :=
              attempt_succeeds state.deployments plan time (succeed package _)
            have named : package.packageId = plan.packageId :=
              Table.key_of_find? (find?_of_getPackage read).1
            refine paid.apply named again calls kept (hasSuccessfulDeployment_iff.mpr
              ⟨recorded.runId, recorded, ?_, records.packageId, records.targetId, succeeded⟩)
            rw [runs, Table.find?_replace_self]
  · have other : ∀ planId time, op ≠ .run planId time :=
      fun planId time same => ran ⟨planId, time, same⟩
    obtain ⟨runs, calls⟩ := next_of_not_run config state other
    have kept : ∀ {runId run}, state.deployments.runs.find? runId = some run →
        run.status = .succeeded →
        ((releaseMachine config).next state op).deployments.runs.find? runId = some run :=
      fun found _ => by rw [runs, found]
    exact ⟨kept, fun paid => paid.keep calls kept⟩

end AllSucceed

/-- Running a plan whose run is recorded as succeeded overwrites that record. -/
theorem rerun_overwrites {state : ReleaseState τ} (sound : ReleaseSound config.digest state)
    {planId : String} (time : String)
    (deployed : RecordedSucceeded state.deployments (runIdOf planId)) :
    ¬RecordedSucceeded ((releaseMachine config).next state (.run planId time)).deployments
      (runIdOf planId) := by
  obtain ⟨old, found, succeeded⟩ := deployed
  obtain ⟨plan, stored, records⟩ := sound.recorded found
  have known := sound.planned stored
  -- The record carries the plan it was made for, so it is the plan that is run again.
  have own : old.planId = planId := by
    apply runIdOf_injective
    rw [← Table.key_of_find? found, records.runId, known.own]
  rw [own] at stored known
  obtain ⟨package, located, -⟩ := known.packaged
  have read := getPackage_of_find? located (sound.handoffs.readable located)
  have overwritten (message : String) :
      ¬RecordedSucceeded (recordRun state.deployments plan .blocked none message time).2
        (runIdOf planId) := by
    rintro ⟨run, after, success⟩
    have status : run.status = .blocked := by
      obtain ⟨-, blocked, -, written, -⟩ :=
        recordRun_records state.deployments plan .blocked none message time
      rw [known.own] at written
      rw [← blocked]
      exact congrArg _ (Option.some.inj (Eq.trans after.symm written))
    rw [status] at success
    cases success
  simp only [Machine.next, releaseMachine, ReleaseState.step]
  by_cases blocked : plan.status = .blocked
  · rw [run_blocked time stored read blocked]
    exact overwritten _
  · rw [run_duplicate time stored read blocked (hasSuccessfulDeployment_iff.mpr
      ⟨_, old, found, records.packageId, records.targetId, succeeded⟩)]
    exact overwritten _

/-- Each package is applied at most once per target, and successes stay recorded, in exactly the
runs in which no plan is run again while its own run is recorded as succeeded. -/
theorem deploys_once_iff (succeed : ∀ package target, StepsSucceed config.adapter package target)
    (target : τ) (ops : List ReleaseOp) :
    (AppliedOnce ((releaseMachine config).run (.initial target) ops).deployments ∧
      SuccessesStay config (.initial target) ops) ↔
      (releaseMachine config).Guarded RunsUndeployed (.initial target) ops := by
  have sound (before : List ReleaseOp) : ReleaseSound config.digest
      ((releaseMachine config).run (.initial target) before) := .run_initial target before
  constructor
  · intro ⟨_, stay⟩
    rw [Machine.guarded_iff_split]
    intro before op after split
    cases op with
    | run planId time =>
      intro deployed
      -- The call itself is the moment at which the success stops being recorded.
      have later := stay before [.run planId time] after (by simp [split]) _ deployed
      rw [Machine.run_append] at later
      exact rerun_overwrites (sound before) time deployed later
    | _ => trivial
  · intro guarded
    constructor
    · have kept (s : ReleaseState τ) (op : ReleaseOp) (undeployed : RunsUndeployed s op)
          (inv : ReleaseSound config.digest s ∧ Paid s.deployments) :
          ReleaseSound config.digest ((releaseMachine config).next s op) ∧
            Paid ((releaseMachine config).next s op).deployments :=
        ⟨inv.1.step op, (undeployed_step succeed undeployed inv.1).2 inv.2⟩
      have start : Paid (ReleaseState.initial target).deployments := fun _ _ => Nat.zero_le _
      exact ((releaseMachine config).guarded_invariant kept guarded ⟨sound [], start⟩).2.once
    · rintro before middle after rfl runId ⟨run, found, succeeded⟩
      rw [List.append_assoc, Machine.guarded_append, Machine.guarded_append] at guarded
      have kept (s : ReleaseState τ) (op : ReleaseOp) (undeployed : RunsUndeployed s op)
          (inv : ReleaseSound config.digest s ∧ s.deployments.runs.find? runId = some run) :
          ReleaseSound config.digest ((releaseMachine config).next s op) ∧
            ((releaseMachine config).next s op).deployments.runs.find? runId = some run :=
        ⟨inv.1.step op, (undeployed_step succeed undeployed inv.1).1 inv.2 succeeded⟩
      rw [Machine.run_append]
      exact ⟨run, ((releaseMachine config).guarded_invariant kept guarded.2.1
        ⟨sound before, found⟩).2, succeeded⟩

/-- Every step of a fake target that is to fail nowhere succeeds. -/
theorem fake_succeeds (package : StrategyHandoffPackage) (target : FakeStrategyDeploymentTarget) :
    StepsSucceed (fakeStrategyDeploymentAdapter {}) package target := by
  intro backupId time
  have verified (applied : FakeStrategyDeploymentTarget)
      (same : applied.active.checksum = package.checksum) :
      (fakeStrategyDeploymentAdapter {}).verifyActiveStrategy package applied =
        (.ok (true, "fake verify ok"), applied) := by
    simp [fakeStrategyDeploymentAdapter, FakeStrategyDeploymentTarget.verifyActiveStrategy, same]
  -- The strategy that is verified is the one that has just been applied.
  exact ⟨_, _, _, _, _, _, _, [], "fake apply ok", "fake restart ok", "fake target healthy",
    "fake verify ok", rfl, rfl, rfl, rfl, rfl, verified _ rfl⟩

/-- Digests that spell out what they are taken over. -/
def plainDigest : HandoffDigest :=
  { checksum := fun payload => "checksum:" ++ payload.packageId, shortHash := id }

/-- The services in front of a fake target that fails nowhere. -/
def fakeConfig : ReleaseConfig FakeStrategyDeploymentTarget :=
  ⟨fakeStrategyDeploymentAdapter {}, plainDigest, {}⟩

/-- The id of the package that is made for the first champion. -/
def firstPackageId : String := "handoff-champion-version:default:1:revalidation-1"

/-- Calls that bring the first champion to an approved package and a plan to deploy it. -/
def firstDeployment : List ReleaseOp :=
  let time := "2026-07-17T00:00:00Z"
  [.bootstrap "strategy:first" "fingerprint-1" "backtest-1" time "default",
    .addBacktest ⟨"backtest-1", "fingerprint-1", ⟨"momentum", "v1"⟩, [("lookback", .int 20)]⟩,
    .addRevalidation ⟨"revalidation-1", .liveEligible, "policy", "session-1",
      "champion-version:default:1", "fingerprint-1"⟩,
    .createPackage ⟨"handoff-1", "default", "revalidation-1", "operator", time⟩,
    .approvePackage firstPackageId "operator" time "checked",
    .plan ⟨"deploy-1", firstPackageId, "generic-runtime", "operator", time⟩]

/-- Run the plan of the first deployment. -/
def runFirst : ReleaseOp := .run "deployment-plan:deploy-1" "2026-07-17T01:00:00Z"

/-- A plan that is run a single time is deployed once. -/
theorem first_deployment_once :
    AppliedOnce ((releaseMachine fakeConfig).run (.initial {})
        (firstDeployment ++ [runFirst])).deployments ∧
      SuccessesStay fakeConfig (.initial {}) (firstDeployment ++ [runFirst]) :=
  have succeed : ∀ package target, StepsSucceed fakeConfig.adapter package target := fake_succeeds
  (deploys_once_iff succeed {} _).mpr (by decide +kernel)

/-- The second run of a plan erases the record of its success, and the third applies it again. -/
theorem third_run_applies_again :
    (∀ package target, StepsSucceed fakeConfig.adapter package target) ∧
      ¬AppliedOnce ((releaseMachine fakeConfig).run (.initial {})
        (firstDeployment ++ [runFirst, runFirst, runFirst])).deployments ∧
      ¬SuccessesStay fakeConfig (.initial {})
        (firstDeployment ++ [runFirst, runFirst, runFirst]) := by
  refine ⟨fake_succeeds, fun once => ?_, fun stay => ?_⟩
  · have twice : timesApplied ((releaseMachine fakeConfig).run (.initial {})
        (firstDeployment ++ [runFirst, runFirst, runFirst])).deployments firstPackageId
        "generic-runtime" = 2 := by decide +kernel
    have bound := once firstPackageId "generic-runtime"
    omega
  · have erased : ¬RecordedSucceeded ((releaseMachine fakeConfig).run (.initial {})
        (firstDeployment ++ [runFirst] ++ [runFirst])).deployments
        (runIdOf "deployment-plan:deploy-1") := by decide +kernel
    exact erased (stay (firstDeployment ++ [runFirst]) [runFirst] [runFirst] (by simp)
      (runIdOf "deployment-plan:deploy-1") (by decide +kernel))

end StrategyLab
