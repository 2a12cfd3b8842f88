import StrategyLab.Adapters.DeployOnce
import StrategyLab.Adapters.LocalSafeStrategyDeployment

/-! What a failed deployment leaves on its target: when the active strategy is the one before. -/

namespace StrategyLab

open StrategyDeploymentService

section

variable {τ : Type} (adapter : StrategyDeploymentAdapter τ)

/-- Recording a run leaves the target alone. -/
@[simp] theorem addRun_target (state : DeploymentState τ) (run : StrategyDeploymentRun) :
    (state.addRun run).target = state.target :=
  rfl

/-- What an attempt returns is what its run returns. -/
@[simp] theorem mapError_ok {ε ε' α : Type} (change : ε → ε') (result : α) :
    (Except.ok result : Except ε α).mapError change = .ok result :=
  rfl

/-- A failed or rolled back deployment leaves the active strategy as it was. -/
def KeepsActive (before : τ)
    (outcome : Except DeploymentError StrategyDeploymentRun × DeploymentState τ) : Prop :=
  ∀ run, outcome.1 = .ok run → run.status = .failed ∨ run.status = .rolledBack →
    (adapter.getActiveStrategy outcome.2.target).1 = (adapter.getActiveStrategy before).1

/-- A plan that is attempted when it is run, with its package. -/
structure Attempted (digest : HandoffDigest) (handoffs : StrategyHandoffRepository)
    (state : DeploymentState τ) (planId : String) (plan : StrategyDeploymentPlan)
    (package : StrategyHandoffPackage) : Prop where
  stored : state.getPlan planId = .ok plan
  read : handoffs.getPackage digest plan.packageId = .ok package
  open_ : plan.status ≠ .blocked
  new : state.hasSuccessfulDeployment plan.packageId plan.targetId = false

/-- Running a plan keeps the active strategy exactly when attempting it does. -/
theorem run_keepsActive_iff (digest : HandoffDigest) (handoffs : StrategyHandoffRepository)
    (state : DeploymentState τ) (planId time : String) :
    KeepsActive adapter state.target (run adapter digest handoffs state planId time) ↔
      ∀ plan package, Attempted digest handoffs state planId plan package →
        KeepsActive adapter state.target (runAttempt adapter state plan package time) := by
  -- A plan that is not attempted raises or is recorded as blocked.
  have blocked (plan : StrategyDeploymentPlan) (message : String) :
      KeepsActive adapter state.target
        ((recordRun state plan .blocked none message time).map .ok id) := by
    intro run is status
    obtain rfl := Except.ok.inj is
    rcases status with failed | rolled
    · cases failed
    · cases rolled
  cases stored : state.getPlan planId with
  | error raised =>
    simp only [run, stored]
    refine iff_of_true (fun _ is => by cases is) fun plan package attempted => ?_
    rw [attempted.stored] at stored
    cases stored
  | ok plan =>
    cases read : handoffs.getPackage digest plan.packageId with
    | error raised =>
      simp only [run, stored, read]
      refine iff_of_true (fun _ is => by cases is) fun other package attempted => ?_
      obtain rfl := Except.ok.inj (stored.symm.trans attempted.stored)
      rw [attempted.read] at read
      cases read
    | ok package =>
      have only {other : StrategyDeploymentPlan} {found : StrategyHandoffPackage}
          (attempted : Attempted digest handoffs state planId other found) :
          other = plan ∧ found = package := by
        obtain rfl := Except.ok.inj (stored.symm.trans attempted.stored)
        exact ⟨rfl, (Except.ok.inj (read.symm.trans attempted.read)).symm⟩
      simp only [run, stored, read]
      split
      · rename_i closed
        refine iff_of_true (blocked plan plan.reason) fun other found attempted => ?_
        obtain ⟨rfl, rfl⟩ := only attempted
        exact absurd closed attempted.open_
      · rename_i open_
        split
        · rename_i done
          refine iff_of_true (blocked plan "duplicate deployment prevented")
            fun other found attempted => ?_
          obtain ⟨rfl, rfl⟩ := only attempted
          rw [attempted.new] at done
          cases done
        · rename_i new
          constructor
          · intro keeps other found attempted
            obtain ⟨rfl, rfl⟩ := only attempted
            exact keeps
          · intro keeps
            exact keeps plan package ⟨stored, read, open_, Bool.eq_false_iff.mpr new⟩

end

/-- The fake target fails only after it was modified, and its rollback works. -/
def FakeFailures.AfterApply (failures : FakeFailures) : Prop :=
  failures.failBackup = false ∧ failures.failDryRun = false ∧ failures.failApply = false ∧
    (failures.failRestart = true ∨ failures.failHealth = true ∨ failures.failVerify = true)

/-- What an attempt on a fake target records, and the active strategy it leaves. -/
theorem fake_runAttempt (failures : FakeFailures) (restores : failures.failRollback = false)
    (state : DeploymentState FakeStrategyDeploymentTarget) (plan : StrategyDeploymentPlan)
    (package : StrategyHandoffPackage) (time : String) :
    let outcome := runAttempt (fakeStrategyDeploymentAdapter failures) state plan package time
    ∃ run, outcome.1 = .ok run ∧
      ((run.status = .failed ∧ outcome.2.target.active = state.target.active ∧
          ¬failures.AfterApply) ∨
        (run.status = .rolledBack ∧ outcome.2.target.active = ⟨state.target.active.strategyRef,
          state.target.active.strategyVersion, ""⟩ ∧ failures.AfterApply) ∨
        (run.status = .succeeded ∧ ¬failures.AfterApply)) := by
  obtain ⟨failHealth, failValidate, failBackup, failDryRun, failApply, failRestart, failVerify,
    failRollback⟩ := failures
  obtain rfl : failRollback = false := restores
  unfold FakeFailures.AfterApply
  dsimp only [runAttempt, attempt, fakeStrategyDeploymentAdapter,
    FakeStrategyDeploymentTarget.createBackup]
  cases failBackup with
  | true => simp [fail, recordRun]
  | false =>
    dsimp only [FakeStrategyDeploymentTarget.dryRunApply, DeploymentState.addBackup]
    cases failDryRun with
    | true => simp [endFailed, fail, recordRun]
    | false =>
      dsimp only [applyTo, FakeStrategyDeploymentTarget.applyPackage]
      cases failApply with
      | true => simp [endFailed, fail, recordRun]
      | false =>
        dsimp only [confirm, FakeStrategyDeploymentTarget.restartOrReload]
        cases failRestart with
        | true => simp [endFailed, fail, recordRun, FakeStrategyDeploymentTarget.rollback]
        | false =>
          cases failHealth with
          | true =>
            simp [endFailed, fail, recordRun, FakeStrategyDeploymentTarget.rollback,
              FakeStrategyDeploymentTarget.healthCheck]
          | false =>
            cases failVerify with
            | true =>
              simp [endFailed, fail, recordRun, FakeStrategyDeploymentTarget.rollback,
                FakeStrategyDeploymentTarget.healthCheck,
                FakeStrategyDeploymentTarget.verifyActiveStrategy]
            | false =>
              simp [recordRun, FakeStrategyDeploymentTarget.healthCheck,
                FakeStrategyDeploymentTarget.verifyActiveStrategy]

open LocalSafeTarget

/-- The active file of a local target can be backed up. -/
structure BacksUp (str : Json → String) (targetDir : String) (faults : LocalFaults)
    (target : LocalSafeTarget) : Prop where
  written : faults.backup = none
  readable : ∃ active, target.getActiveStrategy str targetDir = .ok active

/-- A deployment to a local target fails after the package was written. -/
def LocalFaults.AfterApply (faults : LocalFaults) : Prop :=
  faults.apply = none ∧ (faults.unhealthy = true ∨ faults.verify ≠ none)

/-- One of the restorations that are tried works: an unhealthy target is restored inside the attempt
and once more when that raises, any other target once. -/
def RestoresBackup (faults : LocalFaults) (target : LocalSafeTarget) : Prop :=
  target.rollbackFaults.length ≤ if faults.unhealthy then 1 else 0

/-- How an attempt on a local target ends, with the active file it leaves. -/
inductive LocalOutcome (str : Json → String) (targetDir : String) (faults : LocalFaults)
    (target : LocalSafeTarget) :
    Except DeploymentError StrategyDeploymentRun × DeploymentState LocalSafeTarget → Prop where
  /-- The backup raised. -/
  | notBackedUp {run : StrategyDeploymentRun} {after : DeploymentState LocalSafeTarget}
    (not : ¬BacksUp str targetDir faults target) (failed : run.status = .failed)
    (same : after.target.files (activeFile targetDir) = target.files (activeFile targetDir)) :
    LocalOutcome str targetDir faults target (.ok run, after)
  /-- Writing the package raised. -/
  | notApplied {run : StrategyDeploymentRun} {after : DeploymentState LocalSafeTarget}
    {left : Option LocalFile} (backedUp : BacksUp str targetDir faults target)
    (torn : faults.apply = some left) (failed : run.status = .failed)
    (active : after.target.files (activeFile targetDir) = left) :
    LocalOutcome str targetDir faults target (.ok run, after)
  /-- The deployment failed later on, and the backup was restored. -/
  | restored {run : StrategyDeploymentRun} {after : DeploymentState LocalSafeTarget}
    (backedUp : BacksUp str targetDir faults target) (late : faults.AfterApply)
    (restores : RestoresBackup faults target) (rolledBack : run.status = .rolledBack)
    (active : after.target.files (activeFile targetDir) =
      some ((target.files (activeFile targetDir)).getD (.json (.obj [])))) :
    LocalOutcome str targetDir faults target (.ok run, after)
  /-- The deployment failed later on, and restoring the backup raised. -/
  | notRestored {raised : DeploymentError} {after : DeploymentState LocalSafeTarget}
    (late : faults.AfterApply) (not : ¬RestoresBackup faults target) :
    LocalOutcome str targetDir faults target (.error raised, after)
  /-- The deployment succeeded. -/
  | succeeded {run : StrategyDeploymentRun} {after : DeploymentState LocalSafeTarget}
    (early : ¬faults.AfterApply) (applied : faults.apply = none)
    (succeeded : run.status = .succeeded) :
    LocalOutcome str targetDir faults target (.ok run, after)

section

variable (str : Json → String) (targetDir : String) (faults : LocalFaults)

/-- A restoration that works puts the backup in the place of the active file. -/
theorem local_fail_restores {state : DeploymentState LocalSafeTarget}
    {plan : StrategyDeploymentPlan} {backup : StrategyDeploymentBackup} {message time : String}
    {saved : LocalFile} (kept : state.target.files backup.restoreRef = some saved)
    (works : state.target.rollbackFaults = []) :
    ∃ run after, fail (localSafeStrategyDeploymentAdapter str targetDir faults) state plan
        (some backup) message time true = (.ok run, after) ∧
      run.status = .rolledBack ∧ after.target.files (activeFile targetDir) = some saved := by
  refine ⟨_, _, by
    simp only [fail, localSafeStrategyDeploymentAdapter, rollback, kept, works]
    rfl, rfl, ?_⟩
  simp

/-- A restoration that raises leaves the backup for another one. -/
theorem local_fail_raises {state : DeploymentState LocalSafeTarget}
    {plan : StrategyDeploymentPlan} {backup : StrategyDeploymentBackup} {message time : String}
    {saved : LocalFile} {left : Option LocalFile} {later : List (Option LocalFile)}
    (kept : state.target.files backup.restoreRef = some saved)
    (raises : state.target.rollbackFaults = left :: later)
    (apart : activeFile targetDir ≠ backup.restoreRef) :
    ∃ raised after, fail (localSafeStrategyDeploymentAdapter str targetDir faults) state plan
        (some backup) message time true = (.error raised, after) ∧
      after.target.files backup.restoreRef = some saved ∧ after.target.rollbackFaults = later := by
  refine ⟨_, _, by
    simp only [fail, localSafeStrategyDeploymentAdapter, rollback, kept, raises]
    rfl, ?_, rfl⟩
  simp [kept, Ne.symm apart]

/-- What the last part of an attempt on a local target comes to. -/
theorem local_confirm (state : DeploymentState LocalSafeTarget) (plan : StrategyDeploymentPlan)
    (package : StrategyHandoffPackage) (backup : StrategyDeploymentBackup) (time : String)
    (active : state.target.files (activeFile targetDir) = some (.json package.payload)) :
    let confirmed := confirm (localSafeStrategyDeploymentAdapter str targetDir faults) state plan
      package backup time
    (faults.unhealthy = true ∧ confirmed = endFailed
        (localSafeStrategyDeploymentAdapter str targetDir faults) state plan backup
        "local safe target directory ready" time true) ∨
      (faults.unhealthy = false ∧ ∃ raised, faults.verify = some raised ∧
        confirmed = ⟨.error raised, some backup, true, state⟩) ∨
      (faults.unhealthy = false ∧ faults.verify = none ∧
        ∃ run, confirmed.result = .ok run ∧ run.status = .succeeded) := by
  unfold confirm
  dsimp only [localSafeStrategyDeploymentAdapter, verifyActiveStrategy]
  cases unhealthy : faults.unhealthy with
  | true => exact .inl ⟨rfl, rfl⟩
  | false =>
    cases verify : faults.verify with
    | some raised => exact .inr (.inl ⟨rfl, raised, rfl, rfl⟩)
    | none =>
      -- What was written is what is read back.
      simp [getActiveStrategy, active, readActive_payload, Except.map, recordRun]

/-- What an attempt on a local target comes to once the package is written. -/
theorem local_confirm_outcome {target : LocalSafeTarget}
    (backedUp : BacksUp str targetDir faults target) (applied : faults.apply = none)
    (state : DeploymentState LocalSafeTarget)
    (plan : StrategyDeploymentPlan) (package : StrategyHandoffPackage)
    (backup : StrategyDeploymentBackup) (time : String)
    (active : state.target.files (activeFile targetDir) = some (.json package.payload))
    (kept : state.target.files backup.restoreRef =
      some ((target.files (activeFile targetDir)).getD (.json (.obj []))))
    (same : state.target.rollbackFaults = target.rollbackFaults)
    (apart : activeFile targetDir ≠ backup.restoreRef) :
    let confirmed := confirm (localSafeStrategyDeploymentAdapter str targetDir faults) state plan
      package backup time
    LocalOutcome str targetDir faults target
      (match confirmed.result with
      | .ok run => (.ok run, confirmed.state)
      | .error raised =>
        let (result, state) := fail (localSafeStrategyDeploymentAdapter str targetDir faults)
          confirmed.state plan confirmed.backup raised time confirmed.modified
        (result.mapError .adapter, state)) := by
  dsimp only
  rcases local_confirm str targetDir faults state plan package backup time active with
    ⟨unhealthy, ended⟩ | ⟨healthy, raised, verify, ended⟩ | ⟨healthy, verify, run, ended, done⟩
  · have late : faults.AfterApply := ⟨applied, .inl unhealthy⟩
    rw [ended]
    unfold endFailed
    cases script : target.rollbackFaults with
    | nil =>
      obtain ⟨run, after, failed, rolledBack, restored⟩ :=
        @local_fail_restores str targetDir faults state plan backup
          "local safe target directory ready" time _ kept (same.trans script)
      simp only [failed]
      exact .restored backedUp late (by simp [RestoresBackup, script]) rolledBack restored
    | cons left later =>
      obtain ⟨raised, after, failed, stillKept, rest⟩ :=
        @local_fail_raises str targetDir faults state plan backup
          "local safe target directory ready" time _ left later kept (same.trans script) apart
      simp only [failed]
      -- The handler of the attempt restores the backup a second time.
      cases later with
      | nil =>
        obtain ⟨run, after, failed, rolledBack, restored⟩ :=
          @local_fail_restores str targetDir faults after plan backup raised time _ stillKept rest
        simp only [failed]
        exact .restored backedUp late (by simp [RestoresBackup, script, unhealthy]) rolledBack
          restored
      | cons other later =>
        obtain ⟨again, after, failed, -, -⟩ :=
          @local_fail_raises str targetDir faults after plan backup raised time _ other later
            stillKept rest apart
        simp only [failed]
        exact .notRestored late (by simp [RestoresBackup, script, unhealthy])
  · have late : faults.AfterApply := ⟨applied, .inr (by simp [verify])⟩
    rw [ended]
    dsimp only
    cases script : target.rollbackFaults with
    | nil =>
      obtain ⟨run, after, failed, rolledBack, restored⟩ :=
        @local_fail_restores str targetDir faults state plan backup raised time _ kept
          (same.trans script)
      simp only [failed]
      exact .restored backedUp late (by simp [RestoresBackup, script]) rolledBack restored
    | cons left later =>
      obtain ⟨again, after, failed, -, -⟩ :=
        @local_fail_raises str targetDir faults state plan backup raised time _ left later kept
          (same.trans script) apart
      simp only [failed]
      exact .notRestored late (by simp [RestoresBackup, script, healthy])
  · simp only [ended]
    exact .succeeded (fun late => by simp [LocalFaults.AfterApply, healthy, verify] at late)
      applied done

/-- Every attempt on a local target ends in one of these ways. -/
theorem local_runAttempt (state : DeploymentState LocalSafeTarget) (plan : StrategyDeploymentPlan)
    (package : StrategyHandoffPackage) (time : String) :
    LocalOutcome str targetDir faults state.target
      (runAttempt (localSafeStrategyDeploymentAdapter str targetDir faults) state plan package
        time) := by
  have apart := backupFile_ne targetDir plan.planId
  unfold runAttempt attempt
  dsimp only [localSafeStrategyDeploymentAdapter, createBackup]
  cases written : faults.backup with
  | some left =>
    refine .notBackedUp (fun backsUp => ?_) rfl ?_
    · rw [backsUp.written] at written
      cases written
    · simp [recordRun, fail, apart]
  | none =>
    -- Writing the backup leaves the active file alone.
    have unwritten (file : Option LocalFile) :
        (state.target.put (backupFile targetDir s!"deployment-backup:{plan.planId}")
          file).getActiveStrategy str targetDir = state.target.getActiveStrategy str targetDir := by
      simp only [getActiveStrategy, put_files, if_neg apart]
    dsimp only
    rw [unwritten]
    cases readable : state.target.getActiveStrategy str targetDir with
    | error raised =>
      refine .notBackedUp (fun backsUp => ?_) rfl ?_
      · obtain ⟨active, read⟩ := backsUp.readable
        rw [readable] at read
        cases read
      · simp [recordRun, fail, apart]
    | ok active =>
      have backedUp : BacksUp str targetDir faults state.target := ⟨written, active, readable⟩
      dsimp only [DeploymentState.addBackup, applyTo, applyPackage]
      cases applied : faults.apply with
      | some left =>
        refine .notApplied backedUp applied rfl ?_
        simp [recordRun, fail]
      | none =>
        refine local_confirm_outcome str targetDir faults backedUp applied _ plan package _ time
          ?_ ?_ rfl apart
        · simp
        · simp [Ne.symm apart]

/-- What has to be so for a failure on a local target to leave the active strategy as it was: a
package that could not be written leaves a file that reads as before, and there is an active file
when a backup is restored. -/
def LocalKeeps (target : LocalSafeTarget) : Prop :=
  BacksUp str targetDir faults target →
    (∀ left, faults.apply = some left →
      readActive str left = target.getActiveStrategy str targetDir) ∧
    (faults.AfterApply → RestoresBackup faults target →
      target.files (activeFile targetDir) ≠ none)

/-- An attempt on a local target keeps the active strategy exactly under that condition. -/
theorem local_keepsActive_iff (state : DeploymentState LocalSafeTarget)
    (plan : StrategyDeploymentPlan) (package : StrategyHandoffPackage) (time : String) :
    KeepsActive (localSafeStrategyDeploymentAdapter str targetDir faults) state.target
        (runAttempt (localSafeStrategyDeploymentAdapter str targetDir faults) state plan package
          time) ↔
      LocalKeeps str targetDir faults state.target := by
  have outcome := local_runAttempt str targetDir faults state plan package time
  generalize runAttempt (localSafeStrategyDeploymentAdapter str targetDir faults) state plan
    package time = ended at outcome
  cases outcome with
  | notBackedUp not failed same =>
    refine iff_of_true (fun run is status => ?_) fun backedUp => absurd backedUp not
    simp only [localSafeStrategyDeploymentAdapter, getActiveStrategy, same]
  | notApplied backedUp torn failed active =>
    constructor
    · intro keeps _
      have reads := keeps _ rfl (.inl failed)
      simp only [localSafeStrategyDeploymentAdapter, getActiveStrategy, active] at reads
      refine ⟨fun left is => ?_, fun late => ?_⟩
      · obtain rfl := Option.some.inj (torn.symm.trans is)
        exact reads
      · rw [late.1] at torn
        cases torn
    · intro keeps run is status
      simp only [localSafeStrategyDeploymentAdapter, getActiveStrategy, active]
      exact (keeps backedUp).1 _ torn
  | @restored run after backedUp late restores rolledBack active =>
    constructor
    · intro keeps _
      refine ⟨fun left is => ?_, fun _ _ none => ?_⟩
      · rw [late.1] at is
        cases is
      · -- Without an active file the backup is an empty object, which names no strategy.
        have reads := keeps run rfl (.inr rolledBack)
        simp only [localSafeStrategyDeploymentAdapter, getActiveStrategy, active, none,
          Option.getD_none, readActive] at reads
        exact absurd (Except.ok.inj reads) (by simp [Json.get?, Json.textOf])
    · intro keeps run is status
      have there := (keeps backedUp).2 late restores
      obtain ⟨file, here⟩ := Option.ne_none_iff_exists'.mp there
      simp only [localSafeStrategyDeploymentAdapter, getActiveStrategy, active, here,
        Option.getD_some]
  | notRestored late not =>
    refine iff_of_true (fun run is => by cases is) fun _ => ⟨fun left is => ?_,
      fun _ restores => absurd restores not⟩
    rw [late.1] at is
    cases is
  | succeeded early applied succeeded =>
    refine iff_of_true (fun run is status => ?_) fun _ => ⟨fun left is => ?_,
      fun late => absurd late early⟩
    · obtain rfl := Except.ok.inj is
      rw [succeeded] at status
      rcases status with failed | rolled
      · cases failed
      · cases rolled
    · rw [applied] at is
      cases is

end

/-- An attempt on a fake target keeps the active strategy exactly when it does not fail after the
package was applied, or the active strategy had no checksum. -/
theorem fake_keepsActive_iff (failures : FakeFailures) (restores : failures.failRollback = false)
    (state : DeploymentState FakeStrategyDeploymentTarget) (plan : StrategyDeploymentPlan)
    (package : StrategyHandoffPackage) (time : String) :
    KeepsActive (fakeStrategyDeploymentAdapter failures) state.target
        (runAttempt (fakeStrategyDeploymentAdapter failures) state plan package time) ↔
      (failures.AfterApply → state.target.active.checksum = "") := by
  obtain ⟨run, returned, ended⟩ := fake_runAttempt failures restores state plan package time
  have only {other : StrategyDeploymentRun} (is : (runAttempt
      (fakeStrategyDeploymentAdapter failures) state plan package time).1 = .ok other) :
      other = run :=
    Except.ok.inj (is.symm.trans returned)
  rcases ended with ⟨-, same, early⟩ | ⟨rolledBack, restored, late⟩ | ⟨succeeded, early⟩
  · refine iff_of_true (fun other is status => ?_) fun late => absurd late early
    exact congrArg Except.ok same
  · constructor
    · intro keeps _
      have reads := Except.ok.inj (keeps run returned (.inr rolledBack))
      rw [restored] at reads
      exact (congrArg ActiveStrategy.checksum reads).symm
    · intro keeps other is status
      refine congrArg Except.ok (restored.trans ?_)
      rw [← keeps late]
  · refine iff_of_true (fun other is status => ?_) fun late => absurd late early
    rw [only is, succeeded] at status
    rcases status with failed | rolled
    · cases failed
    · cases rolled

/-- A failed or rolled back run leaves the active strategy as it was exactly when: on a fake target
it failed before the package was applied or the strategy had no checksum; on a local target a
package that could not be written left a file that reads as before, and a backup was only restored
where there had been an active file. -/
theorem failed_run_keeps_active_iff (digest : HandoffDigest)
    (handoffs : StrategyHandoffRepository) (planId time : String) :
    (∀ failures : FakeFailures, failures.failRollback = false → ∀ state,
      KeepsActive (fakeStrategyDeploymentAdapter failures) state.target
          (run (fakeStrategyDeploymentAdapter failures) digest handoffs state planId time) ↔
        ((∃ plan package, Attempted digest handoffs state planId plan package) →
          failures.AfterApply → state.target.active.checksum = "")) ∧
    ∀ str targetDir faults state,
      KeepsActive (localSafeStrategyDeploymentAdapter str targetDir faults) state.target
          (run (localSafeStrategyDeploymentAdapter str targetDir faults) digest handoffs state
            planId time) ↔
        ((∃ plan package, Attempted digest handoffs state planId plan package) →
          LocalKeeps str targetDir faults state.target) := by
  constructor
  · intro failures restores state
    rw [run_keepsActive_iff]
    simp only [fake_keepsActive_iff failures restores]
    exact ⟨fun keeps ⟨plan, package, attempted⟩ => keeps plan package attempted,
      fun keeps plan package attempted => keeps ⟨plan, package, attempted⟩⟩
  · intro str targetDir faults state
    rw [run_keepsActive_iff]
    simp only [local_keepsActive_iff]
    exact ⟨fun keeps ⟨plan, package, attempted⟩ => keeps plan package attempted,
      fun keeps plan package attempted => keeps ⟨plan, package, attempted⟩⟩

/-- The tables of an approved package with a plan to deploy it, in front of a target. -/
def plannedDeployment {τ : Type} (target : τ) : DeploymentState τ :=
  let planned := ((releaseMachine fakeConfig).run (.initial {}) firstDeployment).deployments
  { requests := planned.requests, backups := .empty, runs := .empty, target, applyCalls := [] }

/-- The approved package of the first deployment. -/
def plannedHandoffs : StrategyHandoffRepository :=
  ((releaseMachine fakeConfig).run (.initial {}) firstDeployment).handoffs

/-- A fake target whose strategy has no checksum is rolled back to what it was. -/
theorem failed_verification_keeps_active :
    KeepsActive (fakeStrategyDeploymentAdapter { failVerify := true })
      ({} : FakeStrategyDeploymentTarget)
      (run (fakeStrategyDeploymentAdapter { failVerify := true }) plainDigest plannedHandoffs
        (plannedDeployment {}) "deployment-plan:deploy-1" "2026-07-17T01:00:00Z") :=
  ((failed_run_keeps_active_iff plainDigest plannedHandoffs "deployment-plan:deploy-1"
    "2026-07-17T01:00:00Z").1 { failVerify := true } rfl (plannedDeployment {})).mpr
      fun _ _ => rfl

/-- A fake target on which a package is already active. -/
def deployedTarget : FakeStrategyDeploymentTarget := { active := ⟨"turtle_v5", "v1", "checksum-1"⟩ }

/-- A failed verification takes the checksum of the strategy that was active. -/
theorem failed_verification_drops_checksum :
    ¬KeepsActive (fakeStrategyDeploymentAdapter { failVerify := true }) deployedTarget
      (run (fakeStrategyDeploymentAdapter { failVerify := true }) plainDigest plannedHandoffs
        (plannedDeployment deployedTarget) "deployment-plan:deploy-1" "2026-07-17T01:00:00Z") := by
  intro keeps
  have ended : (run (fakeStrategyDeploymentAdapter { failVerify := true }) plainDigest
      plannedHandoffs (plannedDeployment deployedTarget) "deployment-plan:deploy-1"
        "2026-07-17T01:00:00Z").1.map (·.status) = .ok .rolledBack := by
    decide +kernel
  have left : (run (fakeStrategyDeploymentAdapter { failVerify := true }) plainDigest
      plannedHandoffs (plannedDeployment deployedTarget) "deployment-plan:deploy-1"
        "2026-07-17T01:00:00Z").2.target.active = ⟨"turtle_v5", "v1", ""⟩ := by
    decide +kernel
  cases outcome : (run (fakeStrategyDeploymentAdapter { failVerify := true }) plainDigest
      plannedHandoffs (plannedDeployment deployedTarget) "deployment-plan:deploy-1"
        "2026-07-17T01:00:00Z").1 with
  | error raised =>
    rw [outcome] at ended
    cases ended
  | ok run =>
    rw [outcome] at ended
    have reads := Except.ok.inj (keeps run outcome (.inr (Except.ok.inj ended)))
    rw [left] at reads
    exact absurd (congrArg ActiveStrategy.checksum reads) (by decide)

end StrategyLab
