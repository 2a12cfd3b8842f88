import StrategyLab.Adapters.StrategyHandoff

/-! Deploying an approved package: plans, preflight, the deployment run and its rollback. -/

namespace StrategyLab

/-- The policy a deployment is planned under. -/
def strategyDeploymentPolicyVersion : String := "strategy_deployment_policy_v1"

/-- Where a deployment stands. -/
inductive StrategyDeploymentStatus where
  | created
  | preflightPassed
  | dryRunPassed
  | applying
  | applied
  | verifying
  | succeeded
  | failed
  | rollingBack
  | rolledBack
  | rollbackFailed
  | blocked
  deriving DecidableEq, Repr

/-- The policy fields that planning reads. -/
structure StrategyDeploymentPolicy where
  policyVersion : String := strategyDeploymentPolicyVersion
  targetId : String := "generic-runtime"
  deriving DecidableEq, Repr

/-- A request to deploy a package to a target. -/
structure StrategyDeploymentRequest where
  requestId : String
  packageId : String
  targetId : String
  actorRef : String
  requestedAt : String
  deriving DecidableEq, Repr

/-- The checks a deployment request is constructed with. -/
def StrategyDeploymentRequest.validate (request : StrategyDeploymentRequest) :
    Except ServiceError Unit := do
  validateSafeRef (replaceColons request.requestId) "request_id"
  validateSafeRef request.packageId "package_id"
  validateSafeRef request.targetId "target_id"
  validateUtc request.requestedAt

/-- A planned deployment with the outcome of its preflight. -/
structure StrategyDeploymentPlan where
  planId : String
  requestId : String
  packageId : String
  targetId : String
  packageChecksum : String
  status : StrategyDeploymentStatus
  reason : String
  policyVersion : String
  createdAt : String
  deriving DecidableEq, Repr

/-- What is needed to return a target to its previous strategy. -/
structure StrategyDeploymentBackup where
  backupId : String
  packageId : String
  previousStrategyRef : String
  previousStrategyVersion : String
  restoreRef : String
  createdAt : String
  deriving DecidableEq, Repr

/-- The recorded outcome of running a plan. -/
structure StrategyDeploymentRun where
  runId : String
  planId : String
  packageId : String
  targetId : String
  status : StrategyDeploymentStatus
  backupId : Option String
  message : String
  startedAt : String
  completedAt : Option String
  deriving DecidableEq, Repr

/-- What a target reports as its active strategy. -/
structure ActiveStrategy where
  strategyRef : String
  strategyVersion : String
  checksum : String
  deriving DecidableEq, Repr

/-- What a target does; each step may raise, which is given as the class name of the exception. -/
structure StrategyDeploymentAdapter (τ : Type) where
  healthCheck : τ → Except String (Bool × String) × τ
  getActiveStrategy : τ → Except String ActiveStrategy × τ
  validatePackage : StrategyHandoffPackage → τ → Except String (Bool × List String) × τ
  createBackup : StrategyHandoffPackage → (backupId createdAt : String) → τ →
    Except String StrategyDeploymentBackup × τ
  dryRunApply : StrategyHandoffPackage → τ → Except String (Bool × List String) × τ
  applyPackage : StrategyHandoffPackage → τ → Except String (Bool × String) × τ
  restartOrReload : τ → Except String (Bool × String) × τ
  verifyActiveStrategy : StrategyHandoffPackage → τ → Except String (Bool × String) × τ
  rollback : StrategyDeploymentBackup → τ → Except String (Bool × String) × τ

/-- What is stored under a request id: a request, or a plan under an id of its own. -/
inductive DeploymentPayload where
  | request (request : StrategyDeploymentRequest)
  | plan (plan : StrategyDeploymentPlan)
  deriving DecidableEq, Repr

/-- One row of the table that requests and plans share. -/
structure DeploymentRow where
  requestId : String
  payload : DeploymentPayload
  deriving DecidableEq, Repr

/-- The deployment tables and the target, with the calls of `apply_package` made so far. -/
structure DeploymentState (τ : Type) where
  requests : Table DeploymentRow.requestId
  backups : Table StrategyDeploymentBackup.backupId
  runs : Table StrategyDeploymentRun.runId
  target : τ
  /-- Every call of `apply_package`, oldest first, with the plan it was made for. -/
  applyCalls : List (StrategyDeploymentPlan × StrategyHandoffPackage)

/-- What a deployment call can raise. -/
inductive DeploymentError where
  | service (error : ServiceError)
  | adapter (className : String)
  deriving DecidableEq, Repr

namespace DeploymentState

variable {τ : Type}

/-- Store a request under its id, unless the id is taken. -/
def addRequest (state : DeploymentState τ) (request : StrategyDeploymentRequest) :
    Except DeploymentError (DeploymentState τ) :=
  match state.requests.insert? ⟨request.requestId, .request request⟩ with
  | some grown => .ok { state with requests := grown }
  | none => .error (.service (.integrityError "UNIQUE constraint failed"))

/-- Store a plan under its id, replacing what is there. -/
def addPlan (state : DeploymentState τ) (plan : StrategyDeploymentPlan) : DeploymentState τ :=
  { state with requests := state.requests.replace ⟨plan.planId, .plan plan⟩ }

/-- Read a plan by its id. -/
def getPlan (state : DeploymentState τ) (planId : String) :
    Except DeploymentError StrategyDeploymentPlan :=
  match state.requests.find? planId with
  | none => .error (.service (.keyError planId))
  | some ⟨_, .request _⟩ =>
    .error (.service (.valueError "payload is not a deployment plan"))
  | some ⟨_, .plan plan⟩ => .ok plan

/-- Store a backup under its id. -/
def addBackup (state : DeploymentState τ) (backup : StrategyDeploymentBackup) :
    DeploymentState τ :=
  { state with backups := state.backups.replace backup }

/-- Store a run under its id, replacing what is there. -/
def addRun (state : DeploymentState τ) (run : StrategyDeploymentRun) : DeploymentState τ :=
  { state with runs := state.runs.replace run }

/-- Some run has succeeded for the package on the target. -/
def hasSuccessfulDeployment (state : DeploymentState τ) (packageId targetId : String) : Bool :=
  state.runs.rows.any fun run =>
    run.packageId = packageId && run.targetId = targetId && run.status = .succeeded

end DeploymentState

namespace StrategyDeploymentService

open DeploymentState

variable {τ : Type} (adapter : StrategyDeploymentAdapter τ)

/-- The checks before a deployment is planned, in the order they are made. -/
def preflight (policy : StrategyDeploymentPolicy) (champions : ChampionRegistryRepository)
    (handoffs : StrategyHandoffRepository) (package : StrategyHandoffPackage) (targetId : String)
    (target : τ) : Except String (StrategyDeploymentStatus × String) × τ :=
  let approval := handoffs.latestApproval package.packageId
  let active := champions.getActive defaultChampionSlot
  if package.status ≠ .approvedForDeployment then
    (.ok (.blocked, "handoff package is not approved for deployment"), target)
  else if ¬∃ given ∈ approval, given.approved ∧ given.packageChecksum = package.checksum then
    (.ok (.blocked, "package-specific approval checksum is missing or stale"), target)
  else if ¬∃ entry ∈ active,
      entry.activeVersionId = package.manifest.championRegistryVersion ∧
        entry.fingerprint = package.manifest.championFingerprint then
    (.ok (.blocked, "Champion version no longer matches package"), target)
  else match adapter.healthCheck target with
    | (.error raised, target) => (.error raised, target)
    | (.ok (false, message), target) => (.ok (.blocked, message), target)
    | (.ok (true, _), target) =>
      match adapter.validatePackage package target with
      | (.error raised, target) => (.error raised, target)
      | (.ok (false, reasons), target) => (.ok (.blocked, "; ".intercalate reasons), target)
      | (.ok (true, _), target) =>
        if targetId ≠ policy.targetId then (.ok (.blocked, "target policy mismatch"), target)
        else (.ok (.preflightPassed, "preflight passed"), target)

/-- Record a request, check it, and store the plan with the outcome. -/
def plan (digest : HandoffDigest) (policy : StrategyDeploymentPolicy)
    (champions : ChampionRegistryRepository) (handoffs : StrategyHandoffRepository)
    (state : DeploymentState τ) (request : StrategyDeploymentRequest) :
    Except DeploymentError StrategyDeploymentPlan × DeploymentState τ :=
  match state.addRequest request with
  | .error raised => (.error raised, state)
  | .ok state =>
    match handoffs.getPackage digest request.packageId with
    | .error raised => (.error (.service raised), state)
    | .ok package =>
      match preflight adapter policy champions handoffs package request.targetId state.target with
      | (.error raised, target) => (.error (.adapter raised), { state with target })
      | (.ok (status, reason), target) =>
        let plan : StrategyDeploymentPlan :=
          { planId := s!"deployment-plan:{request.requestId}", requestId := request.requestId,
            packageId := package.packageId, targetId := request.targetId,
            packageChecksum := package.checksum, status, reason,
            policyVersion := policy.policyVersion, createdAt := request.requestedAt }
        (.ok plan, { state with target }.addPlan plan)

/-- Record the outcome of a plan; all outcomes of one plan share one run id. -/
def recordRun (state : DeploymentState τ) (plan : StrategyDeploymentPlan)
    (status : StrategyDeploymentStatus) (backupId : Option String) (message time : String) :
    StrategyDeploymentRun × DeploymentState τ :=
  let run : StrategyDeploymentRun :=
    { runId := s!"deployment-run:{plan.planId}", planId := plan.planId,
      packageId := plan.packageId, targetId := plan.targetId, status, backupId, message,
      startedAt := time, completedAt := some time }
  (run, state.addRun run)

/-- Record a failure, rolling a modified target back first; the rollback itself may raise. -/
def fail (state : DeploymentState τ) (plan : StrategyDeploymentPlan)
    (backup : Option StrategyDeploymentBackup) (message time : String) (modified : Bool) :
    Except String StrategyDeploymentRun × DeploymentState τ :=
  match modified, backup with
  | true, some backup =>
    match adapter.rollback backup state.target with
    | (.error raised, target) => (.error raised, { state with target })
    | (.ok (true, message), target) =>
      (recordRun { state with target } plan .rolledBack (some backup.backupId) message time).map
        .ok id
    | (.ok (false, message), target) =>
      (recordRun { state with target } plan .rollbackFailed (some backup.backupId) message
        time).map .ok id
  | _, _ => (recordRun state plan .failed (backup.map (·.backupId)) message time).map .ok id

/-- What an attempt has got to when it ends, for the handler of its exceptions. -/
structure Attempt (τ : Type) where
  result : Except String StrategyDeploymentRun
  backup : Option StrategyDeploymentBackup
  modified : Bool
  state : DeploymentState τ

/-- End an attempt by recording a failure. -/
def endFailed (state : DeploymentState τ) (plan : StrategyDeploymentPlan)
    (backup : StrategyDeploymentBackup) (message time : String) (modified : Bool) : Attempt τ :=
  let (result, state) := fail adapter state plan (some backup) message time modified
  ⟨result, some backup, modified, state⟩

/-- The last part of an attempt: reload, check and verify a target that was modified. -/
def confirm (state : DeploymentState τ) (plan : StrategyDeploymentPlan)
    (package : StrategyHandoffPackage) (backup : StrategyDeploymentBackup) (time : String) :
    Attempt τ :=
  match adapter.restartOrReload state.target with
  | (.error raised, target) => ⟨.error raised, some backup, true, { state with target }⟩
  | (.ok (false, message), target) =>
    endFailed adapter { state with target } plan backup message time true
  | (.ok (true, _), target) =>
    match adapter.healthCheck target with
    | (.error raised, target) => ⟨.error raised, some backup, true, { state with target }⟩
    | (.ok (false, message), target) =>
      endFailed adapter { state with target } plan backup message time true
    | (.ok (true, _), target) =>
      match adapter.verifyActiveStrategy package target with
      | (.error raised, target) => ⟨.error raised, some backup, true, { state with target }⟩
      | (.ok (false, message), target) =>
        endFailed adapter { state with target } plan backup message time true
      | (.ok (true, _), target) =>
        let (run, state) := recordRun { state with target } plan .succeeded
          (some backup.backupId) "deployment succeeded" time
        ⟨.ok run, some backup, true, state⟩

/-- The middle part of an attempt: apply the package to the target. -/
def applyTo (state : DeploymentState τ) (plan : StrategyDeploymentPlan)
    (package : StrategyHandoffPackage) (backup : StrategyDeploymentBackup) (time : String) :
    Attempt τ :=
  let state := { state with applyCalls := state.applyCalls ++ [(plan, package)] }
  match adapter.applyPackage package state.target with
  | (.error raised, target) => ⟨.error raised, some backup, false, { state with target }⟩
  | (.ok (false, message), target) =>
    endFailed adapter { state with target } plan backup message time false
  | (.ok (true, _), target) => confirm adapter { state with target } plan package backup time

/-- The whole attempt: back up, try the package without a change, then apply it. -/
def attempt (state : DeploymentState τ) (plan : StrategyDeploymentPlan)
    (package : StrategyHandoffPackage) (time : String) : Attempt τ :=
  match adapter.createBackup package s!"deployment-backup:{plan.planId}" time state.target with
  | (.error raised, target) => ⟨.error raised, none, false, { state with target }⟩
  | (.ok backup, target) =>
    let state := { state with target }.addBackup backup
    match adapter.dryRunApply package state.target with
    | (.error raised, target) => ⟨.error raised, some backup, false, { state with target }⟩
    | (.ok (false, reasons), target) =>
      endFailed adapter { state with target } plan backup
        ("dry-run failed: " ++ "; ".intercalate reasons) time false
    | (.ok (true, _), target) => applyTo adapter { state with target } plan package backup time

/-- Attempt a plan; whatever the attempt raises is recorded as its failure. -/
def runAttempt (state : DeploymentState τ) (plan : StrategyDeploymentPlan)
    (package : StrategyHandoffPackage) (time : String) :
    Except DeploymentError StrategyDeploymentRun × DeploymentState τ :=
  let attempted := attempt adapter state plan package time
  match attempted.result with
  | .ok run => (.ok run, attempted.state)
  | .error raised =>
    -- An exception after a recorded failure rolls the target back a second time.
    let (result, state) :=
      fail adapter attempted.state plan attempted.backup raised time attempted.modified
    (result.mapError .adapter, state)

/-- Run a plan: blocked plans and duplicates are recorded as blocked, the rest is attempted. -/
def run (digest : HandoffDigest) (handoffs : StrategyHandoffRepository)
    (state : DeploymentState τ) (planId time : String) :
    Except DeploymentError StrategyDeploymentRun × DeploymentState τ :=
  match state.getPlan planId with
  | .error raised => (.error raised, state)
  | .ok plan =>
    match handoffs.getPackage digest plan.packageId with
    | .error raised => (.error (.service raised), state)
    | .ok package =>
      if plan.status = .blocked then
        (recordRun state plan .blocked none plan.reason time).map .ok id
      else if state.hasSuccessfulDeployment plan.packageId plan.targetId then
        (recordRun state plan .blocked none "duplicate deployment prevented" time).map .ok id
      else
        runAttempt adapter state plan package time

end StrategyDeploymentService

end StrategyLab
