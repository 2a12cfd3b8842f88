import StrategyLab.Adapters.StrategyDeployment

/-! What planning and running leave alone, and which records they write. -/

namespace StrategyLab

open DeploymentState StrategyDeploymentService

variable {τ : Type} (adapter : StrategyDeploymentAdapter τ)

/-- The id under which every outcome of a plan is recorded. -/
def runIdOf (planId : String) : String := s!"deployment-run:{planId}"

/-- The id of the plan made for a request. -/
def planIdOf (requestId : String) : String := s!"deployment-plan:{requestId}"

/-- Two plans share a run id only when they are the same plan. -/
theorem runIdOf_injective {left right : String} (same : runIdOf left = runIdOf right) :
    left = right := by
  simpa [runIdOf, toString, String.append_right_inj] using same

/-- Two requests share a plan id only when they are the same request. -/
theorem planIdOf_injective {left right : String} (same : planIdOf left = planIdOf right) :
    left = right := by
  simpa [planIdOf, toString, String.append_right_inj] using same

/-- A run that was recorded for a plan. -/
structure StrategyDeploymentRun.Records (run : StrategyDeploymentRun)
    (plan : StrategyDeploymentPlan) : Prop where
  planId : run.planId = plan.planId
  runId : run.runId = runIdOf plan.planId
  packageId : run.packageId = plan.packageId
  targetId : run.targetId = plan.targetId

/-- A step that writes at most the record of one plan. -/
structure Touches (plan : StrategyDeploymentPlan) (state next : DeploymentState τ) : Prop where
  requests : next.requests = state.requests
  others : ∀ runId, runId ≠ runIdOf plan.planId → next.runs.find? runId = state.runs.find? runId
  own : next.runs.find? (runIdOf plan.planId) = state.runs.find? (runIdOf plan.planId) ∨
    ∃ run, next.runs.find? (runIdOf plan.planId) = some run ∧ run.Records plan

variable {plan : StrategyDeploymentPlan}

/-- A step that leaves both tables alone touches nothing. -/
theorem Touches.of_eq {state next : DeploymentState τ}
    (requests : next.requests = state.requests) (runs : next.runs = state.runs) :
    Touches plan state next :=
  ⟨requests, fun _ _ => by rw [runs], Or.inl (by rw [runs])⟩

/-- Two steps for one plan write at most the record of that plan. -/
theorem Touches.trans {state mid next : DeploymentState τ}
    (first : Touches plan state mid) (second : Touches plan mid next) :
    Touches plan state next := by
  refine ⟨second.requests.trans first.requests, fun runId other => ?_, ?_⟩
  · rw [second.others runId other, first.others runId other]
  · rcases second.own with same | recorded
    · rw [same]
      exact first.own
    · exact Or.inr recorded

/-- Recording an outcome writes the record of the plan. -/
theorem recordRun_records (state : DeploymentState τ) (plan : StrategyDeploymentPlan)
    (status : StrategyDeploymentStatus) (backupId : Option String) (message time : String) :
    let recorded := recordRun state plan status backupId message time
    recorded.1.Records plan ∧ recorded.1.status = status ∧ Touches plan state recorded.2 ∧
      recorded.2.runs.find? (runIdOf plan.planId) = some recorded.1 ∧
      recorded.2.applyCalls = state.applyCalls := by
  have stored : (recordRun state plan status backupId message time).2.runs.find?
      (runIdOf plan.planId) = some (recordRun state plan status backupId message time).1 :=
    Table.find?_replace_self _ _
  refine ⟨⟨rfl, rfl, rfl, rfl⟩, rfl, ⟨rfl, fun runId other => ?_, Or.inr ⟨_, stored, ?_⟩⟩,
    stored, rfl⟩
  · exact (Table.find?_replace _ _ _).trans (if_neg other)
  · exact ⟨rfl, rfl, rfl, rfl⟩

/-- Recording a failure writes at most the record of the plan and applies nothing. -/
theorem fail_touches (state : DeploymentState τ) (plan : StrategyDeploymentPlan)
    (backup : Option StrategyDeploymentBackup) (message time : String) (modified : Bool) :
    let failed := fail adapter state plan backup message time modified
    Touches plan state failed.2 ∧ failed.2.applyCalls = state.applyCalls := by
  have recorded (mid : DeploymentState τ) (status : StrategyDeploymentStatus)
      (backupId : Option String) (text : String) (requests : mid.requests = state.requests)
      (runs : mid.runs = state.runs) (calls : mid.applyCalls = state.applyCalls) :
      Touches plan state (recordRun mid plan status backupId text time).2 ∧
        (recordRun mid plan status backupId text time).2.applyCalls = state.applyCalls := by
    obtain ⟨-, -, touches, -, kept⟩ := recordRun_records mid plan status backupId text time
    exact ⟨(Touches.of_eq requests runs).trans touches, kept.trans calls⟩
  dsimp only [fail]
  split
  · split
    · exact ⟨.of_eq rfl rfl, rfl⟩
    · exact recorded _ _ _ _ rfl rfl rfl
    · exact recorded _ _ _ _ rfl rfl rfl
  · exact recorded _ _ _ _ rfl rfl rfl

/-- Ending an attempt with a failure writes at most the record of the plan. -/
theorem endFailed_touches (state : DeploymentState τ) (plan : StrategyDeploymentPlan)
    (backup : StrategyDeploymentBackup) (message time : String) (modified : Bool) :
    let ended := endFailed adapter state plan backup message time modified
    Touches plan state ended.state ∧ ended.state.applyCalls = state.applyCalls :=
  fail_touches adapter state plan (some backup) message time modified

/-- A step of the target alone touches nothing. -/
theorem Touches.target (state : DeploymentState τ) (target : τ) :
    Touches plan state { state with target } :=
  .of_eq rfl rfl

/-- The last part of an attempt writes at most the record of the plan and applies nothing. -/
theorem confirm_touches (state : DeploymentState τ) (plan : StrategyDeploymentPlan)
    (package : StrategyHandoffPackage) (backup : StrategyDeploymentBackup) (time : String) :
    let confirmed := confirm adapter state plan package backup time
    Touches plan state confirmed.state ∧ confirmed.state.applyCalls = state.applyCalls := by
  have ended (target : τ) (message : String) :
      Touches plan state
          (endFailed adapter { state with target } plan backup message time true).state ∧
        (endFailed adapter { state with target } plan backup message time true).state.applyCalls =
          state.applyCalls := by
    obtain ⟨touches, kept⟩ := endFailed_touches adapter { state with target } plan
      backup message time true
    exact ⟨(Touches.target state target).trans touches, kept⟩
  dsimp only [confirm]
  split
  · exact ⟨.target state _, rfl⟩
  · exact ended _ _
  · split
    · exact ⟨.target state _, rfl⟩
    · exact ended _ _
    · split
      · exact ⟨.target state _, rfl⟩
      · exact ended _ _
      · -- The target is verified, so the success is recorded.
        obtain ⟨-, -, touches, -, kept⟩ := recordRun_records { state with target := _ } plan
          .succeeded (some backup.backupId) "deployment succeeded" time
        exact ⟨(Touches.target state _).trans touches, kept⟩

/-- The middle part of an attempt calls `apply_package` once, for this plan and package. -/
theorem applyTo_touches (state : DeploymentState τ) (plan : StrategyDeploymentPlan)
    (package : StrategyHandoffPackage) (backup : StrategyDeploymentBackup) (time : String) :
    let done := applyTo adapter state plan package backup time
    Touches plan state done.state ∧
      done.state.applyCalls = state.applyCalls ++ [(plan, package)] := by
  have called (target : τ) : Touches plan state
      { state with applyCalls := state.applyCalls ++ [(plan, package)], target } :=
    .of_eq rfl rfl
  dsimp only [applyTo]
  split
  · exact ⟨called _, rfl⟩
  · obtain ⟨touches, kept⟩ := endFailed_touches adapter
      { state with applyCalls := state.applyCalls ++ [(plan, package)], target := _ } plan backup
      _ time false
    exact ⟨(called _).trans touches, kept⟩
  · obtain ⟨touches, kept⟩ := confirm_touches adapter
      { state with applyCalls := state.applyCalls ++ [(plan, package)], target := _ } plan package
      backup time
    exact ⟨(called _).trans touches, kept⟩

/-- An attempt gets as far as applying its package: the backup and the dry run succeed. -/
def reachesApply (plan : StrategyDeploymentPlan) (package : StrategyHandoffPackage)
    (time : String) (target : τ) : Bool :=
  match adapter.createBackup package s!"deployment-backup:{plan.planId}" time target with
  | (.error _, _) => false
  | (.ok _, target) =>
    match adapter.dryRunApply package target with
    | (.ok (true, _), _) => true
    | _ => false

/-- An attempt writes at most the record of its plan and applies its package if it gets there. -/
theorem attempt_touches (state : DeploymentState τ) (plan : StrategyDeploymentPlan)
    (package : StrategyHandoffPackage) (time : String) :
    let attempted := attempt adapter state plan package time
    Touches plan state attempted.state ∧ attempted.state.applyCalls = state.applyCalls ++
      if reachesApply adapter plan package time state.target then [(plan, package)] else [] := by
  rcases backs : adapter.createBackup package s!"deployment-backup:{plan.planId}" time
    state.target with ⟨raised | backup, target⟩
  · simp only [attempt, reachesApply, backs]
    exact ⟨.target state _, by simp⟩
  · -- Up to the dry run only the backup table and the target have changed.
    have before (target : τ) :
        Touches plan state { state with backups := state.backups.replace backup, target } :=
      .of_eq rfl rfl
    rcases tries : adapter.dryRunApply package target with
      ⟨raised | ⟨passed | passed, reasons⟩, tried⟩
    · simp only [attempt, reachesApply, backs, addBackup, tries]
      exact ⟨before tried, by simp⟩
    · obtain ⟨touches, kept⟩ := endFailed_touches adapter
        { state with backups := state.backups.replace backup, target := tried } plan backup
        ("dry-run failed: " ++ "; ".intercalate reasons) time false
      simp only [attempt, reachesApply, backs, addBackup, tries]
      exact ⟨(before tried).trans touches, by simpa using kept⟩
    · obtain ⟨touches, added⟩ := applyTo_touches adapter
        { state with backups := state.backups.replace backup, target := tried } plan package
        backup time
      simp only [attempt, reachesApply, backs, addBackup, tries]
      exact ⟨(before tried).trans touches, by simpa using added⟩

/-- The state an attempted deployment leaves, its exception recorded as one more failure. -/
theorem attempted_touches (state : DeploymentState τ) (plan : StrategyDeploymentPlan)
    (package : StrategyHandoffPackage) (time : String) :
    let next := (runAttempt adapter state plan package time).2
    Touches plan state next ∧ next.applyCalls = state.applyCalls ++
      if reachesApply adapter plan package time state.target then [(plan, package)] else [] := by
  obtain ⟨touches, applied⟩ := attempt_touches adapter state plan package time
  dsimp only [runAttempt]
  split
  · exact ⟨touches, applied⟩
  · obtain ⟨failed, kept⟩ := fail_touches adapter (attempt adapter state plan package time).state
      plan (attempt adapter state plan package time).backup _ time
      (attempt adapter state plan package time).modified
    exact ⟨touches.trans failed, kept.trans applied⟩

variable {adapter}

variable {digest : HandoffDigest} {handoffs : StrategyHandoffRepository} {state : DeploymentState τ}

/-- A plan that cannot be read, or whose package cannot, is not run. -/
theorem run_unread {planId : String} (time : String)
    (unread : ∀ plan, state.getPlan planId = .ok plan →
      ∀ package, handoffs.getPackage digest plan.packageId ≠ .ok package) :
    (run adapter digest handoffs state planId time).2 = state := by
  simp only [run]
  split
  · rfl
  · rename_i plan planned
    split
    · rfl
    · rename_i package read
      exact absurd read (unread plan planned package)

section Readable

variable {digest : HandoffDigest} {handoffs : StrategyHandoffRepository}
  {state : DeploymentState τ} {planId : String} (time : String) {plan : StrategyDeploymentPlan}
  {package : StrategyHandoffPackage} (planned : state.getPlan planId = .ok plan)
  (read : handoffs.getPackage digest plan.packageId = .ok package)

include planned read

/-- A plan that preflight blocked is recorded as blocked with its own reason. -/
theorem run_blocked (blocked : plan.status = .blocked) :
    (run adapter digest handoffs state planId time).2 =
      (recordRun state plan .blocked none plan.reason time).2 := by
  simp only [run, planned, read, if_pos blocked]
  rfl

/-- A second deployment of a package to a target is recorded as blocked. -/
theorem run_duplicate (passed : plan.status ≠ .blocked)
    (again : state.hasSuccessfulDeployment plan.packageId plan.targetId = true) :
    (run adapter digest handoffs state planId time).2 =
      (recordRun state plan .blocked none "duplicate deployment prevented" time).2 := by
  simp only [run, planned, read, if_neg passed, if_pos again]
  rfl

/-- Every other plan is attempted. -/
theorem run_attempted (passed : plan.status ≠ .blocked)
    (first : state.hasSuccessfulDeployment plan.packageId plan.targetId = false) :
    (run adapter digest handoffs state planId time).2 =
      (runAttempt adapter state plan package time).2 := by
  simp only [run, planned, read, if_neg passed, first, Bool.false_eq_true, if_false]

end Readable

/-- Whatever a run does, it writes at most the record of the plan it reads. -/
theorem run_touches {planId : String} (time : String) (planned : state.getPlan planId = .ok plan) :
    Touches plan state (run adapter digest handoffs state planId time).2 := by
  cases read : handoffs.getPackage digest plan.packageId with
  | error raised =>
    rw [run_unread time fun other same package => by
      obtain rfl := Except.ok.inj (planned.symm.trans same)
      rw [read]
      exact nofun]
    exact .of_eq rfl rfl
  | ok package =>
    by_cases blocked : plan.status = .blocked
    · rw [run_blocked time planned read blocked]
      exact (recordRun_records state plan _ _ _ time).2.2.1
    · cases again : state.hasSuccessfulDeployment plan.packageId plan.targetId with
      | true =>
        rw [run_duplicate time planned read blocked again]
        exact (recordRun_records state plan _ _ _ time).2.2.1
      | false =>
        rw [run_attempted time planned read blocked again]
        exact (attempted_touches adapter state plan package time).1

/-- What running a plan applies: its package, unless the run is blocked or ends before that. -/
def applications (adapter : StrategyDeploymentAdapter τ) (digest : HandoffDigest)
    (handoffs : StrategyHandoffRepository) (state : DeploymentState τ) (planId time : String) :
    List (StrategyDeploymentPlan × StrategyHandoffPackage) :=
  match state.getPlan planId with
  | .error _ => []
  | .ok plan =>
    match handoffs.getPackage digest plan.packageId with
    | .error _ => []
    | .ok package =>
      if plan.status = .blocked ∨
          state.hasSuccessfulDeployment plan.packageId plan.targetId = true then []
      else if reachesApply adapter plan package time state.target then [(plan, package)]
      else []

/-- What is applied belongs to a plan that was not blocked, and was read for this run. -/
theorem mem_applications {planId time : String}
    {call : StrategyDeploymentPlan × StrategyHandoffPackage}
    (applied : call ∈ applications adapter digest handoffs state planId time) :
    state.getPlan planId = .ok call.1 ∧
      handoffs.getPackage digest call.1.packageId = .ok call.2 ∧ call.1.status ≠ .blocked := by
  unfold applications at applied
  split at applied
  · cases applied
  · rename_i plan planned
    split at applied
    · cases applied
    · rename_i package read
      split at applied
      · cases applied
      · rename_i passed
        split at applied
        · obtain rfl := List.mem_singleton.mp applied
          exact ⟨planned, read, fun blocked => passed (Or.inl blocked)⟩
        · cases applied

/-- A run calls `apply_package` exactly for what it applies. -/
theorem run_applyCalls (digest : HandoffDigest) (handoffs : StrategyHandoffRepository)
    (state : DeploymentState τ) (planId time : String) :
    (run adapter digest handoffs state planId time).2.applyCalls =
      state.applyCalls ++ applications adapter digest handoffs state planId time := by
  cases planned : state.getPlan planId with
  | error raised => simp [run, applications, planned]
  | ok plan =>
    cases read : handoffs.getPackage digest plan.packageId with
    | error raised => simp [run, applications, planned, read]
    | ok package =>
      simp only [applications, planned, read]
      by_cases blocked : plan.status = .blocked
      · rw [run_blocked time planned read blocked, if_pos (Or.inl blocked), List.append_nil]
        rfl
      · cases again : state.hasSuccessfulDeployment plan.packageId plan.targetId with
        | true =>
          rw [run_duplicate time planned read blocked again, if_pos (Or.inr rfl),
            List.append_nil]
          rfl
        | false =>
          rw [run_attempted time planned read blocked again, if_neg (by simp [blocked])]
          exact (attempted_touches adapter state plan package time).2

/-- The steps of one deployment, taken one after the other from a target, all succeed. -/
def StepsSucceed (adapter : StrategyDeploymentAdapter τ) (package : StrategyHandoffPackage)
    (target : τ) : Prop :=
  ∀ backupId time, ∃ backup backedUp tried applied reloaded healthy verified reasons
      appliedMessage reloadedMessage healthyMessage verifiedMessage,
    adapter.createBackup package backupId time target = (.ok backup, backedUp) ∧
      adapter.dryRunApply package backedUp = (.ok (true, reasons), tried) ∧
      adapter.applyPackage package tried = (.ok (true, appliedMessage), applied) ∧
      adapter.restartOrReload applied = (.ok (true, reloadedMessage), reloaded) ∧
      adapter.healthCheck reloaded = (.ok (true, healthyMessage), healthy) ∧
      adapter.verifyActiveStrategy package healthy = (.ok (true, verifiedMessage), verified)

/-- When all steps succeed, the package is applied once and the success is recorded. -/
theorem attempt_succeeds (state : DeploymentState τ) (plan : StrategyDeploymentPlan)
    {package : StrategyHandoffPackage} (time : String)
    (succeed : StepsSucceed adapter package state.target) :
    let next := (runAttempt adapter state plan package time).2
    next.requests = state.requests ∧ next.applyCalls = state.applyCalls ++ [(plan, package)] ∧
      ∃ recorded, next.runs = state.runs.replace recorded ∧ recorded.Records plan ∧
        recorded.status = .succeeded := by
  obtain ⟨backup, backedUp, tried, applied, reloaded, healthy, verified, _, _, _, _, _, backs, tries,
    applies, reloads, checks, verifies⟩ := succeed s!"deployment-backup:{plan.planId}" time
  have final : (runAttempt adapter state plan package time).2 =
      (recordRun { state with
        backups := state.backups.replace backup, target := verified,
        applyCalls := state.applyCalls ++ [(plan, package)] } plan .succeeded
        (some backup.backupId) "deployment succeeded" time).2 := by
    simp only [runAttempt, attempt, backs, DeploymentState.addBackup, tries, applyTo, applies,
      confirm, reloads, checks, verifies]
  dsimp only
  rw [final]
  exact ⟨rfl, rfl, _, rfl, ⟨rfl, rfl, rfl, rfl⟩, rfl⟩

end StrategyLab
