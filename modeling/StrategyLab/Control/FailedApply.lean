import StrategyLab.Control.StrategyDeploymentController

/-! What a failed apply leaves behind, in the registry and in the runtime. -/

namespace StrategyLab

namespace StrategyDeploymentController

variable {ρ : Type} (runtime : StrategyRuntime ρ)

/-- The target may be in effect; until it is applied what was in effect before still is. -/
def MayBeApplied (controller : StrategyDeploymentController ρ) (target : StrategyVersion)
    (progress : DeploymentProgress ρ) : Prop :=
  (progress.appliedToRuntime = false ∧ .versionApplied ∉ progress.steps ∧
      runtime.effective progress.runtime = runtime.effective controller.runtime) ∨
    (progress.appliedToRuntime = true ∧ .versionApplied ∈ progress.steps ∧
      (runtime.effective progress.runtime = runtime.effective controller.runtime ∨
        runtime.effective progress.runtime = target.specFingerprint))

/-- A deployment under way that has not touched the registry. -/
def Unmarked (controller : StrategyDeploymentController ρ) (target : StrategyVersion)
    (progress : DeploymentProgress ρ) : Prop :=
  progress.registry = controller.registry ∧ MayBeApplied runtime controller target progress

/-- Wherever the steps up to the verification stop, the registry is as it was. -/
theorem applyAndVerify_ends (controller : StrategyDeploymentController ρ)
    (target : StrategyVersion) (validate : StrategyVersion → Except RaisedException Bool)
    (precheck : Except RaisedException Bool) :
    Attempt.Ends (applyAndVerify runtime target validate precheck)
      (fun _ => Unmarked runtime controller target)
      (fun _ => Unmarked runtime controller target) ⟨controller, [], false⟩ := by
  -- A stop before the application, and one from the application on.
  have early (steps : List DeployStep) (left : ρ) (unapplied : .versionApplied ∉ steps)
      (same : runtime.effective left = runtime.effective controller.runtime) :
      Unmarked runtime controller target ⟨⟨controller.registry, left⟩, steps, false⟩ :=
    ⟨rfl, .inl ⟨rfl, unapplied, same⟩⟩
  have late (steps : List DeployStep) (left : ρ) (applied : .versionApplied ∈ steps)
      (known : runtime.effective left = runtime.effective controller.runtime ∨
        runtime.effective left = target.specFingerprint) :
      Unmarked runtime controller target ⟨⟨controller.registry, left⟩, steps, true⟩ :=
    ⟨rfl, .inr ⟨rfl, applied, known⟩⟩
  unfold applyAndVerify append callRuntime
  simp only [Attempt.ends_bind, Attempt.ends_modify, Attempt.ends_ite, Attempt.ends_call,
    Attempt.ends_answer, Attempt.ends_throw, Attempt.ends_pure]
  refine ⟨fun _ => early _ _ (by simp) rfl, fun _ => ⟨fun valid _ => ?_,
    fun _ _ => early _ _ (by simp) rfl⟩⟩
  refine ⟨fun _ => early _ _ (by simp) rfl, fun _ => ⟨fun _ open_ blocked => ?_,
    fun _ open_ blocked => early _ _ (by simp) ?_⟩⟩
  · have kept : runtime.effective open_ = runtime.effective controller.runtime := by
      have only := runtime.blocks_only controller.runtime
      rwa [blocked] at only
    refine ⟨fun met _ => ⟨fun _ => early _ _ (by simp) kept, fun _ => ⟨?_, ?_⟩⟩,
      fun _ _ => early _ _ (by simp) kept⟩
    · intro _ applied answered
      have taken := runtime.applies _ _ _ _ answered
      -- Reading the fingerprint back leaves the version in effect, whatever is read.
      have read {answer : Except RaisedException String} {left : ρ}
          (reads : runtime.effectiveFingerprint applied = (answer, left)) :
          runtime.effective left = target.specFingerprint := by
        have only := runtime.reads_only applied
        rwa [reads, taken] at only
      exact ⟨fun _ left reads => ⟨fun _ => late _ _ (by simp) (.inr (read reads)),
        fun _ => late _ _ (by simp) (.inr (read reads))⟩,
        fun _ left reads => late _ _ (by simp) (.inr (read reads))⟩
    · intro raised left answered
      have untouched := runtime.apply_raises _ _ _ _ _ answered
      exact late _ _ (by simp) (.inl (untouched.trans kept))
  · have only := runtime.blocks_only controller.runtime
    rwa [blocked] at only

/-- The registry was marked and unblocking the entries raises then. -/
def UnblockRaises (controller : StrategyDeploymentController ρ) (strategyVersionId at_ : String)
    (validate : Option (StrategyVersion → Except RaisedException Bool))
    (precheck : Option (Except RaisedException Bool)) : Prop :=
  ∃ target marked raised left,
    controller.registry.get strategyVersionId = .ok target ∧
    (applyAndVerify runtime target (validate.getD fun _ => .ok true) (precheck.getD (.ok true)) >>=
      fun _ => commitActive strategyVersionId at_).run ⟨controller, [], false⟩ =
        .ok () marked ∧
    runtime.unblockEntries marked.runtime = (.error raised, left)

/-- What the call that restores the previous version answers, if it is made. -/
def restoreAnswer (controller : StrategyDeploymentController ρ) (strategyVersionId at_ : String)
    (validate : Option (StrategyVersion → Except RaisedException Bool))
    (precheck : Option (Except RaisedException Bool)) : Option (Except RaisedException Unit) :=
  match controller.registry.get strategyVersionId with
  | .error _ => none
  | .ok target =>
    match attempted runtime controller target strategyVersionId at_ validate precheck with
    | .ok _ _ => none
    | .error _ stopped =>
      (restorePrevious runtime (controller.registry.active target.direction) stopped).1

/-- An attempt that raises before the entries are unblocked leaves the registry as it was. -/
theorem attempted_raises {controller : StrategyDeploymentController ρ} {target : StrategyVersion}
    {strategyVersionId at_ : String}
    {validate : Option (StrategyVersion → Except RaisedException Bool)}
    {precheck : Option (Except RaisedException Bool)}
    (found : controller.registry.get strategyVersionId = .ok target)
    (blocked : ¬UnblockRaises runtime controller strategyVersionId at_ validate precheck)
    {raised : RaisedException} {stopped : DeploymentProgress ρ}
    (stop : attempted runtime controller target strategyVersionId at_ validate precheck =
      .error raised stopped) : Unmarked runtime controller target stopped := by
  unfold attempted attemptDeploy at stop
  have verified := applyAndVerify_ends runtime controller target
    (validate.getD fun _ => .ok true) (precheck.getD (.ok true))
  cases verify : (applyAndVerify runtime target (validate.getD fun _ => .ok true)
      (precheck.getD (.ok true))).run ⟨controller, [], false⟩ with
  | error failed at_stop =>
    simp only [EStateM.run_bind, verify, EStateM.Result.error.injEq] at stop
    obtain ⟨-, rfl⟩ := stop
    exact verified.of_error verify
  | ok _ ready =>
    have unmarked := verified.of_ok verify
    cases commit : (commitActive strategyVersionId at_).run ready with
    | error failed at_stop =>
      simp only [EStateM.run_bind, verify, commit, EStateM.Result.error.injEq] at stop
      obtain ⟨-, rfl⟩ := stop
      -- Marking raises before it changes anything.
      have unchanged : at_stop = ready := by
        simp only [commitActive, EStateM.run_bind, EStateM.run_get] at commit
        split at commit
        · exact (EStateM.Result.error.inj commit).2.symm
        · cases commit
      rw [unchanged]
      exact unmarked
    | ok _ marked =>
      -- Only unblocking the entries is left to raise.
      refine absurd ⟨target, marked, ?_⟩ blocked
      cases unblock : runtime.unblockEntries marked.runtime with
      | mk answer left =>
        cases answer with
        | error raised =>
          refine ⟨raised, left, found, ?_, rfl⟩
          simp only [EStateM.run_bind, verify, commit]
        | ok _ =>
          simp only [EStateM.run_bind, verify, commit, callRuntime, Attempt.run_call, unblock,
            append, EStateM.run_modify] at stop
          cases stop

/-- What a failed deployment promises: the registry is as it was, the version that was active is
named, and where the target may have taken effect that version is put back. -/
structure FailsClosed (controller : StrategyDeploymentController ρ)
    (strategyVersionId at_ : String)
    (validate : Option (StrategyVersion → Except RaisedException Bool))
    (precheck : Option (Except RaisedException Bool)) (target : StrategyVersion)
    (result : DeploymentResult) (after : StrategyDeploymentController ρ) : Prop where
  registry : after.registry = controller.registry
  named : result.activeVersionId =
    (controller.registry.active target.direction).map (·.strategyVersionId)
  stillActive : ∀ previous, controller.registry.active target.direction = some previous →
    previous ∈ after.registry.versions ∧ previous.status = .active ∧
      ∀ direction, target.direction = some direction → previous.direction = some direction
  untouched : .versionApplied ∉ result.steps →
    runtime.effective after.runtime = runtime.effective controller.runtime
  restored : .versionApplied ∈ result.steps → ∀ previous,
    controller.registry.active target.direction = some previous →
      restoreAnswer runtime controller strategyVersionId at_ validate precheck = some (.ok ()) →
        runtime.effective after.runtime = previous.specFingerprint
  unrestored : controller.registry.active target.direction = none →
    runtime.effective after.runtime = runtime.effective controller.runtime ∨
      runtime.effective after.runtime = target.specFingerprint

/-- The version that is looked up as active is active, in the direction asked for. -/
theorem active_spec {registry : StrategyVersionRegistry} {direction : Option Direction}
    {version : StrategyVersion} (found : registry.active direction = some version) :
    version ∈ registry.versions ∧ version.status = .active ∧
      ∀ asked, direction = some asked → version.direction = some asked := by
  unfold StrategyVersionRegistry.active at found
  cases direction with
  | none =>
    have member := List.mem_of_getLast? found
    simp only [List.mem_filter, decide_eq_true_eq] at member
    exact ⟨member.1, member.2, fun asked none => by cases none⟩
  | some asked =>
    have member := List.mem_of_getLast? found
    simp only [List.mem_filter, decide_eq_true_eq] at member
    exact ⟨member.1.1, member.1.2, fun other same => by rw [← same]; exact member.2⟩

/-- A deployment that fails before it unblocks the entries keeps the registry and puts the version
that was active back. -/
theorem deploy_failsClosed (controller : StrategyDeploymentController ρ)
    (strategyVersionId at_ : String)
    (validate : Option (StrategyVersion → Except RaisedException Bool))
    (precheck : Option (Except RaisedException Bool))
    (blocked : ¬UnblockRaises runtime controller strategyVersionId at_ validate precheck)
    {result : DeploymentResult}
    (reported : (deploy runtime controller strategyVersionId at_ validate precheck).1 = .ok result)
    (failed : result.result = .failedClosed) :
    ∃ target, controller.registry.get strategyVersionId = .ok target ∧
      FailsClosed runtime controller strategyVersionId at_ validate precheck target result
        (deploy runtime controller strategyVersionId at_ validate precheck).2 := by
  cases found : controller.registry.get strategyVersionId with
  | error raised =>
    simp only [deploy, found] at reported
    cases reported
  | ok target =>
    refine ⟨target, rfl, ?_⟩
    cases stop : attempted runtime controller target strategyVersionId at_ validate precheck with
    | ok _ done =>
      simp only [deploy, found, stop, Except.ok.injEq] at reported
      rw [← reported] at failed
      cases failed
    | error raised stopped =>
      obtain ⟨kept, reached⟩ := attempted_raises runtime found blocked stop
      simp only [deploy, found, stop, Except.ok.injEq] at reported ⊢
      subst reported
      have applied : .versionApplied ∈ stopped.steps ++ [DeployStep.failedClosed] ↔
          .versionApplied ∈ stopped.steps := by simp
      refine ⟨kept, rfl, fun previous active => ?_, fun unapplied => ?_,
        fun inSteps previous active answered => ?_, fun none => ?_⟩
      · rw [kept]
        exact active_spec active
      · -- Nothing was applied, so nothing is restored.
        rw [applied] at unapplied
        rcases reached with ⟨flag, -, same⟩ | ⟨-, inSteps, -⟩
        · unfold restorePrevious
          split
          · simpa only [flag, Bool.false_eq_true, if_false] using same
          · exact same
        · exact absurd inSteps unapplied
      · simp only [restoreAnswer, found, stop, active, restorePrevious] at answered
        simp only [active, restorePrevious]
        split at answered
        · rename_i flag
          rw [if_pos flag]
          exact runtime.applies _ _ _ _ (Prod.ext (Option.some.inj answered) rfl)
        · cases answered
      · simp only [none, restorePrevious]
        rcases reached with ⟨-, -, same⟩ | ⟨-, -, known⟩
        · exact .inl same
        · exact known

/-- Apply and rollback fail closed: unless it is unblocking the entries that raises, the registry
is as it was and the version that was active is named and put back. -/
theorem failed_apply_closes (controller : StrategyDeploymentController ρ)
    (strategyVersionId at_ : String)
    (validate : Option (StrategyVersion → Except RaisedException Bool))
    (precheck : Option (Except RaisedException Bool))
    (blocked : ¬UnblockRaises runtime controller strategyVersionId at_ validate precheck) :
    (∀ result, (requestApply runtime controller strategyVersionId at_ validate precheck).1 =
        .ok result → result.result = .failedClosed →
      ∃ target, controller.registry.get strategyVersionId = .ok target ∧
        FailsClosed runtime controller strategyVersionId at_ validate precheck target result
          (requestApply runtime controller strategyVersionId at_ validate precheck).2) ∧
    ∀ result, (requestRollback runtime controller strategyVersionId at_ validate precheck).1 =
        .ok result → result.result = .failedClosed →
      ∃ target, controller.registry.get strategyVersionId = .ok target ∧
        FailsClosed runtime controller strategyVersionId at_ validate precheck target result
          (requestRollback runtime controller strategyVersionId at_ validate precheck).2 :=
  ⟨fun _ => deploy_failsClosed runtime controller strategyVersionId at_ validate precheck blocked,
    fun _ => deploy_failsClosed runtime controller strategyVersionId at_ validate precheck blocked⟩

end StrategyDeploymentController

/-- A registry with an active version of either direction and one more long version. -/
def bothDirectionsActive : StrategyVersionRegistry :=
  (versionMachine fun _ => "").run .empty
    [.registerApplyReady "l1" "f" "l1" "fp-l1" [] [] "2026-09-01T00:00:00Z" (some .long),
      .registerApplyReady "s1" "f" "s1" "fp-s1" [] [] "2026-09-01T00:00:01Z" (some .short),
      .markActive "strategy-version:l1" "2026-09-01T00:01:00Z",
      .markActive "strategy-version:s1" "2026-09-01T00:01:01Z",
      .registerApplyReady "l2" "f" "l2" "fp-l2" [] [] "2026-09-02T00:00:00Z" (some .long)]

/-- The short version is in effect, and reading back the next version will show a drift. -/
def shortInEffect : StrategyDeploymentController FakeStrategyRuntime :=
  ⟨bothDirectionsActive, { effective := "fp-s1", failOn := some .verify }⟩

open StrategyDeploymentController in
/-- A long version fails its verification, and the long version that was active is put back. -/
theorem failed_long_apply_closes :
    ∃ target, shortInEffect.registry.get "strategy-version:l2" = .ok target ∧
      FailsClosed FakeStrategyRuntime.runtime shortInEffect "strategy-version:l2"
        "2026-09-02T00:01:00Z" none none target
        ⟨.failedClosed, some "strategy-version:l1",
          [.requested, .validated, .entryBlocked, .runtimePreconditionsOk, .versionApplied,
            .effectiveVersionVerified, .failedClosed],
          some "effective runtime fingerprint does not match the target version"⟩
        (requestApply FakeStrategyRuntime.runtime shortInEffect "strategy-version:l2"
          "2026-09-02T00:01:00Z" none none).2 := by
  refine (failed_apply_closes FakeStrategyRuntime.runtime shortInEffect "strategy-version:l2"
    "2026-09-02T00:01:00Z" none none ?_).1 _ (by decide) rfl
  -- The fake runtime never raises when it unblocks entries.
  rintro ⟨target, marked, raised, left, -, -, raises⟩
  cases raises

open StrategyDeploymentController in
/-- After the failed apply of a long version the short one is no longer in effect. -/
theorem failed_long_apply_displaces_short :
    ¬((requestApply FakeStrategyRuntime.runtime shortInEffect "strategy-version:l2"
        "2026-09-02T00:01:00Z" none none).1.map (·.result) = .ok .failedClosed →
      restoreAnswer FakeStrategyRuntime.runtime shortInEffect "strategy-version:l2"
        "2026-09-02T00:01:00Z" none none = some (.ok ()) →
      FakeStrategyRuntime.runtime.effective
        (requestApply FakeStrategyRuntime.runtime shortInEffect "strategy-version:l2"
          "2026-09-02T00:01:00Z" none none).2.runtime =
        FakeStrategyRuntime.runtime.effective shortInEffect.runtime) := by
  decide

end StrategyLab
