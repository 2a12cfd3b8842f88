import StrategyLab.Adapters.DeployOnce

/-! Which package is applied: an approved one, and whether its champion is still the active one. -/

namespace StrategyLab

open DeploymentState StrategyDeploymentService

variable {τ : Type} {config : ReleaseConfig τ}

/-- The calls of `apply_package` that one operation adds. -/
def appliedBy (config : ReleaseConfig τ) (state : ReleaseState τ) (op : ReleaseOp) :
    List (StrategyDeploymentPlan × StrategyHandoffPackage) :=
  ((releaseMachine config).next state op).deployments.applyCalls.drop
    state.deployments.applyCalls.length

/-- A package is approved with its checksum and repeats the active champion. -/
structure CurrentlyApproved (state : ReleaseState τ) (package : StrategyHandoffPackage) :
    Prop where
  status : package.status = .approvedForDeployment
  approval : ∃ given ∈ state.handoffs.latestApproval package.packageId,
    given.approved = true ∧ given.packageChecksum = package.checksum
  champion : ∃ entry ∈ state.champions.getActive defaultChampionSlot,
    entry.activeVersionId = package.manifest.championRegistryVersion ∧
      entry.fingerprint = package.manifest.championFingerprint

/-- Whatever a run of the services applies is currently approved when it is applied. -/
def DeploysCurrent (config : ReleaseConfig τ) (start : ReleaseState τ) (ops : List ReleaseOp) :
    Prop :=
  ∀ before op after, ops = before ++ op :: after →
    ∀ call ∈ appliedBy config ((releaseMachine config).run start before) op,
      CurrentlyApproved ((releaseMachine config).run start before) call.2

/-- A run call that gets to apply a package finds the champion version of the package active. -/
def RunsActiveVersion (config : ReleaseConfig τ) (state : ReleaseState τ) : ReleaseOp → Prop
  | .run planId time =>
    ∀ call ∈ applications config.adapter config.digest state.handoffs state.deployments planId time,
      ∃ entry ∈ state.champions.getActive defaultChampionSlot,
        entry.activeVersionId = call.2.manifest.championRegistryVersion
  | _ => True

instance (state : ReleaseState τ) : DecidablePred (RunsActiveVersion config state)
  | .run planId time =>
    inferInstanceAs (Decidable (∀ call ∈ applications config.adapter config.digest state.handoffs
      state.deployments planId time, ∃ entry ∈ state.champions.getActive defaultChampionSlot,
        entry.activeVersionId = call.2.manifest.championRegistryVersion))
  | .bootstrap .. | .requestPromotion .. | .approvePromotion .. | .rejectPromotion ..
  | .rollback .. | .createPackage .. | .approvePackage .. | .rejectPackage .. | .plan ..
  | .addEvaluation .. | .addRevalidation .. | .addBacktest .. => isTrue trivial

/-- A run call adds what it applies. -/
theorem appliedBy_run (state : ReleaseState τ) (planId time : String) :
    appliedBy config state (.run planId time) =
      applications config.adapter config.digest state.handoffs state.deployments planId time := by
  have calls := @run_applyCalls τ config.adapter config.digest state.handoffs state.deployments
    planId time
  simp only [appliedBy, Machine.next, releaseMachine, ReleaseState.step, calls,
    List.drop_left]

/-- Every other call applies nothing. -/
theorem appliedBy_of_not_run (state : ReleaseState τ) {op : ReleaseOp}
    (other : ∀ planId time, op ≠ .run planId time) : appliedBy config state op = [] := by
  rw [appliedBy, (next_of_not_run config state other).2, List.drop_length]

/-- What a run applies is approved with its checksum, as it was when the plan passed. -/
theorem applied_approved {state : ReleaseState τ} (sound : ReleaseSound config.digest state)
    {planId time : String} {call : StrategyDeploymentPlan × StrategyHandoffPackage}
    (applied : call ∈ applications config.adapter config.digest state.handoffs state.deployments
      planId time) :
    state.handoffs.packages.find? call.2.packageId = some call.2 ∧
      call.2.status = .approvedForDeployment ∧
      ∃ given ∈ state.handoffs.latestApproval call.2.packageId,
        given.approved = true ∧ given.packageChecksum = call.2.checksum := by
  obtain ⟨planned, read, passed⟩ := mem_applications applied
  obtain ⟨package, located, approved⟩ := (sound.planned planned).packaged
  -- The package that is read now is the one the plan was made for.
  obtain ⟨found, -⟩ := find?_of_getPackage read
  rw [located] at found
  obtain rfl := Option.some.inj found
  have own : call.2.packageId = call.1.packageId := Table.key_of_find? located
  rw [← own] at located
  obtain ⟨given, latest, outcome, printed⟩ :=
    latestApproval_of_approved sound.handoffs located (approved passed)
  exact ⟨located, approved passed, given, latest, outcome, printed⟩

/-- An active version with the id of the manifest also has its fingerprint. -/
theorem fingerprint_of_version {state : ReleaseState τ} {digest : HandoffDigest}
    (sound : ReleaseSound digest state) {packageId slot : String}
    {package : StrategyHandoffPackage} {entry : ChampionRegistryEntry}
    (found : state.handoffs.packages.find? packageId = some package)
    (active : state.champions.getActive slot = some entry)
    (same : entry.activeVersionId = package.manifest.championRegistryVersion) :
    entry.fingerprint = package.manifest.championFingerprint := by
  obtain ⟨version, located, printed⟩ := sound.printed found
  obtain ⟨current, activated, carried⟩ := sound.active slot entry active
  rw [same, located] at activated
  obtain rfl := Option.some.inj activated
  rw [← carried, printed]

/-- At each call, what is applied is currently approved exactly when its version is active. -/
theorem applied_current_iff {state : ReleaseState τ} (sound : ReleaseSound config.digest state)
    (op : ReleaseOp) :
    (∀ call ∈ appliedBy config state op, CurrentlyApproved state call.2) ↔
      RunsActiveVersion config state op := by
  by_cases ran : ∃ planId time, op = .run planId time
  · obtain ⟨planId, time, rfl⟩ := ran
    rw [appliedBy_run]
    constructor
    · intro current call applied
      obtain ⟨entry, active, version, -⟩ := (current call applied).champion
      exact ⟨entry, active, version⟩
    · intro unchanged call applied
      obtain ⟨found, status, approval⟩ := applied_approved sound applied
      obtain ⟨entry, active, version⟩ := unchanged call applied
      exact ⟨status, approval, entry, active, version,
        fingerprint_of_version sound found active version⟩
  · have other : ∀ planId time, op ≠ .run planId time :=
      fun planId time same => ran ⟨planId, time, same⟩
    rw [appliedBy_of_not_run state other]
    cases op with
    | run planId time => exact absurd rfl (other planId time)
    | _ => exact ⟨fun _ => trivial, fun _ _ applied => by cases applied⟩

/-- The packages applied in a run are approved packages of the active champion exactly when every
run call that gets to apply one still finds the champion version of its manifest active. -/
theorem deploys_current_iff (target : τ) (ops : List ReleaseOp) :
    DeploysCurrent config (.initial target) ops ↔
      (releaseMachine config).Guarded (RunsActiveVersion config) (.initial target) ops := by
  rw [Machine.guarded_iff_split]
  refine forall_congr' fun before => forall_congr' fun op => forall_congr' fun after =>
    imp_congr_right fun _ => ?_
  exact applied_current_iff (.run_initial target before) op

/-- Calls that evaluate a challenger, ask for its promotion and approve it. -/
def secondChampion : List ReleaseOp :=
  let time := "2026-07-17T00:30:00Z"
  [.addEvaluation ⟨"evaluation-2", .promotionCandidate, "backtest-1", "backtest-2",
      "validation-2", "fingerprint-1", "fingerprint-2"⟩,
    .requestPromotion "promotion-2" "evaluation-2" "operator" time "default",
    .approvePromotion "promotion-2" "operator" time "better"]

set_option maxRecDepth 4096 in
/-- A plan made before a new champion is activated still applies the package of the old one. -/
theorem replaced_champion_deployed :
    ¬DeploysCurrent fakeConfig (.initial {}) (firstDeployment ++ secondChampion ++ [runFirst]) := by
  intro current
  have stale : ∃ call ∈ appliedBy fakeConfig ((releaseMachine fakeConfig).run (.initial {})
        (firstDeployment ++ secondChampion)) runFirst,
      ¬∃ entry ∈ ((releaseMachine fakeConfig).run (.initial {})
          (firstDeployment ++ secondChampion)).champions.getActive defaultChampionSlot,
        entry.activeVersionId = call.2.manifest.championRegistryVersion ∧
          entry.fingerprint = call.2.manifest.championFingerprint := by
    decide
  obtain ⟨call, applied, replaced⟩ := stale
  exact replaced (current (firstDeployment ++ secondChampion) runFirst [] rfl call applied).champion

end StrategyLab
