import StrategyLab.Control.VersionLifecycle
import StrategyLab.Lib.Attempt

/-! Applying a version to the runtime: the bounded lifecycle and its fail-closed end. -/

namespace StrategyLab

/-- The steps of a deployment. -/
inductive DeployStep where
  | requested
  | validated
  | entryBlocked
  | runtimePreconditionsOk
  | versionApplied
  | effectiveVersionVerified
  | active
  | failedClosed
  deriving DecidableEq, Repr

/-- How a deployment ends. -/
inductive DeployOutcome where
  | active
  | failedClosed
  deriving DecidableEq, Repr

/-- An exception: its class, and its `reason` where it has one. -/
structure RaisedException where
  typeName : String
  reason : Option String := none
  deriving DecidableEq, Repr

/-- The exception for a step that did not pass. -/
def deployFailure (reason : String) : RaisedException :=
  ⟨"_DeployFailure", some reason⟩

/-- What a registry raises, seen as an exception. -/
def VersionError.exception : VersionError → RaisedException
  | .keyError _ => ⟨"KeyError", none⟩
  | .valueError _ => ⟨"ValueError", none⟩
  | .typeError _ => ⟨"TypeError", none⟩

/-- A runtime whose methods may raise at any call; only applying a version takes effect, and only
when it does not raise. -/
structure StrategyRuntime (ρ : Type) where
  /-- The fingerprint of the version that is in effect. -/
  effective : ρ → String
  effectiveFingerprint : ρ → Except RaisedException String × ρ
  applyVersion : (specRules : Json) → (specFingerprint : String) → ρ →
    Except RaisedException Unit × ρ
  blockEntries : ρ → Except RaisedException Unit × ρ
  unblockEntries : ρ → Except RaisedException Unit × ρ
  reads_only : ∀ runtime, effective (effectiveFingerprint runtime).2 = effective runtime
  applies : ∀ rules fingerprint runtime left,
    applyVersion rules fingerprint runtime = (.ok (), left) → effective left = fingerprint
  apply_raises : ∀ rules fingerprint runtime raised left,
    applyVersion rules fingerprint runtime = (.error raised, left) →
      effective left = effective runtime
  blocks_only : ∀ runtime, effective (blockEntries runtime).2 = effective runtime
  unblocks_only : ∀ runtime, effective (unblockEntries runtime).2 = effective runtime

/-- What a deployment reports. -/
structure DeploymentResult where
  result : DeployOutcome
  activeVersionId : Option String
  steps : List DeployStep
  lastError : Option String
  deriving DecidableEq, Repr

/-- A registry and the runtime that its versions are applied to. -/
structure StrategyDeploymentController (ρ : Type) where
  registry : StrategyVersionRegistry
  runtime : ρ

/-- A deployment under way. -/
structure DeploymentProgress (ρ : Type) extends StrategyDeploymentController ρ where
  steps : List DeployStep
  appliedToRuntime : Bool

namespace StrategyDeploymentController

variable {ρ : Type} (runtime : StrategyRuntime ρ)

/-- Note a step that is being taken. -/
def append (step : DeployStep) : EStateM RaisedException (DeploymentProgress ρ) Unit :=
  modify fun progress => { progress with steps := progress.steps ++ [step] }

/-- Call a method of the runtime. -/
def callRuntime {α : Type} (method : ρ → Except RaisedException α × ρ) :
    EStateM RaisedException (DeploymentProgress ρ) α :=
  Attempt.call (·.runtime) (fun left progress => { progress with runtime := left }) method

/-- Everything up to reading back the version that was applied. -/
def applyAndVerify (target : StrategyVersion)
    (validate : StrategyVersion → Except RaisedException Bool)
    (precheck : Except RaisedException Bool) :
    EStateM RaisedException (DeploymentProgress ρ) Unit := do
  append .requested
  if target.status = .retired then
    throw (deployFailure "target strategy version is RETIRED")
  append .validated
  let valid ← Attempt.answer (validate target)
  if valid = false then
    throw (deployFailure "strategy validation did not pass")
  append .entryBlocked
  callRuntime runtime.blockEntries
  append .runtimePreconditionsOk
  let met ← Attempt.answer precheck
  if met = false then
    throw (deployFailure "runtime preconditions not met")
  append .versionApplied
  modify fun progress => { progress with appliedToRuntime := true }
  callRuntime (runtime.applyVersion target.specRules target.specFingerprint)
  append .effectiveVersionVerified
  let effective ← callRuntime runtime.effectiveFingerprint
  if effective ≠ target.specFingerprint then
    throw (deployFailure "effective runtime fingerprint does not match the target version")

/-- Move the registry's active pointer. -/
def commitActive (strategyVersionId at_ : String) :
    EStateM RaisedException (DeploymentProgress ρ) Unit := do
  let progress ← get
  match progress.registry.markActive strategyVersionId at_ with
  | .error raised => throw raised.exception
  | .ok (registry, _) => set { progress with registry }

/-- The whole attempt, before any of its exceptions is handled. -/
def attemptDeploy (target : StrategyVersion) (strategyVersionId at_ : String)
    (validate : StrategyVersion → Except RaisedException Bool)
    (precheck : Except RaisedException Bool) :
    EStateM RaisedException (DeploymentProgress ρ) Unit := do
  applyAndVerify runtime target validate precheck
  commitActive strategyVersionId at_
  callRuntime runtime.unblockEntries
  append .active

/-- After a failure, apply the version that was active, if the target may have been applied; the
answer of that call is given back too. -/
def restorePrevious (previousActive : Option StrategyVersion) (stopped : DeploymentProgress ρ) :
    Option (Except RaisedException Unit) × ρ :=
  match previousActive with
  | some previous =>
    if stopped.appliedToRuntime then
      let (answer, left) :=
        runtime.applyVersion previous.specRules previous.specFingerprint stopped.runtime
      (some answer, left)
    else (none, stopped.runtime)
  | none => (none, stopped.runtime)

/-- An attempt that starts with what a controller has. -/
def attempted (controller : StrategyDeploymentController ρ) (target : StrategyVersion)
    (strategyVersionId at_ : String)
    (validate : Option (StrategyVersion → Except RaisedException Bool))
    (precheck : Option (Except RaisedException Bool)) :
    EStateM.Result RaisedException (DeploymentProgress ρ) Unit :=
  (attemptDeploy runtime target strategyVersionId at_ (validate.getD fun _ => .ok true)
    (precheck.getD (.ok true))).run ⟨controller, [], false⟩

/-- Deploy a version, leaving entries blocked at any failure. -/
def deploy (controller : StrategyDeploymentController ρ) (strategyVersionId at_ : String)
    (validate : Option (StrategyVersion → Except RaisedException Bool))
    (precheck : Option (Except RaisedException Bool)) :
    Except VersionError DeploymentResult × StrategyDeploymentController ρ :=
  match controller.registry.get strategyVersionId with
  | .error raised => (.error raised, controller)
  | .ok target =>
    -- An undirected version is looked up among the active versions of every direction.
    let previousActive := controller.registry.active target.direction
    match attempted runtime controller target strategyVersionId at_ validate precheck with
    | .ok _ done =>
      (.ok ⟨.active, some strategyVersionId, done.steps, none⟩,
        done.toStrategyDeploymentController)
    | .error raised stopped =>
      let left := (restorePrevious runtime previousActive stopped).2
      (.ok ⟨.failedClosed, previousActive.map (·.strategyVersionId),
          stopped.steps ++ [.failedClosed], some (raised.reason.getD raised.typeName)⟩,
        ⟨stopped.registry, left⟩)

/-- Apply a version. -/
def requestApply (controller : StrategyDeploymentController ρ) (strategyVersionId at_ : String)
    (validate : Option (StrategyVersion → Except RaisedException Bool))
    (precheck : Option (Except RaisedException Bool)) :
    Except VersionError DeploymentResult × StrategyDeploymentController ρ :=
  deploy runtime controller strategyVersionId at_ validate precheck

/-- Roll back to a version, which is applying it again. -/
def requestRollback (controller : StrategyDeploymentController ρ)
    (strategyVersionId at_ : String)
    (validate : Option (StrategyVersion → Except RaisedException Bool))
    (precheck : Option (Except RaisedException Bool)) :
    Except VersionError DeploymentResult × StrategyDeploymentController ρ :=
  deploy runtime controller strategyVersionId at_ validate precheck

end StrategyDeploymentController

/-- The calls of the fake runtime that can be made to fail. -/
inductive FakeRuntimeFailure where
  | apply
  | verify
  deriving DecidableEq, Repr

/-- The state of the fake runtime. -/
structure FakeStrategyRuntime where
  effective : String := "fp-none"
  entriesBlocked : Bool := false
  failOn : Option FakeRuntimeFailure := none
  pendingVerifyFail : Bool := false
  deriving DecidableEq, Repr

namespace FakeStrategyRuntime

/-- Read the fingerprint in effect, or once a drift of it. -/
def effectiveFingerprint (fake : FakeStrategyRuntime) :
    Except RaisedException String × FakeStrategyRuntime :=
  if fake.pendingVerifyFail then
    (.ok s!"{fake.effective}::drift", { fake with pendingVerifyFail := false })
  else (.ok fake.effective, fake)

/-- Put a version into effect. -/
def applyVersion (_specRules : Json) (specFingerprint : String) (fake : FakeStrategyRuntime) :
    Except RaisedException Unit × FakeStrategyRuntime :=
  if fake.failOn = some .apply then (.error ⟨"RuntimeError", none⟩, fake)
  else
    (.ok (), { fake with
      effective := specFingerprint
      pendingVerifyFail := fake.failOn = some .verify })

/-- The fake runtime as a runtime. -/
def runtime : StrategyRuntime FakeStrategyRuntime where
  effective := FakeStrategyRuntime.effective
  effectiveFingerprint := effectiveFingerprint
  applyVersion := applyVersion
  blockEntries fake := (.ok (), { fake with entriesBlocked := true })
  unblockEntries fake := (.ok (), { fake with entriesBlocked := false })
  reads_only fake := by
    unfold effectiveFingerprint
    split <;> rfl
  applies rules fingerprint fake left applied := by
    unfold applyVersion at applied
    split at applied
    · cases applied
    · obtain rfl := (Prod.mk.inj applied).2
      rfl
  apply_raises rules fingerprint fake raised left applied := by
    unfold applyVersion at applied
    split at applied
    · obtain rfl := (Prod.mk.inj applied).2
      rfl
    · cases applied
  blocks_only _ := rfl
  unblocks_only _ := rfl

end FakeStrategyRuntime

end StrategyLab
