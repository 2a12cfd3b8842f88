import StrategyLab.Adapters.StrategyDeployment

/-! The fake deployment target: it holds its active strategy in memory and fails on demand. -/

namespace StrategyLab

/-- Which steps of a fake target are to fail. -/
structure FakeFailures where
  failHealth : Bool := false
  failValidate : Bool := false
  failBackup : Bool := false
  failDryRun : Bool := false
  failApply : Bool := false
  failRestart : Bool := false
  failVerify : Bool := false
  failRollback : Bool := false

/-- What the fake target remembers of what was done to it. -/
structure FakeStrategyDeploymentTarget where
  active : ActiveStrategy := ⟨"previous", "v0", ""⟩
  backups : List StrategyDeploymentBackup := []
  applied : Bool := false
  dryRunCalled : Bool := false

namespace FakeStrategyDeploymentTarget

variable (failures : FakeFailures)

/-- Whether the target is reported healthy. -/
def healthCheck : Bool × String :=
  if failures.failHealth then (false, "fake target unhealthy") else (true, "fake target healthy")

/-- Whether the package carries what its contract asks for. -/
def validatePackage (package : StrategyHandoffPackage) : Bool × List String :=
  if failures.failValidate then (false, ["target compatibility rejected"])
  else if package.compatibility.supportedPackageSchemaVersion ≠ package.manifest.schemaVersion then
    (false, ["schema version mismatch"])
  else
    let missing := package.compatibility.requiredParameterKeys.filter fun key =>
      key ∉ package.parameters.map Prod.fst
    (missing.isEmpty, missing.map fun key => s!"missing parameter {key}")

/-- Note down the active strategy as the backup. -/
def createBackup (target : FakeStrategyDeploymentTarget) (package : StrategyHandoffPackage)
    (backupId createdAt : String) :
    Except String StrategyDeploymentBackup × FakeStrategyDeploymentTarget :=
  if failures.failBackup then (.error "RuntimeError", target)
  else
    let backup : StrategyDeploymentBackup :=
      { backupId, packageId := package.packageId, previousStrategyRef := target.active.strategyRef,
        previousStrategyVersion := target.active.strategyVersion,
        restoreRef := s!"fake-backup:{backupId}", createdAt }
    (.ok backup, { target with backups := target.backups ++ [backup] })

/-- Note that a dry run was made. -/
def dryRunApply (target : FakeStrategyDeploymentTarget) :
    (Bool × List String) × FakeStrategyDeploymentTarget :=
  (if failures.failDryRun then (false, ["fake dry-run failure"]) else (true, []),
    { target with dryRunCalled := true })

/-- Make the package the active strategy. -/
def applyPackage (target : FakeStrategyDeploymentTarget) (package : StrategyHandoffPackage) :
    (Bool × String) × FakeStrategyDeploymentTarget :=
  if failures.failApply then ((false, "fake apply failure"), target)
  else
    ((true, "fake apply ok"), { target with
      applied := true
      active := ⟨package.manifest.strategyRef, package.manifest.strategyVersion,
        package.checksum⟩ })

/-- Whether the restart is reported to work. -/
def restartOrReload : Bool × String :=
  if failures.failRestart then (false, "fake restart failure") else (true, "fake restart ok")

/-- Whether the active strategy is the package. -/
def verifyActiveStrategy (target : FakeStrategyDeploymentTarget)
    (package : StrategyHandoffPackage) : Bool × String :=
  if failures.failVerify then (false, "fake verify failure")
  else if target.active.checksum = package.checksum then (true, "fake verify ok")
  else (false, "checksum mismatch")

/-- Make the strategy of the backup active again; its checksum is not in the backup. -/
def rollback (target : FakeStrategyDeploymentTarget) (backup : StrategyDeploymentBackup) :
    (Bool × String) × FakeStrategyDeploymentTarget :=
  if failures.failRollback then ((false, "fake rollback failure"), target)
  else
    ((true, "fake rollback ok"), { target with
      applied := false
      active := ⟨backup.previousStrategyRef, backup.previousStrategyVersion, ""⟩ })

end FakeStrategyDeploymentTarget

open FakeStrategyDeploymentTarget in
/-- The adapter in front of a fake target; only a backup can raise. -/
def fakeStrategyDeploymentAdapter (failures : FakeFailures) :
    StrategyDeploymentAdapter FakeStrategyDeploymentTarget where
  healthCheck target := (.ok (healthCheck failures), target)
  getActiveStrategy target := (.ok target.active, target)
  validatePackage package target := (.ok (validatePackage failures package), target)
  createBackup package backupId createdAt target :=
    target.createBackup failures package backupId createdAt
  dryRunApply _ target := (.ok (target.dryRunApply failures).1, (target.dryRunApply failures).2)
  applyPackage package target :=
    (.ok (target.applyPackage failures package).1, (target.applyPackage failures package).2)
  restartOrReload target := (.ok (restartOrReload failures), target)
  verifyActiveStrategy package target :=
    (.ok (target.verifyActiveStrategy failures package), target)
  rollback backup target :=
    (.ok (target.rollback failures backup).1, (target.rollback failures backup).2)

end StrategyLab
