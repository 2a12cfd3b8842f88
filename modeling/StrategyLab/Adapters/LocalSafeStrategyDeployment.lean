import StrategyLab.Adapters.StrategyDeployment
import StrategyLab.Lib.Json

/-! The deployment target in a local directory: its files, and the calls the system may refuse. -/

namespace StrategyLab

/-- The text a handoff status is stored as. -/
def StrategyHandoffStatus.value : StrategyHandoffStatus → String
  | .created => "created"
  | .pendingApproval => "pending_approval"
  | .approvedForDeployment => "approved_for_deployment"
  | .rejected => "rejected"
  | .superseded => "superseded"

/-- A primitive value as JSON. -/
def PrimitiveValue.toJson : PrimitiveValue → Json
  | .str value => .str value
  | .int value => .int value
  | .float value => .float value
  | .bool value => .bool value

/-- A compatibility contract as JSON. -/
def StrategyCompatibilityContract.asDict (contract : StrategyCompatibilityContract) : Json :=
  .obj [("required_strategy_id", .str contract.requiredStrategyId),
    ("required_parameter_keys", .list (contract.requiredParameterKeys.map .str)),
    ("parameter_types", .obj ((contract.parameterTypes.insertionSort fun left right =>
      left.1 ≤ right.1).map fun type => (type.1, .str type.2))),
    ("supported_package_schema_version", .int contract.supportedPackageSchemaVersion),
    ("target_runtime_compatibility_version", .str contract.targetRuntimeCompatibilityVersion)]

/-- A manifest as JSON. -/
def StrategyHandoffManifest.asDict (manifest : StrategyHandoffManifest) : Json :=
  .obj [("package_id", .str manifest.packageId),
    ("schema_version", .int manifest.schemaVersion),
    ("strategy_ref", .str manifest.strategyRef),
    ("strategy_version", .str manifest.strategyVersion),
    ("champion_registry_version", .str manifest.championRegistryVersion),
    ("champion_fingerprint", .str manifest.championFingerprint),
    ("source_backtest_id", .str manifest.sourceBacktestId),
    ("source_backtest_fingerprint", .str manifest.sourceBacktestFingerprint),
    ("validation_id", .str manifest.validationId),
    ("champion_evaluation_id", .str manifest.championEvaluationId),
    ("paper_session_id", .str manifest.paperSessionId),
    ("paper_revalidation_id", .str manifest.paperRevalidationId),
    ("policy_versions", .list (manifest.policyVersions.map .str)),
    ("generated_at", .str manifest.generatedAt),
    ("checksum", .str manifest.checksum)]

/-- A package as it is written to a file. -/
def StrategyHandoffPackage.payload (package : StrategyHandoffPackage) : Json :=
  let optional : Option String → Json := fun text => text.elim .null .str
  .obj [("kind", .str "strategy_handoff_package"),
    ("schema_version", .int strategyHandoffSchemaVersion),
    ("package_id", .str package.packageId),
    ("manifest", package.manifest.asDict),
    ("parameters", .obj ((package.parameters.insertionSort fun left right =>
      left.1 ≤ right.1).map fun parameter => (parameter.1, parameter.2.toJson))),
    ("compatibility", package.compatibility.asDict),
    ("created_by", .str package.createdBy),
    ("approval_required", .bool package.approvalRequired),
    ("status", .str package.status.value),
    ("approved_by", optional package.approvedBy),
    ("approved_at", optional package.approvedAt),
    ("rejected_by", optional package.rejectedBy),
    ("rejected_at", optional package.rejectedAt)]

/-- What a file holds: JSON, or something that raises when it is read as such. -/
inductive LocalFile where
  | json (payload : Json)
  | unreadable (className : String)

/-- What the system refuses during a deployment. -/
structure LocalFaults where
  /-- Writing the backup raises, leaving the backup file like this. -/
  backup : Option (Option LocalFile) := none
  /-- Writing the package raises, leaving the active file like this. -/
  apply : Option (Option LocalFile) := none
  /-- The target directory is not there when its health is checked. -/
  unhealthy : Bool := false
  /-- Reading the active file back for the verification raises. -/
  verify : Option String := none

/-- The files of the target, by their paths. -/
structure LocalSafeTarget where
  files : String → Option LocalFile
  /-- How the next restorations raise, and what they leave in the active file. -/
  rollbackFaults : List (Option LocalFile) := []

namespace LocalSafeTarget

/-- Write a file, or take it away. -/
def put (target : LocalSafeTarget) (path : String) (file : Option LocalFile) : LocalSafeTarget :=
  { target with files := Function.update target.files path file }

/-- Where the active package is kept. -/
def activeFile (targetDir : String) : String := targetDir ++ "/active-strategy-package.json"

/-- Where a backup is kept. -/
def backupFile (targetDir backupId : String) : String := targetDir ++ "/" ++ (backupId ++ ".json")

section

variable (str : Json → String)

/-- The active strategy that a file stands for; without a file there is none. -/
def readActive : Option LocalFile → Except String ActiveStrategy
  | none => .ok ⟨"none", "none", ""⟩
  | some (.unreadable className) => .error className
  | some (.json payload) =>
    let manifest := (payload.get? "manifest").getD (.obj [])
    if payload.isObject && manifest.isObject then
      let field := fun key default => Json.textOf str ((manifest.get? key).getD (.str default))
      .ok ⟨field "strategy_ref" "unknown", field "strategy_version" "unknown",
        field "checksum" ""⟩
    else .error "AttributeError"

/-- The active strategy of the target. -/
def getActiveStrategy (targetDir : String) (target : LocalSafeTarget) :
    Except String ActiveStrategy :=
  readActive str (target.files (activeFile targetDir))

variable (targetDir : String) (faults : LocalFaults)

/-- Copy the active file to the backup file, or write an empty object where there is none. -/
def createBackup (target : LocalSafeTarget) (package : StrategyHandoffPackage)
    (backupId createdAt : String) : Except String StrategyDeploymentBackup × LocalSafeTarget :=
  let path := backupFile targetDir backupId
  match faults.backup with
  | some left => (.error "OSError", target.put path left)
  | none =>
    let saved := (target.files (activeFile targetDir)).getD (.json (.obj []))
    let target := target.put path (some saved)
    match target.getActiveStrategy str targetDir with
    | .error raised => (.error raised, target)
    | .ok active =>
      (.ok
        { backupId, packageId := package.packageId, previousStrategyRef := active.strategyRef,
          previousStrategyVersion := active.strategyVersion, restoreRef := path, createdAt },
        target)

/-- Write the package to the active file. -/
def applyPackage (target : LocalSafeTarget) (package : StrategyHandoffPackage) :
    Except String (Bool × String) × LocalSafeTarget :=
  match faults.apply with
  | some left => (.error "OSError", target.put (activeFile targetDir) left)
  | none =>
    (.ok (true, "local safe package applied"),
      target.put (activeFile targetDir) (some (.json package.payload)))

/-- Whether the active file names the package by its checksum. -/
def verifyActiveStrategy (target : LocalSafeTarget) (package : StrategyHandoffPackage) :
    Except String (Bool × String) :=
  match faults.verify with
  | some raised => .error raised
  | none =>
    (target.getActiveStrategy str targetDir).map fun active =>
      (active.checksum = package.checksum, "local safe active checksum verified")

/-- Copy the backup file over the active one. -/
def rollback (target : LocalSafeTarget) (backup : StrategyDeploymentBackup) :
    Except String (Bool × String) × LocalSafeTarget :=
  match target.files backup.restoreRef with
  | none => (.ok (false, "backup file missing"), target)
  | some saved =>
    match target.rollbackFaults with
    | left :: later =>
      (.error "OSError", { target with rollbackFaults := later }.put (activeFile targetDir) left)
    | [] =>
      (.ok (true, "local safe rollback restored backup"),
        target.put (activeFile targetDir) (some saved))

end

end LocalSafeTarget

open LocalSafeTarget in
/-- The adapter in front of a local directory. -/
def localSafeStrategyDeploymentAdapter (str : Json → String) (targetDir : String)
    (faults : LocalFaults) : StrategyDeploymentAdapter LocalSafeTarget where
  healthCheck target := (.ok (!faults.unhealthy, "local safe target directory ready"), target)
  getActiveStrategy target := (target.getActiveStrategy str targetDir, target)
  validatePackage package target :=
    (.ok (package.status = .approvedForDeployment,
      if package.status = .approvedForDeployment then [] else ["package not approved"]), target)
  createBackup package backupId createdAt target :=
    target.createBackup str targetDir faults package backupId createdAt
  dryRunApply _ target := (.ok (true, []), target)
  applyPackage package target := target.applyPackage targetDir faults package
  restartOrReload target := (.ok (true, "local safe runtime has no restart command"), target)
  verifyActiveStrategy package target :=
    (target.verifyActiveStrategy str targetDir faults package, target)
  rollback backup target := target.rollback targetDir backup

namespace LocalSafeTarget

/-- What is written to a file is read from it, and from no other one. -/
@[simp] theorem put_files (target : LocalSafeTarget) (path other : String)
    (file : Option LocalFile) :
    (target.put path file).files other = if other = path then file else target.files other := by
  simp only [put, Function.update_apply]

/-- No backup is kept in the active file. -/
theorem backupFile_ne (targetDir planId : String) :
    activeFile targetDir ≠ backupFile targetDir s!"deployment-backup:{planId}" := by
  intro same
  have texts := congrArg String.toList same
  simp [activeFile, backupFile, toString] at texts

/-- An applied package is read back as the active strategy. -/
theorem readActive_payload (str : Json → String) (package : StrategyHandoffPackage) :
    readActive str (some (.json package.payload)) =
      .ok ⟨package.manifest.strategyRef, package.manifest.strategyVersion, package.checksum⟩ := by
  simp [readActive, StrategyHandoffPackage.payload, StrategyHandoffManifest.asDict, Json.textOf,
    Json.isObject, StrategyHandoffPackage.checksum]

end LocalSafeTarget

end StrategyLab
