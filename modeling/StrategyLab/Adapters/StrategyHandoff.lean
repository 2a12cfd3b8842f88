import StrategyLab.Adapters.ChampionRegistry
import Mathlib.Data.Rat.Defs

/-! Handoff packages of an approved champion: how they are built, stored and decided on. -/

namespace StrategyLab

/-- The schema version of a handoff package. -/
def strategyHandoffSchemaVersion : Int := 1

/-- The policy a handoff package is built under. -/
def strategyHandoffPolicyVersion : String := "strategy_handoff_policy_v1"

/-- Where a handoff package stands. -/
inductive StrategyHandoffStatus where
  | created
  | pendingApproval
  | approvedForDeployment
  | rejected
  | superseded
  deriving DecidableEq, Repr

/-- The outcome of a paper revalidation. -/
inductive PaperRevalidationStatus where
  | liveEligible
  | hold
  | kill
  | rollbackRecommended
  | review
  deriving DecidableEq, Repr

/-- The text a revalidation status is stored as. -/
def PaperRevalidationStatus.value : PaperRevalidationStatus → String
  | .liveEligible => "live_eligible"
  | .hold => "hold"
  | .kill => "kill"
  | .rollbackRecommended => "rollback_recommended"
  | .review => "review"

/-- The fields of a revalidation report that a handoff reads. -/
structure PaperRevalidationReport where
  revalidationId : String
  status : PaperRevalidationStatus
  policyVersion : String
  sessionId : String
  championVersionId : String
  fingerprint : String
  deriving DecidableEq, Repr

/-- A primitive JSON value of a strategy parameter. -/
inductive PrimitiveValue where
  | str (value : String)
  | int (value : Int)
  | float (value : Rat)
  | bool (value : Bool)
  deriving DecidableEq

/-- The name of the type of a primitive value. -/
def PrimitiveValue.typeName : PrimitiveValue → String
  | .str _ => "str"
  | .int _ => "int"
  | .float _ => "float"
  | .bool _ => "bool"

/-- The strategy a backtest was run for. -/
structure BacktestStrategyRef where
  strategyId : String
  version : String
  deriving DecidableEq, Repr

/-- The fields of a backtest result that a handoff reads. -/
structure BacktestResult where
  resultId : String
  fingerprint : String
  strategy : BacktestStrategyRef
  parameters : List (String × PrimitiveValue)
  deriving DecidableEq

/-- What a target has to support to run a package. -/
structure StrategyCompatibilityContract where
  requiredStrategyId : String
  requiredParameterKeys : List String
  parameterTypes : List (String × String)
  supportedPackageSchemaVersion : Int := strategyHandoffSchemaVersion
  targetRuntimeCompatibilityVersion : String := "generic-strategy-runtime-v1"
  deriving DecidableEq, Repr

/-- Where a package comes from, and the checksum over it. -/
structure StrategyHandoffManifest where
  packageId : String
  schemaVersion : Int
  strategyRef : String
  strategyVersion : String
  championRegistryVersion : String
  championFingerprint : String
  sourceBacktestId : String
  sourceBacktestFingerprint : String
  validationId : String
  championEvaluationId : String
  paperSessionId : String
  paperRevalidationId : String
  policyVersions : List String
  generatedAt : String
  checksum : String
  deriving DecidableEq, Repr

/-- A request for a handoff package of the active champion. -/
structure StrategyHandoffRequest where
  requestId : String
  championSlot : String
  revalidationId : String
  actorRef : String
  requestedAt : String
  deriving DecidableEq, Repr

/-- One decision on a package, with the checksum it was made for. -/
structure StrategyDeploymentApproval where
  approvalId : String
  packageId : String
  packageChecksum : String
  approverRef : String
  approved : Bool
  decidedAt : String
  reason : String
  deriving DecidableEq, Repr

/-- A portable description of an approved champion. -/
structure StrategyHandoffPackage where
  packageId : String
  status : StrategyHandoffStatus
  manifest : StrategyHandoffManifest
  parameters : List (String × PrimitiveValue)
  compatibility : StrategyCompatibilityContract
  createdBy : String
  approvalRequired : Bool := true
  approvedBy : Option String := none
  approvedAt : Option String := none
  rejectedBy : Option String := none
  rejectedAt : Option String := none
  deriving DecidableEq

/-- The part of a package that its checksum covers. -/
structure HandoffPayload where
  packageId : String
  manifest : StrategyHandoffManifest
  parameters : List (String × PrimitiveValue)
  compatibility : StrategyCompatibilityContract
  createdBy : String
  approvalRequired : Bool
  deriving DecidableEq

/-- The digests of a handoff: SHA-256 over the JSON text of a payload, and a short one of a text. -/
structure HandoffDigest where
  checksum : HandoffPayload → String
  shortHash : String → String

/-- Require a reference that handoffs and deployments accept. -/
def validateSafeRef (value label : String) : Except ServiceError Unit :=
  require (safeRef value) s!"{label} must be a safe reference"

/-- Require a parameter key. -/
def validateKey (value : String) : Except ServiceError Unit :=
  require (safeKey value) "parameter keys must be safe identifiers"

/-- The checks a compatibility contract is constructed with. -/
def StrategyCompatibilityContract.validate (contract : StrategyCompatibilityContract) :
    Except ServiceError Unit := do
  validateSafeRef contract.requiredStrategyId "required_strategy_id"
  contract.requiredParameterKeys.forM validateKey
  require (contract.requiredParameterKeys.insertionSort (· ≤ ·) = contract.requiredParameterKeys)
    "required parameter keys must be sorted"
  let typed := contract.parameterTypes.map Prod.fst
  require (contract.requiredParameterKeys ⊆ typed && typed ⊆ contract.requiredParameterKeys)
    "parameter type map must match required keys"

/-- The checks a manifest is constructed with. -/
def StrategyHandoffManifest.validate (manifest : StrategyHandoffManifest) :
    Except ServiceError Unit := do
  validateSafeRef manifest.packageId "package_id"
  validateSafeRef manifest.strategyRef "strategy_ref"
  validateSafeRef manifest.championFingerprint "champion_fingerprint"
  validateUtc manifest.generatedAt
  require (manifest.schemaVersion = strategyHandoffSchemaVersion)
    "unsupported handoff package schema version"

/-- Replace every colon of an id by a hyphen. -/
def replaceColons (id : String) : String :=
  String.ofList (id.toList.map fun c => if c = ':' then '-' else c)

/-- The checks a handoff request is constructed with. -/
def StrategyHandoffRequest.validate (request : StrategyHandoffRequest) :
    Except ServiceError Unit := do
  validateSafeRef (replaceColons request.requestId) "request_id"
  validateSafeRef request.championSlot "champion_slot"
  validateUtc request.requestedAt

/-- The checks an approval is constructed with. -/
def StrategyDeploymentApproval.validate (approval : StrategyDeploymentApproval) :
    Except ServiceError Unit := do
  validateSafeRef (replaceColons approval.approvalId) "approval_id"
  validateSafeRef approval.packageId "package_id"
  validateUtc approval.decidedAt
  require (approval.approverRef ≠ "") "approval requires approver_ref"

namespace StrategyHandoffPackage

/-- The checksum recorded in the manifest. -/
def checksum (package : StrategyHandoffPackage) : String := package.manifest.checksum

/-- What the checksum is taken over: the package without its checksum and its decision. -/
def payloadWithoutChecksum (package : StrategyHandoffPackage) : HandoffPayload :=
  { packageId := package.packageId, manifest := { package.manifest with checksum := "" },
    parameters := package.parameters.insertionSort (fun left right => left.1 ≤ right.1),
    compatibility := package.compatibility, createdBy := package.createdBy,
    approvalRequired := package.approvalRequired }

/-- The checks a package is constructed with. -/
def validate (package : StrategyHandoffPackage) : Except ServiceError Unit := do
  require (package.packageId = package.manifest.packageId) "package id must match manifest"
  require (package.status ≠ .approvedForDeployment ||
      (package.approvedBy.getD "" ≠ "" && package.approvedAt.getD "" ≠ ""))
    "approved handoff package requires approval metadata"
  package.approvedAt.forM validateUtc
  package.rejectedAt.forM validateUtc

/-- A package with a new status; an approved one keeps its status. -/
def withStatus (package : StrategyHandoffPackage) (status : StrategyHandoffStatus)
    (actorRef at_ : String) : Except ServiceError StrategyHandoffPackage := do
  require (package.status ≠ .approvedForDeployment || status = package.status)
    "approved handoff packages are immutable"
  let changed := match status with
    | .approvedForDeployment =>
      { package with status, approvedBy := some actorRef, approvedAt := some at_ }
    | .rejected => { package with status, rejectedBy := some actorRef, rejectedAt := some at_ }
    | _ => { package with status }
  changed.validate
  return changed

end StrategyHandoffPackage

/-- The packages and the decisions on them. -/
structure StrategyHandoffRepository where
  packages : Table StrategyHandoffPackage.packageId
  approvals : Table StrategyDeploymentApproval.approvalId

/-- One committed write of the handoff repository. -/
inductive HandoffWrite where
  | addPackage (package : StrategyHandoffPackage)
  | updatePackage (package : StrategyHandoffPackage)
  | addApproval (approval : StrategyDeploymentApproval)
  deriving DecidableEq

namespace StrategyHandoffRepository

variable (digest : HandoffDigest)

/-- A repository without packages. -/
def empty : StrategyHandoffRepository := ⟨Table.empty, Table.empty⟩

/-- Read a package back, checking its checksum. -/
def getPackageOrNone (repository : StrategyHandoffRepository) (packageId : String) :
    Except ServiceError (Option StrategyHandoffPackage) :=
  match repository.packages.find? packageId with
  | none => .ok none
  | some package =>
    if digest.checksum package.payloadWithoutChecksum ≠ package.checksum then
      .error (.valueError "handoff package checksum mismatch")
    else .ok (some package)

/-- Read a package that has to exist. -/
def getPackage (repository : StrategyHandoffRepository) (packageId : String) :
    Except ServiceError StrategyHandoffPackage := do
  match ← getPackageOrNone digest repository packageId with
  | none => .error (.keyError packageId)
  | some package => return package

/-- The order the decisions on a package are read in, latest first. -/
def DecidedAfter (left right : StrategyDeploymentApproval) : Prop :=
  right.decidedAt < left.decidedAt ∨
    left.decidedAt = right.decidedAt ∧ right.approvalId ≤ left.approvalId

instance : DecidableRel DecidedAfter := fun _ _ => inferInstanceAs (Decidable (_ ∨ _))

/-- The latest decision on a package. -/
def latestApproval (repository : StrategyHandoffRepository) (packageId : String) :
    Option StrategyDeploymentApproval :=
  ((repository.approvals.rows.filter (·.packageId = packageId)).insertionSort DecidedAfter).head?

/-- Commit one write, or refuse it. -/
def write (repository : StrategyHandoffRepository) :
    HandoffWrite → Except ServiceError StrategyHandoffRepository
  | .addPackage package => do
    match ← getPackageOrNone digest repository package.packageId with
    | some existing =>
      if existing.status = .approvedForDeployment ∧ existing ≠ package then
        .error (.valueError "approved handoff package is immutable")
      else
        .error (.integrityError s!"handoff package already exists: {package.packageId}")
    | none =>
      match repository.packages.insert? package with
      | some grown => return { repository with packages := grown }
      | none => .error (.integrityError "UNIQUE constraint failed")
  | .updatePackage package => do
    let existing ← getPackage digest repository package.packageId
    if existing.status = .approvedForDeployment ∧ existing ≠ package then
      .error (.valueError "approved handoff package is immutable")
    else
      return { repository with
        packages := repository.packages.update (·.packageId = package.packageId)
          (fun row => { package with packageId := row.packageId }) (fun _ => rfl) }
  | .addApproval approval =>
    match repository.approvals.insert? approval with
    | some grown => .ok { repository with approvals := grown }
    | none => .error (.integrityError "UNIQUE constraint failed")

end StrategyHandoffRepository

/-- A call of the handoff service. -/
abbrev HandoffCall := Commits HandoffWrite ServiceError

namespace StrategyHandoffService

open StrategyHandoffRepository

variable (digest : HandoffDigest)

/-- Build the package of an active champion from its revalidation and its backtest. -/
def buildHandoffPackage (request : StrategyHandoffRequest) (active : ChampionRegistryEntry)
    (report : PaperRevalidationReport) (backtest : BacktestResult) :
    Except ServiceError StrategyHandoffPackage := do
  backtest.parameters.forM fun parameter => validateKey parameter.1
  let sorted := backtest.parameters.insertionSort (fun left right => left.1 ≤ right.1)
  let contract : StrategyCompatibilityContract :=
    { requiredStrategyId := backtest.strategy.strategyId,
      requiredParameterKeys := sorted.map Prod.fst,
      parameterTypes := sorted.map fun parameter => (parameter.1, parameter.2.typeName) }
  contract.validate
  let identity := active.activeVersionId ++ ":" ++ request.revalidationId
  let packageId := s!"handoff-{digest.shortHash identity}"
  let manifest : StrategyHandoffManifest :=
    { packageId, schemaVersion := strategyHandoffSchemaVersion,
      strategyRef := active.strategyRef, strategyVersion := backtest.strategy.version,
      championRegistryVersion := active.activeVersionId,
      championFingerprint := active.fingerprint, sourceBacktestId := active.sourceBacktestId,
      sourceBacktestFingerprint := backtest.fingerprint,
      validationId := active.sourceValidationId,
      championEvaluationId := active.sourceEvaluationId, paperSessionId := report.sessionId,
      paperRevalidationId := report.revalidationId,
      policyVersions := [strategyHandoffPolicyVersion, report.policyVersion],
      generatedAt := request.requestedAt, checksum := "" }
  manifest.validate
  let package : StrategyHandoffPackage :=
    { packageId, status := .pendingApproval, manifest, parameters := backtest.parameters,
      compatibility := contract, createdBy := request.actorRef }
  package.validate
  let checksum := digest.checksum package.payloadWithoutChecksum
  return { package with manifest := { manifest with checksum } }

/-- The reports of the paper revalidations. -/
abbrev RevalidationReports := Table PaperRevalidationReport.revalidationId

/-- The results of the backtests. -/
abbrev BacktestResults := Table BacktestResult.resultId

/-- Create the package of the active champion of a slot. -/
def create (champions : ChampionRegistryRepository) (revalidations : RevalidationReports)
    (backtests : BacktestResults) (request : StrategyHandoffRequest) :
    HandoffCall StrategyHandoffPackage :=
  match champions.getActive request.championSlot with
  | none => .raise (.valueError "active Champion is required for handoff")
  | some active =>
    match revalidations.find? request.revalidationId with
    | none => .raise (.keyError request.revalidationId)
    | some report =>
      if report.status ≠ .liveEligible then
        .raise (.valueError s!"{report.status.value} revalidation is not deployable by default")
      else if report.championVersionId ≠ active.activeVersionId ∨
          report.fingerprint ≠ active.fingerprint then
        .raise (.valueError "paper revalidation does not match active Champion fingerprint")
      else match backtests.find? active.sourceBacktestId with
        | none => .raise (.keyError active.sourceBacktestId)
        | some backtest =>
          if backtest.fingerprint ≠ active.fingerprint then
            .raise (.valueError "Champion fingerprint does not match source backtest")
          else do
            let package ← .read (buildHandoffPackage digest request active report backtest)
            .write (.addPackage package)
            return package

/-- Approve a package that has not been rejected. -/
def approve (repository : StrategyHandoffRepository)
    (packageId approverRef decidedAt reason : String) : HandoffCall StrategyHandoffPackage := do
  let package ← .read (getPackage digest repository packageId)
  if package.status = .rejected then
    .raise (.valueError "rejected handoff package cannot be approved")
  else
    let approval : StrategyDeploymentApproval :=
      { approvalId := s!"handoff-approval:{packageId}", packageId,
        packageChecksum := package.checksum, approverRef, approved := true, decidedAt, reason }
    .read approval.validate
    .write (.addApproval approval)
    let approved ← .read (package.withStatus .approvedForDeployment approverRef decidedAt)
    .write (.updatePackage approved)
    return approved

/-- Reject a package that has not been approved. -/
def reject (repository : StrategyHandoffRepository)
    (packageId actorRef decidedAt reason : String) : HandoffCall StrategyHandoffPackage := do
  let package ← .read (getPackage digest repository packageId)
  if package.status = .approvedForDeployment then
    .raise (.valueError "approved handoff package is immutable")
  else
    let approval : StrategyDeploymentApproval :=
      { approvalId := s!"handoff-rejection:{packageId}", packageId,
        packageChecksum := package.checksum, approverRef := actorRef, approved := false,
        decidedAt, reason }
    .read approval.validate
    .write (.addApproval approval)
    let rejected ← .read (package.withStatus .rejected actorRef decidedAt)
    .write (.updatePackage rejected)
    return rejected

end StrategyHandoffService

end StrategyLab
