import StrategyLab.Control.VersionLifecycle

/-! Activating a version under a human approval, in one transaction with its audit. -/

namespace StrategyLab

/-- One consumed approval. -/
structure StrategyActivationAudit where
  approvalId : String
  actor : String
  familyId : String
  strategyVersionId : String
  approvedAt : String
  activatedAt : String
  deriving DecidableEq, Repr

/-- The stored registries and the audit of the activations. -/
structure StrategyDatabase where
  families : StrategyFamilies
  audit : Table StrategyActivationAudit.approvalId

/-- What an activation is asked with. -/
structure StrategyActivationRequest where
  familyId : String
  strategyVersionId : String
  authenticatedActor : String
  approvalId : String
  approvedFamilyId : String
  approvedStrategyVersionId : String
  approvalActor : String
  approvedAt : String
  expiresAt : String
  now : String
  deriving DecidableEq, Repr

/-- What an activation can raise. -/
inductive ActivationError where
  | permissionError (message : String)
  | valueError (message : String)
  | registry (error : VersionError)
  | integrityError (message : String)
  deriving DecidableEq, Repr

/-- What an activation reports. -/
structure ActivationReport where
  activated : String
  actor : String
  approvalConsumed : Bool
  ordersExecuted : Bool
  deriving DecidableEq, Repr

/-- A date and time in microseconds, with its distance from UTC where it names one. -/
structure IsoDatetime where
  local_ : Int
  utcOffset : Option Int
  deriving DecidableEq, Repr

namespace TrustedStrategyActivation

variable (fromIsoFormat : String → Except String IsoDatetime)

/-- The moment that a text names. -/
def timestamp (s : String) : Except ActivationError Int :=
  match fromIsoFormat (s.replace "Z" "+00:00") with
  | .error message => .error (.valueError message)
  | .ok d =>
    match d.utcOffset with
    | none => .error (.permissionError "timezone required")
    | some offset => .ok (d.local_ - offset)

/-- The checks before the transaction: who asks, for what, and when. -/
def authorize (request : StrategyActivationRequest) : Except ActivationError Unit := do
  Raise.ensure
    ([request.familyId, request.strategyVersionId, request.authenticatedActor, request.approvalId,
      request.approvedFamilyId, request.approvedStrategyVersionId,
      request.approvalActor].all fun x => !Py.isBlank x)
    (.permissionError "trusted identity and exact-version approval required")
  Raise.ensure
    (request.familyId = request.approvedFamilyId &&
      request.strategyVersionId = request.approvedStrategyVersionId &&
      request.authenticatedActor = request.approvalActor)
    (.permissionError "approval scope mismatch")
  let approved ← timestamp fromIsoFormat request.approvedAt
  let now ← timestamp fromIsoFormat request.now
  -- The end is only read once the approval is known to have begun.
  Raise.ensure (approved ≤ now) (.permissionError "approval expired or future dated")
  let expires ← timestamp fromIsoFormat request.expiresAt
  Raise.ensure (now ≤ expires) (.permissionError "approval expired or future dated")

/-- The transaction: consume the approval, mark the version active and write both down. -/
def transaction (request : StrategyActivationRequest) (database : StrategyDatabase) :
    Except ActivationError StrategyDatabase := do
  Raise.ensure (database.audit.find? request.approvalId).isNone
    (.permissionError "approval already consumed")
  let registry := database.families.get request.familyId
  let version ← (registry.get request.strategyVersionId).mapError .registry
  Raise.ensure
    (version.familyId = request.familyId &&
      (version.status = .applyReady || version.status = .previous))
    (.permissionError "version not eligible")
  let (registry, _) ← (registry.markActive request.strategyVersionId request.now).mapError .registry
  match database.audit.insert? ⟨request.approvalId, request.authenticatedActor, request.familyId,
    request.strategyVersionId, request.approvedAt, request.now⟩ with
  | none => .error (.integrityError "UNIQUE constraint failed")
  | some audit => .ok ⟨database.families.save request.familyId registry request.now, audit⟩

/-- Activate a version that a human approved; whatever is raised leaves the database as it is. -/
def activateApprovedVersion (request : StrategyActivationRequest) (database : StrategyDatabase) :
    Except ActivationError ActivationReport × StrategyDatabase :=
  match (authorize fromIsoFormat request >>= fun _ => transaction request database) with
  | .error raised => (.error raised, database)
  | .ok committed =>
    (.ok ⟨request.strategyVersionId, request.authenticatedActor, true, false⟩, committed)

end TrustedStrategyActivation

end StrategyLab
