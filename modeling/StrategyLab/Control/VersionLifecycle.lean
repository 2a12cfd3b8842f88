import StrategyLab.Control.StrategyVersion
import StrategyLab.Lib.Machine
import StrategyLab.Lib.Raise

/-! The transitions of registered versions, how a registry is written down, and its machine. -/

namespace StrategyLab

/-- What a registry can raise. -/
inductive VersionError where
  | keyError (key : String)
  | valueError (message : String)
  | typeError (message : String)
  deriving DecidableEq, Repr

/-- The text of a status. -/
def StrategyVersionStatus.value : StrategyVersionStatus → String
  | .applyReady => "apply_ready"
  | .active => "active"
  | .previous => "previous"
  | .retired => "retired"

/-- The status with a text. -/
def StrategyVersionStatus.ofValue (value : String) : Except VersionError StrategyVersionStatus :=
  match value with
  | "apply_ready" => .ok .applyReady
  | "active" => .ok .active
  | "previous" => .ok .previous
  | "retired" => .ok .retired
  | other => .error (.valueError s!"{other} is not a valid StrategyVersionStatus")

/-- The text of a direction. -/
def Direction.value : Direction → String
  | .long => "LONG"
  | .short => "SHORT"

/-- The direction with a text; only the texts of registered directions are ever read back. -/
def Direction.ofValue (value : String) : Except VersionError Direction :=
  match value with
  | "LONG" => .ok .long
  | "SHORT" => .ok .short
  | _ => .error (.valueError "direction must be LONG or SHORT")

namespace StrategyVersion

/-- An optional text as a JSON value. -/
def optional : Option String → Json
  | some text => .str text
  | none => .null

/-- The record of a version. -/
def toJson (version : StrategyVersion) : Json :=
  .obj [("strategy_version_id", .str version.strategyVersionId),
    ("family_id", .str version.familyId),
    ("candidate_id", .str version.candidateId),
    ("spec_fingerprint", .str version.specFingerprint),
    ("spec_rules", version.specRules),
    ("validation_summary", version.validationSummary),
    ("status", .str version.status.value),
    ("created_at", .str version.createdAt),
    ("display_id", optional version.displayId),
    ("direction", optional (version.direction.map Direction.value)),
    ("approved_at", optional version.approvedAt),
    ("activated_at", optional version.activatedAt),
    ("deactivated_at", optional version.deactivatedAt),
    ("retired_at", optional version.retiredAt),
    ("retired_reason", optional version.retiredReason)]

section

variable (str : Json → String)

/-- A field that has to be there, as a text. -/
def required (raw : Json) (key : String) : Except VersionError String :=
  match raw.get? key with
  | some value => .ok (value.textOf str)
  | none => .error (.keyError key)

/-- A field that may be missing or null, as a text. -/
def opt (raw : Json) (key : String) : Option String :=
  match raw.get? key with
  | none | some .null => none
  | some value => some (value.textOf str)

/-- A field that holds an object, where a missing or empty one counts as the empty object. -/
def mapping (raw : Json) (key : String) : Except VersionError Json :=
  let value := raw.getOr key (.obj [])
  if value.isObject then .ok value else .error (.typeError s!"{key} is no mapping")

/-- Read a version back from its record. -/
def fromJson (raw : Json) : Except VersionError StrategyVersion := do
  let strategyVersionId ← required str raw "strategy_version_id"
  let familyId ← required str raw "family_id"
  let candidateId ← required str raw "candidate_id"
  let specFingerprint ← required str raw "spec_fingerprint"
  let specRules ← mapping raw "spec_rules"
  let validationSummary ← mapping raw "validation_summary"
  let status ← StrategyVersionStatus.ofValue (← required str raw "status")
  let createdAt ← required str raw "created_at"
  let direction ← (opt str raw "direction").mapM Direction.ofValue
  return { strategyVersionId, familyId, candidateId, specFingerprint, specRules,
           validationSummary, status, createdAt, displayId := opt str raw "display_id", direction,
           approvedAt := opt str raw "approved_at", activatedAt := opt str raw "activated_at",
           deactivatedAt := opt str raw "deactivated_at", retiredAt := opt str raw "retired_at",
           retiredReason := opt str raw "retired_reason" }

end

end StrategyVersion

namespace StrategyVersionRegistry

/-- The version with an id. -/
def get (registry : StrategyVersionRegistry) (strategyVersionId : String) :
    Except VersionError StrategyVersion :=
  match registry.versions.find? (·.strategyVersionId = strategyVersionId) with
  | some version => .ok version
  | none => .error (.keyError strategyVersionId)

/-- The active version, the last one of a direction if one is given. -/
def active (registry : StrategyVersionRegistry) (direction : Option Direction) :
    Option StrategyVersion :=
  let matching := registry.versions.filter (·.status = .active)
  match direction with
  | none => matching.getLast?
  | some direction => (matching.filter (·.direction = some direction)).getLast?

/-- Demote an active version of a direction. -/
def demote (direction : Option Direction) (at_ : String) (version : StrategyVersion) :
    StrategyVersion :=
  if version.status = .active ∧ version.direction = direction then
    { version with status := .previous, deactivatedAt := some at_ }
  else version

/-- Make a version the active one of its direction, demoting the one that was. -/
def markActive (registry : StrategyVersionRegistry) (strategyVersionId at_ : String) :
    Except VersionError (StrategyVersionRegistry × StrategyVersion) :=
  match registry.versions.findIdx? (·.strategyVersionId = strategyVersionId) with
  | none => .error (.keyError strategyVersionId)
  | some targetIndex =>
    match registry.versions[targetIndex]? with
    | none => .error (.keyError strategyVersionId)
    | some target =>
      if target.status = .retired then
        .error (.valueError s!"{strategyVersionId} is RETIRED and cannot be activated")
      else
        let activated :=
          { target with status := .active, activatedAt := some at_, deactivatedAt := none }
        let demoted := registry.versions.map (demote target.direction at_)
        .ok (⟨demoted.set targetIndex activated⟩, activated)

/-- Retire a version for good. -/
def markRetired (registry : StrategyVersionRegistry) (strategyVersionId at_ reason : String) :
    Except VersionError (StrategyVersionRegistry × StrategyVersion) :=
  match registry.versions.findIdx? (·.strategyVersionId = strategyVersionId) with
  | none => .error (.keyError strategyVersionId)
  | some index =>
    match registry.versions[index]? with
    | none => .error (.keyError strategyVersionId)
    | some version =>
      let retired :=
        { version with status := .retired, retiredAt := some at_, retiredReason := some reason }
      .ok (⟨registry.versions.set index retired⟩, retired)

/-- The record of a registry. -/
def toJson (registry : StrategyVersionRegistry) : Json :=
  .obj [("versions", .list (registry.versions.map StrategyVersion.toJson))]

/-- Read a registry back from its record. -/
def fromJson (str : Json → String) (raw : Json) :
    Except VersionError StrategyVersionRegistry :=
  match raw.getOr "versions" (.list []) with
  | .list items => do
    let versions ← items.mapM (StrategyVersion.fromJson str)
    return ⟨versions⟩
  | _ => .error (.typeError "versions is no list")

end StrategyVersionRegistry

/-- A call of a registry, or writing it down and reading it back. -/
inductive VersionOp where
  | registerApplyReady (uuid familyId candidateId specFingerprint : String)
    (specRules validationSummary : List (String × Json)) (at_ : String)
    (direction : Option Direction)
  | markActive (strategyVersionId at_ : String)
  | markRetired (strategyVersionId at_ reason : String)
  | roundTrip

namespace VersionOp

/-- Carry out a call; a call that raises leaves the registry as it is. -/
def step (str : Json → String) (registry : StrategyVersionRegistry) :
    VersionOp → Except VersionError Unit × StrategyVersionRegistry
  | .registerApplyReady uuid familyId candidateId specFingerprint specRules validationSummary at_
      direction =>
    (.ok (), (registry.registerApplyReady uuid familyId candidateId specFingerprint
      (.obj specRules) (.obj validationSummary) at_ direction).1)
  | .markActive strategyVersionId at_ =>
    match registry.markActive strategyVersionId at_ with
    | .ok (next, _) => (.ok (), next)
    | .error raised => (.error raised, registry)
  | .markRetired strategyVersionId at_ reason =>
    match registry.markRetired strategyVersionId at_ reason with
    | .ok (next, _) => (.ok (), next)
    | .error raised => (.error raised, registry)
  | .roundTrip =>
    match StrategyVersionRegistry.fromJson str registry.toJson with
    | .ok next => (.ok (), next)
    | .error raised => (.error raised, registry)

end VersionOp

/-- A registry of versions as a machine. -/
def versionMachine (str : Json → String) :
    Machine StrategyVersionRegistry VersionOp (Except VersionError Unit) :=
  ⟨VersionOp.step str⟩

end StrategyLab
