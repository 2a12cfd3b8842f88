import StrategyLab.Lib.Decimal
import StrategyLab.Lib.Json
import StrategyLab.Lib.Raise

/-! The service control of the deployment: its fixed units, its operations, and what they answer. -/

namespace StrategyLab

/-- What a step raises: an `Exception`, or an interrupt that only `BaseException` catches. -/
inductive Raised where
  | exception (message : String)
  | interrupt
  deriving DecidableEq

/-- What is known of a service. -/
structure ServiceItem where
  state : String
  pid : Int
  codeDirectoryMatches : Bool
  activeSinceMonotonic : String
  deriving DecidableEq

/-- Raise an exception unless a check holds. -/
def ensure (check : Bool) (message : String) : Except Raised Unit :=
  Raise.ensure check (.exception message)

/-- How far `save` gets: the file is left alone, is replaced without being synced, or is safe. -/
inductive Saving where
  | failed (raised : Raised)
  | unsynced (raised : Raised)
  | synced

/-- What the host answers while one request is handled; every call may raise. -/
structure Host where
  /-- The JSON under an endpoint of the repository's API. -/
  githubJson : String → Except Raised Json
  /-- The commit that is checked out. -/
  head : Except Raised String
  /-- A verb given to systemd for a unit. -/
  systemctl : String → String → Except Raised Unit
  /-- The properties of a unit and the working directory of its process. -/
  showUnit : String → Except Raised ServiceItem
  /-- The errors in the log of the two units. -/
  recentErrors : Except Raised Nat
  /-- The clock. -/
  now : ℚ
  /-- The schema version, if it is an integer, and the answer of the integrity check. -/
  database : Except Raised (Option Int × String)
  /-- Copying the database into a new directory. -/
  copyDatabase : String → Except Raised Unit
  /-- The answer of the health endpoint, and none where the request fails. -/
  loopback : Except Raised (Option (Int × Json))
  /-- How far the one file that is written gets. -/
  saving : Saving

/-- The two services. -/
def units : List String := ["strategylab-gaon.service", "gaon-web.service"]

/-- The operations that change a service, each with its verb and its unit. -/
def operations : List (String × String × String) :=
  ["stop", "start"].flatMap fun verb =>
    (["runtime", "web"].zip units).map fun (name, unit) => (verb ++ "-" ++ name, verb, unit)

/-- A number without leading zeros and of a bounded length. -/
def isPlainNumber (limit : Nat) : List Char → Bool
  | [] => false
  | first :: rest => '1' ≤ first && first ≤ '9' && rest.all Char.isDigit && rest.length < limit

/-- Whether a text is the identity of a run. -/
def isRunId (text : String) : Bool :=
  match text.toList.splitOn '-' with
  | [number, attempt] => isPlainNumber 20 number && isPlainNumber 6 attempt
  | _ => false

/-- Whether the health endpoint answers as it should. -/
def Host.health (host : Host) : Except Raised Bool := do
  match ← host.loopback with
  | none => return false
  -- A payload that is no dictionary is no good health.
  | some (status, .obj payload) => return status = 200 && Json.isText payload "status" "ok"
  | some _ => return false

/-- What an inspection of the database finds. -/
structure Inspection where
  schemaVersion : Int
  integrity : String

/-- Read the schema version of a database that is intact. -/
def Host.inspectDatabase (host : Host) : Except Raised Inspection := do
  match ← host.database with
  | (some version, "ok") => return ⟨version, "ok"⟩
  | _ => throw (.exception "database integrity or schema invalid")

/-- Copy the database of a run. -/
def Host.backup (host : Host) (runId : String) : Except Raised Inspection := do
  ensure (isRunId runId) "invalid run identity"
  let result ← host.inspectDatabase
  host.copyDatabase runId
  return result

/-- The built-in `int`, which raises a `ValueError`. -/
def intOrRaise (text : String) : Except Raised Int :=
  match Py.intOfText text with
  | some number => .ok number
  | none => .error (.exception "ValueError")

/-- What is reported of the services. -/
structure StatusReport where
  services : List (String × ServiceItem)
  recentErrorCount : Nat
  logScanSince : Int

/-- Look at both services and at their log since a moment of the last day. -/
def Host.status (host : Host) (since : String) : Except Raised StatusReport := do
  ensure (Py.isdecimal since) "invalid log interval"
  let start ← intOrRaise since
  ensure (0 ≤ host.now - start && host.now - start ≤ 86400) "invalid log interval"
  let services ← units.mapM fun unit => do return (unit, ← host.showUnit unit)
  return ⟨services, ← host.recentErrors, start⟩

/-- What an operation answers. -/
inductive ControlAnswer where
  | operation (name : String)
  | inspection (database : Inspection)
  | backup (database : Inspection) (runId : String)
  | status (report : StatusReport)

/-- Carry out an operation on the fixed resources. -/
def Host.dispatch (host : Host) (args : List String) : Except Raised ControlAnswer :=
  match args with
  | [name] =>
    -- The four operations on services come first, and none of them takes an argument.
    match operations.lookup name with
    | some (verb, unit) => do
      host.systemctl verb unit
      return .operation name
    | none =>
      if name = "inspect" then return .inspection (← host.inspectDatabase)
      else throw (.exception "operation denied")
  | [name, argument] =>
    if name = "backup" then return .backup (← host.backup argument) argument
    else if name = "status" then return .status (← host.status argument)
    else throw (.exception "operation denied")
  | _ => throw (.exception "operation denied")

/-- A service as JSON. -/
def ServiceItem.json (item : ServiceItem) : Json :=
  .obj [("state", .str item.state), ("pid", .int item.pid),
    ("code_directory_matches", .bool item.codeDirectoryMatches),
    ("active_since_monotonic", .str item.activeSinceMonotonic)]

/-- The fields of a database inspection. -/
def Inspection.fields (database : Inspection) : List (String × Json) :=
  [("schema_version", .int database.schemaVersion), ("integrity", .str database.integrity)]

/-- The fields of a report on the services. -/
def StatusReport.fields (report : StatusReport) : List (String × Json) :=
  [("services", .obj (report.services.map fun service => (service.1, service.2.json))),
    ("recent_error_count", .int report.recentErrorCount), ("log_scan_limit", .int 2000),
    ("log_scan_since", .int report.logScanSince)]

/-- The fields of an answer. -/
def ControlAnswer.fields : ControlAnswer → List (String × Json)
  | operation name => [("operation", .str name), ("ok", .bool true)]
  | inspection database => database.fields
  | backup database runId => Json.update database.fields
      [("backup", .str ("/var/backups/gaon-cicd/" ++ runId ++ "/gaon-runtime.sqlite")),
        ("backup_integrity", .str "ok")]
  | status report => report.fields

/-- The item `schema_version` of an answer. -/
def ControlAnswer.schemaVersion : ControlAnswer → Except Raised Int
  | inspection database => .ok database.schemaVersion
  | backup database _ => .ok database.schemaVersion
  | _ => .error (.exception "KeyError")

/-- The item `services` of an answer, next to the number of recent errors. -/
def ControlAnswer.report : ControlAnswer → Except Raised StatusReport
  | status report => .ok report
  | _ => .error (.exception "KeyError")

/-- A text is read as the number that it stands for. -/
theorem intOrRaise_eq_ok {text : String} {number : Int} :
    intOrRaise text = .ok number ↔ Py.intOfText text = some number := by
  unfold intOrRaise
  split
  · rename_i other read
    simp [read]
  · rename_i missing
    simp [missing]

/-- Asking for an inspection answers what the inspection finds. -/
theorem Host.dispatch_inspect (host : Host) :
    host.dispatch ["inspect"] = host.inspectDatabase.map .inspection := by
  have question : operations.lookup "inspect" = none := by decide +kernel
  simp only [Host.dispatch, question, if_true]
  rfl

/-- The operations are those of two verbs on two services. -/
theorem mem_operations {name : String} :
    name ∈ operations.map (·.1) ↔
      name = "stop-runtime" ∨ name = "stop-web" ∨ name = "start-runtime" ∨ name = "start-web" := by
  have listed : operations.map (·.1) = ["stop-runtime", "stop-web", "start-runtime", "start-web"] :=
    by decide +kernel
  rw [listed]
  simp only [List.mem_cons, List.not_mem_nil, or_false]

end StrategyLab
