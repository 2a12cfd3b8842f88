import StrategyLab.Deploy.ServiceControl
import StrategyLab.Lib.Attempt
import Mathlib.Data.List.Sort

/-! The deployment broker: its sessions, what a worker may ask of them, and how they end. -/

namespace StrategyLab

/-- Whether a text is the full name of a commit. -/
def isSha (text : String) : Bool :=
  text.toList.length = 40 &&
    text.toList.all fun c => ('0' ≤ c && c ≤ '9') || ('a' ≤ c && c ≤ 'f')

/-- The parts of a text between a mark. -/
def splitText (mark : Char) (text : String) : List String :=
  (text.toList.splitOn mark).map String.ofList

/-- An item of a dictionary that has to be there. -/
def itemOf (value : Json) (key : String) : Except Raised Json :=
  match value.get? key with
  | some item => .ok item
  | none => .error (.exception "KeyError")

/-- The fields of a value that has to be a dictionary. -/
def dictOf : Json → Except Raised (List (String × Json))
  | .obj fields => .ok fields
  | _ => .error (.exception "AttributeError")

/-- The dictionaries of a list that holds nothing else. -/
def dictsOf : Json → Except Raised (List (List (String × Json)))
  | .list items => items.mapM dictOf
  | _ => .error (.exception "AttributeError")

/-- Whether the field under a key equals a number. -/
def isNumber (fields : List (String × Json)) (key : String) (number : Int) : Bool :=
  (fields.lookup key).bind Json.number? = some (number : ℚ)

/-- The number of a pull request that was merged into the main branch as the target. -/
def mergedPull (target : String) (pull : List (String × Json)) : Except Raised (Option Json) := do
  if Json.isTrue pull "merged_at" && Json.isText pull "merge_commit_sha" target then
    let base ← itemOf (.obj pull) "base"
    let ref ← itemOf base "ref"
    if ref.text? = some "main" then
      let name ← itemOf (← itemOf base "repo") "full_name"
      if name.text? = some "Choi0211/StrategyLab-v2" then
        return some (← itemOf (.obj pull) "number")
  return none

/-- Check that a run of the approved workflow deploys the current main branch. -/
def authorize (githubJson : String → Except Raised Json) (target prs runId : String) :
    Except Raised Unit := do
  -- The identity of a run is its number and the attempt.
  let [runNumber, attempt] := splitText '-' runId | .error (.exception "ValueError")
  let endpoint := "actions/runs/" ++ runNumber ++ "/attempts/" ++ attempt
  let run ← dictOf (← githubJson endpoint)
  let runNumber ← intOrRaise runNumber
  let attempt ← intOrRaise attempt
  ensure (isNumber run "id" runNumber && isNumber run "run_attempt" attempt &&
    Json.isText run "head_sha" target && Json.isText run "head_branch" "main" &&
    [".github/workflows/gaon-production.yml", ".github/workflows/gaon-production.yml@main",
      ".github/workflows/gaon-production.yml@refs/heads/main"].any (Json.isText run "path") &&
    ["push", "workflow_dispatch"].any (Json.isText run "event") &&
    Json.isText run "status" "in_progress") "workflow run identity mismatch"
  -- Exactly one job has verified the target, and exactly one approved job is deploying it.
  let jobs ← dictsOf (← itemOf (← githubJson (endpoint ++ "/jobs")) "jobs")
  let verified := jobs.filter fun job =>
    Json.isText job "name" "Verify exact production SHA" && Json.isText job "head_sha" target &&
      Json.isText job "conclusion" "success"
  let approved := jobs.filter fun job =>
    Json.isText job "name" "Approved Gaon deployment (disabled until configured)" &&
      Json.isText job "head_sha" target && Json.isText job "status" "in_progress"
  ensure (verified.length = 1 && approved.length = 1)
    "CI success and environment-approved running job required"
  -- The main branch may have moved on since the run was started.
  let main ← itemOf (← itemOf (← githubJson "git/ref/heads/main") "object") "sha"
  ensure (main.text? = some target) "target is not current trusted main"
  let pulls ← dictsOf (← githubJson ("commits/" ++ target ++ "/pulls"))
  let numbers ← pulls.mapM (mergedPull target)
  -- What is no number either cannot be sorted or differs from every pull request of the run.
  let matched := (numbers.filterMap id).mapM Json.number?
  let wanted ← (splitText ',' prs).mapM intOrRaise
  ensure (matched.map (·.insertionSort (· ≤ ·)) = some (wanted.map fun number => (number : ℚ)))
    "merged PR evidence mismatch"

/-- The file `active.json`. -/
structure Journal where
  previousSha : String
  targetSha : String
  runId : String
  prs : String
  stopped : Bool
  deriving DecidableEq

/-- A dispatch as the log has it, with the journal and the checkpoint at that moment. -/
structure Dispatch where
  args : List String
  journal : Option Journal
  previous : Option String
  deriving DecidableEq

/-- What root read in an observation that passed, and what it was compared with. -/
structure Observation where
  head : String
  services : List (String × ServiceItem)
  recentErrorCount : Nat
  schemaVersion : Int
  healthy : Bool
  before : Option (List (String × ServiceItem))
  preparedSchema : Option Int
  deriving DecidableEq

/--
A session of the broker: its own fields, the files on disk, and the log of what root did.

The journals that were written, the dispatches and the observations make up that log.
-/
structure Session where
  target : String
  runId : String
  prs : String
  since : Nat
  startedAt : String
  previous : Option String
  stopped : Bool
  recovering : Bool
  before : Option (List (String × ServiceItem))
  schemaVersion : Option Int
  active : Option Journal
  reports : List (String × List (String × Json))
  written : List Journal
  dispatched : List Dispatch
  observed : List Observation

/-- A new session over the reports of earlier ones; an unfinished deployment admits none. -/
def Session.init (target runId prs : String) (since : Nat) (startedAt : String)
    (reports : List (String × List (String × Json))) : Session where
  target := target
  runId := runId
  prs := prs
  since := since
  startedAt := startedAt
  previous := none
  stopped := false
  recovering := false
  before := none
  schemaVersion := none
  active := none
  reports := reports
  written := []
  dispatched := []
  observed := []

namespace Session

/-- Whether there is a checkpoint to go back to. -/
def prepared (session : Session) : Bool := session.previous.getD "" ≠ ""

/-- Raise an exception unless a check holds. -/
def require (check : Bool) (message : String) : EStateM Raised Session Unit :=
  Attempt.answer (ensure check message)

/-- What `save` leaves on the disk, and what it raises. -/
def save (saving : Saving) (written : Session → Session) : EStateM Raised Session Unit := do
  match saving with
  | .failed raised => throw raised
  | .unsynced raised =>
    -- The new file is in place, but syncing its directory has failed.
    modify written
    throw raised
  | .synced => modify written

/-- Note a dispatch in the log. -/
def log (session : Session) (args : List String) : Session :=
  { session with dispatched := session.dispatched ++ [⟨args, session.active, session.previous⟩] }

/-- Let the service control carry out an operation. -/
def dispatch (host : Host) (args : List String) : EStateM Raised Session ControlAnswer := do
  modify fun session => session.log args
  Attempt.answer (host.dispatch args)

/-- The journal of a session. -/
def journal (session : Session) (previous : String) (stopped : Bool) : Journal where
  previousSha := previous
  targetSha := session.target
  runId := session.runId
  prs := session.prs
  stopped := stopped

/-- Write the journal. -/
def saveJournal (host : Host) (journal : Journal) : EStateM Raised Session Unit :=
  save host.saving fun session => { session with
    active := some journal, written := session.written ++ [journal] }

/-- The operation and the arguments of a message. -/
def readMessage : Json → Except Raised (String × List String)
  | .obj fields =>
    -- The keys have to be these two, before anything is said about their values.
    if !(fields.all (fun field => field.1 = "operation" || field.1 = "args") &&
        (fields.lookup "operation").isSome) then .error (.exception "invalid worker protocol")
    else
      match fields.lookup "operation", fields.lookup "args" with
      | some (.str operation), some (.list args) =>
        match args.mapM Json.text? with
        | some args => .ok (operation, args)
        | none => .error (.exception "invalid operation types")
      | _, some (.list _) => .error (.exception "invalid operation types")
      | _, _ => .error (.exception "invalid worker protocol")
  | _ => .error (.exception "invalid worker protocol")

/-- The two arguments of an operation that takes two. -/
def pairOf (args : List String) (message : String) : Except Raised (String × String) :=
  match args with
  | [first, second] => .ok (first, second)
  | _ => .error (.exception message)

/-- Take a checkpoint of a deployment that is authorized and starts from what root observes. -/
def prepare (host : Host) (args : List String) : EStateM Raised Session Unit := do
  let session ← get
  require (args.head? ≠ some session.target) "duplicate target deployment denied"
  let (sha, schema) ← Attempt.answer (pairOf args "invalid rollback checkpoint")
  require (!session.prepared && !session.recovering && isSha sha && Py.isdecimal schema)
    "invalid rollback checkpoint"
  let head ← Attempt.answer host.head
  require (head = sha) "rollback checkpoint mismatch"
  let version ← Attempt.answer (← dispatch host ["inspect"]).schemaVersion
  let claimed ← Attempt.answer (intOrRaise schema)
  require (version = claimed) "rollback checkpoint mismatch"
  -- Recheck before enabling any change of a service.
  Attempt.answer (authorize host.githubJson session.target session.prs session.runId)
  let report ← Attempt.answer (← dispatch host ["status", Nat.repr session.since]).report
  modify fun session => { session with before := some report.services }
  require (report.services.all fun service => service.2.state = "active" && 0 < service.2.pid)
    "original services must be active"
  modify fun session => { session with schemaVersion := some claimed }
  -- Only a checkpoint that is safe on the disk counts.
  saveJournal host (session.journal sha false)
  modify fun session => { session with previous := some sha }

/-- Whether the name of an operation begins like those that stop a service. -/
def isStop (operation : String) : Bool := "stop-".toList.isPrefixOf operation.toList

/-- Record that services are about to be stopped. -/
def recordStop (host : Host) : EStateM Raised Session Unit := do
  let session ← get
  saveJournal host (session.journal (session.previous.getD "") true)
  modify fun session => { session with stopped := true }

/-- Check that an operation is one that the worker may ask for now. -/
def permit (host : Host) (operation : String) (args : List String) :
    EStateM Raised Session Unit := do
  let session ← get
  if operation ∈ operations.map (·.1) then
    require (args = [] && session.prepared) "service mutation without checkpoint"
    -- The journal says that services are stopped before the first of them is.
    if isStop operation && !session.stopped then recordStop host
  else if operation = "backup" then
    require (args = [session.runId] && !session.recovering) "backup identity mismatch"
  else if operation = "inspect" then require (args = []) "inspect arguments denied"
  else if operation = "health" then require (args = []) "health arguments denied"
  else if operation = "status" then require (args.length = 1) "status arguments denied"
  else throw (.exception "privileged operation denied")

/-- Handle a message of the worker. -/
def request (host : Host) (message : Json) : EStateM Raised Session Json := do
  let (operation, args) ← Attempt.answer (readMessage message)
  if operation = "prepare" then
    prepare host args
    return .obj [("ok", .bool true)]
  else
    permit host operation args
    -- The health endpoint is asked without a dispatch.
    if operation = "health" then return .obj [("healthy", .bool (← Attempt.answer host.health))]
    else return .obj (← dispatch host (operation :: args)).fields

/-- What is expected of a service, and of a fresh one also that its process is another one. -/
def serviceObserved (before : Option (List (String × ServiceItem))) (fresh : Bool) (unit : String)
    (item : ServiceItem) : Bool :=
  item.state = "active" && 0 < item.pid && item.codeDirectoryMatches &&
    (!fresh || ((before.bind fun services => services.lookup unit).any fun old =>
      item.pid ≠ old.pid))

/-- Check with root's own eyes that an expected commit runs. -/
def observe (host : Host) (expected : Option String) (fresh : Bool) :
    EStateM Raised Session (List (String × Json)) := do
  let head ← Attempt.answer host.head
  require (some head = expected) "root-observed HEAD mismatch"
  let since := (← get).since
  let result ← Attempt.answer (← dispatch host ["status", Nat.repr since]).report
  let session ← get
  require (units.all fun unit =>
    (result.services.lookup unit).any (serviceObserved session.before fresh unit))
    "root-observed service mismatch"
  let version ← Attempt.answer (← dispatch host ["inspect"]).schemaVersion
  require (some version = session.schemaVersion && (!fresh || result.recentErrorCount = 0))
    "root-observed schema or log error"
  let healthy ← Attempt.answer host.health
  require healthy "root-observed API failure"
  modify fun session => { session with observed := session.observed ++
    [⟨head, result.services, result.recentErrorCount, version, healthy, session.before,
      session.schemaVersion⟩] }
  return Json.update result.fields [("db_schema_version", .int version),
    ("api_healthy", .bool true), ("running_sha", .str head),
    ("running_sha_evidence", .str ("broker HEAD + service PID/cwd + loopback health + " ++
      "worker editable import"))]

/-- How a worker behaves: its messages, each with what the host answers, and how it ends. -/
structure WorkerRun where
  messages : List (Json × Host)
  /-- The report and the exit code, unless the worker is given up before. -/
  ending : Except Raised (Json × Int)

/-- Answer a message; only an interrupt ends the conversation. -/
def reply (message : Json) (host : Host) : EStateM Raised Session Json :=
  tryCatch (do return .obj [("ok", .bool true), ("result", ← request host message)]) fun
    | .exception _ => return .obj [("ok", .bool false)]
    | .interrupt => throw .interrupt

/-- Answer every message of a worker. -/
def converse : List (Json × Host) → EStateM Raised Session Unit
  | [] => return
  | (message, host) :: rest => do
    let _ ← reply message host
    converse rest

/-- Serve a worker until it ends, and take its report. -/
def worker (run : WorkerRun) : EStateM Raised Session (List (String × Json)) := do
  converse run.messages
  let (report, exitCode) ← Attempt.answer run.ending
  match report with
  | .obj fields =>
    -- A worker that fails cannot report a success.
    if exitCode ≠ 0 && Json.isText fields "status" "success" then
      throw (.exception "invalid worker report")
    else return fields
  | _ => throw (.exception "invalid worker report")

/-- All that is outside of the broker while it executes a deployment. -/
structure Surroundings where
  /-- The worker that deploys. -/
  deployer : WorkerRun
  /-- What the host answers to the observation after it. -/
  deployed : Host
  /-- The worker that recovers. -/
  recoverer : WorkerRun
  /-- What the host answers to the observation after it. -/
  recovered : Host
  /-- What the host answers when a failed recovery stops the services. -/
  abandoned : Host
  /-- What the host answers to the last look at what is left. -/
  left : Host
  /-- The moment at which the deployment is finished. -/
  finishedAt : String
  /-- How far the report of the deployment gets. -/
  reporting : Saving
  /-- Removing the journal. -/
  removal : Except Raised Unit

/-- Whether a result reports a success. -/
def succeeded (result : List (String × Json)) : Bool := Json.isText result "status" "success"

/-- Whether a result reports a rollback. -/
def rolledBack (result : List (String × Json)) : Bool := Json.isTrue result "rollback_succeeded"

/-- Whether a result asks for a recovery by hand. -/
def needsManual (result : List (String × Json)) : Bool :=
  Json.isTrue result "manual_recovery_required"

/-- What is known of a deployment before its worker has reported. -/
def unknownResult : List (String × Json) :=
  [("status", .str "unknown"), ("db_restored", .bool false)]

/-- Let the worker deploy, and observe what it reports. -/
def attemptDeploy (outside : Surroundings) : EStateM Raised Session (List (String × Json)) := do
  let result ← Attempt.caught do
    let result ← worker outside.deployer
    let session ← get
    if succeeded result then
      -- A worker that has stopped nothing has deployed nothing.
      require (session.stopped && session.prepared) "success without deployment checkpoint"
      return Json.update result (← observe outside.deployed (some session.target) true)
    else if rolledBack result then
      return Json.update result (← observe outside.deployed session.previous false)
    else return result
  return result.getD unknownResult

/-- Give a recovery up and stop the services. -/
def giveUp (outside : Surroundings) (result : List (String × Json)) :
    EStateM Raised Session (List (String × Json)) := do
  let _ ← Attempt.caught (dispatch outside.abandoned ["stop-web"])
  let _ ← Attempt.caught (dispatch outside.abandoned ["stop-runtime"])
  return Json.update result [("rollback_succeeded", .bool false),
    ("manual_recovery_required", .bool true), ("api_healthy", .bool false), ("running_sha", .null)]

/-- Let a worker go back to the checkpoint, and observe that it did. -/
def recover (outside : Surroundings) (result : List (String × Json)) :
    EStateM Raised Session (List (String × Json)) := do
  modify fun session => { session with recovering := true }
  match ← Attempt.caught (worker outside.recoverer) with
  -- Without a report, the first result is all there is.
  | none => giveUp outside result
  | some report =>
    -- What the report does not mention is left from the first result.
    let result := Json.update result report
    let observed ← Attempt.caught do
      require (rolledBack result) "worker recovery unsuccessful"
      observe outside.recovered (← get).previous false
    match observed with
    | none => giveUp outside result
    | some seen => return Json.update result seen

/-- Go on after what only an interrupt may not raise. -/
def orElse {α : Type} (attempt : EStateM Raised Session α) (default : α) :
    EStateM Raised Session α :=
  tryCatch attempt fun
    | .exception _ => return default
    | .interrupt => throw .interrupt

/-- Add what is left of the services and of the database to a result. -/
def describe (outside : Surroundings) (result : List (String × Json)) :
    EStateM Raised Session (List (String × Json)) := do
  let since := (← get).since
  let services ← orElse
    (do return (← dispatch outside.left ["status", Nat.repr since]).fields)
    [("services", .obj (units.map fun unit => (unit, .obj [("state", .str "unknown")])))]
  let version ← orElse
    (do return .int (← Attempt.answer (← dispatch outside.left ["inspect"]).schemaVersion))
    Json.null
  return Json.update (Json.update result services) [("db_schema_version", version)]

/-- Complete a result, report it, and remove the journal unless a recovery by hand is needed. -/
def conclude (outside : Surroundings) (result : List (String × Json)) :
    EStateM Raised Session (List (String × Json)) := do
  let session ← get
  let started := if (result.lookup "started_at").isSome then result
    else Json.update result [("started_at", .str session.startedAt)]
  let numbers ← Attempt.answer ((splitText ',' session.prs).mapM intOrRaise)
  let result := Json.update started [("finished_at", .str outside.finishedAt),
    ("target_sha", .str session.target), ("run_id", .str session.runId),
    ("pr_numbers", .list (numbers.map .int)), ("db_restored", .bool false),
    ("deployment_identity", .str "strategylab"),
    ("authorization", .str "GitHub main + merged PR + approved CI run")]
  save outside.reporting fun session => { session with
    reports := (session.runId, result) :: session.reports }
  if !needsManual result then
    Attempt.answer outside.removal
    modify fun session => { session with active := none }
  return result

/-- Execute a deployment. -/
def execute (outside : Surroundings) : EStateM Raised Session (List (String × Json)) := do
  let result ← attemptDeploy outside
  let session ← get
  let result ← (if session.stopped && !succeeded result && !rolledBack result
    then recover outside result else pure result)
  let result ← (if !succeeded result && !rolledBack result
    then describe outside result else pure result)
  conclude outside result

/-- Refuse a run while a deployment is unfinished, and a run that has been reported before. -/
def acceptRun (active : Option Journal) (reports : List (String × List (String × Json)))
    (runId : String) : Except Raised Unit :=
  if active.isSome || (reports.lookup runId).isSome then
    .error (.exception "unfinished deployment or repeated run")
  else .ok ()

end Session

end StrategyLab
