import StrategyLab.Adapters.StrategyHandoff
import StrategyLab.Lib.Machine
import Mathlib.Logic.Function.Basic

/-! Decisions on handoff packages by several clients: each reads, records and updates in steps. -/

namespace StrategyLab

open StrategyHandoffRepository StrategyHandoffService

/-- The id under which a decision on a package is recorded. -/
def decisionId (approved : Bool) (packageId : String) : String :=
  if approved then s!"handoff-approval:{packageId}" else s!"handoff-rejection:{packageId}"

/-- A call that approves or rejects a package. -/
structure HandoffDecision where
  approved : Bool
  packageId : String
  actorRef : String
  decidedAt : String
  reason : String
  deriving DecidableEq

namespace HandoffDecision

/-- The status that a package is going to have. -/
def status (decision : HandoffDecision) : StrategyHandoffStatus :=
  if decision.approved then .approvedForDeployment else .rejected

/-- The record of the decision. -/
def approval (decision : HandoffDecision) (package : StrategyHandoffPackage) :
    StrategyDeploymentApproval :=
  ⟨decisionId decision.approved decision.packageId, decision.packageId, package.checksum,
    decision.actorRef, decision.approved, decision.decidedAt, decision.reason⟩

/-- Check that a package was not decided on the other way. -/
def permits (decision : HandoffDecision) (package : StrategyHandoffPackage) :
    Except ServiceError Unit :=
  if decision.approved then
    require (package.status ≠ .rejected) "rejected handoff package cannot be approved"
  else require (package.status ≠ .approvedForDeployment) "approved handoff package is immutable"

variable (digest : HandoffDigest)

/-- Read the package, and check the decision before anything is written. -/
def start (decision : HandoffDecision) (repository : StrategyHandoffRepository) :
    Except ServiceError StrategyHandoffPackage := do
  let package ← getPackage digest repository decision.packageId
  decision.permits package
  (decision.approval package).validate
  return package

/-- The call of the service. -/
def call (decision : HandoffDecision) (repository : StrategyHandoffRepository) :
    HandoffCall StrategyHandoffPackage :=
  if decision.approved then
    approve digest repository decision.packageId decision.actorRef decision.decidedAt
      decision.reason
  else
    reject digest repository decision.packageId decision.actorRef decision.decidedAt
      decision.reason

end HandoffDecision

/-- Where a client stands: what it is about to do next. -/
inductive HandoffPhase where
  | idle
  | recording (decision : HandoffDecision) (package : StrategyHandoffPackage)
  | rereading (decision : HandoffDecision) (decided : StrategyHandoffPackage)
  | updating (decision : HandoffDecision) (decided : StrategyHandoffPackage)

namespace HandoffPhase

/-- The decision that a client is about. -/
def decision? : HandoffPhase → Option HandoffDecision
  | idle => none
  | recording decision _ => some decision
  | rereading decision _ => some decision
  | updating decision _ => some decision

/-- The decision that a client has recorded, with the package it is going to store. -/
def recorded? : HandoffPhase → Option (HandoffDecision × StrategyHandoffPackage)
  | rereading decision decided => some (decision, decided)
  | updating decision decided => some (decision, decided)
  | _ => none

end HandoffPhase

/-- The repository, and where each of its clients stands. -/
structure HandoffSessions where
  repository : StrategyHandoffRepository
  clients : Nat → HandoffPhase

/-- What happens next. -/
inductive HandoffOp where
  /-- A package is created from what is stored elsewhere. -/
  | create (champions : ChampionRegistryRepository) (revalidations : RevalidationReports)
    (backtests : BacktestResults) (request : StrategyHandoffRequest)
  /-- A client begins to approve or to reject a package. -/
  | decide (client : Nat) (decision : HandoffDecision)
  /-- A client takes its next step. -/
  | step (client : Nat)
  /-- A client is lost. -/
  | crash (client : Nat)

/-- What a step answers. -/
inductive HandoffAnswer where
  | going
  | raised (error : ServiceError)
  | created (package : StrategyHandoffPackage)
  | decided (package : StrategyHandoffPackage)

/-- A package that is written over another one keeps the id of that one. -/
theorem packageId_kept (package row : StrategyHandoffPackage) :
    { package with packageId := row.packageId }.packageId = row.packageId :=
  rfl

/-- Overwrite a stored package. -/
def StrategyHandoffRepository.overwrite (repository : StrategyHandoffRepository)
    (package : StrategyHandoffPackage) : Except ServiceError StrategyHandoffRepository :=
  match repository.packages.find? package.packageId with
  | none => .error (.keyError package.packageId)
  | some _ => .ok { repository with
      packages := repository.packages.update (·.packageId = package.packageId)
        (fun row => { package with packageId := row.packageId }) (packageId_kept package) }

namespace HandoffSessions

/-- A repository without packages, and clients without calls. -/
def initial : HandoffSessions := ⟨.empty, fun _ => .idle⟩

/-- Let a client go on. -/
def goto (state : HandoffSessions) (client : Nat) (phase : HandoffPhase) : HandoffSessions :=
  { state with clients := Function.update state.clients client phase }

variable (digest : HandoffDigest)

/-- The next step of a client. -/
def stepClient (state : HandoffSessions) (client : Nat) : HandoffAnswer × HandoffSessions :=
  match state.clients client with
  | .idle => (.going, state)
  | .recording decision package =>
    match state.repository.write digest (.addApproval (decision.approval package)) with
    | .error refused => (.raised refused, state.goto client .idle)
    | .ok repository =>
      let committed := { state with repository }
      -- A decision that cannot be carried out stays recorded.
      match package.withStatus decision.status decision.actorRef decision.decidedAt with
      | .error raised => (.raised raised, committed.goto client .idle)
      | .ok decided => (.going, committed.goto client (.rereading decision decided))
  | .rereading decision decided =>
    match getPackage digest state.repository decided.packageId with
    | .error raised => (.raised raised, state.goto client .idle)
    | .ok existing =>
      if existing.status = .approvedForDeployment ∧ existing ≠ decided then
        (.raised (.valueError "approved handoff package is immutable"), state.goto client .idle)
      else (.going, state.goto client (.updating decision decided))
  | .updating _ decided =>
    match state.repository.overwrite decided with
    | .error raised => (.raised raised, state.goto client .idle)
    | .ok repository => (.decided decided, { state with repository }.goto client .idle)

/-- Carry out what happens. -/
def step (state : HandoffSessions) : HandoffOp → HandoffAnswer × HandoffSessions
  | .create champions revalidations backtests request =>
    match Commits.perform (write digest) state.repository
      (StrategyHandoffService.create digest champions revalidations backtests request) with
    | (.error raised, repository) => (.raised raised, { state with repository })
    | (.ok package, repository) => (.created package, { state with repository })
  | .decide client decision =>
    match state.clients client with
    | .idle =>
      match decision.start digest state.repository with
      | .error raised => (.raised raised, state)
      | .ok package => (.going, state.goto client (.recording decision package))
    | _ => (.going, state)
  | .step client => stepClient digest state client
  | .crash client => (.going, state.goto client .idle)

/-- Decisions on packages by any number of clients. -/
def machine : Machine HandoffSessions HandoffOp HandoffAnswer := ⟨step digest⟩

end HandoffSessions

end StrategyLab
