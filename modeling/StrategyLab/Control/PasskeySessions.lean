import StrategyLab.Control.Passkeys
import Mathlib.Logic.Function.Basic

/-! Passkey calls on connections of their own: each reads, writes and commits in separate steps. -/

namespace StrategyLab

/-- The tables that passkey calls work on. -/
structure PasskeyDatabase where
  challenges : PasskeyChallenges
  passkeys : AdminPasskeys
  strategies : StrategyDatabase

/-- What a transaction has written. -/
inductive PasskeyCommit (γ : Type) where
  | stored
  | consumed (call : PasskeyCall γ) (pending : PendingChallenge) (at_ : IsoDatetime)
  | accepted (call : PasskeyCall γ) (current : IsoDatetime)
  | activated (call : PasskeyCall γ) (approvalId : String) (current : IsoDatetime)

/-- Where a connection stands: what it is about to do next. -/
inductive PasskeyPhase (γ : Type) where
  | idle
  | storing (pending : PendingChallenge)
  | selecting (call : PasskeyCall γ)
  | consuming (call : PasskeyCall γ) (pending : PendingChallenge) (at_ : IsoDatetime)
  | verifying (call : PasskeyCall γ) (pending : PendingChallenge)
  | counting (call : PasskeyCall γ) (verified : VerifiedAuthentication) (current : IsoDatetime)
  | accepting (call : PasskeyCall γ) (verified : VerifiedAuthentication) (current : IsoDatetime)
  | activating (call : PasskeyCall γ) (current : IsoDatetime)
  | committing (uncommitted : PasskeyDatabase) (written : PasskeyCommit γ)

/-- An activation that came of a passkey call. -/
structure PasskeyActivation where
  approvalId : String
  scope : ChallengeScope
  at_ : IsoDatetime

/-- The database, the connections, and which of them writes; next to them what was committed. -/
structure PasskeySessions (γ : Type) where
  database : PasskeyDatabase
  clients : Nat → PasskeyPhase γ
  writer : Option Nat
  consumptions : List (ChallengeScope × IsoDatetime)
  activations : List PasskeyActivation

/-- What happens next. -/
inductive PasskeyOp (γ : Type) where
  /-- A challenge is going to be stored. -/
  | store (client : Nat) (pending : PendingChallenge)
  /-- A strategy approval is going to be finished. -/
  | finishStrategyApproval (client : Nat) (scope : ChallengeScope) (credential : γ)
    (origin requestHost : String) (now : Option IsoDatetime) (approvalId : String)
  /-- A login is going to be finished. -/
  | finishLogin (client : Nat) (actor : String) (credential : γ) (origin requestHost : String)
    (now : Option IsoDatetime)
  /-- A connection takes its next step at some time. -/
  | step (client : Nat) (clock : IsoDatetime)
  /-- A connection is lost, or its call raises for another reason. -/
  | crash (client : Nat)

/-- What a step answers. -/
inductive PasskeyAnswer where
  | going
  | raised (error : PasskeyError)
  | refused (error : ActivationError)
  | stored
  | authenticated
  | activated

namespace PasskeySessions

variable {γ : Type}

/-- A database on which no call is under way. -/
def initial (database : PasskeyDatabase) : PasskeySessions γ :=
  ⟨database, fun _ => .idle, none, [], []⟩

/-- Let a connection go on. -/
def goto (state : PasskeySessions γ) (client : Nat) (phase : PasskeyPhase γ) : PasskeySessions γ :=
  { state with clients := Function.update state.clients client phase }

/-- Let a connection begin a call, if it has none. -/
def begin_ (state : PasskeySessions γ) (client : Nat)
    (call : Except PasskeyError (PasskeyPhase γ)) : PasskeyAnswer × PasskeySessions γ :=
  match state.clients client, call with
  | .idle, .ok phase => (.going, state.goto client phase)
  | .idle, .error error => (.raised error, state)
  | _, _ => (.going, state)

/-- Write in a transaction, which waits until no other connection writes. -/
def write (state : PasskeySessions γ) (client : Nat) (written : PasskeyCommit γ)
    (change : Except PasskeyAnswer PasskeyDatabase) : PasskeyAnswer × PasskeySessions γ :=
  match state.writer with
  | some _ => (.going, state)
  | none =>
    match change with
    | .error answer => (answer, state.goto client .idle)
    | .ok database =>
      (.going, { state with writer := some client }.goto client (.committing database written))

/-- Read, and go on or raise. -/
def read (state : PasskeySessions γ) (client : Nat)
    (phase : Except PasskeyError (PasskeyPhase γ)) : PasskeyAnswer × PasskeySessions γ :=
  match phase with
  | .error error => (.raised error, state.goto client .idle)
  | .ok phase => (.going, state.goto client phase)

/-- Commit what was written, and go on. -/
def commit (state : PasskeySessions γ) (client : Nat) (uncommitted : PasskeyDatabase)
    (written : PasskeyCommit γ) : PasskeyAnswer × PasskeySessions γ :=
  let committed : PasskeySessions γ := { state with database := uncommitted, writer := none }
  match written with
  | .stored => (.stored, committed.goto client .idle)
  | .consumed call pending at_ =>
    (.going, { committed with consumptions := state.consumptions ++ [(call.scope, at_)] }.goto
      client (.verifying call pending))
  | .accepted call current =>
    if call.approvalId.isSome then (.going, committed.goto client (.activating call current))
    else (.authenticated, committed.goto client .idle)
  | .activated call approvalId current =>
    let activation : PasskeyActivation := ⟨approvalId, call.scope, current⟩
    (.activated, { committed with activations := state.activations ++ [activation] }.goto client
      .idle)

end PasskeySessions

/-- What the calls are made with from outside: signatures, times as texts, and client data. -/
structure PasskeyWorld (γ : Type) where
  verify : Verifier γ
  fromIsoFormat : String → Except String IsoDatetime
  isoFormat : IsoDatetime → String
  isDict : γ → Bool
  clientChallenge : γ → Except PasskeyError Bytes

namespace PasskeyWorld

variable {γ : Type} (world : PasskeyWorld γ)

/-- Read the passkey of the actor, and verify the assertion with it. -/
def verifyCall (call : PasskeyCall γ) (pending : PendingChallenge) (database : PasskeyDatabase)
    (current : IsoDatetime) : Except PasskeyError VerifiedAuthentication :=
  match database.passkeys.credentialForActor call.scope.actor with
  | none => .error (.permissionError (if call.approvalId.isSome
      then "registered administrator passkey required" else "unknown administrator"))
  | some passkey => do
    let verified ← finishAssertion world.verify pending call.credential passkey call.origin
      call.scope current
    checkAssertion verified passkey.credentialId
    return verified

/-- The activation that an approved call asks for. -/
def activationRequest (call : PasskeyCall γ) (approvalId : String) (current expires : IsoDatetime) :
    StrategyActivationRequest :=
  ⟨call.scope.familyId, call.scope.versionId, call.scope.actor, approvalId, call.scope.familyId,
    call.scope.versionId, call.scope.actor, world.isoFormat current, world.isoFormat expires,
    world.isoFormat current⟩

/-- Activate the version of an approved call, in one transaction with its audit. -/
def activate (call : PasskeyCall γ) (approvalId : String) (database : PasskeyDatabase)
    (current : IsoDatetime) : Except PasskeyAnswer PasskeyDatabase :=
  match current.plusSeconds 30 with
  | none => .error (.raised .overflowError)
  | some expires => do
    let request := world.activationRequest call approvalId current expires
    (TrustedStrategyActivation.authorize world.fromIsoFormat request).mapError .refused
    let strategies ← (TrustedStrategyActivation.transaction request database.strategies).mapError
      .refused
    return { database with strategies }

/-- The next step of a connection. -/
def stepClient (state : PasskeySessions γ) (client : Nat) (clock : IsoDatetime) :
    PasskeyAnswer × PasskeySessions γ :=
  match state.clients client with
  | .idle => (.going, state)
  | .storing pending =>
    state.write client .stored (do
      let challenges ← (state.database.challenges.store world.isoFormat pending).mapError .raised
      return { state.database with challenges })
  | .selecting call =>
    state.read client (do
      let current := call.current clock
      let expiry ← state.database.challenges.select world.fromIsoFormat call.scope current
      return .consuming call ⟨call.scope, expiry, false⟩ current)
  | .consuming call pending at_ =>
    state.write client (.consumed call pending at_) (do
      let challenges ← (state.database.challenges.consume call.scope.challenge).mapError .raised
      return { state.database with challenges })
  | .verifying call pending =>
    state.read client (do
      let current := call.current clock
      let verified ← world.verifyCall call pending state.database current
      return .counting call verified current)
  | .counting call verified current =>
    state.read client (do
      checkCounter (state.database.passkeys.signCount verified.credentialId call.scope.actor)
        verified.newSignCount
      return .accepting call verified current)
  | .accepting call verified current =>
    state.write client (.accepted call current) (.ok { state.database with
      passkeys := state.database.passkeys.setSignCount verified.credentialId call.scope.actor
        verified.newSignCount (world.isoFormat clock) })
  | .activating call current =>
    match call.approvalId with
    | none => (.authenticated, state.goto client .idle)
    | some approvalId =>
      state.write client (.activated call approvalId current)
        (world.activate call approvalId state.database current)
  | .committing uncommitted written => state.commit client uncommitted written

/-- Carry out what happens. -/
def step (state : PasskeySessions γ) : PasskeyOp γ → PasskeyAnswer × PasskeySessions γ
  | .store client pending => state.begin_ client (.ok (.storing pending))
  | .finishStrategyApproval client scope credential origin requestHost now approvalId =>
    state.begin_ client (do
      let call ← PasskeyCall.finishStrategyApproval scope credential world.isDict origin requestHost
        now approvalId
      return .selecting call)
  | .finishLogin client actor credential origin requestHost now =>
    state.begin_ client (do
      let call ← PasskeyCall.finishLogin world.clientChallenge actor credential world.isDict origin
        requestHost now
      return .selecting call)
  | .step client clock => world.stepClient state client clock
  | .crash client =>
    (.going, { state with
      writer := if state.writer = some client then none else state.writer }.goto client .idle)

/-- Passkey calls on any number of connections. -/
def machine : Machine (PasskeySessions γ) (PasskeyOp γ) PasskeyAnswer := ⟨world.step⟩

end PasskeyWorld

end StrategyLab
