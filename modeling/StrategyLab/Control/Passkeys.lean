import Mathlib.Data.List.Sort
import StrategyLab.Control.LiveApproval

/-! The passkeys of the administrators and the challenges that they sign once. -/

namespace StrategyLab

/-- A text of bytes. -/
abbrev Bytes := List UInt8

/-- What a step with a passkey can raise. -/
inductive PasskeyError where
  | permissionError (message : String)
  | integrityError (message : String)
  | typeError (message : String)
  | valueError (message : String)
  | overflowError
  deriving DecidableEq, Repr

/-- A passkey that is registered for an administrator. -/
structure AdminPasskey where
  credentialId : Bytes
  actor : String
  publicKey : Bytes
  signCount : Nat
  createdAt : String
  lastUsedAt : Option String
  deriving DecidableEq

/-- The registered passkeys. -/
abbrev AdminPasskeys := Table AdminPasskey.credentialId

/-- What a signature was found to say. -/
structure VerifiedAuthentication where
  credentialId : Bytes
  newSignCount : Nat
  userVerified : Bool
  deriving DecidableEq

namespace AdminPasskeys

/-- The passkey that was registered last for an administrator. -/
def credentialForActor (passkeys : AdminPasskeys) (actor : String) : Option AdminPasskey :=
  ((passkeys.rows.filter fun row => row.actor = actor).insertionSort
    fun left right => right.createdAt ≤ left.createdAt).head?

/-- The counter that is stored with a passkey of an administrator. -/
def signCount (passkeys : AdminPasskeys) (credentialId : Bytes) (actor : String) : Option Nat :=
  ((passkeys.find? credentialId).filter fun row => row.actor = actor).map (·.signCount)

/-- Store the counter of a passkey, and when it was used. -/
def setSignCount (passkeys : AdminPasskeys) (credentialId : Bytes) (actor : String) (current : Nat)
    (now : String) : AdminPasskeys :=
  passkeys.update (fun row => row.credentialId = credentialId && row.actor = actor)
    (fun row => { row with signCount := current, lastUsedAt := some now }) (fun _ => rfl)

end AdminPasskeys

/-- The checks of an assertion before its counter is looked at. -/
def checkAssertion (verified : VerifiedAuthentication) (expectedCredentialId : Bytes) :
    Except PasskeyError Unit :=
  Raise.ensure (verified.userVerified && verified.credentialId = expectedCredentialId)
    (.permissionError "passkey credential mismatch")

/-- The check of a counter against the one that is stored. -/
def checkCounter (previous : Option Nat) (current : Nat) : Except PasskeyError Unit :=
  match previous with
  | none => .error (.permissionError "passkey not registered")
  | some previous =>
    Raise.ensure (!(previous ≠ 0 && current ≠ 0 && current ≤ previous))
      (.permissionError "sign counter replay")

/-- What a challenge is for. -/
structure ChallengeScope where
  challenge : Bytes
  actor : String
  action : String
  familyId : String
  versionId : String
  deriving DecidableEq

/-- A challenge that waits for its assertion. -/
structure PendingChallenge where
  scope : ChallengeScope
  expiresAt : IsoDatetime
  consumed : Bool := false

/-- A challenge as it is stored. -/
structure StoredChallenge where
  challenge : Bytes
  actor : String
  action : String
  familyId : String
  versionId : String
  expiresAt : String
  consumed : Bool
  deriving DecidableEq

/-- What a stored challenge is for. -/
def StoredChallenge.scope (row : StoredChallenge) : ChallengeScope :=
  ⟨row.challenge, row.actor, row.action, row.familyId, row.versionId⟩

/-- The stored challenges. -/
abbrev PasskeyChallenges := Table StoredChallenge.challenge

namespace PasskeyChallenges

variable (fromIsoFormat : String → Except String IsoDatetime) (isoFormat : IsoDatetime → String)

/-- Store a challenge under a key that is free. -/
def store (challenges : PasskeyChallenges) (pending : PendingChallenge) :
    Except PasskeyError PasskeyChallenges :=
  match challenges.insert? ⟨pending.scope.challenge, pending.scope.actor, pending.scope.action,
    pending.scope.familyId, pending.scope.versionId, isoFormat pending.expiresAt, false⟩ with
  | none => .error (.integrityError "UNIQUE constraint failed: gaon_passkey_challenges.challenge")
  | some stored => .ok stored

/-- Whether a time is after another one, if both or neither name their distance from UTC. -/
def isAfter (left right : IsoDatetime) : Except PasskeyError Bool :=
  if left.utcOffset.isSome = right.utcOffset.isSome then .ok (right.moment < left.moment)
  else .error (.typeError "can't compare offset-naive and offset-aware datetimes")

/-- Find a challenge that is open and for this very scope, and read when it expires. -/
def select (challenges : PasskeyChallenges) (scope : ChallengeScope) (current : IsoDatetime) :
    Except PasskeyError IsoDatetime := do
  Raise.ensure current.utcOffset.isSome (.permissionError "timezone required")
  match challenges.find? scope.challenge with
  | none => .error (.permissionError "challenge not found or already consumed")
  | some row => do
    Raise.ensure (row.scope = scope && !row.consumed)
      (.permissionError "challenge not found or already consumed")
    let expiry ← (fromIsoFormat row.expiresAt).mapError .valueError
    let late ← isAfter current expiry
    Raise.ensure (!late) (.permissionError "challenge expired")
    return expiry

/-- Mark a challenge as consumed, if it is not. -/
def consume (challenges : PasskeyChallenges) (challenge : Bytes) :
    Except PasskeyError PasskeyChallenges :=
  match challenges.find? challenge with
  | none => .error (.permissionError "challenge replay")
  | some row => do
    Raise.ensure (!row.consumed) (.permissionError "challenge replay")
    return challenges.update (fun row => row.challenge = challenge && !row.consumed)
      (fun row => { row with consumed := true }) (fun _ => rfl)

end PasskeyChallenges

/-- The host of the administration. -/
def rpId : String := "mymoneyguard.tail56fef5.ts.net"

/-- The origins that are trusted, each with its host. -/
def allowedOrigins : List (String × String) :=
  [("https://" ++ rpId, rpId), ("https://" ++ rpId ++ ":8443", rpId ++ ":8443")]

/-- Check where a request comes from. -/
def validateOrigin (origin requestHost : String) : Except PasskeyError String :=
  match allowedOrigins.find? fun allowed => allowed.1 = origin with
  | none => .error (.permissionError "untrusted WebAuthn origin")
  | some (_, netloc) => do
    Raise.ensure (requestHost = rpId || requestHost = rpId ++ ":8443")
      (.permissionError "untrusted request host")
    Raise.ensure (netloc = requestHost) (.permissionError "cross-origin admin request")
    return origin

/-- What a signature is verified against. -/
structure VerifyRequest (γ : Type) where
  credential : γ
  expectedChallenge : Bytes
  expectedRpId : String
  expectedOrigin : String
  credentialPublicKey : Bytes
  credentialCurrentSignCount : Nat

/-- What stops a verification: the signature, or anything else. -/
inductive VerifyError where
  | webAuthn
  | other (raised : PasskeyError)

/-- How signatures are verified. -/
abbrev Verifier (γ : Type) := VerifyRequest γ → Except VerifyError VerifiedAuthentication

/-- Verify the signature over a pending challenge, for the scope it was made for. -/
def finishAssertion {γ : Type} (verify : Verifier γ) (pending : PendingChallenge) (credential : γ)
    (passkey : AdminPasskey) (origin : String) (scope : ChallengeScope) (current : IsoDatetime) :
    Except PasskeyError VerifiedAuthentication := do
  Raise.ensure (!pending.consumed) (.permissionError "challenge expired or consumed")
  let late ← PasskeyChallenges.isAfter current pending.expiresAt
  Raise.ensure (!late && current.utcOffset.isSome)
    (.permissionError "challenge expired or consumed")
  Raise.ensure (pending.scope = scope) (.permissionError "passkey scope mismatch")
  match verify ⟨credential, pending.scope.challenge, rpId, origin, passkey.publicKey,
    passkey.signCount⟩ with
  | .ok verified => return verified
  | .error .webAuthn => .error (.permissionError "passkey assertion verification failed")
  | .error (.other raised) => .error raised

/-- A call that answers a challenge: to log in, or to activate a version under a fresh approval. -/
structure PasskeyCall (γ : Type) where
  scope : ChallengeScope
  credential : γ
  origin : String
  now : Option IsoDatetime
  approvalId : Option String
  strategic : approvalId.isSome → scope.action = "activate" ∨ scope.action = "rollback"

namespace PasskeyCall

variable {γ : Type}

/-- Begin to finish the approval of a strategy, with the id its activation is going to have. -/
def finishStrategyApproval (scope : ChallengeScope) (credential : γ) (isDict : γ → Bool)
    (origin requestHost : String) (now : Option IsoDatetime) (approvalId : String) :
    Except PasskeyError (PasskeyCall γ) := do
  let validated ← validateOrigin origin requestHost
  if action : scope.action = "activate" ∨ scope.action = "rollback" then
    Raise.ensure (isDict credential) (.permissionError "invalid passkey assertion")
    return ⟨scope, credential, validated, now, some approvalId, fun _ => action⟩
  else .error (.permissionError "invalid strategy action")

/-- Begin to finish a login. -/
def finishLogin (clientChallenge : γ → Except PasskeyError Bytes) (actor : String) (credential : γ)
    (isDict : γ → Bool) (origin requestHost : String) (now : Option IsoDatetime) :
    Except PasskeyError (PasskeyCall γ) := do
  let _ ← validateOrigin origin requestHost
  Raise.ensure (isDict credential) (.permissionError "invalid login")
  let challenge ← clientChallenge credential
  return ⟨⟨challenge, actor, "login", "admin", "session"⟩, credential, origin, now, none,
    fun some_ => by cases some_⟩

/-- The time that a call goes by. -/
def current (call : PasskeyCall γ) (clock : IsoDatetime) : IsoDatetime := call.now.getD clock

end PasskeyCall

end StrategyLab
