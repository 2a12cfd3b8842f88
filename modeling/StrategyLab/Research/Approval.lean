import StrategyLab.Lib.Dict
import StrategyLab.Lib.Machine
import StrategyLab.Lib.Raise

/-! Approvals of research: signed when they are asked for, given once, and consumed by one run. -/

namespace StrategyLab.Research

/-- Where an approval stands. -/
inductive ApprovalStatus where
  | pending
  | approved
  | rejected
  | expired
  | consumed
  | cancelled
  deriving DecidableEq

/-- What stops a call on approvals. -/
inductive ApprovalError where
  | permissionError (text : String)
  | valueError (text : String)
  | keyError (key : String)
  deriving DecidableEq

/-- How a payload is authenticated: no two payloads have the same digest. -/
structure ApprovalMac where
  /-- The digest in hexadecimal, of a key and a payload. -/
  hexdigest : String → String → String
  collisionFree : ∀ key payload key' payload', hexdigest key payload = hexdigest key' payload' →
    payload = payload'

/-- What the digest of a token is made of. -/
structure ApprovalPayload where
  proposalId : String
  approvalId : String
  actor : String
  chatId : String
  issuedAt : String
  expiresAt : String
  nonce : String
  token : String
  deriving DecidableEq

/-- The parts of a payload, in the order they are signed in. -/
def ApprovalPayload.parts (payload : ApprovalPayload) : List String :=
  [payload.proposalId, payload.approvalId, payload.actor, payload.chatId, payload.issuedAt,
    payload.expiresAt, payload.nonce, payload.token]

/-- An approval that was asked for. -/
structure ApprovalRequest where
  approvalId : String
  proposalId : String
  requestedActor : String
  requestedChatId : String
  tokenDigest : String
  issuedAt : String
  expiresAt : String
  nonce : String
  status : ApprovalStatus := .pending
  consumedByRunId : Option String := none
  deriving DecidableEq

/-- What is decided about an approval. -/
structure ApprovalDecision where
  approvalId : String
  proposalId : String
  actor : String
  chatId : String
  token : String
  approved : Bool

/-- What a new approval is made of. -/
structure ApprovalCreation where
  approvalId : String
  proposalId : String
  actor : String
  chatId : String
  token : String
  issuedAt : String
  expiresAt : String
  signingSecret : String
  nonce : Option String
  tokenUrlsafe : String

/-- What a run consumes an approval with. -/
structure ApprovalUse where
  proposalId : String
  runId : String
  actor : String
  chatId : String
  token : String
  now : String
  signingSecret : String

/-- The nonce of a new approval: the given one, or else a fresh one. -/
def ApprovalCreation.nonceValue (creation : ApprovalCreation) : String :=
  match creation.nonce with
  | none => creation.tokenUrlsafe
  | some nonce => if nonce = "" then creation.tokenUrlsafe else nonce

/-- What the digest of a new approval is made of. -/
def ApprovalCreation.payload (creation : ApprovalCreation) : ApprovalPayload :=
  ⟨creation.proposalId, creation.approvalId, creation.actor, creation.chatId, creation.issuedAt,
    creation.expiresAt, creation.nonceValue, creation.token⟩

/-- What the digest of an approval is made of if its token is this one. -/
def ApprovalRequest.payload (request : ApprovalRequest) (token : String) : ApprovalPayload :=
  ⟨request.proposalId, request.approvalId, request.requestedActor, request.requestedChatId,
    request.issuedAt, request.expiresAt, request.nonce, token⟩

variable (mac : ApprovalMac)

/-- Sign a payload: its parts, one on each line. -/
def signApprovalToken (payload : ApprovalPayload) (signingSecret : String) :
    Except ApprovalError String := do
  Raise.ensure (signingSecret ≠ "") (.valueError "approval signing secret is required")
  return mac.hexdigest signingSecret ("\n".intercalate payload.parts)

/-- Whether a token is the one that an approval was signed with. -/
def verifyApprovalToken (request : ApprovalRequest) (token signingSecret : String) :
    Except ApprovalError Bool := do
  let expected ← signApprovalToken mac (request.payload token) signingSecret
  return expected = request.tokenDigest

/-- Check a decision on an approval. -/
def validateApproval (request : ApprovalRequest) (decision : ApprovalDecision)
    (now signingSecret : String) : Except ApprovalError Unit := do
  Raise.ensure (decision.proposalId = request.proposalId && decision.approvalId = request.approvalId)
    (.permissionError "approval target mismatch")
  Raise.ensure (decision.actor = request.requestedActor &&
    decision.chatId = request.requestedChatId) (.permissionError "approval actor mismatch")
  Raise.ensure (request.status = .pending) (.permissionError "approval is not pending")
  let right ← verifyApprovalToken mac request decision.token signingSecret
  Raise.ensure right (.permissionError "approval token mismatch")
  Raise.ensure (¬request.expiresAt < now) (.permissionError "approval expired")
  Raise.ensure decision.approved (.permissionError "approval rejected")

/-- Ask for an approval, which is signed at once. -/
def createApprovalRequest (creation : ApprovalCreation) : Except ApprovalError ApprovalRequest := do
  let tokenDigest ← signApprovalToken mac creation.payload creation.signingSecret
  return {
    approvalId := creation.approvalId
    proposalId := creation.proposalId
    requestedActor := creation.actor
    requestedChatId := creation.chatId
    tokenDigest
    issuedAt := creation.issuedAt
    expiresAt := creation.expiresAt
    nonce := creation.nonceValue }

namespace ApprovalRequest

/-- Give the approval. -/
def approve (request : ApprovalRequest) (decision : ApprovalDecision) (now signingSecret : String) :
    Except ApprovalError ApprovalRequest := do
  validateApproval mac request decision now signingSecret
  return { request with status := .approved }

/-- Consume the approval for a run. -/
def consume (request : ApprovalRequest) (use : ApprovalUse) :
    Except ApprovalError ApprovalRequest := do
  Raise.ensure (request.status = .approved) (.permissionError "approval is not approved")
  Raise.ensure (¬request.expiresAt < use.now) (.permissionError "approval expired")
  Raise.ensure (use.actor = request.requestedActor && use.chatId = request.requestedChatId)
    (.permissionError "approval actor mismatch")
  let right ← verifyApprovalToken mac request use.token use.signingSecret
  Raise.ensure right (.permissionError "approval token mismatch")
  return { request with status := .consumed, consumedByRunId := some use.runId }

end ApprovalRequest

/-- The approvals in memory, under their ids. -/
abbrev InMemoryApprovalStore := Table ApprovalRequest.approvalId

namespace InMemoryApprovalStore

/-- Add an approval under an id that is new. -/
def add (store : InMemoryApprovalStore) (approval : ApprovalRequest) :
    Except ApprovalError InMemoryApprovalStore :=
  match store.insert? approval with
  | none => .error (.valueError "duplicate approval id")
  | some added => .ok added

/-- Approve the approval that a decision names. -/
def approve (store : InMemoryApprovalStore) (decision : ApprovalDecision)
    (now signingSecret : String) : Except ApprovalError (ApprovalRequest × InMemoryApprovalStore) :=
  match store.find? decision.approvalId with
  | none => .error (.keyError decision.approvalId)
  | some request => do
    let approved ← request.approve mac decision now signingSecret
    return (approved, store.assign approved)

/-- The approval of a proposal that was added first. -/
def first? (store : InMemoryApprovalStore) (proposalId : String) : Option ApprovalRequest :=
  store.rows.find? fun approval => approval.proposalId = proposalId

/-- Consume the first approval of a proposal. -/
def consume (store : InMemoryApprovalStore) (use : ApprovalUse) :
    Except ApprovalError (ApprovalRequest × InMemoryApprovalStore) :=
  match store.first? use.proposalId with
  | none => .error (.keyError use.proposalId)
  | some request => do
    let consumed ← request.consume mac use
    return (consumed, store.assign consumed)

end InMemoryApprovalStore

/-- What is asked of the store. Its lock lets one call in after the other. -/
inductive ApprovalOp where
  | add (creation : ApprovalCreation)
  | approve (decision : ApprovalDecision) (now signingSecret : String)
  | consume (use : ApprovalUse)

/-- What the store answers. -/
inductive ApprovalAnswer where
  | added (approval : ApprovalRequest)
  | approved (approval : ApprovalRequest)
  | consumed (approval : ApprovalRequest)
  | raised (error : ApprovalError)
  deriving DecidableEq

namespace InMemoryApprovalStore

/-- The store, with all that is asked of it one after the other. -/
def machine : Machine InMemoryApprovalStore ApprovalOp ApprovalAnswer where
  step store
    | .add creation =>
      match (do
        let approval ← createApprovalRequest mac creation
        return (approval, ← store.add approval)) with
      | .ok (approval, added) => (.added approval, added)
      | .error error => (.raised error, store)
    | .approve decision now signingSecret =>
      match store.approve mac decision now signingSecret with
      | .ok (approval, changed) => (.approved approval, changed)
      | .error error => (.raised error, store)
    | .consume use =>
      match store.consume mac use with
      | .ok (approval, changed) => (.consumed approval, changed)
      | .error error => (.raised error, store)

end InMemoryApprovalStore

end StrategyLab.Research
