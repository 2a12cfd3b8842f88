import StrategyLab.Control.ModeTransition
import StrategyLab.Control.TrustedStrategyActivation
import StrategyLab.Lib.Dict

/-! Approvals of a move to live trading: how they are issued, and how a transition spends one. -/

namespace StrategyLab

/-- What an approval of a move to live trading is meant for. -/
def liveTransitionIntent : String := "demo_to_live"

/-- A ticket for one transition. -/
structure TransitionApproval where
  approvalId : String
  fromMode : Mode
  toMode : Mode
  intent : String
  issuedAt : String
  expiresAt : String
  issuedBy : String
  deriving DecidableEq

/-- What makes a ticket invalid, or cannot be read as a time. -/
inductive ApprovalError where
  | approvalError (reason : String) (message : String)
  | valueError (message : String)
  deriving DecidableEq

/-- What stops a ticket from being issued. -/
inductive IssueError where
  | valueError (message : String)
  | overflowError
  deriving DecidableEq

namespace IsoDatetime

/-- A time that names no distance from UTC is taken to be in UTC. -/
def aware (d : IsoDatetime) : IsoDatetime := { d with utcOffset := some (d.utcOffset.getD 0) }

/-- The moment of a time. -/
def moment (d : IsoDatetime) : Int := d.local_ - d.utcOffset.getD 0

/-- Where the tenth millennium begins, in microseconds since 1970. -/
def limit : Int := 253402300800 * 1000000

/-- The time some seconds later, unless that is in a year of five digits. -/
def plusSeconds (d : IsoDatetime) (seconds : Nat) : Option IsoDatetime :=
  let later := d.local_ + seconds * 1000000
  if later < limit then some { d with local_ := later } else none

end IsoDatetime

/-- The tickets that were issued, and the ids of those that were spent. -/
structure ApprovalRegistry where
  issued : Table TransitionApproval.approvalId
  consumed : List String

namespace ApprovalRegistry

/-- A registry that has issued nothing. -/
def fresh : ApprovalRegistry := ⟨Table.empty, []⟩

variable (fromIsoFormat : String → Except String IsoDatetime) (isoFormat : IsoDatetime → String)

/-- The time that a text names. -/
def parse (ts : String) : Except String IsoDatetime := do
  let dt ← fromIsoFormat (Py.replace ts "Z" "+00:00")
  return dt.aware

/-- Issue a ticket under an id that was just drawn. -/
def issue (registry : ApprovalRegistry) (approvalId : String) (fromMode toMode : Mode)
    (intent now : String) (ttlSeconds : Int) (issuedBy : String) :
    Except IssueError TransitionApproval × ApprovalRegistry :=
  match parse fromIsoFormat now with
  | .error message => (.error (.valueError message), registry)
  | .ok dt =>
    match dt.plusSeconds (max 1 ttlSeconds).toNat with
    | none => (.error .overflowError, registry)
    | some expires =>
      let ticket : TransitionApproval := ⟨approvalId, fromMode, toMode, intent, now,
        Py.replace (isoFormat expires) "+00:00" "Z", issuedBy⟩
      (.ok ticket, { registry with issued := registry.issued.assign ticket })

/-- Whether a ticket was spent. -/
def isConsumed (registry : ApprovalRegistry) (approvalId : String) : Bool :=
  registry.consumed.contains approvalId

/-- The checks of a ticket, in the order in which they are made. -/
def validate (registry : ApprovalRegistry) (approvalId : String) (fromMode toMode : Mode)
    (intent now : String) : Except ApprovalError TransitionApproval :=
  match registry.issued.find? approvalId with
  | none => .error (.approvalError "no_approval" "no such transition approval")
  | some ticket => do
    Raise.ensure (!registry.isConsumed approvalId)
      (.approvalError "already_consumed" "this transition approval was already used")
    let nowAt ← (parse fromIsoFormat now).mapError .valueError
    let expires ← (parse fromIsoFormat ticket.expiresAt).mapError .valueError
    Raise.ensure (nowAt.moment ≤ expires.moment)
      (.approvalError "stale" "this transition approval has expired")
    Raise.ensure (ticket.fromMode = fromMode && ticket.toMode = toMode)
      (.approvalError "wrong_transition" "approval is for a different mode transition")
    Raise.ensure (ticket.intent = intent)
      (.approvalError "wrong_intent" "approval is for a different intent")
    return ticket

/-- Spend a ticket, if it is valid. -/
def validateAndConsume (registry : ApprovalRegistry) (approvalId : String) (fromMode toMode : Mode)
    (intent now : String) : Except ApprovalError TransitionApproval × ApprovalRegistry :=
  match validate fromIsoFormat registry approvalId fromMode toMode intent now with
  | .error raised => (.error raised, registry)
  | .ok ticket => (.ok ticket, { registry with consumed := approvalId :: registry.consumed })

/-- Whether a ticket allows a move to live trading; if it does, it is spent. -/
def requireLiveApproval (registry : ApprovalRegistry) (approvalId now : String) :
    Answer Bool × ApprovalRegistry :=
  match validateAndConsume fromIsoFormat registry approvalId .demo .live liveTransitionIntent
    now with
  | (.ok _, spent) => (.ok true, spent)
  | (.error (.approvalError _ _), kept) => (.ok false, kept)
  -- Only the errors of an approval are caught here.
  | (.error (.valueError _), kept) => (.error (.unexpected "ValueError"), kept)

end ApprovalRegistry

/-- What is asked of the registry: to issue a ticket, or to approve a transition. -/
inductive ApprovalOp where
  | issue (approvalId : String) (fromMode toMode : Mode) (intent now : String) (ttlSeconds : Int)
      (issuedBy : String)
  | execute (transition : ModeTransition) (withRegistry : Bool) (approvalId : Option String)
      (clock : Answer String)

/-- What comes of it. -/
inductive ApprovalAnswer where
  | issued (ticket : Except IssueError TransitionApproval)
  | executed (approval : Answer Bool) (result : TransitionResult)

namespace ApprovalRegistry

variable (fromIsoFormat : String → Except String IsoDatetime) (isoFormat : IsoDatetime → String)

/-- Whether a transition is approved that nobody approved directly. -/
def liveTransitionApproved (registry : ApprovalRegistry) (withRegistry : Bool)
    (approvalId : Option String) (clock : Answer String) : Answer Bool × ApprovalRegistry :=
  match approvalId with
  | none => (.ok false, registry)
  | some approvalId =>
    if withRegistry && approvalId ≠ "" then
      match clock with
      | .error raised => (.error raised, registry)
      | .ok now => requireLiveApproval fromIsoFormat registry approvalId now
    else (.ok false, registry)

/-- Only a transition to live trading asks for an approval. -/
def approve (registry : ApprovalRegistry) (transition : ModeTransition) (withRegistry : Bool)
    (approvalId : Option String) (clock : Answer String) : Answer Bool × ApprovalRegistry :=
  if transition.target = .live then
    liveTransitionApproved fromIsoFormat registry withRegistry approvalId clock
  else (.ok false, registry)

/-- The registry, with all that is asked of it one after the other. -/
def machine : Machine ApprovalRegistry ApprovalOp ApprovalAnswer where
  step registry
    | .issue approvalId fromMode toMode intent now ttlSeconds issuedBy =>
      let (ticket, after) := issue fromIsoFormat isoFormat registry approvalId fromMode toMode
        intent now ttlSeconds issuedBy
      (.issued ticket, after)
    | .execute transition withRegistry approvalId clock =>
      let (approval, after) := approve fromIsoFormat registry transition withRegistry approvalId
        clock
      (.executed approval (transition.execute approval).1, after)

end ApprovalRegistry

end StrategyLab
