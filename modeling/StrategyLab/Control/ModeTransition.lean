import StrategyLab.Lib.Attempt
import StrategyLab.Lib.Python

/-! Trading modes, and one attempt to move from one of them to another. -/

namespace StrategyLab

/-- What trading is done with. -/
inductive Mode where
  | demo
  | live
  | unknown
  deriving DecidableEq, Repr

/-- Whether the service runs. -/
inductive ServiceState where
  | running
  | stopped
  | unknown
  deriving DecidableEq, Repr

/-- Whether the risk guard was set off. -/
inductive RiskGuardState where
  | ok
  | triggered
  | unknown
  deriving DecidableEq, Repr

/-- How far a transition has come. -/
inductive TransitionState where
  | idle
  | requested
  | entryBlocked
  | sourceVerified
  | positionsVerified
  | serviceStopped
  | targetVerified
  | serviceStarted
  | effectiveModeVerified
  | complete
  | failedClosed
  deriving DecidableEq, Repr

/-- What is known of the mode that trading is done in. -/
structure TradingModeControllerState where
  desiredMode : Mode
  effectiveMode : Mode
  serviceState : ServiceState
  credentialProfile : String
  strategyVersion : Option String
  transitionState : TransitionState
  entryBlocked : Bool
  riskGuardState : RiskGuardState
  lastVerification : Option String
  lastError : Option String
  deriving DecidableEq

namespace TradingModeControllerState

/-- Whether the mode is not known, or a transition failed. -/
def isFailClosed (state : TradingModeControllerState) : Bool :=
  state.effectiveMode = .unknown || state.transitionState = .failedClosed

/-- Whether positions may be entered. -/
def entryAllowed (state : TradingModeControllerState) : Bool :=
  !(state.entryBlocked || state.isFailClosed || state.effectiveMode = .unknown ||
    state.riskGuardState ≠ .ok)

end TradingModeControllerState

/-- What came of a transition. -/
inductive TransitionOutcome where
  | complete
  | failedClosed
  deriving DecidableEq, Repr

/-- The end of a transition, with the states it went through. -/
structure TransitionResult where
  outcome : TransitionOutcome
  state : TradingModeControllerState
  visited : List TransitionState

/-- The credentials of a mode. -/
def profileFor (mode : Mode) : String := if mode = .live then "live" else "demo"

/-- What ends a transition early: a step that failed, or an exception of another type. -/
inductive TransitionError where
  | stepFailure (reason : String) (effectiveMode : Option Mode)
  | unexpected (typeName : String)
  deriving DecidableEq

/-- What a call answers, unless it raises. -/
abbrev Answer (α : Type) := Except TransitionError α

/-- What is called in a transition. -/
inductive TransitionCall where
  | liveApproval
  | sourceMode
  | positionsSafe
  | stop
  | targetAccount (profile : String)
  | start
  | effectiveMode
  | clock
  deriving DecidableEq

/-- A state that is reached in a transition, or a call that is made. -/
inductive TransitionEvent where
  | reached (state : TransitionState)
  | asked (call : TransitionCall)
  deriving DecidableEq

/-- What the service, the verifiers and the clock answer in a transition. -/
structure TransitionCalls where
  sourceMode : Answer Mode
  positionsSafe : Answer Bool
  stop : Answer Unit
  targetAccount : String → Answer Bool
  start : Answer Unit
  effectiveMode : Answer Mode
  clock : Answer String

/-- One attempt to move to a mode. -/
structure ModeTransition where
  start : TradingModeControllerState
  target : Mode
  calls : TransitionCalls

/-- The states among events. -/
def visitedStates (events : List TransitionEvent) : List TransitionState :=
  events.filterMap fun
    | .reached state => some state
    | .asked _ => none

namespace ModeTransition

/-- A part of a transition, which notes what happens in it. -/
abbrev Part (α : Type) := EStateM TransitionError (List TransitionEvent) α

/-- Go on to a state. -/
def advance (state : TransitionState) : Part Unit := modify (· ++ [.reached state])

/-- Make a call. -/
def ask {α : Type} (call : TransitionCall) (answer : Answer α) : Part α := do
  modify (· ++ [.asked call])
  match answer with
  | .ok value => pure value
  | .error raised => throw raised

/-- Fail unless a check holds. -/
def ensure (check : Bool) (reason : String) (effectiveMode : Option Mode) : Part Unit :=
  if check then pure () else throw (.stepFailure reason effectiveMode)

variable (transition : ModeTransition) (approval : Answer Bool)

/-- The approval that only a move to live trading needs. -/
def requireApproval : Part Unit :=
  if transition.target = .live then do
    let approved ← ask .liveApproval approval
    ensure approved "DEMO->LIVE transition requires explicit transition-scoped approval" none
  else pure ()

/-- The steps that leave the service alone. -/
def verifySource : Part Unit := do
  advance .requested
  transition.requireApproval approval
  advance .entryBlocked
  advance .sourceVerified
  let source ← ask .sourceMode transition.calls.sourceMode
  ensure (source = transition.start.effectiveMode) "source mode verification mismatch" none
  advance .positionsVerified
  let safe ← ask .positionsSafe transition.calls.positionsSafe
  ensure safe "open position ownership/protection not safe to transition" none

/-- The state that a transition ends in when all of its steps succeed. -/
def completed (at_ : String) : TradingModeControllerState :=
  { transition.start with
    transitionState := .complete
    effectiveMode := transition.target
    desiredMode := transition.target
    credentialProfile := profileFor transition.target
    entryBlocked := false
    lastVerification := some at_
    lastError := none }

/-- The steps that stop the service and start it in the new mode. -/
def switchService : Part TradingModeControllerState := do
  advance .serviceStopped
  ask .stop transition.calls.stop
  advance .targetVerified
  let profile := profileFor transition.target
  let verified ← ask (.targetAccount profile) (transition.calls.targetAccount profile)
  ensure verified "target account/credential-profile verification failed" (some .unknown)
  advance .serviceStarted
  ask .start transition.calls.start
  advance .effectiveModeVerified
  let effective ← ask .effectiveMode transition.calls.effectiveMode
  ensure (effective = transition.target) "effective mode after restart does not match target"
    (some .unknown)
  advance .complete
  let at_ ← ask .clock transition.calls.clock
  return transition.completed at_

/-- The steps of a transition. -/
def attempt : Part TradingModeControllerState := do
  transition.verifySource approval
  transition.switchService

/-- Whether the service was touched. -/
def serviceTouched (events : List TransitionEvent) : Bool :=
  events.contains (.reached .serviceStopped)

/-- The state that a transition ends in when one of its steps fails. -/
def failed (raised : TransitionError) (touched : Bool) : TradingModeControllerState :=
  let ended : Mode × String := match raised with
    | .stepFailure reason (some effectiveMode) => (effectiveMode, reason)
    | .stepFailure reason none =>
      (if touched then .unknown else transition.start.effectiveMode, reason)
    | .unexpected typeName => (.unknown, "transition aborted: " ++ typeName)
  { transition.start with
    transitionState := .failedClosed
    effectiveMode := ended.1
    entryBlocked := true
    lastError := some ended.2 }

/-- What happens when a step fails: a service that was touched is started, whatever it answers. -/
def closingEvents (events : List TransitionEvent) : List TransitionEvent :=
  events ++ (if serviceTouched events then [.asked .start] else []) ++ [.reached .failedClosed]

/-- Carry out a transition, and note what happens. -/
def execute : TransitionResult × List TransitionEvent :=
  match (transition.attempt approval).run [] with
  | .ok state events => (⟨.complete, state, visitedStates events⟩, events)
  | .error raised events =>
    (⟨.failedClosed, transition.failed raised (serviceTouched events),
      visitedStates (closingEvents events)⟩, closingEvents events)

end ModeTransition

end StrategyLab
