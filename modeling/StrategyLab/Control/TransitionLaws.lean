import StrategyLab.Control.ModeTransition

/-! What a transition guarantees: it is completed only when all is verified, and closed otherwise. -/

namespace StrategyLab.ModeTransition

section

variable {α β : Type} {returns : β → List TransitionEvent → Prop}
  {raises : TransitionError → List TransitionEvent → Prop} {events : List TransitionEvent}

/-- A state that is reached is noted. -/
@[simp] theorem ends_advance (state : TransitionState)
    {returns : Unit → List TransitionEvent → Prop} :
    Attempt.Ends (advance state) returns raises events ↔
      returns () (events ++ [.reached state]) := Iff.rfl

/-- A call is noted, whether it is answered or raises. -/
theorem ends_ask {call : TransitionCall} {answer : Answer β}
    (told : ∀ value, answer = .ok value → returns value (events ++ [.asked call]))
    (failed : (∀ value, answer ≠ .ok value) → ∀ raised, raises raised (events ++ [.asked call])) :
    Attempt.Ends (ask call answer) returns raises events := by
  simp only [ask, Attempt.ends_bind, Attempt.ends_modify]
  cases answer with
  | ok value => exact told value rfl
  | error raised => exact failed (fun _ same => by cases same) raised

/-- A call whose answer is checked ends a transition exactly if it raises or the check fails. -/
theorem ends_verify {call : TransitionCall} {answer : Answer α} {check : α → Bool}
    {reason : String} {effectiveMode : Option Mode} {rest : Part β}
    (passed : (∃ value, answer = .ok value ∧ check value) →
      Attempt.Ends rest returns raises (events ++ [.asked call]))
    (failed : (¬∃ value, answer = .ok value ∧ check value) →
      ∀ raised, raises raised (events ++ [.asked call])) :
    Attempt.Ends (do
      let value ← ask call answer
      ensure (check value) reason effectiveMode
      rest) returns raises events := by
  rw [Attempt.ends_bind]
  refine ends_ask (fun value told => ?_) (fun untold => failed fun ⟨value, told, _⟩ =>
    untold value told)
  rw [Attempt.ends_bind]
  by_cases holds : check value = true
  · simp only [ensure, if_pos holds, Attempt.ends_pure]
    exact passed ⟨value, told, holds⟩
  · simp only [ensure, if_neg holds, Attempt.ends_throw]
    refine failed (fun ⟨other, same, good⟩ => holds ?_) _
    rw [told] at same
    cases same
    exact good

end

variable (transition : ModeTransition) (approval : Answer Bool)

/-- Whether a transition has the approval that it needs. -/
def Approved : Prop := transition.target = .live → approval = .ok true

/-- What has to be found before the service is touched. -/
structure SourceVerified : Prop where
  approved : transition.Approved approval
  source : transition.calls.sourceMode = .ok transition.start.effectiveMode
  positions : transition.calls.positionsSafe = .ok true

/-- What has to be found of the service and the mode it is started in. -/
structure TargetVerified : Prop where
  stopped : transition.calls.stop = .ok ()
  account : transition.calls.targetAccount (profileFor transition.target) = .ok true
  started : transition.calls.start = .ok ()
  effective : transition.calls.effectiveMode = .ok transition.target
  timed : ∃ at_, transition.calls.clock = .ok at_

/-- The question for an approval, where one is needed. -/
def approvalEvents : List TransitionEvent :=
  if transition.target = .live then [.asked .liveApproval] else []

/-- What happens before the service is touched. -/
def sourceEvents : List TransitionEvent :=
  [.reached .requested] ++ transition.approvalEvents ++
    [.reached .entryBlocked, .reached .sourceVerified, .asked .sourceMode,
      .reached .positionsVerified, .asked .positionsSafe]

/-- What happens from then on. -/
def targetEvents : List TransitionEvent :=
  [.reached .serviceStopped, .asked .stop, .reached .targetVerified,
    .asked (.targetAccount (profileFor transition.target)), .reached .serviceStarted,
    .asked .start, .reached .effectiveModeVerified, .asked .effectiveMode, .reached .complete,
    .asked .clock]

/-- The approval is asked for where it is needed, and has to be given. -/
theorem requireApproval_ends (events : List TransitionEvent) :
    Attempt.Ends (transition.requireApproval approval)
      (fun _ after => transition.Approved approval ∧ after = events ++ transition.approvalEvents)
      (fun _ after => ¬transition.Approved approval ∧
        after = events ++ transition.approvalEvents) events := by
  by_cases live : transition.target = .live
  · -- The answer counts: a refusal fails this step, and so does an exception.
    simp only [requireApproval, approvalEvents, if_pos live, Attempt.ends_bind]
    refine ends_ask (fun value told => ?_) (fun untold _ => ⟨fun approved =>
      untold true (approved live), rfl⟩)
    cases value with
    | true => exact ⟨fun _ => told, rfl⟩
    | false =>
      refine ⟨fun approved => ?_, rfl⟩
      rw [approved live] at told
      cases told
  · -- Any other target needs no approval, and nothing is asked.
    simp only [requireApproval, approvalEvents, if_neg live, Attempt.ends_pure, List.append_nil]
    exact ⟨fun same => absurd same live, trivial⟩

/-- Neither the question for an approval nor what comes before it touches the service. -/
theorem approvalEvents_calm :
    .reached .serviceStopped ∉ transition.approvalEvents ∧
      .asked .stop ∉ transition.approvalEvents := by
  unfold approvalEvents
  split <;> simp

/-- The first steps succeed exactly when the source is verified, and never touch the service. -/
theorem verifySource_ends :
    Attempt.Ends (transition.verifySource approval)
      (fun _ events => transition.SourceVerified approval ∧ events = transition.sourceEvents)
      (fun _ events => ¬transition.SourceVerified approval ∧ serviceTouched events = false ∧
        .asked .stop ∉ events) [] := by
  obtain ⟨calm, unstopped⟩ := transition.approvalEvents_calm
  simp only [verifySource, Attempt.ends_bind, ends_advance]
  refine (transition.requireApproval_ends approval _).imp ?_ ?_
  · intro _ events told
    obtain ⟨approved, rfl⟩ := told
    refine ends_verify (fun source => ?_) (fun missing raised => ⟨fun verified =>
      missing ⟨_, verified.source, decide_eq_true rfl⟩, ?_, ?_⟩)
    · -- The source is the mode that was recorded, so the positions are looked at next.
      obtain ⟨mode, found, same⟩ := source
      rw [Attempt.ends_bind, ends_advance, Attempt.ends_bind]
      refine ends_ask (fun safe answered => ?_) (fun untold raised => ⟨fun verified =>
        untold true verified.positions, ?_, ?_⟩)
      · cases safe with
        | true =>
          rw [of_decide_eq_true same] at found
          refine ⟨⟨approved, found, answered⟩, ?_⟩
          simp [sourceEvents]
        | false =>
          refine ⟨fun verified => ?_, by simp [serviceTouched, calm], by simp [unstopped]⟩
          rw [verified.positions] at answered
          cases answered
      · simp [serviceTouched, calm]
      · simp [unstopped]
    · simp [serviceTouched, calm]
    · simp [unstopped]
  · intro raised events told
    obtain ⟨refused, rfl⟩ := told
    exact ⟨fun verified => refused verified.approved, by simp [serviceTouched, calm],
      by simp [unstopped]⟩

/-- The other steps succeed exactly when the target is verified, and stop the service first. -/
theorem switchService_ends (events : List TransitionEvent) :
    Attempt.Ends transition.switchService
      (fun state after => transition.TargetVerified ∧ after = events ++ transition.targetEvents ∧
        ∃ at_, state = transition.completed at_)
      (fun _ after => ¬transition.TargetVerified ∧ ∃ rest,
        after = events ++ ([.reached .serviceStopped, .asked .stop] ++ rest)) events := by
  simp only [switchService, Attempt.ends_bind, ends_advance]
  refine ends_ask (fun _ stopped => ?_) (fun untold _ => ⟨fun verified =>
    untold () verified.stopped, [], by simp⟩)
  refine ends_verify (fun account => ?_) (fun missing _ => ⟨fun verified =>
    missing ⟨true, verified.account, rfl⟩, ?_⟩)
  · -- The account is the one of the target, so the service may be started.
    obtain ⟨_, account, rfl⟩ := account
    rw [Attempt.ends_bind, ends_advance, Attempt.ends_bind]
    refine ends_ask (fun _ started => ?_) (fun untold _ => ⟨fun verified =>
      untold () verified.started, ?_⟩)
    · rw [Attempt.ends_bind, ends_advance]
      refine ends_verify (fun effective => ?_) (fun missing _ => ⟨fun verified =>
        missing ⟨_, verified.effective, decide_eq_true rfl⟩, ?_⟩)
      · -- Only the clock is left, which may still raise.
        obtain ⟨mode, effective, same⟩ := effective
        rw [of_decide_eq_true same] at effective
        rw [Attempt.ends_bind, ends_advance, Attempt.ends_bind]
        refine ends_ask (fun at_ timed => ?_) (fun untold _ => ⟨fun verified => ?_, ?_⟩)
        · refine ⟨⟨stopped, account, started, effective, at_, timed⟩, ?_, at_, rfl⟩
          simp [targetEvents]
        · obtain ⟨at_, timed⟩ := verified.timed
          exact untold at_ timed
        · exact ⟨_, by simp only [List.append_assoc]; rfl⟩
      · exact ⟨_, by simp only [List.append_assoc]; rfl⟩
    · exact ⟨_, by simp only [List.append_assoc]; rfl⟩
  · exact ⟨_, by simp only [List.append_assoc]; rfl⟩

/-- Whether a transition finds all that it looks for. -/
def AllVerified : Prop := transition.SourceVerified approval ∧ transition.TargetVerified

/-- A transition succeeds exactly when all is verified, and stops the service only in between. -/
theorem attempt_ends :
    Attempt.Ends (transition.attempt approval)
      (fun state events => transition.AllVerified approval ∧
        events = transition.sourceEvents ++ transition.targetEvents ∧
          ∃ at_, state = transition.completed at_)
      (fun _ events => ¬transition.AllVerified approval ∧
        ((serviceTouched events = false ∧ .asked .stop ∉ events) ∨
          (transition.SourceVerified approval ∧ ∃ rest, events =
            transition.sourceEvents ++ ([.reached .serviceStopped, .asked .stop] ++ rest)))) [] := by
  rw [attempt, Attempt.ends_bind]
  refine (transition.verifySource_ends approval).imp ?_ ?_
  · -- From here on the service is touched, whatever comes next.
    intro _ events told
    obtain ⟨source, rfl⟩ := told
    refine (transition.switchService_ends _).imp ?_ ?_
    · intro state after told
      obtain ⟨target, noted, timed⟩ := told
      exact ⟨⟨source, target⟩, noted, timed⟩
    · intro _ after told
      obtain ⟨missed, noted⟩ := told
      exact ⟨fun verified => missed verified.2, .inr ⟨source, noted⟩⟩
  · intro _ events told
    obtain ⟨missed, untouched⟩ := told
    exact ⟨fun verified => missed verified.1, .inl untouched⟩

/-- All that a transition can end in. -/
theorem execute_cases :
    (transition.AllVerified approval ∧ ∃ at_, transition.execute approval =
      (⟨.complete, transition.completed at_,
        visitedStates (transition.sourceEvents ++ transition.targetEvents)⟩,
        transition.sourceEvents ++ transition.targetEvents)) ∨
    (¬transition.AllVerified approval ∧ ∃ raised events,
      transition.execute approval = (⟨.failedClosed,
        transition.failed raised (serviceTouched events), visitedStates (closingEvents events)⟩,
        closingEvents events) ∧
      ((serviceTouched events = false ∧ .asked .stop ∉ events) ∨
        (transition.SourceVerified approval ∧ ∃ rest, events =
          transition.sourceEvents ++ ([.reached .serviceStopped, .asked .stop] ++ rest)))) := by
  have ends := transition.attempt_ends approval
  cases ran : (transition.attempt approval).run [] with
  | ok state events =>
    obtain ⟨verified, noted, at_, reached⟩ := ends.of_ok ran
    refine .inl ⟨verified, at_, ?_⟩
    rw [execute, ran, noted, reached]
  | error raised events =>
    obtain ⟨missed, held⟩ := ends.of_error ran
    refine .inr ⟨missed, raised, events, ?_, held⟩
    rw [execute, ran]

/-- A transition is completed exactly when all is verified. -/
theorem outcome_eq_complete_iff :
    (transition.execute approval).1.outcome = .complete ↔ transition.AllVerified approval := by
  obtain ⟨verified, at_, ran⟩ | ⟨missed, raised, events, ran, _⟩ :=
    transition.execute_cases approval
  · rw [ran]
    exact ⟨fun _ => verified, fun _ => rfl⟩
  · rw [ran]
    refine ⟨fun finished => ?_, fun verified => absurd verified missed⟩
    cases finished

/-- A state that a failed transition leaves is closed. -/
theorem failed_closed (raised : TransitionError) (touched : Bool) :
    (transition.failed raised touched).transitionState = .failedClosed ∧
      (transition.failed raised touched).entryBlocked = true ∧
        (transition.failed raised touched).entryAllowed = false := by
  unfold TradingModeControllerState.entryAllowed
  cases raised with
  | stepFailure reason effectiveMode => cases effectiveMode <;> simp [failed]
  | unexpected typeName => simp [failed]

/-- A transition opens entries only on what was verified, and closes them in every other case. -/
theorem execute_failsClosed :
    ((transition.execute approval).1.outcome = .complete ↔ transition.AllVerified approval) ∧
    ((transition.execute approval).1.outcome = .complete →
      (transition.execute approval).1.state.effectiveMode = transition.target ∧
      (transition.execute approval).1.state.entryBlocked = false ∧
      (transition.execute approval).2 = transition.sourceEvents ++ transition.targetEvents) ∧
    ((transition.execute approval).1.outcome ≠ .complete →
      (transition.execute approval).1.outcome = .failedClosed ∧
      (transition.execute approval).1.state.transitionState = .failedClosed ∧
      (transition.execute approval).1.state.entryBlocked = true ∧
      (transition.execute approval).1.state.entryAllowed = false) ∧
    (.asked .stop ∈ (transition.execute approval).2 →
      transition.SourceVerified approval ∧ ∃ rest, (transition.execute approval).2 =
        transition.sourceEvents ++ ([.reached .serviceStopped, .asked .stop] ++ rest) ∧
        ((transition.execute approval).1.outcome ≠ .complete → .asked .start ∈ rest)) := by
  refine ⟨transition.outcome_eq_complete_iff approval, ?_⟩
  obtain ⟨verified, at_, ran⟩ | ⟨missed, raised, events, ran, held⟩ :=
    transition.execute_cases approval
  · -- All was verified: the service was started in the mode that was asked for.
    rw [ran]
    exact ⟨fun _ => ⟨rfl, rfl, rfl⟩,
      fun unfinished => absurd rfl unfinished,
      fun _ => ⟨verified.1, _, rfl, fun unfinished => absurd rfl unfinished⟩⟩
  · rw [ran]
    obtain ⟨closed, blocked, shut⟩ := transition.failed_closed raised (serviceTouched events)
    refine ⟨fun finished => ?_, fun _ => ⟨rfl, closed, blocked, shut⟩, fun stopped => ?_⟩
    · cases finished
    obtain ⟨untouched, unstopped⟩ | ⟨source, rest, noted⟩ := held
    · -- Without a stop there is nothing to start again.
      simp [closingEvents, untouched, unstopped] at stopped
    · -- The stop is there, so the last call starts the service again.
      have touched : serviceTouched events = true := by
        rw [noted]
        simp [serviceTouched]
      refine ⟨source, rest ++ [.asked .start, .reached .failedClosed], ?_, fun _ => by simp⟩
      change closingEvents events = _
      rw [closingEvents, if_pos touched, noted]
      simp only [List.append_assoc, List.cons_append, List.nil_append]

/-- A state in which an operator blocked all entries to a service that trades in demo mode. -/
def blockedStart : TradingModeControllerState :=
  ⟨.demo, .demo, .running, "demo", none, .idle, true, .ok, none, none⟩

/-- A transition to demo mode whose calls all answer as they should. -/
def agreeable : ModeTransition :=
  ⟨blockedStart, .demo,
    ⟨.ok .demo, .ok true, .ok (), fun _ => .ok true, .ok (), .ok .demo, .ok "noon"⟩⟩

/-- A completed transition also lifts an entry block that was in force before it began. -/
theorem execute_liftsEarlierBlock :
    agreeable.start.entryBlocked = true ∧ agreeable.start.entryAllowed = false ∧
      (agreeable.execute (.ok false)).1.outcome = .complete ∧
      (agreeable.execute (.ok false)).1.state.entryBlocked = false ∧
      (agreeable.execute (.ok false)).1.state.entryAllowed = true := by
  decide +kernel

end StrategyLab.ModeTransition
