import StrategyLab.Runtime.BoundedResearch

/-! Recovery from stagnation: which candidates a mission takes up again, and which it could. -/

namespace StrategyLab

/-- Whether a mission is blocked because it ran out of strategies. -/
def ResearchMission.SpaceExhausted (mission : ResearchMission) : Prop :=
  mission.status = .blocked ∧
    Py.startswith (textOr mission.blockedReason "") "strategy_hypothesis_space_exhausted"

namespace StrategyCandidateRecord

/-- A candidate that was rotated out because its cycles made no progress: the planner found so, or
the count of cycles without progress reached its threshold. -/
def Stalled (candidate : StrategyCandidateRecord) : Prop :=
  candidate.status = .stagnant ∧
    (candidate.rejectedReason = some recoverableStagnationReason ∨
      candidate.rejectedReason = some stagnationReason ∧
        stagnationCycleThreshold ≤ candidate.cyclesWithoutProgress)

/-- Whether the evidence of a candidate leaves something to validate, and decides nothing against
it. -/
def AllowsAction (candidate : StrategyCandidateRecord) : Prop :=
  candidateRemainingBlockers candidate ≠ [] ∧ (economicViability candidate).status ≠ .fail

instance (candidate : StrategyCandidateRecord) : Decidable candidate.Stalled :=
  inferInstanceAs (Decidable (_ ∧ (_ ∨ _ ∧ _)))

instance (candidate : StrategyCandidateRecord) : Decidable candidate.AllowsAction :=
  inferInstanceAs (Decidable (_ ∧ _))

/-- A candidate that no mission comes back to: it has another reason, or goes on being tried. -/
structure NeverTakenUp (candidate : StrategyCandidateRecord) : Prop where
  reason : candidate.rejectedReason ≠ some recoverableStagnationReason
  exhaustion : candidate.sampleExhaustionReason ≠ some recoverableStagnationReason
  going : candidate.IsOpen → candidate.cyclesWithoutProgress < stagnationCycleThreshold

end StrategyCandidateRecord

/-- The mission with a candidate taken up again. -/
def ResearchMission.withReopened (mission : ResearchMission) (candidate : StrategyCandidateRecord)
    (now : String) : ResearchMission :=
  { (mission.updateCandidate (reopened candidate now) now).setActiveCandidate
      (some candidate.candidateId) now with
    status := .active, blockedReason := none }

/-- A recovery takes up a candidate that was given up for want of progress, and leaves the others
as they are. -/
theorem recovery_sound {mission recovered : ResearchMission} {now : String} {maxCandidates : Nat}
    (taken : attemptBoundedStagnationRecovery mission now maxCandidates = some recovered) :
    mission.SpaceExhausted ∧ ∃ candidate ∈ mission.candidateRecords,
      recovered = mission.withReopened candidate now ∧ candidate.Stalled ∧
        candidate.AllowsAction ∧ candidate.rejectedReason = some recoverableStagnationReason := by
  unfold attemptBoundedStagnationRecovery at taken
  split at taken
  · rename_i exhausted
    obtain ⟨candidate, found, rfl⟩ := Option.map_eq_some_iff.mp taken
    -- The candidate is one of the scanned ones, and it passed the test they are searched with.
    have scanned := List.mem_of_mem_take (List.mem_of_find?_eq_some found)
    obtain ⟨known, given⟩ := List.mem_filter.mp scanned
    have passed := List.find?_some found
    rw [Bool.and_eq_true, decide_eq_true_iff, decide_eq_true_iff] at passed
    obtain ⟨stagnant, reason⟩ := recoverable_iff.mp given
    exact ⟨exhausted, candidate, known, rfl, ⟨stagnant, .inl reason⟩, passed, reason⟩
  · cases taken

variable {candidate : StrategyCandidateRecord}

/-- The only plan to give up a candidate for want of progress is that of a candidate without it. -/
theorem nextValidationAction_reason
    (planned : (nextValidationAction candidate).2 = recoverableStagnationReason) :
    stagnationCycleThreshold ≤ candidate.cyclesWithoutProgress := by
  have run : ∀ action reason, reason ≠ recoverableStagnationReason →
      (runUnlessExhausted candidate action reason).2 ≠ recoverableStagnationReason := by
    intro action reason other
    unfold runUnlessExhausted
    split
    · decide
    · exact other
  have expand : ∀ exhausted reason, exhausted ≠ recoverableStagnationReason →
      reason ≠ recoverableStagnationReason →
        (expandUnlessExhausted candidate exhausted reason).2 ≠ recoverableStagnationReason := by
    intro exhausted reason one other
    unfold expandUnlessExhausted
    split
    · exact one
    · exact other
  have listed : ∀ planned ∈ plannedValidations, planned.2.2 ≠ recoverableStagnationReason := by
    decide
  by_contra few
  revert planned
  simp only [nextValidationAction]
  split
  · rename_i stage action reason found
    exact run action reason (listed _ (List.mem_of_find?_eq_some found))
  · split
    · exact expand _ _ (by decide) (by decide)
    split
    · exact run _ _ (by decide)
    split
    · exact expand _ _ (by decide) (by decide)
    split
    · exact expand _ _ (by decide) (by decide)
    · decide

/-- A candidate that no mission comes back to is not planned to be given up for want of progress. -/
theorem planned_ne_recoverable (never : candidate.NeverTakenUp) :
    (nextBlockerDrivenResearchAction candidate).2 ≠ recoverableStagnationReason := by
  intro planned
  by_cases ended : candidate.status = .rejected ∨ candidate.status = .stagnant
  · -- It was ended before, so the reason is repeated.
    rw [planned_of_ended ended] at planned
    exact never.reason (eq_some_of_textOr planned (by decide))
  by_cases ready : candidate.status = .promotionReady
  · rw [nextBlockerDrivenResearchAction, if_pos ready] at planned
    exact absurd planned (by decide)
  rw [nextBlockerDrivenResearchAction, if_neg ready, if_neg ended] at planned
  split at planned
  · -- A loss is told by how its reason starts.
    have starts : Py.startswith "economic_viability_failed:" "economic_viability_failed" := by
      decide +kernel
    have losing := Py.startswith_append starts (economicViability candidate).reason
    have same : "economic_viability_failed:" ++ (economicViability candidate).reason =
        recoverableStagnationReason := planned
    rw [same] at losing
    exact absurd losing (by decide +kernel)
  split at planned
  · exact absurd planned (by decide)
  split at planned
  · exact never.exhaustion (eq_some_of_textOr planned (by decide))
  · rw [not_or] at ended
    have isOpen := StrategyCandidateRecord.isOpen_of_ne ready ended.1 ended.2
    exact absurd (nextValidationAction_reason planned) (not_le.mpr (never.going isOpen))

/-- An open candidate that is not stagnant has few cycles without progress. -/
theorem few_of_not_stagnant (isOpen : candidate.IsOpen) (moving : ¬isStagnant candidate) :
    candidate.cyclesWithoutProgress < stagnationCycleThreshold := by
  have unended : ¬(candidate.status = .promotionReady ∨ candidate.status = .rejected ∨
      candidate.status = .stagnant) := by
    rcases isOpen with status | status | status <;> simp [status]
  by_contra many
  refine moving ?_
  rw [isStagnant, if_neg unended]
  split
  · rfl
  · exact decide_eq_true (not_lt.mp many)

/-- The reason a candidate is rotated out for is the one that is given, or the usual one. -/
theorem rejectedReason_rotatedCandidate (candidate : StrategyCandidateRecord)
    (reason : Option String) (now : String) :
    (rotatedCandidate candidate reason now).rejectedReason =
      some ((someText reason).getD stagnationReason) := by
  unfold rotatedCandidate
  split
  · rename_i none
    rw [none]
    rfl
  · rename_i told found
    rw [found]
    split <;> rfl

namespace StrategyCandidateRecord.NeverTakenUp

variable {candidate : StrategyCandidateRecord}

/-- A candidate that is rotated out for another reason is one that no mission comes back to. -/
theorem rotated (exhaustion : candidate.sampleExhaustionReason ≠ some recoverableStagnationReason)
    {reason : Option String} (other : reason ≠ some recoverableStagnationReason) (now : String) :
    (rotatedCandidate candidate reason now).NeverTakenUp := by
  have ended := rotatedCandidate_ended candidate reason now
  have same : (rotatedCandidate candidate reason now).sampleExhaustionReason =
      candidate.sampleExhaustionReason := by
    unfold rotatedCandidate
    split
    · rfl
    · split <;> rfl
  refine ⟨fun given => ?_, same ▸ exhaustion, fun isOpen => ?_⟩
  · rw [rejectedReason_rotatedCandidate, Option.some.injEq] at given
    cases told : someText reason with
    | none =>
      rw [told] at given
      exact absurd given (by decide)
    | some text =>
      rw [told, Option.getD_some] at given
      rw [given] at told
      exact other (Option.filter_eq_some_iff.mp told).1
  · rcases isOpen with status | status | status <;> simp [status] at ended

/-- A breadth cycle only brings a reason for exhaustion that it may. -/
theorem breadth_exhaustion (never : candidate.NeverTakenUp) (output : MultiSymbolOutput)
    (now : String) :
    (breadthUpdated candidate output now).sampleExhaustionReason ≠
      some recoverableStagnationReason := by
  have known : ∀ reason ∈ sampleExhaustionReasons, reason ≠ recoverableStagnationReason := by
    decide
  intro same
  rcases Option.or_eq_some_iff.mp same with reported | ⟨-, before⟩
  · -- What is reported was found on the list of such reasons.
    have filtered := (Option.filter_eq_some_iff.mp reported).1
    have listed := (Option.filter_eq_some_iff.mp filtered).2
    exact known _ (of_decide_eq_true listed) rfl
  · exact never.exhaustion before

/-- A breadth cycle that does not rotate its candidate leaves few cycles without progress. -/
theorem breadth_going (never : candidate.NeverTakenUp) (output : MultiSymbolOutput)
    (now : String) (going : output.isProviderAcquisitionBlocker ∨
      ¬isStagnant (breadthUpdated candidate output now))
    (isOpen : (breadthUpdated candidate output now).IsOpen) :
    (breadthUpdated candidate output now).cyclesWithoutProgress < stagnationCycleThreshold := by
  rcases going with blocked | moving
  · -- A cycle without data is not held against its candidate.
    have before : candidate.IsOpen := by
      by_cases exploring : candidate.status = .exploring
      · exact .inl exploring
      · have same : (breadthUpdated candidate output now).status = candidate.status :=
          if_neg exploring
        rw [IsOpen, same] at isOpen
        exact isOpen
    have counted : (breadthUpdated candidate output now).cyclesWithoutProgress =
        if breadthProgressed candidate (breadthCounts candidate (output.progress now)) then 0
        else if output.isProviderAcquisitionBlocker then candidate.cyclesWithoutProgress
        else candidate.cyclesWithoutProgress + 1 := rfl
    rw [counted, if_pos blocked]
    split
    · decide
    · exact never.going before
  · exact few_of_not_stagnant isOpen moving

end StrategyCandidateRecord.NeverTakenUp

/-- The steps of turns leave candidates that no mission comes back to. -/
theorem neverTakenUp_keptBySteps (sha : Json → String) :
    KeptBySteps sha StrategyCandidateRecord.NeverTakenUp where
  created template sequence now :=
    ⟨(Option.some_ne_none _).symm, (Option.some_ne_none _).symm, 
      fun _ => (by decide : 0 < stagnationCycleThreshold)⟩
  readBack candidate never :=
    ⟨fun same => never.reason (Option.filter_eq_some_iff.mp same).1,
      fun same => never.exhaustion (Option.filter_eq_some_iff.mp same).1, never.going⟩
  reopened candidate now given never := absurd (recoverable_iff.mp given).2 never.reason
  givenUp candidate reason now asked never := by
    refine ⟨fun same => ?_, never.exhaustion, fun isOpen => ?_⟩
    · rw [Option.some.inj same] at asked
      exact absurd asked (by decide)
    · rcases isOpen with status | status | status <;> cases status
  rotated candidate now never :=
    .rotated never.exhaustion
      (fun same => planned_ne_recoverable never (Option.some.inj same)) now
  breadth candidate output now going never :=
    ⟨never.reason, never.breadth_exhaustion output now, never.breadth_going output now going⟩
  breadthRotated candidate output now never :=
    .rotated (never.breadth_exhaustion output now) (Option.some_ne_none _).symm now
  validated candidate action symbol payload now moving never :=
    ⟨never.reason, never.exhaustion, fun isOpen => few_of_not_stagnant isOpen moving⟩
  validatedRotated candidate action symbol payload now never := by
    have exhaustion : (validated sha candidate action symbol payload
        now).sampleExhaustionReason ≠ some recoverableStagnationReason := never.exhaustion
    exact .rotated exhaustion (Option.some_ne_none _).symm now
  promoted candidate action symbol payload now never := by
    refine ⟨never.reason, never.exhaustion, fun isOpen => ?_⟩
    rcases isOpen with status | status | status <;> cases status
  rejected candidate action symbol payload reason now why never := by
    refine ⟨fun same => ?_, never.exhaustion, fun isOpen => ?_⟩
    · rw [Option.some.inj same] at why
      revert why
      rw [GivenForRejection]
      decide +kernel
    · rcases isOpen with status | status | status <;> cases status

/-- No candidate of a mission that turns reach is taken up again. -/
theorem attemptBoundedStagnationRecovery_run (sha : Json → String)
    (first : ResearchMission.ScopeUpdate) (events : List MissionEvent) (now : String)
    (maxCandidates : Nat) :
    attemptBoundedStagnationRecovery ((missionMachine sha).run (.create first) events).mission now
      maxCandidates = none := by
  rw [Option.eq_none_iff_forall_ne_some]
  intro recovered taken
  obtain ⟨-, candidate, known, -, -, -, reason⟩ := recovery_sound taken
  have never := (neverTakenUp_keptBySteps sha).run first events candidate known
  exact never.reason reason

/-- A recovery never takes up a candidate that was rejected, lost money, or was given up for a
user; and for a mission that turns reach it takes one up whenever there is one to take up, exactly
if there is none. -/
theorem stagnation_recovery_iff (sha : Json → String) (first : ResearchMission.ScopeUpdate)
    (events : List MissionEvent) (now : String) (maxCandidates : Nat) :
    (∀ mission recovered : ResearchMission,
      attemptBoundedStagnationRecovery mission now maxCandidates = some recovered →
        ∃ candidate ∈ mission.candidateRecords, recovered = mission.withReopened candidate now ∧
          candidate.Stalled ∧ candidate.AllowsAction) ∧
    let mission := ((missionMachine sha).run (.create first) events).mission
    (((attemptBoundedStagnationRecovery mission now maxCandidates).isSome ↔
        mission.SpaceExhausted ∧
          ∃ candidate ∈ mission.candidateRecords, candidate.Stalled ∧ candidate.AllowsAction) ↔
      (mission.SpaceExhausted →
        ∀ candidate ∈ mission.candidateRecords, candidate.Stalled → ¬candidate.AllowsAction)) := by
  constructor
  · intro mission recovered taken
    obtain ⟨-, candidate, known, same, stalled, allows, -⟩ := recovery_sound taken
    exact ⟨candidate, known, same, stalled, allows⟩
  · intro mission
    rw [attemptBoundedStagnationRecovery_run sha first events now maxCandidates]
    simp only [Option.isSome_none, Bool.false_eq_true, false_iff, not_and, not_exists]

/-- A breadth cycle that finds no symbol. -/
def emptyOutput : MultiSymbolOutput :=
  { evidence := [], stopReason := none, aggregateTradeCount := 0, totalExcluded := 0
    providerRelatedExcluded := 0, excludedByCategory := [], summary := [] }

/-- Tools that find no symbol. -/
def idleTools : ResearchTools := ⟨fun _ => .ok emptyOutput, fun _ => .error ⟨"", ""⟩⟩

/-- The message that asks for another kind of strategy. -/
def otherKindRequest : MissionRequest := { plainRequest with diversity := true }

/-- A mission that stands where another one stands. -/
structure SameCourse (mission after : ResearchMission) : Prop where
  status : after.status = mission.status
  scope : after.universeScope = mission.universeScope
  focus : after.pendingPromotionSymbol = mission.pendingPromotionSymbol

/-- A new record of a candidate leaves a mission where it stands. -/
theorem sameCourse_updateCandidate (mission : ResearchMission)
    (candidate : StrategyCandidateRecord) (now : String) :
    SameCourse mission (mission.updateCandidate candidate now) := by
  unfold ResearchMission.updateCandidate
  split <;> exact ⟨rfl, rfl, rfl⟩

/-- A new candidate leaves a mission where it stands. -/
theorem sameCourse_addCandidate (mission : ResearchMission) (candidate : StrategyCandidateRecord)
    (now : String) : SameCourse mission (mission.addCandidate candidate now) := by
  unfold ResearchMission.addCandidate
  split <;> exact ⟨rfl, rfl, rfl⟩

/-- A mission that goes on, with a candidate that was left behind. -/
structure Idle (sha : Json → String) (left : StrategyCandidateRecord)
    (mission : ResearchMission) : Prop where
  formed : mission.portfolio.WellFormed sha
  active : mission.status = .active
  wide : mission.universeScope = .marketWide
  unfocused : mission.pendingPromotionSymbol = none
  kept : left ∈ mission.portfolio.records
  other : mission.activeCandidateId ≠ some left.candidateId

namespace Idle

variable {sha : Json → String} {left : StrategyCandidateRecord} {mission : ResearchMission}

/-- An idle mission is read back as one. -/
theorem reloaded (idle : Idle sha left mission) : Idle sha left mission.reloaded where
  formed := idle.formed.reloaded
  active := by
    simp only [ResearchMission.reloaded, idle.active]
    exact if_neg fun waiting => by cases waiting.1
  wide := idle.wide
  unfocused := by
    simp only [ResearchMission.reloaded, idle.unfocused]
    split <;> rfl
  kept := idle.kept
  other named := idle.other (Option.filter_eq_some_iff.mp named).1

/-- Asking for another kind of strategy leaves an idle mission without an active candidate. -/
theorem rotated (idle : Idle sha left mission) :
    Idle sha left (rotatedForDiversity otherKindRequest mission) ∧
      (rotatedForDiversity otherKindRequest mission).portfolio.sequence =
        mission.portfolio.sequence ∧
      (rotatedForDiversity otherKindRequest mission).getActiveCandidate = none := by
  obtain ⟨formed, sequence, -⟩ :=
    Cleared.formed (rotatedForDiversity_cleared otherKindRequest mission) idle.formed
  cases found : mission.getActiveCandidate with
  | none =>
    have same : rotatedForDiversity otherKindRequest mission = mission := by
      simp only [rotatedForDiversity, found]
    rw [same]
    exact ⟨idle, rfl, found⟩
  | some active =>
    obtain ⟨known, named⟩ := mission.mem_of_getActiveCandidate found
    -- The candidate that was left behind is not the active one, so its record stays.
    have differs : left.candidateId ≠ active.candidateId :=
      fun agree => idle.other (agree ▸ named)
    let given := markStagnant active "user_requested_different_strategy_family"
      otherKindRequest.now
    have same : rotatedForDiversity otherKindRequest mission =
        ((mission.updateCandidate given otherKindRequest.now).setActiveCandidate none
          otherKindRequest.now).clearFocusSymbol otherKindRequest.now := by
      simp only [rotatedForDiversity, found]
      rfl
    have course := sameCourse_updateCandidate mission given otherKindRequest.now
    rw [same] at formed sequence ⊢
    refine ⟨⟨formed, course.status.trans idle.active, course.scope.trans idle.wide, rfl, ?_, ?_⟩,
      sequence, rfl⟩
    · simp only [ResearchMission.portfolio_clearFocusSymbol,
        ResearchMission.portfolio_setActiveCandidate, ResearchMission.portfolio_updateCandidate,
        Portfolio.focus_records]
      have named : given.candidateId = active.candidateId := rfl
      exact (Portfolio.mem_put_iff known named).mpr (.inr ⟨idle.kept, differs⟩)
    · exact (Option.some_ne_none _).symm

/-- A cycle that finds no symbol for a new candidate is counted, and changes nothing else. -/
theorem cycle (mission : ResearchMission) (template : StrategyFamilyTemplate) (sequence : Nat)
    (wide : mission.universeScope = .marketWide) (unfocused : mission.pendingPromotionSymbol = none)
    (request : MissionRequest) (plain : request.preferredSymbols = []) :
    let record := template.newRecord sha sequence request.now
    (candidateCycle sha idleTools request mission record).mission =
      (mission.recordCycleResult [] request.now).updateCandidate
        (breadthUpdated record emptyOutput request.now) request.now := by
  intro record
  have planned : (nextBlockerDrivenResearchAction record).1 = .expandSample := rfl
  have unexhausted : candidateSampleExhausted record = false := rfl
  have symbols : breadthSymbols mission request.preferredSymbols = some [] := by
    simp [breadthSymbols, plain, wide]
  have moving : isStagnant (breadthUpdated record emptyOutput request.now) = false := rfl
  have poor : (breadthUpdated record emptyOutput request.now).hasSufficientUniverseEvidence =
      false := rfl
  have outage : emptyOutput.outage = false := rfl
  simp only [candidateCycle, unfocused, someText, Option.filter_none, Option.isSome_none,
    Bool.false_eq_true, if_false, unexhausted, tryCandidateBreadthCycle, planned, symbols,
    idleTools, breadthRecorded, outage, moving, focusedOnEvidence, poor, Bool.false_and]
  rfl

/-- Asking an idle mission for another kind of strategy adds a candidate, or blocks it. -/
theorem turn (idle : Idle sha left mission) :
    let next := (tryMissionDrivenResearchCycle sha idleTools otherKindRequest mission).mission
    (Idle sha left next ∧ next.portfolio.sequence = mission.portfolio.sequence + 1) ∨
      next.SpaceExhausted ∧ left ∈ next.portfolio.records := by
  intro next
  obtain ⟨rotated, sequence, released⟩ := idle.rotated
  let cleared := rotatedForDiversity otherKindRequest mission
  have going : unblocked otherKindRequest mission = .ok mission :=
    if_pos (by rw [idle.active]; decide)
  have prepared : preparedTurn sha otherKindRequest mission =
      withCandidate sha otherKindRequest cleared none := by
    rw [preparedTurn, going, ← released]
    rfl
  cases tried : nextCandidate sha otherKindRequest cleared with
  | none =>
    right
    have ended : next = cleared.recordBlocked ("strategy_hypothesis_space_exhausted: " ++
        "bounded declarative strategy expansion budget exhausted") otherKindRequest.now := by
      simp only [next, tryMissionDrivenResearchCycle, prepared, withCandidate, tried]
    have told : Py.startswith (textOr (some ("strategy_hypothesis_space_exhausted: " ++
        "bounded declarative strategy expansion budget exhausted")) "")
          "strategy_hypothesis_space_exhausted" := by
      decide +kernel
    rw [ended]
    exact ⟨⟨rfl, told⟩, rotated.kept⟩
  | some candidate =>
    left
    obtain ⟨template, listed, untried, rfl⟩ := nextCandidate_untried tried
    let record := template.newRecord sha (cleared.portfolio.sequence + 1) otherKindRequest.now
    let updated := breadthUpdated record emptyOutput otherKindRequest.now
    have added := sameCourse_addCandidate cleared record otherKindRequest.now
    have stepped : next = ((cleared.addCandidate record otherKindRequest.now).recordCycleResult []
        otherKindRequest.now).updateCandidate updated otherKindRequest.now := by
      simp only [next, tryMissionDrivenResearchCycle, prepared, withCandidate, tried]
      exact cycle _ template _ (added.scope.trans rotated.wide)
        (added.focus.trans rotated.unfocused) otherKindRequest rfl
    have counted := sameCourse_updateCandidate ((cleared.addCandidate record
      otherKindRequest.now).recordCycleResult [] otherKindRequest.now) updated otherKindRequest.now
    -- The new candidate has a new name, so the one that was left behind is another one.
    have fresh : record.candidateId ∉ cleared.portfolio.records.map (·.candidateId) :=
      rotated.formed.next_fresh listed untried
    have differs : left.candidateId ≠ record.candidateId :=
      fun agree => fresh (List.mem_map.mpr ⟨left, rotated.kept, agree⟩)
    have portfolio : next.portfolio = (cleared.portfolio.add record).put updated := by
      rw [stepped, ResearchMission.portfolio_updateCandidate,
        ResearchMission.portfolio_recordCycleResult,
        ResearchMission.portfolio_addCandidate _ _ _ fresh]
    have addedFormed := rotated.formed.add otherKindRequest.now listed untried
    have known : record ∈ (cleared.portfolio.add record).records :=
      List.mem_append_right _ (List.mem_singleton.mpr rfl)
    have same : record.SameIdentity updated := ⟨rfl, rfl, rfl, rfl⟩
    refine ⟨⟨?_, ?_, ?_, ?_, ?_, ?_⟩, ?_⟩
    · rw [portfolio]
      exact addedFormed.put known same
    · rw [stepped]
      exact counted.status.trans (added.status.trans rotated.active)
    · rw [stepped]
      exact counted.scope.trans (added.scope.trans rotated.wide)
    · rw [stepped]
      exact counted.focus.trans (added.focus.trans rotated.unfocused)
    · rw [portfolio]
      exact (Portfolio.mem_put_iff known same.candidateId).mpr
        (.inr ⟨List.mem_append_left _ rotated.kept, differs⟩)
    · have named : next.activeCandidateId = some record.candidateId :=
        congrArg Portfolio.active portfolio
      rw [named]
      exact fun agree => differs (Option.some.inj agree).symm
    · have lengths := addedFormed.length_records
      have older := rotated.formed.length_records
      have one : (cleared.portfolio.add record).records.length =
          cleared.portfolio.records.length + 1 := List.length_append
      rw [portfolio, Portfolio.put_sequence, ← lengths, one, older, sequence]

/-- An idle mission is blocked after enough messages, with the candidate it left behind. -/
theorem blocked (room : Nat) : ∀ journal : MissionJournal, Idle sha left journal.mission →
    StrategyFamilies.templates.length < journal.mission.portfolio.sequence + room →
      ∃ events, ((missionMachine sha).run journal events).mission.SpaceExhausted ∧
        left ∈ ((missionMachine sha).run journal events).mission.candidateRecords := by
  induction room with
  | zero =>
    intro journal idle many
    exact absurd idle.formed.sequence_le (not_le.mpr many)
  | succ room ih =>
    intro journal idle many
    -- One more message either blocks the mission or takes one of the numbers that are left.
    let event : MissionEvent := .turn otherKindRequest idleTools
    rcases idle.reloaded.turn with ⟨next, sequence⟩ | exhausted
    · obtain ⟨events, ended⟩ := ih ((missionMachine sha).next journal event) next (by
        have count : ((missionMachine sha).next journal event).mission.portfolio.sequence =
            journal.mission.portfolio.sequence + 1 := sequence
        omega)
      exact ⟨event :: events, ended⟩
    · exact ⟨[event], exhausted⟩

end Idle

/-- Three messages that research may go on, whose cycles find nothing. -/
def idleTurns : List MissionEvent := List.replicate 3 (.turn plainRequest idleTools)

/-- The candidate that three cycles without progress were spent on. -/
def stalledCandidate : StrategyCandidateRecord :=
  (missionAfter idleTurns).candidateRecords.get ⟨0, by decide +kernel⟩

/-- A mission that ran out of strategies does not come back to a candidate that three cycles brought
no progress for, although nothing was validated of it yet. -/
theorem stalled_candidate_left_behind :
    ∃ events, let mission := missionAfter events
      mission.SpaceExhausted ∧
      (∃ candidate ∈ mission.candidateRecords, candidate.Stalled ∧ candidate.AllowsAction) ∧
      attemptBoundedStagnationRecovery mission "now" 2 = none := by
  have idle : Idle familyDigest stalledCandidate (missionAfter idleTurns) :=
    { formed := wellFormed_run familyDigest koreanScope idleTurns
      active := by decide +kernel
      wide := by decide +kernel
      unfocused := by decide +kernel
      kept := List.get_mem _ _
      other := by decide +kernel }
  obtain ⟨events, exhausted, kept⟩ := idle.blocked (StrategyFamilies.templates.length + 1)
    ((missionMachine familyDigest).run (.create koreanScope) idleTurns) (by omega)
  rw [← Machine.run_append] at exhausted kept
  exact ⟨idleTurns ++ events, exhausted,
    ⟨stalledCandidate, kept, by decide +kernel, by decide +kernel⟩,
    attemptBoundedStagnationRecovery_run familyDigest koreanScope _ "now" 2⟩

end StrategyLab
