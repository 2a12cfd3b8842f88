import StrategyLab.Runtime.MissionCycle
import StrategyLab.Knowledge.PortfolioLaws

/-! What a turn can do to a portfolio, said once for every result about runs of turns. -/

namespace StrategyLab

/-- What is done before a candidate is chosen: one is taken up again, or the active one given up. -/
inductive ClearingStep : Portfolio → Portfolio → Prop where
  | reopened {portfolio : Portfolio} {candidate : StrategyCandidateRecord} (now : String)
      (known : candidate ∈ portfolio.records) (given : recoverable candidate) :
      ClearingStep portfolio
        ((portfolio.put (reopened candidate now)).focus (some candidate.candidateId))
  | givenUp {portfolio : Portfolio} {candidate : StrategyCandidateRecord} {reason : String}
      (now : String) (known : candidate ∈ portfolio.records)
      (active : portfolio.active = some candidate.candidateId)
      (asked : reason ∈ ["user_requested_different_strategy_family",
        "user_requested_specific_strategy_family"]) :
      ClearingStep portfolio ((portfolio.put (markStagnant candidate reason now)).focus none)

/-- Any number of such steps. -/
abbrev Cleared : Portfolio → Portfolio → Prop := Relation.ReflTransGen ClearingStep

/-- How a turn comes by its candidate: it is the active one, the one of a family that the message
names, or a new one. -/
inductive Chosen (sha : Json → String) (request : MissionRequest) (portfolio : Portfolio) :
    StrategyCandidateRecord → Portfolio → Prop where
  | kept {candidate : StrategyCandidateRecord} (known : candidate ∈ portfolio.records)
      (active : portfolio.active = some candidate.candidateId) :
      Chosen sha request portfolio candidate portfolio
  | selected {candidate : StrategyCandidateRecord} (known : candidate ∈ portfolio.records)
      (named : request.requestedFamily = some candidate.strategyFamily) :
      Chosen sha request portfolio candidate (portfolio.focus (some candidate.candidateId))
  | created {template : StrategyFamilyTemplate} (listed : template ∈ StrategyFamilies.templates)
      (untried : template.family ∉ portfolio.records.map (·.strategyFamily)) :
      Chosen sha request portfolio
        (template.newRecord sha (portfolio.sequence + 1) request.now)
        (portfolio.add (template.newRecord sha (portfolio.sequence + 1) request.now))

/-- A record after a breadth cycle. -/
abbrev breadthUpdated (candidate : StrategyCandidateRecord) (output : MultiSymbolOutput)
    (now : String) : StrategyCandidateRecord :=
  recordBreadthProgress candidate (output.progress now)

/-- A record after a robustness cycle. -/
abbrev validated (sha : Json → String) (candidate : StrategyCandidateRecord)
    (action : ResearchAction) (symbol : String) (payload : LearningPayload) (now : String) :
    StrategyCandidateRecord :=
  recordRobustnessProgress candidate (robustnessReport sha candidate action symbol payload now)

/-- The entry of a robustness cycle in the journal. -/
abbrev validationEntry (sha : Json → String) (candidate : StrategyCandidateRecord)
    (action : ResearchAction) : ExecutedCycle :=
  .robustness candidate.candidateId action (candidateMaterialEvidenceKey candidate)
    (identityVerified sha candidate)

/-- Whether a candidate is planned to be validated in depth. -/
def PlannedValidation (candidate : StrategyCandidateRecord) (action : ResearchAction) : Prop :=
  (nextBlockerDrivenResearchAction candidate).1 = action ∧ action ≠ .expandSample ∧
    action ≠ .rotateCandidate

/-- Whether the tools answer a validation with an output. -/
def ResearchTools.Tell (tools : ResearchTools) (payload : LearningPayload) : Prop :=
  ∃ request, tools.autonomousLearningResearch request = .ok payload

/-- The reasons a candidate is rejected for: the economics, or the director. -/
def GivenForRejection (reason : String) : Prop :=
  reason = "research_director_rejected_candidate" ∨
    Py.startswith reason "economic_viability_failed"

/-- What the cycle of a turn does to the portfolio. -/
inductive CycleStep (sha : Json → String) (tools : ResearchTools) (portfolio : Portfolio)
    (candidate : StrategyCandidateRecord) (now : String) :
    Option ExecutedCycle → Portfolio → Prop where
  | kept (planned : (nextBlockerDrivenResearchAction candidate).1 ≠ .rotateCandidate) :
      CycleStep sha tools portfolio candidate now none portfolio
  | rotated (planned : (nextBlockerDrivenResearchAction candidate).1 = .rotateCandidate) :
      CycleStep sha tools portfolio candidate now none
        ((portfolio.put (rotatedCandidate candidate
          (some (nextBlockerDrivenResearchAction candidate).2) now)).focus none)
  | breadth (output : MultiSymbolOutput)
      (planned : (nextBlockerDrivenResearchAction candidate).1 ≠ .rotateCandidate)
      (going : output.isProviderAcquisitionBlocker ∨
        ¬isStagnant (breadthUpdated candidate output now)) :
      CycleStep sha tools portfolio candidate now
        (some (.breadth candidate.candidateId output.isProviderAcquisitionBlocker))
        (portfolio.put (breadthUpdated candidate output now))
  | breadthRotated (output : MultiSymbolOutput)
      (planned : (nextBlockerDrivenResearchAction candidate).1 ≠ .rotateCandidate) :
      CycleStep sha tools portfolio candidate now
        (some (.breadth candidate.candidateId output.isProviderAcquisitionBlocker))
        ((portfolio.put (rotatedCandidate (breadthUpdated candidate output now) none now)).focus
          none)
  | validated {action : ResearchAction} (symbol : String) {payload : LearningPayload}
      (told : tools.Tell payload) (planned : PlannedValidation candidate action)
      (going : ¬isStagnant (validated sha candidate action symbol payload now)) :
      CycleStep sha tools portfolio candidate now (some (validationEntry sha candidate action))
        (portfolio.put (validated sha candidate action symbol payload now))
  | validatedRotated {action : ResearchAction} (symbol : String) {payload : LearningPayload}
      (told : tools.Tell payload) (planned : PlannedValidation candidate action) :
      CycleStep sha tools portfolio candidate now (some (validationEntry sha candidate action))
        ((portfolio.put (rotatedCandidate (validated sha candidate action symbol payload now) none
          now)).focus none)
  | promoted {action : ResearchAction} (symbol : String) {payload : LearningPayload}
      (told : tools.Tell payload) (planned : PlannedValidation candidate action)
      (verified : identityVerified sha candidate)
      (pass : (economicViability
        (validated sha candidate action symbol payload now)).status = .pass) :
      CycleStep sha tools portfolio candidate now (some (validationEntry sha candidate action))
        (((portfolio.announce candidate now).focus none).put
          (markPromotionReady (validated sha candidate action symbol payload now) now))
  | rejected {action : ResearchAction} (symbol reason : String) {payload : LearningPayload}
      (told : tools.Tell payload) (planned : PlannedValidation candidate action)
      (why : GivenForRejection reason) :
      CycleStep sha tools portfolio candidate now (some (validationEntry sha candidate action))
        ((portfolio.focus none).put
          (markRejected (validated sha candidate action symbol payload now) reason now))

/-- A rotated candidate keeps its name. -/
theorem rotatedCandidate_sameIdentity (candidate : StrategyCandidateRecord)
    (reason : Option String) (now : String) :
    candidate.SameIdentity (rotatedCandidate candidate reason now) := by
  unfold rotatedCandidate
  split
  · exact ⟨rfl, rfl, rfl, rfl⟩
  · split <;> exact ⟨rfl, rfl, rfl, rfl⟩

section Cycles

variable (sha : Json → String) (tools : ResearchTools) (mission : ResearchMission)
  (candidate : StrategyCandidateRecord) (now : String)

@[simp] theorem portfolio_rotateStagnantCandidate (reason : Option String) :
    (rotateStagnantCandidate mission candidate reason now).portfolio =
      (mission.portfolio.put (rotatedCandidate candidate reason now)).focus none := by
  simp [rotateStagnantCandidate]

@[simp] theorem portfolio_focusedOnEvidence :
    (focusedOnEvidence mission candidate now).portfolio = mission.portfolio := by
  unfold focusedOnEvidence
  split
  · split <;> simp
  · rfl

/-- What is recorded of a breadth cycle is such a step. -/
theorem breadthRecorded_step {candidate} (output : MultiSymbolOutput)
    (planned : (nextBlockerDrivenResearchAction candidate).1 ≠ .rotateCandidate) :
    let result := breadthRecorded mission candidate output now
    CycleStep sha tools mission.portfolio candidate now result.executed
      result.mission.portfolio := by
  intro result
  by_cases outage : output.outage
  · have ended : result = ⟨((mission.recordCycleResult
        (MultiSymbolOutput.symbolsOf output.evidence) now).updateCandidate
          (breadthUpdated candidate output now) now).recordBlocked output.outageReason now,
        some (.breadth candidate.candidateId output.isProviderAcquisitionBlocker)⟩ := by
      simp only [result, breadthRecorded, outage, if_true]
    rw [ended]
    simp only [ResearchMission.portfolio_recordBlocked, ResearchMission.portfolio_updateCandidate,
      ResearchMission.portfolio_recordCycleResult]
    refine .breadth output planned (.inl ?_)
    simp only [MultiSymbolOutput.outage, Bool.and_eq_true] at outage
    exact outage.2
  · by_cases stalled : isStagnant (breadthUpdated candidate output now)
    · have ended : result.executed =
          some (.breadth candidate.candidateId output.isProviderAcquisitionBlocker) ∧
          result.mission.portfolio = ((mission.portfolio.put
            (breadthUpdated candidate output now)).put (rotatedCandidate
              (breadthUpdated candidate output now) none now)).focus none := by
        simp [result, breadthRecorded, outage, stalled]
      rw [ended.1, ended.2, Portfolio.put_put (rotatedCandidate_sameIdentity _ _ _).candidateId]
      exact .breadthRotated output planned
    · have ended : result.executed =
          some (.breadth candidate.candidateId output.isProviderAcquisitionBlocker) ∧
          result.mission.portfolio =
            mission.portfolio.put (breadthUpdated candidate output now) := by
        simp [result, breadthRecorded, outage, stalled]
      rw [ended.1, ended.2]
      exact .breadth output planned (.inr stalled)

/-- A breadth cycle is such a step. -/
theorem tryCandidateBreadthCycle_step (preferredSymbols : List String) :
    let result := tryCandidateBreadthCycle tools mission candidate preferredSymbols now
    CycleStep sha tools mission.portfolio candidate now result.executed
      result.mission.portfolio := by
  intro result
  by_cases planned : (nextBlockerDrivenResearchAction candidate).1 = .rotateCandidate
  · have ended : result = ⟨rotateStagnantCandidate mission candidate
        (some (nextBlockerDrivenResearchAction candidate).2) now, none⟩ := by
      simp only [result, tryCandidateBreadthCycle, planned, if_true]
    rw [ended]
    simp only [portfolio_rotateStagnantCandidate]
    exact .rotated planned
  · simp only [result, tryCandidateBreadthCycle, if_neg planned]
    -- Without symbols or without an answer the mission is blocked, and its candidates stay.
    cases breadthSymbols mission preferredSymbols with
    | none => exact .kept planned
    | some symbols =>
      cases answer : tools.multiSymbolResearch
          ⟨symbols, candidate.specRules, avoidedSymbols candidate symbols⟩ with
      | error failure =>
        simp only [answer]
        exact .kept planned
      | ok output =>
        simp only [answer]
        exact breadthRecorded_step sha tools mission now output planned

/-- A verdict of the director leaves the candidate in depth-validated form, promoted or rejected. -/
theorem robustnessVerdict_cases (verified : Bool) (symbol : String)
    (progress : RobustnessProgress) :
    let verdict := robustnessVerdict mission candidate verified symbol progress
    let updated := recordRobustnessProgress candidate progress
    (verdict.1.portfolio = mission.portfolio ∧ verdict.2 = updated) ∨
      (verdict.1.portfolio = (mission.portfolio.announce candidate progress.now).focus none ∧
        verdict.2 = markPromotionReady updated progress.now ∧ verified ∧
        (economicViability updated).status = .pass) ∨
      verdict.1.portfolio = mission.portfolio.focus none ∧
        ∃ reason, verdict.2 = markRejected updated reason progress.now ∧
          GivenForRejection reason := by
  intro verdict updated
  simp only [verdict, robustnessVerdict]
  split
  · exact .inl ⟨rfl, rfl⟩
  split
  · -- The director asks for a human: the economics decide, if the rules were the candidate's.
    cases verified with
    | false => exact .inl ⟨by simp, rfl⟩
    | true =>
      cases worth : (economicViability (recordRobustnessProgress candidate progress)).status with
      | pass => exact .inr (.inl ⟨by simp, rfl, rfl, rfl⟩)
      | fail =>
        have starts : Py.startswith "economic_viability_failed:" "economic_viability_failed" := by
          decide +kernel
        exact .inr (.inr ⟨by simp, _, rfl, .inr (Py.startswith_append starts _)⟩)
      | needsMoreEvidence => exact .inl ⟨by simp, rfl⟩
  split
  · exact .inr (.inr ⟨by simp, _, rfl, .inl rfl⟩)
  · split <;> exact .inl ⟨by simp, rfl⟩

/-- What is recorded of a robustness cycle is such a step. -/
theorem robustnessRecorded_step {candidate} {action : ResearchAction}
    {payload : LearningPayload} (told : tools.Tell payload)
    (planned : PlannedValidation candidate action) :
    let result := robustnessRecorded sha mission candidate action payload now
    CycleStep sha tools mission.portfolio candidate now result.executed
      result.mission.portfolio := by
  intro result
  let symbol := mission.pendingPromotionSymbol.getD "None"
  let verdict := robustnessVerdict mission candidate (identityVerified sha candidate) symbol
    (robustnessReport sha candidate action symbol payload now)
  have executed : result.executed = some (validationEntry sha candidate action) := by
    simp only [result, robustnessRecorded]
    split <;> rfl
  have stored : result.mission.portfolio =
      if isStagnant verdict.2 then
        ((verdict.1.portfolio.put verdict.2).put (rotatedCandidate verdict.2 none now)).focus none
      else verdict.1.portfolio.put verdict.2 := by
    simp only [result, robustnessRecorded, verdict, symbol]
    split <;> simp
  rw [executed, stored, Portfolio.put_put (rotatedCandidate_sameIdentity _ _ _).candidateId]
  rcases robustnessVerdict_cases mission candidate (identityVerified sha candidate) symbol
    (robustnessReport sha candidate action symbol payload now)
    with ⟨portfolio, record⟩ | ⟨portfolio, record, verified, pass⟩ |
      ⟨portfolio, reason, record, why⟩
  · rw [portfolio, record]
    split
    · exact .validatedRotated symbol told planned
    · rename_i going
      exact .validated symbol told planned going
  · -- A candidate with a verdict is never stagnant.
    rw [portfolio, record, if_neg (by simp [isStagnant, markPromotionReady])]
    exact .promoted symbol told planned verified pass
  · rw [portfolio, record, if_neg (by simp [isStagnant, markRejected])]
    exact .rejected symbol reason told planned why

/-- A robustness cycle is such a step. -/
theorem tryCandidateRobustnessCycle_step :
    let result := tryCandidateRobustnessCycle sha tools mission candidate now
    CycleStep sha tools mission.portfolio candidate now result.executed
      result.mission.portfolio := by
  intro result
  by_cases expands : (nextBlockerDrivenResearchAction candidate).1 = .expandSample
  · simp only [result, tryCandidateRobustnessCycle, if_pos expands]
    exact tryCandidateBreadthCycle_step sha tools (mission.clearFocusSymbol now) candidate now []
  by_cases rotates : (nextBlockerDrivenResearchAction candidate).1 = .rotateCandidate
  · simp only [result, tryCandidateRobustnessCycle, if_neg expands, if_pos rotates,
      portfolio_rotateStagnantCandidate]
    exact .rotated rotates
  · simp only [result, tryCandidateRobustnessCycle, if_neg expands, if_neg rotates]
    split
    · exact .kept rotates
    · rename_i payload answer
      exact robustnessRecorded_step sha tools mission now ⟨_, answer⟩ ⟨rfl, expands, rotates⟩

/-- The cycle of a turn is such a step. -/
theorem candidateCycle_step (request : MissionRequest) :
    let result := candidateCycle sha tools request mission candidate
    CycleStep sha tools mission.portfolio candidate request.now result.executed
      result.mission.portfolio := by
  intro result
  simp only [result, candidateCycle]
  have breadth := tryCandidateBreadthCycle_step sha tools mission candidate request.now
    request.preferredSymbols
  split
  · exact tryCandidateRobustnessCycle_step sha tools mission candidate request.now
  split
  · split
    · rename_i planned
      simp only [portfolio_rotateStagnantCandidate]
      exact .rotated planned
    split
    · exact breadth
    · split
      · rename_i symbol _
        exact tryCandidateRobustnessCycle_step sha tools
          (mission.recordFocusSymbol symbol request.now) candidate request.now
      · exact breadth
  · exact breadth

end Cycles

variable {candidate : StrategyCandidateRecord}

section Preparation

variable {sha : Json → String} {request : MissionRequest} {mission : ResearchMission}

/-- Taking a candidate up again is a clearing step. -/
theorem attemptBoundedStagnationRecovery_step {recovered : ResearchMission} {now : String}
    {maxCandidates : Nat}
    (taken : attemptBoundedStagnationRecovery mission now maxCandidates = some recovered) :
    ClearingStep mission.portfolio recovered.portfolio := by
  unfold attemptBoundedStagnationRecovery at taken
  split at taken
  · obtain ⟨candidate, found, rfl⟩ := Option.map_eq_some_iff.mp taken
    have scanned := List.mem_of_mem_take (List.mem_of_find?_eq_some found)
    obtain ⟨known, given⟩ := List.mem_filter.mp scanned
    have stored : ∀ changed : ResearchMission,
        ({ changed with status := .active, blockedReason := none } : ResearchMission).portfolio =
          changed.portfolio := fun _ => rfl
    rw [stored]
    simp only [ResearchMission.portfolio_setActiveCandidate,
      ResearchMission.portfolio_updateCandidate]
    exact .reopened now known given
  · cases taken

/-- A mission that can go on was cleared, and so was one that cannot. -/
theorem unblocked_cleared {result : ResearchMission}
    (ended : unblocked request mission = .ok result ∨ unblocked request mission = .error result) :
    Cleared mission.portfolio result.portfolio := by
  unfold unblocked at ended
  split at ended
  · obtain rfl : mission = result := by simpa using ended
    exact .refl
  · cases taken : attemptBoundedStagnationRecovery mission request.now 2 with
    | none =>
      obtain rfl : mission = result := by simpa [taken] using ended
      exact .refl
    | some recovered =>
      have same : recovered = result := by
        simp only [taken] at ended
        split at ended <;> simpa using ended
      exact .single (same ▸ attemptBoundedStagnationRecovery_step taken)

/-- Asking for another kind of strategy clears a mission. -/
theorem rotatedForDiversity_cleared (request : MissionRequest) (mission : ResearchMission) :
    Cleared mission.portfolio (rotatedForDiversity request mission).portfolio := by
  unfold rotatedForDiversity
  split
  · exact .refl
  · rename_i active found
    obtain ⟨known, focused⟩ := mission.mem_of_getActiveCandidate found
    split
    · simp only [ResearchMission.portfolio_clearFocusSymbol,
        ResearchMission.portfolio_setActiveCandidate, ResearchMission.portfolio_updateCandidate]
      exact .single (.givenUp request.now known focused (by decide))
    · exact .refl

/-- Naming another family clears a mission, up to the candidate that is active afterwards; every
candidate but the active one stays as it is. -/
theorem rotatedForFamily_cleared (request : MissionRequest) (mission : ResearchMission) :
    ∃ cleared, Cleared mission.portfolio cleared ∧
      (∀ active, (rotatedForFamily request mission).portfolio.focus active =
        cleared.focus active) ∧
      ∀ record ∈ mission.portfolio.records,
        (∀ active, mission.getActiveCandidate = some active →
          record.candidateId ≠ active.candidateId) → record ∈ cleared.records := by
  unfold rotatedForFamily
  cases found : mission.getActiveCandidate with
  | none => exact ⟨_, .refl, fun _ => rfl, fun _ member _ => member⟩
  | some active =>
    obtain ⟨known, focused⟩ := mission.mem_of_getActiveCandidate found
    have step := ClearingStep.givenUp request.now known focused
      (List.mem_cons_of_mem _ List.mem_cons_self :
        "user_requested_specific_strategy_family" ∈ ["user_requested_different_strategy_family",
          "user_requested_specific_strategy_family"])
    refine ⟨_, .single step, fun _ => by simp [Portfolio.focus], fun record member other => ?_⟩
    have same : (markStagnant active "user_requested_specific_strategy_family"
      request.now).candidateId = active.candidateId := rfl
    exact (Portfolio.mem_put_iff known same).mpr (.inr ⟨member, other active rfl⟩)

variable {before after : Portfolio}

/-- Records that a mission is cleared of nothing but its state: the candidates are the same ones. -/
theorem ClearingStep.formed (step : ClearingStep before after) (formed : before.WellFormed sha) :
    after.WellFormed sha ∧ after.sequence = before.sequence ∧
      after.records.map (·.strategyFamily) = before.records.map (·.strategyFamily) := by
  cases step with
  | @reopened candidate now known given =>
    have same : candidate.SameIdentity (StrategyLab.reopened candidate now) :=
      ⟨rfl, rfl, rfl, rfl⟩
    exact ⟨(formed.put known same).focus _, rfl, formed.map_put known same.candidateId same.family⟩
  | @givenUp candidate reason now known active asked =>
    have same : candidate.SameIdentity (markStagnant candidate reason now) :=
      ⟨rfl, rfl, rfl, rfl⟩
    exact ⟨(formed.put known same).focus _, rfl, formed.map_put known same.candidateId same.family⟩

/-- Clearing a portfolio keeps it well formed, with the same families. -/
theorem Cleared.formed (cleared : Cleared before after) (formed : before.WellFormed sha) :
    after.WellFormed sha ∧ after.sequence = before.sequence ∧
      after.records.map (·.strategyFamily) = before.records.map (·.strategyFamily) := by
  induction cleared with
  | refl => exact ⟨formed, rfl, rfl⟩
  | tail _ last ih =>
    obtain ⟨formed, sequence, families⟩ := ih
    obtain ⟨next, number, names⟩ := last.formed formed
    exact ⟨next, number.trans sequence, names.trans families⟩

/-- A candidate is found under its name. -/
theorem getCandidate_eq (formed : mission.portfolio.WellFormed sha)
    (known : candidate ∈ mission.portfolio.records) :
    mission.getCandidate candidate.candidateId = some candidate := by
  have found : (mission.getCandidate candidate.candidateId).isSome := by
    rw [ResearchMission.getCandidate, List.find?_isSome]
    exact ⟨candidate, known, decide_eq_true rfl⟩
  obtain ⟨other, got⟩ := Option.isSome_iff_exists.mp found
  have same : other.candidateId = candidate.candidateId := by simpa using List.find?_some got
  rw [got, formed.eq_of_candidateId_eq (List.mem_of_find?_eq_some got) known same]

/-- The candidate with the active name is the active one. -/
theorem getActiveCandidate_eq (formed : mission.portfolio.WellFormed sha)
    (known : candidate ∈ mission.portfolio.records)
    (active : mission.portfolio.active = some candidate.candidateId) :
    mission.getActiveCandidate = some candidate := by
  have named : mission.activeCandidateId = some candidate.candidateId := active
  rw [ResearchMission.getActiveCandidate, named, Option.bind_some, getCandidate_eq formed known]

/-- A new candidate is one of a template of a family that was not tried. -/
theorem newCandidate_template {family now : String} {sequence : Nat}
    (built : newCandidate sha family sequence now = some candidate) :
    ∃ template ∈ StrategyFamilies.templates, template.family = family ∧
      candidate = template.newRecord sha sequence now := by
  obtain ⟨template, found, rfl⟩ := Option.map_eq_some_iff.mp built
  obtain ⟨listed, named⟩ := StrategyFamilies.template?_eq_some_iff.mp found
  exact ⟨template, listed, named, rfl⟩

/-- A family that is tried next was not tried before. -/
theorem nextUntriedFamily_untried {existing : List StrategyCandidateRecord}
    {familyPreferences : List (String × ℚ)} {family : String}
    (next : nextUntriedFamily existing familyPreferences = some family) :
    family ∉ existing.map (·.strategyFamily) := by
  obtain ⟨template, found, rfl⟩ := Option.map_eq_some_iff.mp next
  simpa using List.find?_some found

/-- The next candidate of a mission is of a family that was not tried. -/
theorem nextCandidate_untried (next : nextCandidate sha request mission = some candidate) :
    ∃ template ∈ StrategyFamilies.templates,
      template.family ∉ mission.portfolio.records.map (·.strategyFamily) ∧
        candidate = template.newRecord sha (mission.portfolio.sequence + 1) request.now := by
  unfold nextCandidate at next
  cases base : nextUntriedFamily mission.candidateRecords request.familyPreferences with
  | some family =>
    simp only [base] at next
    obtain ⟨template, listed, rfl, built⟩ := newCandidate_template next
    exact ⟨template, listed, nextUntriedFamily_untried base, built⟩
  | none =>
    simp only [base, expandStrategySpaceCandidate] at next
    split at next
    · rename_i choice found
      obtain ⟨template, listed, named, built⟩ := newCandidate_template next
      have unused := List.find?_some found
      simp only [Bool.not_eq_true', Bool.or_eq_false_iff, decide_eq_false_iff_not] at unused
      exact ⟨template, listed, named ▸ unused.1, built⟩
    · cases next

/-- Choosing a family leaves the active candidate, or chooses one from a cleared portfolio. -/
theorem withRequestedFamily_cases (request : MissionRequest)
    (formed : mission.portfolio.WellFormed sha) :
    withRequestedFamily sha request mission = (mission, mission.getActiveCandidate) ∨
      ∃ cleared candidate, Cleared mission.portfolio cleared ∧
        (withRequestedFamily sha request mission).2 = some candidate ∧
        Chosen sha request cleared candidate
          (withRequestedFamily sha request mission).1.portfolio := by
  unfold withRequestedFamily
  cases asked : request.requestedFamily.bind StrategyFamilies.template? with
  | none => exact .inl rfl
  | some template =>
    obtain ⟨family, named, found⟩ := Option.bind_eq_some_iff.mp asked
    obtain ⟨listed, rfl⟩ := StrategyFamilies.template?_eq_some_iff.mp found
    simp only
    by_cases going : mission.getActiveCandidate.any (·.strategyFamily = template.family)
    · rw [if_pos going]
      exact .inl rfl
    rw [if_neg going]
    obtain ⟨cleared, steps, same, others⟩ := rotatedForFamily_cleared request mission
    obtain ⟨clearedFormed, sequence, families⟩ := steps.formed formed
    right
    cases known : mission.candidateRecords.find? (·.strategyFamily = template.family) with
    | some already =>
      -- The active candidate is of another family, so the named one is none of those given up.
      have member : already ∈ mission.portfolio.records := List.mem_of_find?_eq_some known
      have ofFamily : already.strategyFamily = template.family := by
        simpa using List.find?_some known
      have kept : already ∈ cleared.records := by
        refine others already member fun active found agree => going ?_
        obtain ⟨inside, -⟩ := mission.mem_of_getActiveCandidate found
        rw [found, ← formed.eq_of_candidateId_eq member inside agree]
        simpa using ofFamily
      have portfolio : ((rotatedForFamily request mission).setActiveCandidate
          (some already.candidateId) request.now).portfolio =
            cleared.focus (some already.candidateId) := same _
      refine ⟨cleared, already, steps, ?_, ?_⟩
      · have formedNow : ((rotatedForFamily request mission).setActiveCandidate
            (some already.candidateId) request.now).portfolio.WellFormed sha :=
          portfolio ▸ clearedFormed.focus _
        exact getActiveCandidate_eq formedNow (portfolio ▸ kept) (portfolio ▸ rfl)
      · rw [portfolio]
        exact .selected kept (ofFamily ▸ named)
    | none =>
      have untried : template.family ∉ cleared.records.map (·.strategyFamily) := by
        rw [families]
        intro member
        obtain ⟨record, inside, agree⟩ := List.mem_map.mp member
        have other := List.find?_eq_none.mp known record inside
        exact other (decide_eq_true agree)
      have number : (rotatedForFamily request mission).nextCandidateSequence =
          cleared.sequence + 1 := by
        have numbers := congrArg Portfolio.sequence (same none)
        exact congrArg (· + 1) numbers
      have fresh := clearedFormed.next_fresh listed untried
      have records : (rotatedForFamily request mission).portfolio.records = cleared.records := by
        have both := congrArg Portfolio.records (same none)
        exact both
      refine ⟨cleared, template.newRecord sha (cleared.sequence + 1) request.now, steps, ?_, ?_⟩
      · rw [number]
      · have portfolio : (((rotatedForFamily request mission).addCandidate
            (template.newRecord sha (cleared.sequence + 1) request.now)
              request.now).setActiveCandidate (some (template.newRecord sha (cleared.sequence + 1)
                request.now).candidateId) request.now).portfolio =
            cleared.add (template.newRecord sha (cleared.sequence + 1) request.now) := by
          rw [ResearchMission.portfolio_setActiveCandidate,
            ResearchMission.portfolio_addCandidate _ _ _ (records ▸ fresh)]
          have added := congrArg (Portfolio.add ·
            (template.newRecord sha (cleared.sequence + 1) request.now)) (same none)
          exact added
        rw [number, portfolio]
        exact .created listed untried

/-- Choosing a candidate clears the portfolio first; without one to choose that is all. -/
theorem chosen_cases (request : MissionRequest) (formed : mission.portfolio.WellFormed sha) :
    let selected := withRequestedFamily sha request mission
    (∀ ended, withCandidate sha request selected.1 selected.2 = .error ended →
      Cleared mission.portfolio ended.portfolio) ∧
    ∀ chosen candidate, withCandidate sha request selected.1 selected.2 = .ok (chosen, candidate) →
      ∃ cleared, Cleared mission.portfolio cleared ∧
        Chosen sha request cleared candidate chosen.portfolio := by
  intro selected
  rcases withRequestedFamily_cases request formed with
    same | ⟨cleared, candidate, steps, active, chosen⟩
  · simp only [selected, same, withCandidate]
    cases found : mission.getActiveCandidate with
    | some active =>
      -- The active candidate is the one that research goes on with.
      refine ⟨fun ended blocked => absurd blocked (by simp), fun chosen candidate ended => ?_⟩
      obtain ⟨rfl, rfl⟩ := Prod.mk.inj (Except.ok.inj ended)
      obtain ⟨known, focused⟩ := mission.mem_of_getActiveCandidate found
      exact ⟨_, .refl, .kept known focused⟩
    | none =>
      cases next : nextCandidate sha request mission with
      | none =>
        refine ⟨fun ended blocked => ?_, fun _ _ ended => absurd ended (by simp)⟩
        rw [← Except.error.inj blocked]
        exact .refl
      | some candidate =>
        refine ⟨fun ended blocked => absurd blocked (by simp), fun chosen added ended => ?_⟩
        obtain ⟨rfl, rfl⟩ := Prod.mk.inj (Except.ok.inj ended)
        obtain ⟨template, listed, untried, rfl⟩ := nextCandidate_untried next
        have fresh := formed.next_fresh listed untried
        rw [ResearchMission.portfolio_addCandidate _ _ _ fresh]
        exact ⟨_, .refl, .created listed untried⟩
  · simp only [selected, active, withCandidate]
    refine ⟨fun ended blocked => absurd blocked (by simp), fun mission other ended => ?_⟩
    obtain ⟨rfl, rfl⟩ := Prod.mk.inj (Except.ok.inj ended)
    exact ⟨cleared, steps, chosen⟩

end Preparation

variable {sha : Json → String} {mission : ResearchMission}

/-- What is done before a cycle: the portfolio is cleared, and a candidate is chosen. -/
theorem preparedTurn_cases (request : MissionRequest) (formed : mission.portfolio.WellFormed sha) :
    (∀ ended, preparedTurn sha request mission = .error ended →
      Cleared mission.portfolio ended.portfolio) ∧
    ∀ chosen candidate, preparedTurn sha request mission = .ok (chosen, candidate) →
      ∃ cleared, Cleared mission.portfolio cleared ∧
        Chosen sha request cleared candidate chosen.portfolio := by
  unfold preparedTurn
  cases first : unblocked request mission with
  | error ended =>
    refine ⟨fun stopped same => ?_, fun _ _ same => absurd same (by simp [Except.bind])⟩
    rw [← Except.error.inj same]
    exact unblocked_cleared (.inr first)
  | ok going =>
    have reopened := unblocked_cleared (.inl first)
    have rotated := rotatedForDiversity_cleared request going
    have both := reopened.trans rotated
    obtain ⟨blocked, chosen⟩ := chosen_cases request (Cleared.formed both formed).1
    refine ⟨fun ended same => both.trans (blocked ended same), fun next candidate same => ?_⟩
    obtain ⟨cleared, steps, choice⟩ := chosen next candidate same
    exact ⟨cleared, both.trans steps, choice⟩

/-- What a turn does to the portfolio: it is cleared, a candidate is chosen, and a cycle is run. -/
inductive TurnStep (sha : Json → String) (tools : ResearchTools) (request : MissionRequest)
    (portfolio : Portfolio) : Option ExecutedCycle → Portfolio → Prop where
  | ended {after : Portfolio} (cleared : Cleared portfolio after) :
      TurnStep sha tools request portfolio none after
  | cycle {cleared chosen after : Portfolio} {candidate : StrategyCandidateRecord}
      {executed : Option ExecutedCycle} (steps : Cleared portfolio cleared)
      (choice : Chosen sha request cleared candidate chosen)
      (step : CycleStep sha tools chosen candidate request.now executed after) :
      TurnStep sha tools request portfolio executed after

/-- A turn is such a step. -/
theorem tryMissionDrivenResearchCycle_step (tools : ResearchTools) (request : MissionRequest)
    (formed : mission.portfolio.WellFormed sha) :
    let result := tryMissionDrivenResearchCycle sha tools request mission
    TurnStep sha tools request mission.portfolio result.executed result.mission.portfolio := by
  intro result
  obtain ⟨stopped, prepared⟩ := preparedTurn_cases request formed
  simp only [result, tryMissionDrivenResearchCycle]
  cases first : preparedTurn sha request mission with
  | error ended => exact .ended (stopped ended first)
  | ok next =>
    obtain ⟨cleared, steps, choice⟩ := prepared next.1 next.2 first
    exact .cycle steps choice (candidateCycle_step sha tools next.1 next.2 request)

variable {before after : Portfolio}

/-- A chosen candidate is the active one of a well-formed portfolio. -/
theorem Chosen.formed {request : MissionRequest}
    (choice : Chosen sha request before candidate after)
    (formed : before.WellFormed sha) :
    after.WellFormed sha ∧ candidate ∈ after.records ∧
      after.active = some candidate.candidateId := by
  cases choice with
  | kept known active => exact ⟨formed, known, active⟩
  | selected known named => exact ⟨formed.focus _, known, rfl⟩
  | created listed untried =>
    exact ⟨formed.add request.now listed untried, List.mem_append_right _ List.mem_cons_self, rfl⟩

/-- A robustness cycle keeps the identity of its candidate. -/
theorem validated_sameIdentity (sha : Json → String) (candidate : StrategyCandidateRecord)
    (action : ResearchAction) (symbol : String) (payload : LearningPayload) (now : String) :
    candidate.SameIdentity (validated sha candidate action symbol payload now) :=
  ⟨rfl, rfl, rfl, rfl⟩

variable {executed : Option ExecutedCycle}

/-- A cycle keeps a portfolio well formed. -/
theorem CycleStep.formed {tools : ResearchTools} {now : String}
    (step : CycleStep sha tools before candidate now executed after)
    (formed : before.WellFormed sha) (known : candidate ∈ before.records) :
    after.WellFormed sha := by
  have rotated : ∀ updated reason, candidate.SameIdentity updated →
      candidate.SameIdentity (rotatedCandidate updated reason now) := by
    intro updated reason same
    have again := rotatedCandidate_sameIdentity updated reason now
    exact ⟨again.candidateId.trans same.candidateId, again.family.trans same.family,
      again.rules.trans same.rules, again.fingerprint.trans same.fingerprint⟩
  cases step with
  | kept planned => exact formed
  | rotated planned =>
    exact (formed.put known (rotated candidate _ ⟨rfl, rfl, rfl, rfl⟩)).focus _
  | breadth output planned going => exact formed.put known ⟨rfl, rfl, rfl, rfl⟩
  | breadthRotated output planned =>
    exact (formed.put known (rotated (breadthUpdated candidate output now) _
      ⟨rfl, rfl, rfl, rfl⟩)).focus _
  | validated symbol told planned going =>
    exact formed.put known (validated_sameIdentity _ _ _ _ _ _)
  | validatedRotated symbol told planned =>
    exact (formed.put known (rotated _ _ (validated_sameIdentity _ _ _ _ _ _))).focus _
  | promoted symbol told planned verified pass =>
    have there : candidate ∈ ((before.announce candidate now).focus none).records := by
      simpa using known
    exact ((formed.announce candidate now).focus none).put there ⟨rfl, rfl, rfl, rfl⟩
  | rejected symbol reason told planned =>
    exact (formed.focus none).put known ⟨rfl, rfl, rfl, rfl⟩

/-- A turn keeps a portfolio well formed. -/
theorem TurnStep.formed {tools : ResearchTools} {request : MissionRequest}
    (step : TurnStep sha tools request before executed after)
    (formed : before.WellFormed sha) : after.WellFormed sha := by
  cases step with
  | ended cleared => exact (cleared.formed formed).1
  | cycle steps choice step =>
    obtain ⟨chosen, known, -⟩ := choice.formed (steps.formed formed).1
    exact step.formed chosen known

end StrategyLab
