import StrategyLab.Runtime.CandidateVerdicts

/-! Missions on selected symbols: which candidate was evaluated on which symbol, and when none is
left. -/

namespace StrategyLab

/-- The symbols that a breadth cycle evaluates its candidate on. -/
def breadthEvaluated (tools : ResearchTools) (mission : ResearchMission)
    (candidate : StrategyCandidateRecord) (preferredSymbols : List String) : List String :=
  if (nextBlockerDrivenResearchAction candidate).1 = .rotateCandidate then []
  else match breadthSymbols mission preferredSymbols with
    | none => []
    | some symbols =>
      match tools.multiSymbolResearch
          ⟨symbols, candidate.specRules, avoidedSymbols candidate symbols⟩ with
      | .error _ => []
      | .ok output => MultiSymbolOutput.symbolsOf output.evidence

/-- The symbols that the cycle of a turn evaluates its candidate on. -/
def cycleEvaluated (tools : ResearchTools) (request : MissionRequest) (mission : ResearchMission)
    (active : StrategyCandidateRecord) : List String :=
  let planned := (nextBlockerDrivenResearchAction active).1
  if (someText mission.pendingPromotionSymbol).isSome then
    if planned = .expandSample then
      breadthEvaluated tools (mission.clearFocusSymbol request.now) active []
    else []
  else if candidateSampleExhausted active ∧ planned ≠ .expandSample ∧
      (nextRobustnessEvidenceSymbol active none).isSome then []
  else breadthEvaluated tools mission active request.preferredSymbols

/-- Which candidate an event evaluates on which symbols. -/
def MissionEvent.evaluated (sha : Json → String) (event : MissionEvent)
    (mission : ResearchMission) : List (String × String) :=
  match event with
  | .message _ => []
  | .turn request tools =>
    match preparedTurn sha request mission with
    | .error _ => []
    | .ok (chosen, active) =>
      (cycleEvaluated tools request chosen active).map (active.candidateId, ·)

/-- Which candidates a run evaluates on which symbols. -/
def evaluations (sha : Json → String) (journal : MissionJournal) :
    List MissionEvent → List (String × String)
  | [] => []
  | event :: rest =>
    event.evaluated sha journal.mission.reloaded ++
      evaluations sha ((missionMachine sha).next journal event) rest

/-- Whether a mission stopped because its selected symbols are used up. -/
def ResearchMission.Exhausted (mission : ResearchMission) : Prop :=
  mission.status = .blocked ∧ mission.blockedReason = some "selected_symbol_universe_exhausted"

instance (mission : ResearchMission) : Decidable mission.Exhausted :=
  inferInstanceAs (Decidable (_ ∧ _))

/-- What a mission is about, and what of it was looked at. -/
structure Exploration where
  symbols : List String
  explored : List String

namespace ResearchMission

variable (mission : ResearchMission) (candidate : StrategyCandidateRecord) (now : String)

/-- The symbols of a mission, and those of them that cycles have reached. -/
def exploration : Exploration := ⟨mission.symbols, mission.exploredSymbols⟩

@[simp] theorem exploration_clearFocusSymbol :
    (mission.clearFocusSymbol now).exploration = mission.exploration := rfl

@[simp] theorem exploration_recordFocusSymbol (symbol : String) :
    (mission.recordFocusSymbol symbol now).exploration = mission.exploration := rfl

@[simp] theorem exploration_recordBlocked (reason : String) :
    (mission.recordBlocked reason now).exploration = mission.exploration := rfl

@[simp] theorem exploration_setActiveCandidate (candidateId : Option String) :
    (mission.setActiveCandidate candidateId now).exploration = mission.exploration := rfl

@[simp] theorem exploration_updateCandidate :
    (mission.updateCandidate candidate now).exploration = mission.exploration := by
  unfold updateCandidate
  split <;> rfl

@[simp] theorem exploration_addCandidate :
    (mission.addCandidate candidate now).exploration = mission.exploration := by
  unfold addCandidate
  split <;> rfl

@[simp] theorem exploration_recordPromotionCandidate (fingerprint candidateId : String) :
    (mission.recordPromotionCandidate fingerprint candidateId now).exploration =
      mission.exploration := by
  unfold recordPromotionCandidate
  simp only
  split <;> rfl

@[simp] theorem exploration_recordCycleResult (symbols : List String) :
    (mission.recordCycleResult symbols now).exploration =
      ⟨mission.symbols, Py.fromkeys (mission.exploredSymbols ++ symbols)⟩ := rfl

@[simp] theorem exploration_rotateStagnantCandidate (reason : Option String) :
    (rotateStagnantCandidate mission candidate reason now).exploration = mission.exploration := by
  simp [rotateStagnantCandidate]

@[simp] theorem exploration_focusedOnEvidence :
    (focusedOnEvidence mission candidate now).exploration = mission.exploration := by
  unfold focusedOnEvidence
  split
  · split <;> simp
  · rfl

variable {mission candidate now}

@[simp] theorem exhausted_clearFocusSymbol :
    (mission.clearFocusSymbol now).Exhausted ↔ mission.Exhausted := Iff.rfl

@[simp] theorem exhausted_recordFocusSymbol {symbol : String} :
    (mission.recordFocusSymbol symbol now).Exhausted ↔ mission.Exhausted := Iff.rfl

@[simp] theorem exhausted_setActiveCandidate {candidateId : Option String} :
    (mission.setActiveCandidate candidateId now).Exhausted ↔ mission.Exhausted := Iff.rfl

@[simp] theorem exhausted_recordCycleResult {symbols : List String} :
    (mission.recordCycleResult symbols now).Exhausted ↔ mission.Exhausted := Iff.rfl

@[simp] theorem exhausted_updateCandidate :
    (mission.updateCandidate candidate now).Exhausted ↔ mission.Exhausted := by
  unfold updateCandidate
  split <;> exact Iff.rfl

@[simp] theorem exhausted_addCandidate :
    (mission.addCandidate candidate now).Exhausted ↔ mission.Exhausted := by
  unfold addCandidate
  split <;> exact Iff.rfl

/-- Finding a strategy ready exhausts no symbols. -/
theorem Exhausted.of_recordPromotionCandidate {fingerprint candidateId : String}
    (ended : (mission.recordPromotionCandidate fingerprint candidateId now).Exhausted) :
    mission.Exhausted := by
  unfold recordPromotionCandidate at ended
  simp only at ended
  split at ended
  · exact ended
  · refine ⟨?_, ended.2⟩
    have blocked := ended.1
    simp only at blocked
    split at blocked
    · cases blocked
    · exact blocked

/-- Only one reason says that the symbols are used up. -/
@[simp] theorem exhausted_recordBlocked {reason : String} :
    (mission.recordBlocked reason now).Exhausted ↔
      reason = "selected_symbol_universe_exhausted" := by
  simp [Exhausted, recordBlocked]

@[simp] theorem exhausted_rotateStagnantCandidate {reason : Option String} :
    (rotateStagnantCandidate mission candidate reason now).Exhausted ↔ mission.Exhausted := by
  simp [rotateStagnantCandidate]

@[simp] theorem exhausted_focusedOnEvidence :
    (focusedOnEvidence mission candidate now).Exhausted ↔ mission.Exhausted := by
  unfold focusedOnEvidence
  split
  · split <;> simp
  · exact Iff.rfl

end ResearchMission

section Cycles

variable (sha : Json → String) (tools : ResearchTools) (mission : ResearchMission)
  (candidate : StrategyCandidateRecord) (now : String)

/-- A failed tool call is another reason to stop. -/
theorem failure_ne_exhausted (failure : ToolFailure) :
    failure.stage ++ ":" ++ failure.errorType ≠ "selected_symbol_universe_exhausted" := by
  intro same
  have colon : ':' ∈ (failure.stage ++ ":" ++ failure.errorType).toList := by simp
  rw [same] at colon
  exact absurd colon (by decide)

/-- An outage is another reason to stop. -/
theorem outageReason_ne_exhausted (output : MultiSymbolOutput) :
    output.outageReason ≠ "selected_symbol_universe_exhausted" := by
  intro same
  obtain ⟨rest, written⟩ : ∃ rest, output.outageReason = "provider_acquisition_blocker: " ++ rest :=
    ⟨_, rfl⟩
  have blank : ' ' ∈ "provider_acquisition_blocker: ".toList := by decide
  have space : ' ' ∈ output.outageReason.toList := by
    rw [written, String.toList_append]
    exact List.mem_append_left _ blank
  rw [same] at space
  exact absurd space (by decide)

/-- What a cycle leaves of the symbols: it explores only those it evaluates its candidate on, and
uses them up only where none is left. -/
structure Explores (mission : ResearchMission) (evaluated : String → Prop) (noneLeft : Prop)
    (result : ResearchMission) : Prop where
  symbols : result.symbols = mission.symbols
  explored : ∀ symbol ∈ result.exploredSymbols,
    symbol ∈ mission.exploredSymbols ∨ evaluated symbol
  exhausted : ¬mission.Exhausted → result.Exhausted →
    noneLeft ∧ result.portfolio = mission.portfolio

/-- A mission that explores nothing and exhausts nothing. -/
theorem Explores.of_same {mission result : ResearchMission} {evaluated : String → Prop}
    {noneLeft : Prop} (same : result.exploration = mission.exploration)
    (exhausts : result.Exhausted → mission.Exhausted) :
    Explores mission evaluated noneLeft result where
  symbols := congrArg Exploration.symbols same
  explored symbol member := by
    have explored : result.exploredSymbols = mission.exploredSymbols :=
      congrArg Exploration.explored same
    exact .inl (explored ▸ member)
  exhausted going ended := absurd (exhausts ended) going

/-- A cycle explores also what is among other symbols, and stops also where more is used up. -/
theorem Explores.imp {mission result : ResearchMission} {evaluated others : String → Prop}
    {noneLeft fewer : Prop} (explores : Explores mission evaluated noneLeft result)
    (among : ∀ symbol, evaluated symbol → others symbol) (left : noneLeft → fewer) :
    Explores mission others fewer result where
  symbols := explores.symbols
  explored symbol member := (explores.explored symbol member).imp_right (among symbol)
  exhausted going ended := (explores.exhausted going ended).imp_left left

/-- A breadth cycle explores what it evaluates its candidate on, and it exhausts the symbols only
when it finds none left. -/
theorem tryCandidateBreadthCycle_explores (preferredSymbols : List String) :
    Explores mission (· ∈ breadthEvaluated tools mission candidate preferredSymbols)
      (breadthSymbols mission preferredSymbols = none)
      (tryCandidateBreadthCycle tools mission candidate preferredSymbols now).mission := by
  by_cases planned : (nextBlockerDrivenResearchAction candidate).1 = .rotateCandidate
  · simp only [tryCandidateBreadthCycle, planned, if_true]
    exact .of_same (by simp) ResearchMission.exhausted_rotateStagnantCandidate.mp
  simp only [tryCandidateBreadthCycle, if_neg planned]
  cases chosen : breadthSymbols mission preferredSymbols with
  | none => exact ⟨rfl, fun _ member => .inl member, fun _ _ => ⟨rfl, rfl⟩⟩
  | some symbols =>
    cases answer : tools.multiSymbolResearch
        ⟨symbols, candidate.specRules, avoidedSymbols candidate symbols⟩ with
    | error failure =>
      simp only [answer]
      exact .of_same rfl fun stopped => absurd
        (ResearchMission.exhausted_recordBlocked.mp stopped) (failure_ne_exhausted failure)
    | ok output =>
      simp only [answer]
      have evaluated : breadthEvaluated tools mission candidate preferredSymbols =
          MultiSymbolOutput.symbolsOf output.evidence := by
        simp only [breadthEvaluated, if_neg planned, chosen, answer]
      -- Whichever way the cycle ends, the symbols of its evidence are explored.
      have exploration : (breadthRecorded mission candidate output now).mission.exploration =
          ⟨mission.symbols, Py.fromkeys
            (mission.exploredSymbols ++ MultiSymbolOutput.symbolsOf output.evidence)⟩ := by
        unfold breadthRecorded
        simp only
        split
        · simp
        · split <;> simp
      refine ⟨congrArg Exploration.symbols exploration, fun symbol member => ?_,
        fun going stopped => ?_⟩
      · have explored : (breadthRecorded mission candidate output now).mission.exploredSymbols =
            _ := congrArg Exploration.explored exploration
        rw [explored, Py.mem_fromkeys, List.mem_append] at member
        rwa [evaluated]
      · unfold breadthRecorded at stopped
        simp only at stopped
        split at stopped
        · exact absurd (ResearchMission.exhausted_recordBlocked.mp stopped)
            (outageReason_ne_exhausted output)
        · split at stopped <;> exact absurd (by simpa using stopped) going

/-- A verdict explores nothing, and exhausts nothing. -/
theorem robustnessVerdict_explores (verified : Bool) (symbol : String)
    (progress : RobustnessProgress) :
    let verdict := robustnessVerdict mission candidate verified symbol progress
    verdict.1.exploration = mission.exploration ∧ (verdict.1.Exhausted → mission.Exhausted) := by
  intro verdict
  -- A verdict clears the symbol in focus, releases the candidate, and announces a strategy.
  have same : (mission.clearFocusSymbol progress.now).exploration = mission.exploration ∧
      ((mission.clearFocusSymbol progress.now).Exhausted → mission.Exhausted) :=
    ⟨rfl, ResearchMission.exhausted_clearFocusSymbol.mp⟩
  have released : ∀ changed : ResearchMission, changed.exploration = mission.exploration ∧
      (changed.Exhausted → mission.Exhausted) →
      (changed.setActiveCandidate none progress.now).exploration = mission.exploration ∧
        ((changed.setActiveCandidate none progress.now).Exhausted → mission.Exhausted) :=
    fun changed kept => ⟨kept.1, fun ended =>
      kept.2 (ResearchMission.exhausted_setActiveCandidate.mp ended)⟩
  have announced : ∀ (changed : ResearchMission) fingerprint candidateId,
      changed.exploration = mission.exploration ∧ (changed.Exhausted → mission.Exhausted) →
      (changed.recordPromotionCandidate fingerprint candidateId progress.now).exploration =
          mission.exploration ∧
        ((changed.recordPromotionCandidate fingerprint candidateId progress.now).Exhausted →
          mission.Exhausted) :=
    fun changed _ _ kept => ⟨by simp [kept.1], fun ended =>
      kept.2 (ResearchMission.Exhausted.of_recordPromotionCandidate ended)⟩
  simp only [verdict, robustnessVerdict]
  split
  · exact ⟨rfl, id⟩
  split
  · split
    · exact same
    · split
      · exact released _ (announced _ _ _ same)
      · exact released _ same
      · exact same
  split
  · exact released _ same
  · split
    · exact ⟨rfl, ResearchMission.exhausted_recordFocusSymbol.mp⟩
    · exact same

/-- What is recorded of a robustness cycle explores nothing, and exhausts nothing. -/
theorem robustnessRecorded_explores (action : ResearchAction) (payload : LearningPayload) :
    let result := robustnessRecorded sha mission candidate action payload now
    result.mission.exploration = mission.exploration ∧
      (result.mission.Exhausted → mission.Exhausted) := by
  intro result
  obtain ⟨same, kept⟩ := robustnessVerdict_explores mission candidate
    (identityVerified sha candidate) (mission.pendingPromotionSymbol.getD "None")
    (robustnessReport sha candidate action (mission.pendingPromotionSymbol.getD "None") payload now)
  simp only [result, robustnessRecorded]
  split
  · simpa [same] using kept
  · simpa [same] using kept

/-- A robustness cycle explores nothing and exhausts nothing, unless it is a breadth cycle. -/
theorem tryCandidateRobustnessCycle_explores :
    Explores mission
      (fun symbol => (nextBlockerDrivenResearchAction candidate).1 = .expandSample ∧
        symbol ∈ breadthEvaluated tools (mission.clearFocusSymbol now) candidate [])
      (breadthSymbols mission [] = none)
      (tryCandidateRobustnessCycle sha tools mission candidate now).mission := by
  by_cases expands : (nextBlockerDrivenResearchAction candidate).1 = .expandSample
  · simp only [tryCandidateRobustnessCycle, if_pos expands]
    have breadth := tryCandidateBreadthCycle_explores tools (mission.clearFocusSymbol now)
      candidate now []
    exact ⟨breadth.symbols, fun symbol member =>
      (breadth.explored symbol member).imp_right fun new => ⟨expands, new⟩, breadth.exhausted⟩
  by_cases rotates : (nextBlockerDrivenResearchAction candidate).1 = .rotateCandidate
  · simp only [tryCandidateRobustnessCycle, if_neg expands, if_pos rotates]
    exact .of_same (by simp) (by simp)
  cases answer : tools.autonomousLearningResearch ⟨mission.pendingPromotionSymbol.getD "None",
      (nextBlockerDrivenResearchAction candidate).1, (nextBlockerDrivenResearchAction candidate).2,
      candidate.specRules⟩ with
  | error failure =>
    simp only [tryCandidateRobustnessCycle, if_neg expands, if_neg rotates, answer]
    exact .of_same (by simp) (by simp)
  | ok payload =>
    simp only [tryCandidateRobustnessCycle, if_neg expands, if_neg rotates, answer]
    obtain ⟨same, exhausts⟩ := robustnessRecorded_explores sha mission candidate now
      (nextBlockerDrivenResearchAction candidate).1 payload
    exact .of_same same exhausts

/-- The cycle of a turn explores what it evaluates its candidate on, and it exhausts the symbols
only when none of them is unexplored. -/
theorem candidateCycle_explores (request : MissionRequest) (active : StrategyCandidateRecord) :
    Explores mission (· ∈ cycleEvaluated tools request mission active)
      (∃ preferred, breadthSymbols mission preferred = none)
      (candidateCycle sha tools request mission active).mission := by
  by_cases pending : (someText mission.pendingPromotionSymbol).isSome
  · simp only [candidateCycle, cycleEvaluated, if_pos pending]
    refine (tryCandidateRobustnessCycle_explores sha tools mission active request.now).imp
      (fun symbol new => ?_) (⟨[], ·⟩)
    rw [if_pos new.1]
    exact new.2
  have breadth : ¬(candidateSampleExhausted active ∧
        (nextBlockerDrivenResearchAction active).1 ≠ .expandSample ∧
          (nextRobustnessEvidenceSymbol active none).isSome) →
      Explores mission (· ∈ cycleEvaluated tools request mission active)
        (∃ preferred, breadthSymbols mission preferred = none)
        (tryCandidateBreadthCycle tools mission active request.preferredSymbols
          request.now).mission := by
    intro others
    simp only [cycleEvaluated, if_neg pending, if_neg others]
    exact (tryCandidateBreadthCycle_explores tools mission active request.now
      request.preferredSymbols).imp (fun _ => id) (⟨_, ·⟩)
  by_cases sampled : candidateSampleExhausted active
  · by_cases rotates : (nextBlockerDrivenResearchAction active).1 = .rotateCandidate
    · simp only [candidateCycle, if_neg pending, if_pos sampled, if_pos rotates]
      exact .of_same (by simp) ResearchMission.exhausted_rotateStagnantCandidate.mp
    by_cases expands : (nextBlockerDrivenResearchAction active).1 = .expandSample
    · simp only [candidateCycle, if_neg pending, if_pos sampled, if_neg rotates, if_pos expands]
      exact breadth fun others => others.2.1 expands
    cases next : nextRobustnessEvidenceSymbol active none with
    | none =>
      simp only [candidateCycle, if_neg pending, if_pos sampled, if_neg rotates, if_neg expands,
        next]
      exact breadth fun others => by simp [next] at others
    | some symbol =>
      simp only [candidateCycle, if_neg pending, if_pos sampled, if_neg rotates, if_neg expands,
        next]
      have robust := tryCandidateRobustnessCycle_explores sha tools
        (mission.recordFocusSymbol symbol request.now) active request.now
      exact ⟨robust.symbols, fun symbol member => (robust.explored symbol member).imp_right
        fun new => absurd new.1 expands, fun going stopped =>
          (robust.exhausted going stopped).imp_left (⟨[], ·⟩)⟩
  · simp only [candidateCycle, if_neg pending, if_neg sampled]
    exact breadth fun others => sampled others.1

end Cycles

section Turns

variable (sha : Json → String) (request : MissionRequest) (mission : ResearchMission)

/-- A mission that gets past the check for a blocked one has the symbols it had. -/
theorem unblocked_explores :
    (∀ going, unblocked request mission = .ok going →
      going.exploration = mission.exploration ∧ going.status ≠ .blocked) ∧
    ∀ ended, unblocked request mission = .error ended →
      ended.exploration = mission.exploration ∧ (ended.Exhausted → mission.Exhausted) := by
  have taken : ∀ recovered, attemptBoundedStagnationRecovery mission request.now 2 =
      some recovered → recovered.exploration = mission.exploration ∧
        recovered.status ≠ .blocked := by
    intro recovered found
    unfold attemptBoundedStagnationRecovery at found
    split at found
    · obtain ⟨candidate, -, rfl⟩ := Option.map_eq_some_iff.mp found
      have kept := mission.exploration_updateCandidate (reopened candidate request.now) request.now
      exact ⟨kept, by simp⟩
    · cases found
  unfold unblocked
  split
  · rename_i going
    refine ⟨fun other same => ?_, fun _ same => absurd same (by simp)⟩
    rw [← Except.ok.inj same]
    exact ⟨rfl, going⟩
  · cases recovery : attemptBoundedStagnationRecovery mission request.now 2 with
    | none =>
      refine ⟨fun _ same => absurd same (by simp), fun other same => ?_⟩
      rw [← Except.error.inj same]
      exact ⟨rfl, id⟩
    | some recovered =>
      obtain ⟨kept, going⟩ := taken recovered recovery
      simp only
      split
      · refine ⟨fun _ same => absurd same (by simp), fun other same => ?_⟩
        rw [← Except.error.inj same]
        exact ⟨kept, fun ended => absurd ended.1 going⟩
      · refine ⟨fun other same => ?_, fun _ same => absurd same (by simp)⟩
        rw [← Except.ok.inj same]
        exact ⟨kept, going⟩

/-- Giving up the active candidate leaves a mission with the symbols and the standing it had. -/
theorem rotatedForDiversity_explores :
    (rotatedForDiversity request mission).exploration = mission.exploration ∧
      (rotatedForDiversity request mission).status = mission.status := by
  have status : ∀ candidate now, (mission.updateCandidate candidate now).status =
      mission.status := by
    intro candidate now
    unfold ResearchMission.updateCandidate
    split <;> rfl
  unfold rotatedForDiversity
  split
  · exact ⟨rfl, rfl⟩
  · split
    · exact ⟨by simp, status _ _⟩
    · exact ⟨rfl, rfl⟩

/-- A mission and one that has the same symbols, explored ones and standing. -/
def SameStanding (before after : ResearchMission) : Prop :=
  after.exploration = before.exploration ∧ after.status = before.status

/-- A new record of a candidate leaves the standing. -/
theorem sameStanding_updateCandidate (candidate : StrategyCandidateRecord) (now : String) :
    SameStanding mission (mission.updateCandidate candidate now) := by
  unfold SameStanding ResearchMission.updateCandidate
  split <;> exact ⟨rfl, rfl⟩

/-- A new candidate leaves the standing. -/
theorem sameStanding_addCandidate (candidate : StrategyCandidateRecord) (now : String) :
    SameStanding mission (mission.addCandidate candidate now) := by
  unfold SameStanding ResearchMission.addCandidate
  split <;> exact ⟨rfl, rfl⟩

/-- Choosing a family leaves the standing. -/
theorem withRequestedFamily_explores :
    SameStanding mission (withRequestedFamily sha request mission).1 := by
  have released : SameStanding mission (rotatedForFamily request mission) := by
    unfold rotatedForFamily
    split
    · exact ⟨rfl, rfl⟩
    · exact sameStanding_updateCandidate _ _ _
  unfold withRequestedFamily
  simp only
  split
  · exact ⟨rfl, rfl⟩
  · split
    · exact ⟨rfl, rfl⟩
    · split
      · exact released
      · obtain ⟨explored, status⟩ := sameStanding_addCandidate (rotatedForFamily request mission)
          (StrategyFamilyTemplate.newRecord _ sha
            (rotatedForFamily request mission).nextCandidateSequence request.now) request.now
        exact ⟨explored.trans released.1, status.trans released.2⟩

/-- What is done before a cycle leaves the symbols, and exhausts none. -/
theorem preparedTurn_explores :
    (∀ chosen active, preparedTurn sha request mission = .ok (chosen, active) →
      chosen.exploration = mission.exploration ∧ chosen.status ≠ .blocked) ∧
    ∀ ended, preparedTurn sha request mission = .error ended →
      ended.exploration = mission.exploration ∧ (ended.Exhausted → mission.Exhausted) := by
  obtain ⟨reached, stopped⟩ := unblocked_explores request mission
  unfold preparedTurn
  cases first : unblocked request mission with
  | error stop =>
    refine ⟨fun _ _ same => absurd same (by simp [Except.bind]), fun ended same => ?_⟩
    rw [← Except.error.inj same]
    exact stopped stop first
  | ok going =>
    obtain ⟨explored, unended⟩ := reached going first
    have rotated := rotatedForDiversity_explores request going
    have family := withRequestedFamily_explores sha request
      (rotatedForDiversity request going)
    have both : (withRequestedFamily sha request
        (rotatedForDiversity request going)).1.exploration = mission.exploration ∧
          (withRequestedFamily sha request (rotatedForDiversity request going)).1.status ≠
            .blocked :=
      ⟨(family.1.trans rotated.1).trans explored, by rw [family.2, rotated.2]; exact unended⟩
    simp only [Except.bind, withCandidate]
    split
    · refine ⟨fun chosen active same => ?_, fun _ same => absurd same (by simp)⟩
      rw [← (Prod.mk.inj (Except.ok.inj same)).1]
      exact both
    · split
      · refine ⟨fun chosen active same => ?_, fun _ same => absurd same (by simp)⟩
        rw [← (Prod.mk.inj (Except.ok.inj same)).1]
        obtain ⟨added, status⟩ := sameStanding_addCandidate
          (withRequestedFamily sha request (rotatedForDiversity request going)).1 _ request.now
        exact ⟨added.trans both.1, fun blocked => both.2 (status.symm.trans blocked)⟩
      · refine ⟨fun _ _ same => absurd same (by simp), fun ended same => ?_⟩
        rw [← Except.error.inj same]
        exact ⟨both.1, fun ended => absurd (ResearchMission.exhausted_recordBlocked.mp ended)
          (by decide)⟩

end Turns

/-- An event explores only what it evaluates a candidate on. -/
theorem apply_explores (sha : Json → String) (event : MissionEvent) (mission : ResearchMission) :
    ∀ symbol ∈ (event.apply sha mission).mission.exploredSymbols,
      symbol ∈ mission.exploredSymbols ∨
        ∃ candidateId, (candidateId, symbol) ∈ event.evaluated sha mission := by
  intro symbol member
  cases event with
  | message scope => exact .inl member
  | turn request tools =>
    obtain ⟨prepared, stopped⟩ := preparedTurn_explores sha request mission
    simp only [MissionEvent.apply, tryMissionDrivenResearchCycle] at member
    simp only [MissionEvent.evaluated]
    cases first : preparedTurn sha request mission with
    | error ended =>
      rw [first] at member
      have explored : ended.exploredSymbols = mission.exploredSymbols :=
        congrArg Exploration.explored (stopped ended first).1
      exact .inl (explored ▸ member)
    | ok next =>
      rw [first] at member
      have explored : next.1.exploredSymbols = mission.exploredSymbols :=
        congrArg Exploration.explored (prepared next.1 next.2 first).1
      rcases (candidateCycle_explores sha tools next.1 request next.2).explored symbol member with
        old | new
      · exact .inl (explored ▸ old)
      · exact .inr ⟨next.2.candidateId, List.mem_map_of_mem new⟩

/-- Whatever a run explores, it evaluates some candidate on. -/
theorem run_explores (sha : Json → String) (journal : MissionJournal)
    (events : List MissionEvent) :
    ∀ symbol ∈ ((missionMachine sha).run journal events).mission.exploredSymbols,
      symbol ∈ journal.mission.exploredSymbols ∨
        ∃ candidateId, (candidateId, symbol) ∈ evaluations sha journal events := by
  induction events generalizing journal with
  | nil => exact fun symbol member => .inl member
  | cons event rest ih =>
    intro symbol member
    rcases ih _ symbol member with first | ⟨candidateId, later⟩
    · rcases apply_explores sha event journal.mission.reloaded symbol first with old | ⟨id, now⟩
      · -- A mission that is read back has no other explored symbols.
        have kept : symbol ∈ tupleOfStr journal.mission.exploredSymbols := old
        rw [tupleOfStr, Py.mem_fromkeys] at kept
        exact .inl (List.mem_of_mem_filter kept)
      · exact .inr ⟨id, List.mem_append_left _ now⟩
    · exact .inr ⟨candidateId, List.mem_append_right _ later⟩

/-- A mission that is read back is not exhausted for it. -/
theorem exhausted_of_reloaded {mission : ResearchMission} (ended : mission.reloaded.Exhausted) :
    mission.Exhausted := by
  obtain ⟨blocked, reason⟩ := ended
  refine ⟨?_, (Option.filter_eq_some_iff.mp reason).1⟩
  simp only [ResearchMission.reloaded] at blocked
  split at blocked
  · cases blocked
  · exact blocked

/-- When a breadth cycle has no symbols to choose from, all of them are explored. -/
theorem explored_of_breadthSymbols {mission : ResearchMission} {preferredSymbols : List String}
    (nothing : breadthSymbols mission preferredSymbols = none) :
    ∀ symbol ∈ mission.symbols, symbol ∈ mission.exploredSymbols := by
  intro symbol member
  by_contra unexplored
  have left : symbol ∈ mission.symbols.filter (· ∉ mission.exploredSymbols) :=
    List.mem_filter.mpr ⟨member, decide_eq_true unexplored⟩
  have filled : mission.nextUnexploredSymbols 5 ≠ [] := by
    intro empty
    rcases List.take_eq_nil_iff.mp empty with zero | empty
    · cases zero
    · rw [empty] at left
      cases left
  unfold breadthSymbols at nothing
  split at nothing
  · cases nothing
  · split at nothing
    · simp only [if_neg filled] at nothing
      cases nothing
    · cases nothing

/-- When a turn stops a mission because its selected symbols are used up, the active candidate was
evaluated on all of them exactly if it was evaluated on those that any candidate was. -/
theorem exhausted_truthful_iff (sha : Json → String) (first : ResearchMission.ScopeUpdate)
    (events : List MissionEvent) (request : MissionRequest) (tools : ResearchTools) :
    let journal := (missionMachine sha).run (.create first) events
    let after := ((missionMachine sha).next journal (.turn request tools)).mission
    let known := evaluations sha (.create first) events
    ¬journal.mission.Exhausted → after.Exhausted →
    ∃ active, after.getActiveCandidate = some active ∧
      ((∀ symbol ∈ after.symbols, (active.candidateId, symbol) ∈ known) ↔
        ∀ symbol ∈ after.symbols, ∀ other, (other, symbol) ∈ known →
          (active.candidateId, symbol) ∈ known) := by
  intro journal after known going ended
  have formed : journal.mission.reloaded.portfolio.WellFormed sha :=
    (wellFormed_run sha first events).reloaded
  have unended : ¬journal.mission.reloaded.Exhausted := fun stopped =>
    going (exhausted_of_reloaded stopped)
  obtain ⟨prepared, stopped⟩ := preparedTurn_explores sha request journal.mission.reloaded
  cases start : preparedTurn sha request journal.mission.reloaded with
  | error blocked =>
    have same : after = blocked := by
      simp only [after, Machine.next, missionMachine, MissionEvent.apply,
        tryMissionDrivenResearchCycle, start]
    rw [same] at ended
    exact absurd ((stopped blocked start).2 ended) unended
  | ok next =>
    have same : after = (candidateCycle sha tools request next.1 next.2).mission := by
      simp only [after, Machine.next, missionMachine, MissionEvent.apply,
        tryMissionDrivenResearchCycle, start]
    obtain ⟨explored, unblocked⟩ := prepared next.1 next.2 start
    obtain ⟨symbols, -, exhausts⟩ := candidateCycle_explores sha tools next.1 request next.2
    rw [← same] at symbols exhausts
    obtain ⟨⟨preferred, none⟩, portfolio⟩ := exhausts (fun stop => unblocked stop.1) ended
    -- The candidate that was chosen is still the active one.
    obtain ⟨cleared, steps, choice⟩ := (preparedTurn_cases request formed).2 _ _ start
    obtain ⟨chosenFormed, member, active⟩ := choice.formed (Cleared.formed steps formed).1
    rw [← portfolio] at chosenFormed member active
    refine ⟨next.2, getActiveCandidate_eq chosenFormed member active, ?_⟩
    -- Every symbol was explored, so some candidate was evaluated on it.
    have reached : ∀ symbol ∈ after.symbols, ∃ other, (other, symbol) ∈ known := by
      intro symbol inside
      rw [symbols] at inside
      have known := explored_of_breadthSymbols none symbol inside
      have same : next.1.exploredSymbols = tupleOfStr journal.mission.exploredSymbols :=
        congrArg Exploration.explored explored
      rw [same, tupleOfStr, Py.mem_fromkeys] at known
      rcases run_explores sha (.create first) events symbol (List.mem_of_mem_filter known) with
        old | evaluated
      · cases old
      · exact evaluated
    constructor
    · exact fun all symbol inside _ _ => all symbol inside
    · intro shared symbol inside
      obtain ⟨other, evaluated⟩ := reached symbol inside
      exact shared symbol inside other evaluated

/-- A mission for two symbols. -/
def twoSymbols : ResearchMission.ScopeUpdate :=
  { koreanScope with universeScope := .selectedSymbols, symbols := ["005930", "000660"] }

/-- Tools that find data for every symbol they are asked for. -/
def findingTools : ResearchTools :=
  ⟨fun request => .ok { profitableOutput 0 with
      evidence := request.symbols.map fun symbol =>
        { profitableItem 0 with symbol := some symbol } },
    fun _ => .error ⟨"", ""⟩⟩

/-- The message that asks for another kind of strategy. -/
def diversityRequest : MissionRequest := { plainRequest with diversity := true }

/-- A mission with one candidate stops when that candidate was evaluated on both symbols. -/
theorem first_candidate_evaluated :
    let journal := (missionMachine familyDigest).run (.create twoSymbols)
      [.turn plainRequest findingTools]
    let after := ((missionMachine familyDigest).next journal
      (.turn plainRequest findingTools)).mission
    let known := evaluations familyDigest (.create twoSymbols) [.turn plainRequest findingTools]
    ∃ active, after.getActiveCandidate = some active ∧
      ((∀ symbol ∈ after.symbols, (active.candidateId, symbol) ∈ known) ↔
        ∀ symbol ∈ after.symbols, ∀ other, (other, symbol) ∈ known →
          (active.candidateId, symbol) ∈ known) :=
  exhausted_truthful_iff familyDigest twoSymbols [.turn plainRequest findingTools] plainRequest
    findingTools (by decide +kernel) (by decide +kernel)

/-- A mission with a second candidate stops although that one was evaluated on no symbol. -/
theorem second_candidate_not_evaluated :
    let journal := (missionMachine familyDigest).run (.create twoSymbols)
      [.turn plainRequest findingTools]
    let after := ((missionMachine familyDigest).next journal
      (.turn diversityRequest findingTools)).mission
    let known := evaluations familyDigest (.create twoSymbols) [.turn plainRequest findingTools]
    ¬journal.mission.Exhausted ∧ after.Exhausted ∧
      after.getActiveCandidate.map (·.candidateId) = some "KR-ST-002" ∧
      after.symbols = ["005930", "000660"] ∧ ∀ pair ∈ known, pair.1 ≠ "KR-ST-002" := by
  decide +kernel

end StrategyLab
