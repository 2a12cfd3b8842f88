import StrategyLab.Runtime.PromotionSoundness
import StrategyLab.Knowledge.BreadthAccounting

/-! Planner soundness: when the planner may choose which of its actions for a candidate. -/

namespace StrategyLab

/-- Records that cycles with details, validations and verdicts lead to from a new candidate. -/
inductive PlannedCandidate (sha : Json → String) : StrategyCandidateRecord → Prop
  | created {family : String} {sequence : Nat} {now : String} {candidate : StrategyCandidateRecord}
      (built : newCandidate sha family sequence now = some candidate) :
      PlannedCandidate sha candidate
  | breadth {candidate : StrategyCandidateRecord} (cycle : DetailedProgress)
      (before : PlannedCandidate sha candidate) :
      PlannedCandidate sha (recordBreadthProgress candidate cycle.progress)
  | robustness {candidate : StrategyCandidateRecord} (progress : RobustnessProgress)
      (before : PlannedCandidate sha candidate) :
      PlannedCandidate sha (recordRobustnessProgress candidate progress)
  | promotionReady {candidate : StrategyCandidateRecord} (now : String)
      (before : PlannedCandidate sha candidate) :
      PlannedCandidate sha (markPromotionReady candidate now)
  | rejected {candidate : StrategyCandidateRecord} (reason now : String)
      (before : PlannedCandidate sha candidate) :
      PlannedCandidate sha (markRejected candidate reason now)
  | stagnant {candidate : StrategyCandidateRecord} (reason now : String)
      (before : PlannedCandidate sha candidate) :
      PlannedCandidate sha (markStagnant candidate reason now)

/-- No recorded attempt of an action was made on the present evidence or led to it. -/
def StrategyCandidateRecord.Untried (candidate : StrategyCandidateRecord)
    (action : ResearchAction) : Prop :=
  ∀ attempt ∈ candidate.validationAttemptHistory, attempt.action = action.text →
    attempt.stateKey ≠ candidateMaterialEvidenceKey candidate ∧
      attempt.resultStateKey ≠ candidateMaterialEvidenceKey candidate

/-- An action that the record of a candidate allows. A blocker can be left only for want of trades,
where a negative number of them was recorded. -/
structure SoundPlan (candidate : StrategyCandidateRecord) (action : ResearchAction) : Prop where
  approval : action = .requestHumanApproval → candidate.status = .promotionReady
  rank : action = .rankCandidates → (economicViability candidate).status = .pass ∧
    ∀ blocker ∈ candidateRemainingBlockers candidate, blocker = "minimum_trade_sample" ∧
      ∃ entry ∈ candidate.breadthEvidence.rows, entry.tradeCount < 0
  expand : action = .expandSample → candidate.IsOpen ∧
    candidateSampleExhausted candidate = false ∧ (economicViability candidate).status ≠ .fail
  run : ∀ stage, action.stageKey = some stage → stage ∈ candidateRemainingBlockers candidate ∧
    candidate.Untried action ∧ (economicViability candidate).status ≠ .fail
  rotate : action = .rotateCandidate →
    (candidate.status = .rejected ∨ candidate.status = .stagnant) ∨
      (economicViability candidate).status = .fail ∨ candidateSampleExhausted candidate = true ∨
        stagnationCycleThreshold ≤ candidate.cyclesWithoutProgress

variable {sha : Json → String} {candidate : StrategyCandidateRecord}

/-- A planned candidate has the counts of its evidence, within the cap, and no older trades. -/
theorem PlannedCandidate.recounted (planned : PlannedCandidate sha candidate) :
    candidate.Recounted ∧ candidate.breadthLegacyTradeCount = 0 ∧
      candidate.breadthEvidence.keyList.length ≤ breadthEvidenceSymbolCap := by
  induction planned with
  | created built =>
    obtain ⟨template, -, rfl⟩ := Option.map_eq_some_iff.mp built
    exact ⟨rfl, rfl, Nat.zero_le _⟩
  | breadth cycle _ ih =>
    refine ⟨recounted_recordBreadthProgress _ cycle.given, ih.2.1, ?_⟩
    rw [breadthEvidence_recordBreadthProgress _ cycle.given]
    exact BreadthEvidence.length_record_le _ _ _
  -- Validations and verdicts leave the evidence and its counts alone.
  | robustness _ _ ih => exact ih
  | promotionReady _ _ ih => exact ih
  | rejected _ _ _ ih => exact ih
  | stagnant _ _ _ ih => exact ih

variable {action : ResearchAction} {stage : String}

/-- A validation that is due is one of an open stage, and was not tried. -/
theorem untried_of_validationDue (due : validationDue candidate stage action = true) :
    stage ∈ candidateRemainingBlockers candidate ∧ candidate.Untried action := by
  unfold validationDue at due
  rw [Bool.and_eq_true, Bool.and_eq_true, decide_eq_true_eq, Bool.not_eq_true'] at due
  obtain ⟨⟨blocked, fresh⟩, -⟩ := due
  refine ⟨blocked, fun attempt member same => ?_⟩
  unfold attemptedForCurrentEvidenceState at fresh
  have other := List.any_eq_false.mp fresh attempt member
  rw [Bool.and_eq_true, Bool.or_eq_true, decide_eq_true_eq, decide_eq_true_eq,
    decide_eq_true_eq] at other
  constructor
  · intro before
    exact other ⟨same, .inl before⟩
  · intro after
    exact other ⟨same, .inr after⟩

/-- A candidate with the symbols and no open stage can only be blocked for want of trades. -/
theorem few_trades_of_mem_blockers (sufficient : candidate.hasSufficientUniverseEvidence = true)
    (closed : ∀ blocker ∈ candidateRemainingBlockers candidate,
      blocker ∉ actionStageKeys.map (·.2))
    (started : "monte_carlo_waiting_for_primary_sample" ∉ candidateRemainingBlockers candidate) :
    ∀ blocker ∈ candidateRemainingBlockers candidate, blocker = "minimum_trade_sample" ∧
      candidate.tradeCount < promotionMinTradeSample := by
  intro blocker blocked
  have open_ := closed blocker blocked
  have among := blocked
  unfold candidateRemainingBlockers at among
  rw [Py.mem_fromkeys, List.mem_append, List.mem_append, List.mem_append] at among
  rcases among with ((symbols | trades) | stage) | last
  · rw [if_pos sufficient] at symbols
    cases symbols
  · split at trades
    · rename_i few
      exact ⟨List.mem_singleton.mp trades, few⟩
    · cases trades
  · -- The required stages are stages of actions.
    have listed : ∀ stage ∈ requiredStages, stage ∈ actionStageKeys.map (·.2) := by decide
    exact absurd (listed blocker (List.mem_filter.mp stage).1) open_
  · split at last
    · cases last
    · split at last
      · rw [List.mem_singleton.mp last] at blocked
        exact absurd blocked started
      · rw [List.mem_singleton.mp last] at open_
        exact absurd (by decide) open_

/-- Only validations have a stage. -/
theorem stageKey_eq_none
    (other : action ∈ [ResearchAction.requestHumanApproval, .rotateCandidate, .expandSample,
      .rankCandidates]) : action.stageKey = none := by
  revert action
  decide

/-- Asking a human is sound for a candidate that is ready. -/
theorem SoundPlan.ofApproval (ready : candidate.status = .promotionReady) :
    SoundPlan candidate .requestHumanApproval where
  approval _ := ready
  rank same := by cases same
  expand same := by cases same
  run stage key := by cases (stageKey_eq_none (by decide)).symm.trans key
  rotate same := by cases same

/-- Ranking a candidate is sound if it passes and only lost trades are in its way. -/
theorem SoundPlan.ofRank (pass : (economicViability candidate).status = .pass)
    (blockers : ∀ blocker ∈ candidateRemainingBlockers candidate,
      blocker = "minimum_trade_sample" ∧
        ∃ entry ∈ candidate.breadthEvidence.rows, entry.tradeCount < 0) :
    SoundPlan candidate .rankCandidates where
  approval same := by cases same
  rank _ := ⟨pass, blockers⟩
  expand same := by cases same
  run stage key := by cases (stageKey_eq_none (by decide)).symm.trans key
  rotate same := by cases same

/-- Giving up a candidate is sound for one of the four reasons. -/
theorem SoundPlan.ofRotate (reason : (candidate.status = .rejected ∨ candidate.status = .stagnant) ∨
      (economicViability candidate).status = .fail ∨ candidateSampleExhausted candidate = true ∨
        stagnationCycleThreshold ≤ candidate.cyclesWithoutProgress) :
    SoundPlan candidate .rotateCandidate where
  approval same := by cases same
  rank same := by cases same
  expand same := by cases same
  run stage key := by cases (stageKey_eq_none (by decide)).symm.trans key
  rotate _ := reason

/-- Asking for more symbols is sound for an open candidate that can still get some. -/
theorem SoundPlan.ofExpand (isOpen : candidate.IsOpen)
    (going : candidateSampleExhausted candidate = false)
    (unfailed : (economicViability candidate).status ≠ .fail) :
    SoundPlan candidate .expandSample where
  approval same := by cases same
  rank same := by cases same
  expand _ := ⟨isOpen, going, unfailed⟩
  run stage key := by cases (stageKey_eq_none (by decide)).symm.trans key
  rotate same := by cases same

/-- A validation is sound where it is due. -/
theorem SoundPlan.ofRun
    (key : action.stageKey = some stage) (due : validationDue candidate stage action = true)
    (unfailed : (economicViability candidate).status ≠ .fail) : SoundPlan candidate action := by
  -- An action with a stage is none of those without one.
  have other : ∀ without ∈ [ResearchAction.requestHumanApproval, .rotateCandidate, .expandSample,
      .rankCandidates], action ≠ without := by
    rintro without listed rfl
    cases (stageKey_eq_none listed).symm.trans key
  refine ⟨fun same => absurd same (other _ (by decide)), fun same => absurd same (other _ (by decide)),
    fun same => absurd same (other _ (by decide)), fun named sameKey => ?_,
    fun same => absurd same (other _ (by decide))⟩
  obtain rfl : stage = named := Option.some.inj (key.symm.trans sameKey)
  obtain ⟨blocked, untried⟩ := untried_of_validationDue due
  exact ⟨blocked, untried, unfailed⟩

/-- More symbols, or giving up, is sound for an open candidate. -/
theorem soundPlan_expandUnlessExhausted (isOpen : candidate.IsOpen)
    (unfailed : (economicViability candidate).status ≠ .fail) (exhausted reason : String) :
    SoundPlan candidate (expandUnlessExhausted candidate exhausted reason).1 := by
  unfold expandUnlessExhausted
  split
  · rename_i ended
    exact .ofRotate (.inr (.inr (.inl ended)))
  · rename_i going
    exact .ofExpand isOpen (Bool.not_eq_true _ ▸ going) unfailed

/-- A due validation, or giving up, is sound. -/
theorem soundPlan_runUnlessExhausted
    (key : action.stageKey = some stage) (due : validationDue candidate stage action = true)
    (unfailed : (economicViability candidate).status ≠ .fail) (reason : String) :
    SoundPlan candidate (runUnlessExhausted candidate action reason).1 := by
  unfold runUnlessExhausted
  split
  · rename_i ended
    rw [Bool.and_eq_true] at ended
    exact .ofRotate (.inr (.inr (.inl ended.1)))
  · exact .ofRun key due unfailed

/-- What is planned for a candidate with enough symbols is sound. -/
theorem soundPlan_nextValidationAction (planned : PlannedCandidate sha candidate)
    (isOpen : candidate.IsOpen) (sufficient : candidate.hasSufficientUniverseEvidence = true)
    (unfailed : (economicViability candidate).status ≠ .fail) :
    SoundPlan candidate (nextValidationAction candidate).1 := by
  unfold nextValidationAction
  dsimp only
  split
  · -- The first validation that is due is one of those that are planned.
    rename_i stage action reason found
    have keys : ∀ planned ∈ plannedValidations, planned.2.1.stageKey = some planned.1 := by decide
    have due := List.find?_some found
    dsimp only at due
    exact soundPlan_runUnlessExhausted (keys _ (List.mem_of_find?_eq_some found)) due unfailed
      reason
  split
  · exact soundPlan_expandUnlessExhausted isOpen unfailed _ _
  rename_i started
  split
  · rename_i due
    exact soundPlan_runUnlessExhausted (by decide) due unfailed _
  split
  · split
    · rename_i stuck
      exact .ofRotate (.inr (.inr (.inr stuck)))
    · exact soundPlan_expandUnlessExhausted isOpen unfailed _ _
  rename_i closed
  split
  · exact soundPlan_expandUnlessExhausted isOpen unfailed _ _
  rename_i decided
  -- The verdict is neither a failure nor open, so it is a pass, and only trades can be missing.
  have pass : (economicViability candidate).status = .pass := by
    cases verdict : (economicViability candidate).status with
    | pass => rfl
    | fail => exact absurd verdict unfailed
    | needsMoreEvidence => exact absurd verdict decided
  have stages : ∀ blocker ∈ candidateRemainingBlockers candidate,
      blocker ∉ actionStageKeys.map (·.2) := by
    intro other member listed
    exact closed (List.any_eq_true.mpr ⟨other, member, decide_eq_true listed⟩)
  refine .ofRank pass fun blocker blocked => ?_
  obtain ⟨named, few⟩ := few_trades_of_mem_blockers sufficient stages started blocker blocked
  refine ⟨named, ?_⟩
  by_contra traded
  obtain ⟨recounted, legacy, within⟩ := planned.recounted
  have counted : ∀ entry ∈ candidate.breadthEvidence.rows, 0 ≤ entry.tradeCount := by
    intro entry member
    by_contra negative
    exact traded ⟨entry, member, not_le.mp negative⟩
  have accounted : candidate.Accounted := ⟨recounted, legacy, within, counted⟩
  exact absurd (sufficient_of_pass accounted pass).2 (not_le.mpr few)

/-- Whatever is planned for a candidate is sound, and a candidate that fails economically is given
up, unless it was handed to a human already. -/
theorem soundPlan_nextBlockerDrivenResearchAction (sha : Json → String)
    (candidate : StrategyCandidateRecord) (planned : PlannedCandidate sha candidate) :
    SoundPlan candidate (nextBlockerDrivenResearchAction candidate).1 ∧
      ((economicViability candidate).status = .fail → candidate.status ≠ .promotionReady →
        (nextBlockerDrivenResearchAction candidate).1 = .rotateCandidate) := by
  unfold nextBlockerDrivenResearchAction
  dsimp only
  split
  · rename_i ready
    exact ⟨.ofApproval ready, fun _ other => absurd ready other⟩
  rename_i unready
  split
  · rename_i ended
    exact ⟨.ofRotate (.inl ended), fun _ _ => rfl⟩
  rename_i going
  rw [not_or] at going
  have isOpen := StrategyCandidateRecord.isOpen_of_ne unready going.1 going.2
  split
  · rename_i failed
    exact ⟨.ofRotate (.inr (.inl failed)), fun _ _ => rfl⟩
  rename_i unfailed
  refine ⟨?_, fun failed => absurd failed unfailed⟩
  split
  · rename_i expands
    rw [Bool.and_eq_true, Bool.not_eq_true'] at expands
    exact .ofExpand isOpen expands.1 unfailed
  rename_i enough
  split
  · rename_i ended
    rw [Bool.and_eq_true] at ended
    exact .ofRotate (.inr (.inr (.inl ended.1)))
  · -- Neither branch for too few symbols was taken.
    rename_i filled
    refine soundPlan_nextValidationAction planned isOpen ?_ unfailed
    cases sufficient : candidate.hasSufficientUniverseEvidence with
    | true => rfl
    | false =>
      rw [sufficient] at enough filled
      cases exhausted : candidateSampleExhausted candidate <;> simp [exhausted] at enough filled

/-- Twenty different symbols. -/
def twentySymbols : List String := (List.range 20).map fun n => .ofList [Char.ofNat (65 + n)]

/-- A valid symbol that was traded, and what came of it. -/
def tradedSymbol (trades : Int) (totalReturn : ℚ) (symbol : String) : EvidenceDetail :=
  { symbol, eligible := true, tradeCount := some trades, totalReturn := some totalReturn,
    mdd := none, metrics := ⟨none, none, none⟩, evidenceId := "", qualityStatus := "pass",
    source := "real", fixtureBacked := false }

/-- One cycle with details and nothing else. -/
def detailedCycle (details : EvidenceDetails) : DetailedProgress where
  progress :=
    { attempted := 0, valid := 0, tradeCount := 0, evidenceSymbols := [], excludedSymbols := [],
      providerBlocked := false, now := "", evidenceDetails := some details,
      sampleExhaustionReason := none, breadthSummary := [] }
  details
  given := rfl

/-- Twenty symbols with six trades each, all of them at a loss. -/
def losingDetails : EvidenceDetails where
  rows := twentySymbols.map (tradedSymbol 6 (-1 / 10))
  distinct := by decide +kernel

/-- Twenty symbols with six trades each, all of them at a gain, and one with fewer than none. -/
def gainingDetails : EvidenceDetails where
  rows := tradedSymbol (-100) 1 "a" :: twentySymbols.map (tradedSymbol 6 (1 / 10))
  distinct := by decide +kernel

/-- All stages were passed. -/
def allPassed : RobustnessProgress :=
  { directorAction := "RUN_MONTE_CARLO", terminal := false, now := "",
    validationStageStatus := Table.ofRows (validatedStages.map fun stage => ⟨stage, "pass"⟩),
    symbol := none, reference := none }

/-- A candidate at a loss. -/
def losingCandidate : StrategyCandidateRecord :=
  recordBreadthProgress untestedCandidate (detailedCycle losingDetails).progress

/-- A candidate at a gain that passed all stages, with few trades in the sum. -/
def gainingCandidate : StrategyCandidateRecord :=
  recordRobustnessProgress
    (recordBreadthProgress untestedCandidate (detailedCycle gainingDetails).progress) allPassed

/-- The candidate at a loss is a planned one. -/
theorem planned_losingCandidate : PlannedCandidate (fun _ => "sha") losingCandidate :=
  have built : newCandidate (fun _ => "sha") "breakout_standard" 1 "" = some untestedCandidate := rfl
  .breadth _ (.created built)

/-- The candidate at a gain is a planned one. -/
theorem planned_gainingCandidate : PlannedCandidate (fun _ => "sha") gainingCandidate :=
  have built : newCandidate (fun _ => "sha") "breakout_standard" 1 "" = some untestedCandidate := rfl
  .robustness _ (.breadth _ (.created built))

/-- The candidate at a loss is given up. -/
theorem losing_candidate_planned :
    SoundPlan losingCandidate (nextBlockerDrivenResearchAction losingCandidate).1 ∧
      ((economicViability losingCandidate).status = .fail →
        losingCandidate.status ≠ .promotionReady →
          (nextBlockerDrivenResearchAction losingCandidate).1 = .rotateCandidate) :=
  soundPlan_nextBlockerDrivenResearchAction (fun _ => "sha") losingCandidate
    planned_losingCandidate

/-- A candidate at a loss that a human was asked for is not given up, and one whose trades are
fewer than none on a symbol is ranked with a blocker. -/
theorem handed_over_not_rotated :
    PlannedCandidate (fun _ => "sha") (markPromotionReady losingCandidate "") ∧
      (economicViability (markPromotionReady losingCandidate "")).status = .fail ∧
      (nextBlockerDrivenResearchAction (markPromotionReady losingCandidate "")).1 =
        .requestHumanApproval ∧
      PlannedCandidate (fun _ => "sha") gainingCandidate ∧
      (nextBlockerDrivenResearchAction gainingCandidate).1 = .rankCandidates ∧
      candidateRemainingBlockers gainingCandidate = ["minimum_trade_sample"] :=
  ⟨.promotionReady _ planned_losingCandidate, by decide +kernel, by decide +kernel,
    planned_gainingCandidate, by decide +kernel, by decide +kernel⟩

end StrategyLab
