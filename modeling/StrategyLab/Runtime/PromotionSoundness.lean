import StrategyLab.Runtime.MissionInvariants
import StrategyLab.Knowledge.BreadthLaws
import Mathlib.Algebra.Order.BigOperators.Group.List

/-! When a candidate that becomes ready for its promotion has nothing left in its way. -/

namespace StrategyLab

/-- A record whose counts are those of its evidence, all of it within the cap and from trades. -/
structure StrategyCandidateRecord.Accounted (candidate : StrategyCandidateRecord) : Prop where
  recounted : candidate.Recounted
  legacy : candidate.breadthLegacyTradeCount = 0
  within : candidate.breadthEvidence.keyList.length ≤ breadthEvidenceSymbolCap
  traded : ∀ entry ∈ candidate.breadthEvidence.rows, 0 ≤ entry.tradeCount

/-- What a cycle says of a symbol is no negative number of trades. -/
theorem traded_details (output : MultiSymbolOutput) {symbol : String} {entry : SymbolEvidence}
    (found : output.details.normalized.find? symbol = some entry) : 0 ≤ entry.tradeCount := by
  rw [EvidenceDetails.find?_normalized] at found
  obtain ⟨detail, reported, rfl⟩ := Option.map_eq_some_iff.mp found
  have member := Table.mem_of_find?_ofRows reported
  obtain ⟨item, -, named⟩ := List.mem_filterMap.mp member
  obtain ⟨text, -, rfl⟩ := Option.map_eq_some_iff.mp named
  exact Int.natCast_nonneg item.trades

/-- Evidence stays free of negative numbers of trades over a cycle. -/
theorem traded_record {evidence : BreadthEvidence} (output : MultiSymbolOutput)
    (excluded : List String) (traded : ∀ entry ∈ evidence.rows, 0 ≤ entry.tradeCount) :
    ∀ entry ∈ (evidence.record output.details excluded).rows, 0 ≤ entry.tradeCount := by
  intro entry member
  have found := Table.find?_of_mem member
  have kept : entry.symbol ∈ (evidence.record output.details excluded).keyList :=
    Table.mem_keyList_iff.mpr (by rw [found]; rfl)
  rw [BreadthEvidence.find?_record _ _ _ kept] at found
  -- The entry is a reported one, one that was there, or a bare one without trades.
  rcases Option.or_eq_some_iff.mp found with known | ⟨-, bare⟩
  · rcases Option.or_eq_some_iff.mp known with reported | ⟨-, old⟩
    · exact traded_details output reported
    · exact traded entry (Table.find?_eq_some_iff.mp old).1
  · obtain ⟨symbol, -, rfl⟩ := List.mem_map.mp (List.mem_of_find?_eq_some bare)
    exact le_refl _

/-- Turns keep records accounted for. -/
theorem accounted_keptByTurns (sha : Json → String) :
    KeptByTurns sha StrategyCandidateRecord.Accounted where
  created := by
    intro template sequence now
    exact ⟨rfl, rfl, Nat.zero_le _, fun _ member => absurd member List.not_mem_nil⟩
  readBack _ accounted :=
    ⟨accounted.recounted, accounted.legacy, accounted.within, accounted.traded⟩
  reopened _ _ accounted :=
    ⟨accounted.recounted, accounted.legacy, accounted.within, accounted.traded⟩
  stagnant _ _ _ accounted :=
    ⟨accounted.recounted, accounted.legacy, accounted.within, accounted.traded⟩
  rejected _ _ _ accounted :=
    ⟨accounted.recounted, accounted.legacy, accounted.within, accounted.traded⟩
  ready _ _ accounted :=
    ⟨accounted.recounted, accounted.legacy, accounted.within, accounted.traded⟩
  breadth candidate output now accounted := by
    have given : (output.progress now).evidenceDetails = some output.details := rfl
    have evidence := breadthEvidence_recordBreadthProgress candidate given
    rw [accounted.recounted.seed_eq] at evidence
    refine ⟨recounted_recordBreadthProgress candidate given, accounted.legacy, ?_, ?_⟩
    · rw [evidence]
      exact BreadthEvidence.length_record_le _ _ _
    · rw [evidence]
      exact traded_record output _ accounted.traded
  validated _ _ _ _ _ accounted :=
    ⟨accounted.recounted, accounted.legacy, accounted.within, accounted.traded⟩

/-- Missions that a run of events reaches, or that one of its turns hands to a cycle. -/
inductive ReachableMission (sha : Json → String) : ResearchMission → Prop where
  | reached (first : ResearchMission.ScopeUpdate) (events : List MissionEvent) :
      ReachableMission sha ((missionMachine sha).run (.create first) events).mission
  | readBack {mission : ResearchMission} (reachable : ReachableMission sha mission) :
      ReachableMission sha mission.reloaded
  | prepared {mission chosen : ResearchMission} {candidate : StrategyCandidateRecord}
      (request : MissionRequest) (reachable : ReachableMission sha mission)
      (choice : preparedTurn sha request mission = .ok (chosen, candidate)) :
      ReachableMission sha chosen
  | focused {mission : ResearchMission} (symbol now : String)
      (reachable : ReachableMission sha mission) :
      ReachableMission sha (mission.recordFocusSymbol symbol now)

variable {sha : Json → String}

/-- A reachable mission is well formed, and its records are accounted for. -/
theorem ReachableMission.accounted {mission : ResearchMission}
    (reachable : ReachableMission sha mission) :
    mission.portfolio.WellFormed sha ∧ ∀ record ∈ mission.portfolio.records, record.Accounted := by
  induction reachable with
  | reached first events =>
    exact ⟨wellFormed_run sha first events, (accounted_keptByTurns sha).keptBySteps.run first events⟩
  | readBack _ ih => exact ⟨ih.1.reloaded, ih.2⟩
  | prepared request _ choice ih =>
    obtain ⟨cleared, steps, chosen⟩ := (preparedTurn_cases request ih.1).2 _ _ choice
    have kept := (accounted_keptByTurns sha).keptBySteps
    exact ⟨(chosen.formed (Cleared.formed steps ih.1).1).1,
      kept.chosen chosen (kept.cleared steps ih.2)⟩
  | focused symbol now _ ih => exact ih

variable {candidate : StrategyCandidateRecord}

/-- The symbols and trades that a passed economic decision rests on. -/
theorem sample_of_pass (pass : (economicViability candidate).status = .pass) :
    economicViabilityMinSymbolSample ≤
        (candidateCumulativePerformance candidate).performanceSampleSymbols ∧
      economicViabilityMinTradeSample ≤
        (candidateCumulativePerformance candidate).performanceSampleTrades := by
  by_contra few
  rw [not_and_or, not_le, not_le] at few
  have undecided : economicViability candidate = ⟨.needsMoreEvidence,
      "insufficient_performance_sample_for_economic_decision",
      candidateCumulativePerformance candidate⟩ := if_pos few
  rw [undecided] at pass
  cases pass

/-- A passed economic decision rests on enough symbols and trades for the other bars. -/
theorem sufficient_of_pass (accounted : candidate.Accounted)
    (pass : (economicViability candidate).status = .pass) :
    candidate.hasSufficientUniverseEvidence ∧ promotionMinTradeSample ≤ candidate.tradeCount := by
  obtain ⟨symbols, trades⟩ := sample_of_pass pass
  have counts := accounted.recounted
  simp only [StrategyCandidateRecord.Recounted, BreadthEvidence.counts,
    BreadthCounts.mk.injEq] at counts
  obtain ⟨attempted, valid, traded, evidence, -, -⟩ := counts
  have eligible : candidate.breadthEvidence.rows.filter (·.hasPerformance) =
      (candidate.breadthEvidence.rows.filter (·.eligible)).filter (·.hasPerformance) := by
    rw [List.filter_filter]
    refine List.filter_congr fun entry _ => ?_
    simp only [SymbolEvidence.hasPerformance]
    cases entry.eligible <;> simp
  have fewer : (candidateCumulativePerformance candidate).performanceSampleSymbols ≤
      (candidate.breadthEvidence.rows.filter (·.eligible)).length := by
    simp only [candidateCumulativePerformance, eligible]
    exact List.length_filter_le _ _
  have less : (candidateCumulativePerformance candidate).performanceSampleTrades ≤
      candidate.breadthEvidence.eligibleTrades := by
    simp only [candidateCumulativePerformance, eligible, BreadthEvidence.eligibleTrades]
    refine (List.filter_sublist.map _).sum_le_sum fun trades member => ?_
    obtain ⟨entry, inside, rfl⟩ := List.mem_map.mp member
    exact accounted.traded entry (List.mem_of_mem_filter inside)
  have within := accounted.within
  simp only [Table.keyList, List.length_map, breadthEvidenceSymbolCap] at within
  simp only [economicViabilityMinSymbolSample, economicViabilityMinTradeSample] at symbols trades
  rw [accounted.legacy] at traded
  rw [List.length_map] at valid
  have many : (20 : Int) ≤ candidate.validSymbols := by omega
  have tried : candidate.attemptedSymbols ≤ 64 := by omega
  have positive : candidate.validSymbols ≤ candidate.attemptedSymbols := by
    rw [← valid, ← attempted]
    exact_mod_cast List.length_filter_le _ _
  refine ⟨?_, by simp only [promotionMinTradeSample]; omega⟩
  -- Twenty of at most sixty-four symbols are more than three tenths.
  have ratio : (3 / 10 : ℚ) ≤ candidate.validSymbols / candidate.attemptedSymbols := by
    have above : (0 : ℚ) < candidate.attemptedSymbols := by
      exact_mod_cast (by omega : 0 < candidate.attemptedSymbols)
    rw [le_div_iff₀ above]
    have upper : (candidate.attemptedSymbols : ℚ) ≤ 64 := by exact_mod_cast tried
    have lower : (20 : ℚ) ≤ candidate.validSymbols := by exact_mod_cast many
    linarith
  have some : candidate.validSymbolRatio =
      some (candidate.validSymbols / candidate.attemptedSymbols : ℚ) := if_neg (by omega)
  have five : minValidSymbolsForUniverseEvidence ≤ candidate.validSymbols := by
    simp only [minValidSymbolsForUniverseEvidence]
    omega
  simp only [StrategyCandidateRecord.hasSufficientUniverseEvidence, some, five,
    minValidSymbolRatioForUniverseEvidence, ratio, decide_true, Bool.and_true]

/-- The six stages a candidate is validated in. -/
def validatedStages : List String := requiredStages ++ ["monte_carlo"]

/-- Nothing is left in a candidate's way when it has the symbols and trades and passed every
stage. -/
theorem candidateRemainingBlockers_eq_nil_iff (candidate : StrategyCandidateRecord) :
    candidateRemainingBlockers candidate = [] ↔
      candidate.hasSufficientUniverseEvidence ∧ promotionMinTradeSample ≤ candidate.tradeCount ∧
        ∀ stage ∈ validatedStages, candidate.stagePassed stage := by
  have empty : ∀ blockers : List String, Py.fromkeys blockers = [] ↔ blockers = [] := by
    intro blockers
    simp only [List.eq_nil_iff_forall_not_mem, Py.mem_fromkeys]
  rw [candidateRemainingBlockers, empty]
  simp only [List.append_eq_nil_iff, validatedStages, List.forall_mem_append,
    List.forall_mem_singleton, List.filter_eq_nil_iff]
  by_cases few : candidate.tradeCount < promotionMinTradeSample
  · simp [few]
  · cases candidate.hasSufficientUniverseEvidence <;> cases candidate.stagePassed "monte_carlo" <;>
      simp [few, not_lt.mp few]

/-- The status of a stage after a validation: the reported one, or the one that was recorded. -/
def mergedStatus (candidate : StrategyCandidateRecord) (payload : LearningPayload)
    (stage : String) : String :=
  (payload.validationStageStatus.get stage).getD (candidate.stageStatus stage)

/-- A validation of a candidate's own rules leaves that status. -/
theorem stageStatus_validated
    (verified : identityVerified sha candidate) (action : ResearchAction) (symbol : String)
    (payload : LearningPayload) (now stage : String) :
    (validated sha candidate action symbol payload now).stageStatus stage =
      mergedStatus candidate payload stage := by
  have merged : (validated sha candidate action symbol payload now).validationStageStatus =
      candidate.validationStageStatus.overlay payload.validationStageStatus := by
    simp only [validated, recordRobustnessProgress, robustnessUpdated, robustnessReport, verified,
      if_true]
  simp only [StrategyCandidateRecord.stageStatus, mergedStatus, StageStatuses.get, merged,
    Table.find?_overlay]
  cases payload.validationStageStatus.find? stage <;> rfl

/-- A candidate that was not ready is ready, or it became ready again at another time. -/
def BecameReady (before after : StrategyCandidateRecord) : Prop :=
  after.status = .promotionReady ∧
    (before.status ≠ .promotionReady ∨ after.promotionReadyAt ≠ before.promotionReadyAt)

/-- Nothing else than a promotion makes a candidate ready. -/
theorem not_becameReady {before after : StrategyCandidateRecord}
    (readBack : before.reloaded = before)
    (status : after.status = .promotionReady → before.status = .promotionReady)
    (since : after.promotionReadyAt = before.promotionReadyAt) :
    ¬BecameReady before after.reloaded := by
  rintro ⟨ready, anew⟩
  rcases anew with other | other
  · exact other (status ready)
  · refine other ?_
    have same := congrArg StrategyCandidateRecord.promotionReadyAt readBack
    exact (congrArg someText since).trans same

/-- A rotated candidate is not ready. -/
theorem rotatedCandidate_status (candidate : StrategyCandidateRecord) (reason : Option String)
    (now : String) : (rotatedCandidate candidate reason now).status ≠ .promotionReady := by
  unfold rotatedCandidate
  split
  · simp [markStagnant]
  · split <;> simp [markStagnant, markRejected]

/-- A candidate becomes ready through a validation of its own rules after which it is worth
trading. -/
theorem CycleStep.of_becameReady {tools : ResearchTools}
    {before after : Portfolio} {candidate record : StrategyCandidateRecord} {now : String}
    {executed : Option ExecutedCycle}
    (step : CycleStep sha tools before candidate now executed after)
    (formed : before.WellFormed sha) (known : candidate ∈ before.records)
    (readBack : candidate.reloaded = candidate) (member : record ∈ after.records)
    (named : record.candidateId = candidate.candidateId) (ready : BecameReady candidate record) :
    ∃ action symbol payload, tools.Tell payload ∧ identityVerified sha candidate ∧
      (economicViability (StrategyLab.validated sha candidate action symbol payload now)).status =
        .pass ∧
      record = (markPromotionReady
        (StrategyLab.validated sha candidate action symbol payload now) now).reloaded := by
  -- The record of the candidate is the one that the step has put in its place.
  have replaced : ∀ (portfolio : Portfolio) (updated : StrategyCandidateRecord),
      candidate ∈ portfolio.records → updated.candidateId = candidate.candidateId →
      record ∈ (portfolio.put updated).records → record = updated.reloaded := by
    intro portfolio updated inside same there
    rcases (Portfolio.mem_put_iff inside same).mp there with new | ⟨-, other⟩
    · exact new
    · exact absurd named other
  have rotated : ∀ updated reason, updated.candidateId = candidate.candidateId →
      record ∈ ((before.put (rotatedCandidate updated reason now)).focus none).records → False := by
    intro updated reason same there
    have new := replaced before _ known
      ((rotatedCandidate_sameIdentity updated reason now).candidateId.trans same) there
    rw [new] at ready
    exact rotatedCandidate_status updated reason now ready.1
  cases step with
  | kept planned =>
    rw [formed.eq_of_candidateId_eq member known named] at ready
    rcases ready with ⟨same, other | other⟩
    · exact absurd same other
    · exact absurd rfl other
  | rotated planned => exact (rotated candidate _ rfl member).elim
  | breadth output planned going =>
    rw [replaced before (breadthUpdated candidate output now) known rfl member] at ready
    refine absurd ready (not_becameReady readBack (fun same => ?_) rfl)
    simp only [breadthUpdated, recordBreadthProgress] at same
    split at same
    · cases same
    · exact same
  | breadthRotated output planned =>
    exact (rotated (breadthUpdated candidate output now) _ rfl member).elim
  | @validated action symbol payload told planned going =>
    let updated := StrategyLab.validated sha candidate action symbol payload now
    rw [replaced before updated known rfl member] at ready
    refine absurd ready (not_becameReady readBack (fun same => ?_) rfl)
    simp only [updated, recordRobustnessProgress, robustnessUpdated] at same
    split at same
    · exact same
    · cases same
  | @validatedRotated action symbol payload told planned =>
    let updated := StrategyLab.validated sha candidate action symbol payload now
    exact (rotated updated _ rfl member).elim
  | @promoted action symbol payload told planned verified pass =>
    have inside : candidate ∈ ((before.announce candidate now).focus none).records := by
      simpa using known
    exact ⟨action, symbol, payload, told, verified, pass, replaced _ _ inside rfl member⟩
  | @rejected action symbol reason payload told planned =>
    let updated := StrategyLab.validated sha candidate action symbol payload now
    rw [replaced (before.focus none) (markRejected updated reason now) known rfl member] at ready
    cases ready.1

/-- When a robustness cycle of a reachable mission makes a candidate ready, after an output that the
director's decision was made on, the candidate is worth trading, and nothing is left in its way
exactly if each of the six stages has a status that counts as passed: the reported one, or the one
recorded before where none was reported. -/
theorem promotion_sound_iff {sha : Json → String} {mission : ResearchMission}
    (reachable : ReachableMission sha mission) {candidate : StrategyCandidateRecord}
    (known : candidate ∈ mission.candidateRecords) (payload : LearningPayload)
    (live : LiveExecutionFields) (stepsUsed : Int) (candidateRejected : Bool)
    {tools : ResearchTools} (now : String)
    (answer : ∀ request, tools.autonomousLearningResearch request =
      .ok (payload.directed live stepsUsed candidateRejected))
    {record : StrategyCandidateRecord}
    (member : record ∈ (tryCandidateRobustnessCycle sha tools mission candidate
      now).mission.candidateRecords)
    (named : record.candidateId = candidate.candidateId) (ready : BecameReady candidate record) :
    (candidateRemainingBlockers record = [] ∧ (economicViability record).status = .pass) ↔
      ∀ stage ∈ validatedStages, mergedStatus candidate payload stage ∈ passLikeStageStatuses := by
  obtain ⟨formed, accounted⟩ := reachable.accounted
  have step := tryCandidateRobustnessCycle_step sha tools mission candidate now
  obtain ⟨action, symbol, told, ⟨request, answered⟩, verified, pass, rfl⟩ :=
    step.of_becameReady formed known (mission.reloaded_of_mem known) member named ready
  obtain rfl : payload.directed live stepsUsed candidateRejected = told :=
    Except.ok.inj ((answer request).symm.trans answered)
  let updated := validated sha candidate action symbol
    (payload.directed live stepsUsed candidateRejected) now
  -- The mark changes neither what blocks a candidate nor what it is worth.
  have blockers : candidateRemainingBlockers (markPromotionReady updated now).reloaded =
      candidateRemainingBlockers updated := rfl
  have worth : (economicViability (markPromotionReady updated now).reloaded).status = .pass := pass
  have bars := sufficient_of_pass
    ((accounted_keptByTurns sha).validated candidate action symbol
      (payload.directed live stepsUsed candidateRejected) now (accounted candidate known)) pass
  have passed : ∀ stage, updated.stagePassed stage ↔
      mergedStatus candidate payload stage ∈ passLikeStageStatuses := by
    intro stage
    rw [StrategyCandidateRecord.stagePassed, decide_eq_true_iff, stageStatus_validated verified]
    rfl
  rw [blockers, candidateRemainingBlockers_eq_nil_iff]
  constructor
  · rintro ⟨⟨-, -, stages⟩, -⟩ stage listed
    exact (passed stage).mp (stages stage listed)
  · intro stages
    exact ⟨⟨bars.1, bars.2, fun stage listed => (passed stage).mpr (stages stage listed)⟩, worth⟩

/-- A mission for the whole Korean market. -/
def koreanScope : ResearchMission.ScopeUpdate :=
  { market := "KR", universeScope := .marketWide, symbols := [], exchanges := defaultKrExchanges
    strategyFamily := some "short_term_daytrade", improveReturn := true, improveSafety := false
    baselineComparison := none, target := none, resumes := true, now := "t0" }

/-- The message that research may go on. -/
def plainRequest : MissionRequest :=
  { diversity := false, requestedFamily := none, preferredSymbols := [], readOnly := false
    familyPreferences := [], now := "t1" }

/-- A symbol that six trades brought a profit on. -/
def profitableItem (number : Nat) : EvidenceItem :=
  { symbol := some ("A" ++ toString number), eligible := true, tradeCount := some 6
    metricsTradeCount := none, totalReturn := some 10, mdd := some 5, evidenceId := ""
    qualityStatus := "", source := "", fixtureBacked := false }

/-- A breadth cycle that brings profits on some symbols. -/
def profitableOutput (symbols : Nat) : MultiSymbolOutput :=
  { evidence := (List.range symbols).map profitableItem, stopReason := none
    aggregateTradeCount := 6 * symbols, totalExcluded := 0, providerRelatedExcluded := 0
    excludedByCategory := [], summary := [] }

/-- A validation that has executed every stage, and with the same result. -/
def executedStages (status : String) : LearningPayload :=
  { evidenceStrength := some "strong", conflictStatus := some "supporting"
    sampleSufficiencyStatus := some "sufficient"
    productionGradeValidation :=
      Table.ofRows (persistedStages.map fun stage => ⟨stage, true, some status⟩)
    researchDirectorDecision := none }

/-- Nothing is known of live orders. -/
def noLiveExecution : LiveExecutionFields := ⟨false, false, 0⟩

/-- Tools that bring profits on twenty symbols and a validation with one result. -/
def profitableTools (status : String) : ResearchTools :=
  ⟨fun _ => .ok (profitableOutput 20),
    fun _ => .ok ((executedStages status).directed noLiveExecution 0 false)⟩

/-- A mission whose first candidate was profitable on twenty symbols. -/
def profitableMission : ResearchMission :=
  ((missionMachine fun _ => "sha").run (.create koreanScope)
    [.turn plainRequest (profitableTools "pass")]).mission

/-- That candidate. -/
def profitableCandidate : StrategyCandidateRecord :=
  profitableMission.candidateRecords.get ⟨0, by decide +kernel⟩

/-- What a validation with one result leaves of the mission. -/
def validatedMission (status : String) : ResearchMission :=
  (tryCandidateRobustnessCycle (fun _ => "sha") (profitableTools status) profitableMission
    profitableCandidate "t2").mission

/-- A candidate that passed every stage has nothing left in its way. -/
theorem passed_candidate_sound :
    let record := (validatedMission "pass").candidateRecords.get ⟨0, by decide +kernel⟩
    (candidateRemainingBlockers record = [] ∧ (economicViability record).status = .pass) ↔
      ∀ stage ∈ validatedStages,
        mergedStatus profitableCandidate (executedStages "pass") stage ∈ passLikeStageStatuses :=
  promotion_sound_iff (.reached koreanScope [.turn plainRequest (profitableTools "pass")])
    (List.get_mem _ _) (executedStages "pass") noLiveExecution 0 false "t2" (fun _ => rfl)
    (List.get_mem _ _) (by decide +kernel) ⟨by decide +kernel, .inl (by decide +kernel)⟩

/-- A candidate that failed every stage is promoted with all of them left. -/
theorem failed_candidate_promoted :
    ReachableMission (fun _ => "sha") profitableMission ∧
      profitableCandidate ∈ profitableMission.candidateRecords ∧
      ∃ record ∈ (validatedMission "fail").candidateRecords,
        record.candidateId = profitableCandidate.candidateId ∧
        BecameReady profitableCandidate record ∧
        candidateRemainingBlockers record = validatedStages :=
  ⟨.reached koreanScope [.turn plainRequest (profitableTools "pass")], List.get_mem _ _,
    (validatedMission "fail").candidateRecords.get ⟨0, by decide +kernel⟩, List.get_mem _ _,
    by decide +kernel, ⟨by decide +kernel, .inl (by decide +kernel)⟩, by decide +kernel⟩

end StrategyLab
