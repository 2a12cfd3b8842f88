import StrategyLab.Runtime.MissionCycleLaws

/-! What holds of the candidates of a mission after any run of messages and turns. -/

namespace StrategyLab

/-- A property of records that every change a turn makes to a record keeps. -/
structure KeptByTurns (sha : Json → String) (holds : StrategyCandidateRecord → Prop) : Prop where
  created : ∀ template sequence now,
    holds (StrategyFamilyTemplate.newRecord template sha sequence now)
  readBack : ∀ candidate, holds candidate → holds candidate.reloaded
  reopened : ∀ candidate now, holds candidate → holds (reopened candidate now)
  stagnant : ∀ candidate reason now, holds candidate → holds (markStagnant candidate reason now)
  rejected : ∀ candidate reason now, holds candidate → holds (markRejected candidate reason now)
  ready : ∀ candidate now, holds candidate → holds (markPromotionReady candidate now)
  breadth : ∀ candidate output now, holds candidate →
    holds (breadthUpdated candidate output now)
  validated : ∀ candidate action symbol payload now, holds candidate →
    holds (validated sha candidate action symbol payload now)

/-- A property of records that every step of a turn keeps, under the conditions it is taken. -/
structure KeptBySteps (sha : Json → String) (holds : StrategyCandidateRecord → Prop) : Prop where
  created : ∀ template sequence now,
    holds (StrategyFamilyTemplate.newRecord template sha sequence now)
  readBack : ∀ candidate, holds candidate → holds candidate.reloaded
  reopened : ∀ candidate now, recoverable candidate → holds candidate →
    holds (reopened candidate now)
  givenUp : ∀ candidate reason now, reason ∈ ["user_requested_different_strategy_family",
      "user_requested_specific_strategy_family"] → holds candidate →
    holds (markStagnant candidate reason now)
  rotated : ∀ candidate now, holds candidate →
    holds (rotatedCandidate candidate (some (nextBlockerDrivenResearchAction candidate).2) now)
  breadth : ∀ candidate output now, (output.isProviderAcquisitionBlocker ∨
      ¬isStagnant (breadthUpdated candidate output now)) → holds candidate →
    holds (breadthUpdated candidate output now)
  breadthRotated : ∀ candidate output now, holds candidate →
    holds (rotatedCandidate (breadthUpdated candidate output now) none now)
  validated : ∀ candidate action symbol payload now,
    ¬isStagnant (StrategyLab.validated sha candidate action symbol payload now) → holds candidate →
    holds (StrategyLab.validated sha candidate action symbol payload now)
  validatedRotated : ∀ candidate action symbol payload now, holds candidate →
    holds (rotatedCandidate (StrategyLab.validated sha candidate action symbol payload now) none
      now)
  promoted : ∀ candidate action symbol payload now, holds candidate →
    holds (markPromotionReady (StrategyLab.validated sha candidate action symbol payload now) now)
  rejected : ∀ candidate action symbol payload reason now, GivenForRejection reason →
    holds candidate →
    holds (markRejected (StrategyLab.validated sha candidate action symbol payload now) reason now)

/-- A property that every change keeps is kept by the steps that are made of them. -/
theorem KeptByTurns.keptBySteps {sha : Json → String} {holds : StrategyCandidateRecord → Prop}
    (kept : KeptByTurns sha holds) : KeptBySteps sha holds := by
  -- A rotation is a verdict on the record it is made on.
  have rotated : ∀ candidate reason now, holds candidate →
      holds (rotatedCandidate candidate reason now) := by
    intro candidate reason now next
    unfold rotatedCandidate
    split
    · exact kept.stagnant _ _ _ next
    · split
      · exact kept.rejected _ _ _ next
      · exact kept.stagnant _ _ _ next
  have validated := kept.validated
  exact
    { created := kept.created
      readBack := kept.readBack
      reopened := fun candidate now _ => kept.reopened candidate now
      givenUp := fun candidate reason now _ => kept.stagnant candidate reason now
      rotated := fun candidate now => rotated candidate _ now
      breadth := fun candidate output now _ => kept.breadth candidate output now
      breadthRotated := fun _ output now next => rotated _ _ now (kept.breadth _ output now next)
      validated := fun candidate action symbol payload now _ =>
        validated candidate action symbol payload now
      validatedRotated := fun _ _ _ _ now next => rotated _ _ now (validated _ _ _ _ now next)
      promoted := fun _ _ _ _ now next => kept.ready _ now (validated _ _ _ _ now next)
      rejected := fun _ _ _ _ reason now _ next =>
        kept.rejected _ reason now (validated _ _ _ _ now next) }

namespace KeptBySteps

variable {sha : Json → String} {holds : StrategyCandidateRecord → Prop}
  (kept : KeptBySteps sha holds) {before after : Portfolio}

include kept

variable {candidate : StrategyCandidateRecord}

/-- A record that replaces another one has to meet the property. -/
theorem put (all : ∀ record ∈ before.records, holds record)
    (next : holds candidate) : ∀ record ∈ (before.put candidate).records, holds record := by
  intro record member
  obtain ⟨old, inside, rfl⟩ := List.mem_map.mp member
  split
  · exact kept.readBack candidate next
  · exact all old inside

/-- Clearing a portfolio keeps the property. -/
theorem cleared (steps : Cleared before after) (all : ∀ record ∈ before.records, holds record) :
    ∀ record ∈ after.records, holds record := by
  induction steps with
  | refl => exact all
  | tail _ last ih =>
    cases last with
    | reopened now known given => exact kept.put ih (kept.reopened _ now given (ih _ known))
    | givenUp now known active asked =>
      exact kept.put ih (kept.givenUp _ _ now asked (ih _ known))

/-- Choosing a candidate keeps the property. -/
theorem chosen {request : MissionRequest} (choice : Chosen sha request before candidate after)
    (all : ∀ record ∈ before.records, holds record) : ∀ record ∈ after.records, holds record := by
  cases choice with
  | kept known active => exact all
  | selected known named => exact all
  | created listed untried =>
    intro record member
    rcases List.mem_append.mp member with old | new
    · exact all record old
    · rw [List.mem_singleton.mp new]
      exact kept.created _ _ _

/-- A cycle keeps the property. -/
theorem cycle {tools : ResearchTools} {candidate : StrategyCandidateRecord} {now : String}
    {executed : Option ExecutedCycle}
    (step : CycleStep sha tools before candidate now executed after)
    (all : ∀ record ∈ before.records, holds record) (next : holds candidate) :
    ∀ record ∈ after.records, holds record := by
  cases step with
  | kept planned => exact all
  | rotated planned => exact kept.put all (kept.rotated _ now next)
  | breadth output planned going => exact kept.put all (kept.breadth _ output now going next)
  | breadthRotated output planned => exact kept.put all (kept.breadthRotated _ output now next)
  | validated symbol told planned going =>
    exact kept.put all (kept.validated _ _ symbol _ now going next)
  | validatedRotated symbol told planned =>
    exact kept.put all (kept.validatedRotated _ _ symbol _ now next)
  | promoted symbol told planned verified pass =>
    have same : ∀ record ∈ ((before.announce candidate now).focus none).records, holds record := by
      simpa using all
    exact kept.put same (kept.promoted _ _ symbol _ now next)
  | rejected symbol reason told planned why =>
    have same : ∀ record ∈ (before.focus none).records, holds record := all
    exact kept.put same (kept.rejected _ _ symbol _ reason now why next)

/-- A turn keeps the property. -/
theorem turn {tools : ResearchTools} {request : MissionRequest} {executed : Option ExecutedCycle}
    (step : TurnStep sha tools request before executed after) (formed : before.WellFormed sha)
    (all : ∀ record ∈ before.records, holds record) : ∀ record ∈ after.records, holds record := by
  cases step with
  | ended steps => exact kept.cleared steps all
  | cycle steps choice step =>
    obtain ⟨-, known, -⟩ := choice.formed (Cleared.formed steps formed).1
    have ready := kept.chosen choice (kept.cleared steps all)
    exact kept.cycle step ready (ready _ known)

end KeptBySteps

/-- An event keeps a portfolio well formed. -/
theorem wellFormed_next {sha : Json → String} {journal : MissionJournal} (event : MissionEvent)
    (formed : journal.mission.portfolio.WellFormed sha) :
    ((missionMachine sha).next journal event).mission.portfolio.WellFormed sha := by
  cases event with
  | message scope => exact formed.reloaded
  | turn request tools =>
    have step := tryMissionDrivenResearchCycle_step tools request
      (show journal.mission.reloaded.portfolio.WellFormed sha from formed.reloaded)
    exact step.formed formed.reloaded

/-- A new mission has no candidates. -/
theorem wellFormed_create (sha : Json → String) (first : ResearchMission.ScopeUpdate) :
    (MissionJournal.create first).mission.portfolio.WellFormed sha :=
  ⟨rfl, List.nodup_nil, fun _ member => absurd member List.not_mem_nil⟩

/-- A mission after a run of events is well formed. -/
theorem wellFormed_run (sha : Json → String) (first : ResearchMission.ScopeUpdate)
    (events : List MissionEvent) :
    ((missionMachine sha).run (.create first) events).mission.portfolio.WellFormed sha := by
  have next : ∀ (journal : MissionJournal) (event : MissionEvent),
      journal.mission.portfolio.WellFormed sha →
        ((missionMachine sha).next journal event).mission.portfolio.WellFormed sha :=
    fun _ event formed => wellFormed_next event formed
  exact (missionMachine sha).invariant next events (wellFormed_create sha first)

/-- A property that turns keep holds of every candidate after a run of events. -/
theorem KeptBySteps.run {sha : Json → String} {holds : StrategyCandidateRecord → Prop}
    (kept : KeptBySteps sha holds) (first : ResearchMission.ScopeUpdate)
    (events : List MissionEvent) :
    ∀ record ∈ ((missionMachine sha).run (.create first) events).mission.portfolio.records,
      holds record := by
  have next : ∀ (journal : MissionJournal) (event : MissionEvent),
      journal.mission.portfolio.WellFormed sha ∧
        (∀ record ∈ journal.mission.portfolio.records, holds record) →
      ((missionMachine sha).next journal event).mission.portfolio.WellFormed sha ∧
        ∀ record ∈ ((missionMachine sha).next journal event).mission.portfolio.records,
          holds record := by
    rintro journal event ⟨formed, all⟩
    refine ⟨wellFormed_next event formed, ?_⟩
    cases event with
    | message scope => exact all
    | turn request tools =>
      have step := tryMissionDrivenResearchCycle_step tools request
        (show journal.mission.reloaded.portfolio.WellFormed sha from formed.reloaded)
      exact kept.turn step formed.reloaded all
  exact ((missionMachine sha).invariant next events
    ⟨wellFormed_create sha first, fun _ member => absurd member List.not_mem_nil⟩).2

end StrategyLab
