import StrategyLab.Knowledge.CanonicalMission
import StrategyLab.Knowledge.MissionScope
import StrategyLab.Runtime.MissionCycle

/-! Restarts of a mission: when what is read back is what was stored. -/

namespace StrategyLab

/-- What is done to the record of a candidate. -/
inductive CandidateChange where
  | breadth (progress : BreadthProgress)
  | robustness (progress : RobustnessProgress)
  | promotionReady (now : String)
  | rejected (reason now : String)
  | stagnant (reason now : String)
  | reopened (now : String)

/-- The record of a candidate after a change. -/
def CandidateChange.apply (candidate : StrategyCandidateRecord) :
    CandidateChange → StrategyCandidateRecord
  | breadth progress => recordBreadthProgress candidate progress
  | robustness progress => recordRobustnessProgress candidate progress
  | promotionReady now => markPromotionReady candidate now
  | rejected reason now => markRejected candidate reason now
  | stagnant reason now => markStagnant candidate reason now
  | reopened now => StrategyLab.reopened candidate now

/-- Candidates over changes. -/
def candidateMachine : Machine StrategyCandidateRecord CandidateChange Unit where
  step candidate change := ((), change.apply candidate)

/-- Whether a change writes no empty text where none is read as nothing. -/
def CandidateChange.Filled : CandidateChange → Prop
  | breadth _ => True
  | robustness progress => progress.directorAction ≠ "" ∧ progress.reference ≠ some ""
  | promotionReady now => now ≠ ""
  | rejected reason _ => reason ≠ ""
  | stagnant reason _ => reason ≠ ""
  | reopened _ => True

variable {candidate : StrategyCandidateRecord}

/-- The attempts after a robustness cycle are few again. -/
theorem length_history_recordRobustnessProgress
    (progress : RobustnessProgress) (few : candidate.validationAttemptHistory.length ≤ 48) :
    (recordRobustnessProgress candidate progress).validationAttemptHistory.length ≤ 48 := by
  simp only [recordRobustnessProgress]
  split
  · exact few
  · simp only [Py.lastSlice, actionCycleHistoryCap, Nat.cast_ofNat, Nat.ofNat_pos, if_true,
      List.length_drop]
    omega

/-- A change leaves a canonical record exactly if it writes no empty text. -/
theorem canonical_apply_iff (canonical : candidate.Canonical) (change : CandidateChange) :
    (change.apply candidate).Canonical ↔ change.Filled := by
  cases change with
  | breadth progress =>
    refine iff_of_true { canonical with exhaustion := ?_ } trivial
    exact or_ne_empty (someText_ne_empty _) canonical.exhaustion
  | robustness progress =>
    constructor
    · intro after
      refine ⟨fun empty => after.action (congrArg some empty), fun empty => after.reference ?_⟩
      simp only [CandidateChange.apply, recordRobustnessProgress, empty, Option.some_or]
    · rintro ⟨action, reference⟩
      exact { canonical with
        action := fun empty => action (Option.some.inj empty)
        symbol := or_ne_empty (someText_ne_empty _) canonical.symbol
        reference := or_ne_empty reference canonical.reference
        history := length_history_recordRobustnessProgress progress canonical.history }
  | promotionReady now =>
    exact ⟨fun after empty => after.ready (congrArg some empty),
      fun filled => { canonical with ready := fun empty => filled (Option.some.inj empty) }⟩
  | rejected reason now =>
    exact ⟨fun after empty => after.rejected (congrArg some empty),
      fun filled => { canonical with rejected := fun empty => filled (Option.some.inj empty) }⟩
  | stagnant reason now =>
    exact ⟨fun after empty => after.rejected (congrArg some empty),
      fun filled => { canonical with rejected := fun empty => filled (Option.some.inj empty) }⟩
  | reopened now =>
    refine iff_of_true { canonical with rejected := ?_ } trivial
    simp [CandidateChange.apply, StrategyLab.reopened]

/-- The symbols that a message can name. -/
def knownKrSymbols : List String := ["005930", "000660", "005380", "035420", "051910"]

/-- What can be read off a text: known symbols, each once, and names from fixed lists. -/
structure ScopeSignals.FromText (signals : ScopeSignals) : Prop where
  distinct : signals.explicitSymbols.Nodup
  symbols : ∀ symbol ∈ signals.explicitSymbols, symbol ∈ knownKrSymbols
  exchanges : signals.exchanges ∈ [["KOSPI"], ["KOSDAQ"], defaultKrExchanges]
  baseline : signals.baselineComparison ∈ [none, some "registered_strategy"]
  family : signals.strategyFamily ∈
    [none, some "short_term_daytrade", some "swing", some "trend_following"]

/-- The identified mission that is read back. -/
def IdentifiedMission.reloaded (known : IdentifiedMission) : IdentifiedMission :=
  { known with mission := known.mission.reloaded }

/-- What happens to a mission: a message, a write, or a restart in between. -/
inductive MissionChange where
  | message (message : ScopeMessage) (read : message.signals.FromText)
  | write (write : MissionWrite)
  | restart

/-- The mission after a change, if there is one. -/
def MissionChange.apply (state : Option IdentifiedMission) :
    MissionChange → Option IdentifiedMission
  | message said _ => extractOrUpdateMission said state
  | write written => state.map fun known => { known with mission := written.apply known.mission }
  | restart => state.map .reloaded

/-- Whether a change is no restart. -/
def MissionChange.goesOn : MissionChange → Bool
  | restart => false
  | _ => true

/-- Missions over changes. -/
def changeMachine : Machine (Option IdentifiedMission) MissionChange Unit where
  step state change := ((), change.apply state)

namespace ScopeSignals

/-- Whether a mission is a standard one after a message. -/
def MakesStandard (signals : ScopeSignals) (existing : ResearchMission) : Prop :=
  (signals.krMarketWide ∨ existing.market = "KR" ∨ signals.namesKorea) ∧
    (signals.krMarketWide ∨ ¬signals.DeclaresScope ∧ existing.universeScope = .marketWide) ∧
    (existing.isStrategyMission ∨ signals.improveReturn ∨ signals.improveSafety ∨
      signals.strategyFamily.isSome ∨ signals.baselineComparison.isSome)

/-- Whether a message asks a mission that waits for approval for no more strategies than were
found, and leaves it no standard one that needs more. -/
def KeepsApproval (signals : ScopeSignals) (existing : ResearchMission) : Prop :=
  existing.status = .awaitingHumanApproval →
    (∀ count, signals.target = some count → count ≤ existing.currentPromotionReadyCandidates) ∧
    (signals.MakesStandard existing → 3 ≤ existing.currentPromotionReadyCandidates)

/-- Texts that are read off a message are not empty. -/
theorem FromText.filled {signals : ScopeSignals} (read : signals.FromText) :
    signals.strategyFamily ≠ some "" ∧ signals.baselineComparison ≠ some "" := by
  constructor
  · intro empty
    have known := read.family
    rw [empty] at known
    revert known
    decide
  · intro empty
    have known := read.baseline
    rw [empty] at known
    revert known
    decide

/-- Symbols that are read off a message are read back as they are. -/
theorem FromText.symbols_eq {signals : ScopeSignals} (read : signals.FromText) :
    tupleOfStr signals.explicitSymbols = signals.explicitSymbols := by
  refine tupleOfStr_eq_self_iff.mpr ⟨read.distinct, fun symbol member => ?_⟩
  have solid : ∀ symbol ∈ knownKrSymbols, ¬Py.isBlank symbol := by decide
  exact solid symbol (read.symbols symbol member)

/-- Exchanges that are read off a message are read back as they are, and there are some. -/
theorem FromText.exchanges_eq {signals : ScopeSignals} (read : signals.FromText) :
    tupleOfStr signals.exchanges = signals.exchanges ∧ signals.exchanges ≠ [] := by
  have solid : ∀ exchanges ∈ [["KOSPI"], ["KOSDAQ"], defaultKrExchanges],
      tupleOfStr exchanges = exchanges ∧ exchanges ≠ [] := by decide
  exact solid _ read.exchanges

variable {signals : ScopeSignals} {existing : ResearchMission}

/-- The symbols and exchanges after a message are read back as they are. -/
theorem FromText.declared (read : signals.FromText) {existing : Option ResearchMission}
    (canonical : ∀ known, existing = some known → known.Canonical) :
    tupleOfStr (signals.declaredScope existing).2.1 = (signals.declaredScope existing).2.1 ∧
      tupleOfStr (signals.declaredScope existing).2.2 = (signals.declaredScope existing).2.2 ∧
      (signals.declaredScope existing).2.2 ≠ [] := by
  have kept : tupleOfStr ((existing.map (·.exchanges)).getD defaultKrExchanges) =
      (existing.map (·.exchanges)).getD defaultKrExchanges ∧
      (existing.map (·.exchanges)).getD defaultKrExchanges ≠ [] := by
    cases existing with
    | none => decide
    | some known => exact ⟨(canonical known rfl).exchanges, (canonical known rfl).traded⟩
  simp only [declaredScope]
  split
  · exact ⟨rfl, read.exchanges_eq⟩
  · split
    · exact ⟨read.symbols_eq, kept⟩
    · split
      · exact ⟨read.symbols_eq, kept⟩
      · cases existing with
        | none => exact ⟨read.symbols_eq, kept⟩
        | some known =>
          have before := canonical known rfl
          exact ⟨before.symbols, before.exchanges, before.traded⟩

/-- The scope after a message is the whole market if the message says so, or says nothing. -/
theorem declaredScope_eq_marketWide_iff (existing : ResearchMission) :
    (signals.declaredScope (some existing)).1 = .marketWide ↔
      signals.krMarketWide ∨ ¬signals.DeclaresScope ∧ existing.universeScope = .marketWide := by
  by_cases wide : signals.krMarketWide
  · simp [declaredScope, wide]
  by_cases silent : signals.DeclaresScope
  · refine iff_of_false (fun scope => ?_) (by simp [wide, silent])
    -- A message that names symbols says another scope.
    rw [declaredScope, if_neg wide] at scope
    split at scope
    · cases scope
    · rename_i few
      have one : signals.explicitSymbols.length = 1 ∧ (!signals.continuation) = true := by
        rcases silent with market | many | one
        · exact absurd market wide
        · exact absurd many few
        · simpa using one
      rw [if_pos one] at scope
      cases scope
  · rw [declaredScope_of_not_declares silent]
    simp [wide, silent]

/-- A mission is a standard one after a message exactly if the message makes it one. -/
theorem isStandard_updated_iff (read : signals.FromText) (existing : ResearchMission)
    (now : String) :
    (existing.updated (signals.scopeUpdate (some existing) now)).IsStandard ↔
      signals.MakesStandard existing := by
  have scope : (existing.updated (signals.scopeUpdate (some existing) now)).universeScope =
      (signals.declaredScope (some existing)).1 := rfl
  have market : (existing.updated (signals.scopeUpdate (some existing) now)).market = "KR" ↔
      signals.krMarketWide ∨ existing.market = "KR" ∨ signals.namesKorea := by
    have rule : (existing.updated (signals.scopeUpdate (some existing) now)).market =
        if signals.krMarketWide || (some existing).any (·.market = "KR") || signals.namesKorea then
          "KR"
        else existing.market := rfl
    rw [rule]
    split
    · rename_i korean
      exact iff_of_true rfl (by simpa [or_assoc] using korean)
    · rename_i other
      refine iff_of_false (fun market => other (by simp [market])) fun korean => other ?_
      simpa [or_assoc] using korean
  have strategy :
      (existing.updated (signals.scopeUpdate (some existing) now)).isStrategyMission ↔
        existing.isStrategyMission ∨ signals.improveReturn ∨ signals.improveSafety ∨
          signals.strategyFamily.isSome ∨ signals.baselineComparison.isSome := by
    have text : ∀ told known : Option String, told ≠ some "" →
        ((someText ((someText told).or known)).isSome ↔ told.isSome ∨ (someText known).isSome) := by
      intro told known filled
      cases told with
      | none => simp [someText]
      | some word =>
        have same : someText (some word) = some word := someText_eq_self_iff.mpr filled
        rw [same, Option.some_or, same]
        simp
    simp only [ResearchMission.isStrategyMission, ResearchMission.updated, scopeUpdate,
      Bool.or_eq_true, text _ _ read.filled.1, text _ _ read.filled.2]
    tauto
  rw [ResearchMission.IsStandard, scope, market, strategy, declaredScope_eq_marketWide_iff,
    MakesStandard]

/-- A mission that waits for approval has reached its target after a message exactly if the message
keeps the approval. -/
theorem targetReached_updated_iff (read : signals.FromText) (canonical : existing.Canonical)
    (waiting : existing.status = .awaitingHumanApproval) (now : String) :
    targetReached
        (existing.updated
          (signals.scopeUpdate (some existing) now)).targetPromotionReadyCandidates
        existing.currentPromotionReadyCandidates ↔
      signals.KeepsApproval existing := by
  have target : (existing.updated
      (signals.scopeUpdate (some existing) now)).targetPromotionReadyCandidates =
        (existing.updated (signals.scopeUpdate (some existing) now)).canonicalTarget
          (existing.mergedTarget signals.target) := rfl
  have before := canonical.awaiting waiting
  rw [target, KeepsApproval]
  simp only [ResearchMission.mergedTarget, canonical.target]
  cases known : existing.targetPromotionReadyCandidates with
  | none =>
    rw [known] at before
    cases before
  | some count =>
    rw [known, targetReached, Option.any_some, decide_eq_true_eq] at before
    -- The target is the larger one of what was wanted and what is asked for.
    cases asked : signals.target with
    | none =>
      rw [ResearchMission.targetReached_canonicalTarget_iff, isStandard_updated_iff read]
      constructor
      · rintro ⟨-, standard⟩ -
        refine ⟨fun _ other => ?_, standard⟩
        cases other
      · intro keeps
        exact ⟨before, (keeps waiting).2⟩
    | some more =>
      rw [ResearchMission.targetReached_canonicalTarget_iff, isStandard_updated_iff read]
      constructor
      · rintro ⟨both, standard⟩ -
        refine ⟨fun other same => ?_, standard⟩
        rw [← Option.some.inj same]
        exact (max_le_iff.mp both).2
      · intro keeps
        obtain ⟨enough, standard⟩ := keeps waiting
        exact ⟨max_le before (enough more rfl), standard⟩

/-- A message leaves a canonical mission exactly if it keeps the approval the mission waits for. -/
theorem canonical_updated_iff (read : signals.FromText) (canonical : existing.Canonical)
    (now : String) :
    (existing.updated (signals.scopeUpdate (some existing) now)).Canonical ↔
      signals.KeepsApproval existing := by
  have declared := read.declared fun known (same : some existing = some known) =>
    Option.some.inj same ▸ canonical
  have status : (existing.updated (signals.scopeUpdate (some existing) now)).status =
      .awaitingHumanApproval ↔ existing.status = .awaitingHumanApproval := by
    simp only [ResearchMission.updated]
    split
    · rename_i resumes
      rw [resumes.1]
      exact iff_of_false MissionStatus.noConfusion MissionStatus.noConfusion
    · rfl
  constructor
  · intro after waiting
    exact (targetReached_updated_iff read canonical waiting now).mp
      (after.awaiting (status.mpr waiting)) waiting
  · intro keeps
    refine
      { canonical with
        symbols := ?_, exchanges := declared.2.1, traded := declared.2.2
        family := or_ne_empty (someText_ne_empty _) canonical.family
        baseline := or_ne_empty (someText_ne_empty _) canonical.baseline
        target := ResearchMission.canonicalTarget_canonicalTarget _ _
        awaiting := ?_, reason := ?_ }
    · have symbols : (existing.updated (signals.scopeUpdate (some existing) now)).symbols =
          if (signals.declaredScope (some existing)).2.1 = [] then existing.symbols
          else (signals.declaredScope (some existing)).2.1 := rfl
      rw [symbols]
      split
      · exact canonical.symbols
      · exact declared.1
    · intro waiting
      exact (targetReached_updated_iff read canonical (status.mp waiting) now).mpr keeps
    · simp only [ResearchMission.updated]
      split
      · exact (Option.some_ne_none "").symm
      · exact canonical.reason

/-- A new mission is canonical. -/
theorem canonical_create (read : signals.FromText) (now : String) :
    (ResearchMission.create (signals.scopeUpdate none now)).Canonical := by
  have declared := read.declared fun known (absent : none = some known) =>
    absurd absent.symm (Option.some_ne_none known)
  exact
    { symbols := declared.1, exchanges := declared.2.1, traded := declared.2.2
      family := read.filled.1
      baseline := read.filled.2
      target := ResearchMission.canonicalTarget_canonicalTarget _ _
      named := fun _ none => by cases none
      counted := rfl
      explored := rfl
      awaiting := fun waiting => MissionStatus.noConfusion waiting
      reason := (Option.some_ne_none "").symm
      focused := fun _ => rfl
      focus := (Option.some_ne_none "").symm
      active := (Option.some_ne_none "").symm }

end ScopeSignals

/-- Whether a change of a mission is read back as it is. -/
def MissionChange.Lasting (state : Option IdentifiedMission) : MissionChange → Prop
  | message said _ => ∀ known, state = some known → said.signals.KeepsApproval known.mission
  | write written => ∀ known, state = some known → written.Lasting known.mission
  | restart => True

/-- A state whose mission, if there is one, is read back as it is, with its candidates, and waits
for approval only if as many distinct strategies were found as it looks for. -/
def Transparent (state : Option IdentifiedMission) : Prop :=
  ∀ known, state = some known → known.reloaded = known ∧
    (∀ record ∈ known.mission.candidateRecords, record.reloaded = record) ∧
    (known.mission.status = .awaitingHumanApproval →
      targetReached known.mission.targetPromotionReadyCandidates
        known.mission.distinctPromotionReadyStrategyCount)

/-- A state is transparent exactly if its mission is canonical. -/
theorem transparent_some_iff {known : IdentifiedMission} :
    Transparent (some known) ↔ known.mission.Canonical := by
  constructor
  · intro transparent
    have same := (transparent known rfl).1
    exact ResearchMission.reloaded_eq_self_iff.mp (congrArg IdentifiedMission.mission same)
  · intro canonical other same
    rw [← Option.some.inj same]
    refine ⟨?_, fun record member => known.mission.reloaded_of_mem member, fun waiting => ?_⟩
    · rw [IdentifiedMission.reloaded, ResearchMission.reloaded_eq_self_iff.mpr canonical]
    · rw [← canonical.counted]
      exact canonical.awaiting waiting

/-- A state without a mission is transparent. -/
theorem transparent_none : Transparent none := fun _ absent => by cases absent

/-- A change leaves a transparent state exactly if it lasts. -/
theorem transparent_next_iff {state : Option IdentifiedMission} (transparent : Transparent state)
    (change : MissionChange) :
    Transparent (changeMachine.next state change) ↔ change.Lasting state := by
  cases state with
  | none =>
    refine iff_of_true ?_ ?_
    · cases change with
      | message said read =>
        show Transparent (extractOrUpdateMission said none)
        simp only [extractOrUpdateMission]
        split
        · exact transparent_none
        · exact transparent_some_iff.mpr (ScopeSignals.canonical_create read said.now)
      | write written => exact transparent_none
      | restart => exact transparent_none
    · cases change with
      | message said read => exact fun _ absent => by cases absent
      | write written => exact fun _ absent => by cases absent
      | restart => trivial
  | some known =>
    have canonical := transparent_some_iff.mp transparent
    have alone : ∀ holds : IdentifiedMission → Prop,
        (∀ other, some known = some other → holds other) ↔ holds known :=
      fun _ => ⟨fun all => all known rfl, fun holds other same => Option.some.inj same ▸ holds⟩
    cases change with
    | message said read =>
      exact transparent_some_iff.trans
        ((ScopeSignals.canonical_updated_iff read canonical said.now).trans
          (alone fun other => said.signals.KeepsApproval other.mission).symm)
    | write written =>
      exact transparent_some_iff.trans
        ((ResearchMission.canonical_write_iff canonical written).trans
          (alone fun other => written.Lasting other.mission).symm)
    | restart =>
      refine iff_of_true ?_ trivial
      show Transparent (some known.reloaded)
      rw [(transparent known rfl).1]
      exact transparent

/-- The changes that are read back as they are keep a run transparent, and no others do. -/
theorem transparent_run_iff (changes : List MissionChange) :
    (∀ before after, changes = before ++ after → Transparent (changeMachine.run none before)) ↔
      changeMachine.Guarded (fun state change => change.Lasting state) none changes := by
  have kept : ∀ state change, Transparent state →
      (Transparent (changeMachine.next state change) ↔ change.Lasting state) :=
    fun _ change transparent => transparent_next_iff transparent change
  exact changeMachine.forall_run_iff_guarded kept changes transparent_none

/-- The restarts can be left out of a run that is transparent. -/
theorem run_filter_goesOn {changes : List MissionChange}
    (transparent : ∀ before after, changes = before ++ after →
      Transparent (changeMachine.run none before)) :
    changeMachine.run none (changes.filter (·.goesOn)) = changeMachine.run none changes := by
  have moves : ∀ (one other : Option IdentifiedMission) (change : MissionChange),
      change.goesOn → one = other → changeMachine.next one change =
        changeMachine.next other change := by
    rintro one other change - rfl
    rfl
  have stutters : ∀ (one other : Option IdentifiedMission) (change : MissionChange),
      ¬change.goesOn → Transparent other → one = other → one = changeMachine.next other change := by
    rintro one other change stops transparent rfl
    cases change with
    | message said read => exact absurd rfl stops
    | write written => exact absurd rfl stops
    | restart =>
      cases one with
      | none => rfl
      | some known => exact congrArg some (transparent known rfl).1.symm
  refine changeMachine.related_filter (fun change => change.goesOn) moves stutters ?_ rfl
  rw [Machine.guarded_iff_split]
  rintro before change after rfl -
  exact transparent before (change :: after) rfl

/-- A run of a mission is transparent to restarts, and waits for approval only with as many
distinct strategies as it looks for, exactly if each of its changes lasts; the restarts can then be
left out of it. The record of a candidate is read back as it is exactly if no empty text was
written to it. -/
theorem restart_transparent_iff (changes : List MissionChange) :
    ((∀ before after, changes = before ++ after →
        Transparent (changeMachine.run none before)) ↔
      changeMachine.Guarded (fun state change => change.Lasting state) none changes) ∧
    (changeMachine.Guarded (fun state change => change.Lasting state) none changes →
      changeMachine.run none (changes.filter (·.goesOn)) = changeMachine.run none changes) ∧
    ∀ (sha : Json → String) (template : StrategyFamilyTemplate) (sequence : Nat) (now : String)
      (candidateChanges : List CandidateChange),
      (∀ before after, candidateChanges = before ++ after →
        (candidateMachine.run (template.newRecord sha sequence now) before).reloaded =
          candidateMachine.run (template.newRecord sha sequence now) before) ↔
      candidateMachine.Guarded (fun _ change => change.Filled)
        (template.newRecord sha sequence now) candidateChanges := by
  refine ⟨transparent_run_iff changes,
    fun lasting => run_filter_goesOn ((transparent_run_iff changes).mpr lasting), ?_⟩
  intro sha template sequence now candidateChanges
  have kept : ∀ candidate change, candidate.reloaded = candidate →
      ((candidateMachine.next candidate change).reloaded = candidateMachine.next candidate change ↔
        change.Filled) :=
    fun candidate change same => StrategyCandidateRecord.reloaded_eq_self_iff.trans
      (canonical_apply_iff (StrategyCandidateRecord.reloaded_eq_self_iff.mp same) change)
  exact candidateMachine.forall_run_iff_guarded kept candidateChanges rfl

/-- What a message says that asks for the whole market is read off its text. -/
theorem marketMessage_fromText : marketMessage.signals.FromText := by
  refine ⟨by decide, by decide, by decide, by decide, by decide⟩

/-- A message that asks for a number of strategies. -/
def countMessage (symbols : List String) (count : Int) : ScopeMessage :=
  { symbolsMessage symbols with
    signals := { (symbolsMessage symbols).signals with
      exchanges := defaultKrExchanges, target := some count } }

/-- What a message says that names two symbols and a count is read off its text. -/
theorem countMessage_fromText (count : Int) :
    (countMessage ["005930", "000660"] count).signals.FromText := by
  refine ⟨?_, ?_, ?_, ?_, ?_⟩
  · simp [countMessage, symbolsMessage]
  · simp [countMessage, symbolsMessage, knownKrSymbols]
  · simp [countMessage]
  · simp [countMessage, symbolsMessage]
  · simp [countMessage, symbolsMessage]

/-- A first candidate. -/
def firstCandidate : StrategyCandidateRecord :=
  (StrategyFamilies.strategyFamilyTemplates.head (List.cons_ne_nil _ _)).newRecord
    (fun _ => "fingerprint") 1 "now"

/-- A mission on the whole market with a first candidate. -/
def marketChanges : List MissionChange :=
  [.message marketMessage marketMessage_fromText, .write (.addCandidate firstCandidate "now")]

/-- A mission that waits for approval and is asked for more strategies. -/
def raisedChanges : List MissionChange :=
  [.message (countMessage ["005930", "000660"] 1) (countMessage_fromText 1),
    .write (.addCandidate firstCandidate "now"),
    .write (.promotionCandidate firstCandidate.strategyFingerprint firstCandidate.candidateId "now"),
    .message (countMessage ["005930", "000660"] 5) (countMessage_fromText 5)]

/-- A mission on the whole market has no target until it is read back, and a mission that waits for
approval goes on waiting when it is asked for more strategies than there are. -/
theorem restart_changes_mission :
    ((changeMachine.run none marketChanges).map fun known =>
        (known.mission.targetPromotionReadyCandidates,
          known.reloaded.mission.targetPromotionReadyCandidates)) = some (none, some 3) ∧
      ¬Transparent (changeMachine.run none marketChanges) ∧
    ((changeMachine.run none raisedChanges).map fun known =>
        (known.mission.status, known.mission.targetPromotionReadyCandidates,
          known.mission.distinctPromotionReadyStrategyCount)) =
        some (.awaitingHumanApproval, some 5, 1) ∧
      ¬Transparent (changeMachine.run none raisedChanges) := by
  refine ⟨by decide +kernel, fun transparent => ?_, by decide +kernel, fun transparent => ?_⟩
  · have same := congrArg (fun known => known.mission.targetPromotionReadyCandidates)
      (transparent _ rfl).1
    revert same
    decide +kernel
  · have reached := (transparent _ rfl).2.2
    revert reached
    decide +kernel

end StrategyLab
