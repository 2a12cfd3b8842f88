import StrategyLab.Knowledge.BreadthAccounting
import StrategyLab.Knowledge.CandidatePlanner
import StrategyLab.Lib.Machine

/-! Provider outages: a history of cycles with and without blocked breadth cycles put into it. -/

variable {left right : StrategyCandidateRecord}

namespace StrategyLab

/-- A breadth cycle that a provider blocked and that brings no valid evidence. -/
structure Outage where
  progress : BreadthProgress
  blocked : progress.providerBlocked = true
  noneValid : progress.valid = 0 ∧ progress.evidenceSymbols = []
  noneEligible : ∀ details, progress.evidenceDetails = some details →
    ∀ detail ∈ details.rows, detail.eligible = false

/-- A cycle of a history, or an outage that was put into it. -/
inductive HistoryEvent where
  | breadth (progress : BreadthProgress)
  | robustness (progress : RobustnessProgress)
  | outage (outage : Outage)

/-- Whether an event belongs to the history without the outages. -/
def HistoryEvent.isCycle : HistoryEvent → Bool
  | .outage _ => false
  | _ => true

/-- The record after an event. -/
def recordEvent (candidate : StrategyCandidateRecord) : HistoryEvent → StrategyCandidateRecord
  | .breadth progress => recordBreadthProgress candidate progress
  | .robustness progress => recordRobustnessProgress candidate progress
  | .outage outage => recordBreadthProgress candidate outage.progress

/-- The records of a candidate, event after event. -/
def candidateHistory : Machine StrategyCandidateRecord HistoryEvent Unit where
  step candidate event := ((), recordEvent candidate event)

/-- A symbol is recorded, and not as eligible. -/
def RecordedIneligible (candidate : StrategyCandidateRecord) (symbol : String) : Prop :=
  ∃ entry, candidate.breadthEvidence.find? symbol = some entry ∧ entry.eligible = false

/-- The symbols and totals of a record are within the cap and cover those of a report. -/
structure CoversTotals (candidate : StrategyCandidateRecord) (progress : BreadthProgress) :
    Prop where
  evidence : candidate.evidenceSymbols.Nodup ∧
    candidate.evidenceSymbols.length ≤ breadthEvidenceSymbolCap
  excluded : candidate.excludedSymbols.Nodup ∧
    candidate.excludedSymbols.length ≤ breadthEvidenceSymbolCap
  named : ∀ symbol ∈ progress.excludedSymbols, symbol ∈ candidate.excludedSymbols
  attempted : progress.attempted ≤ candidate.attemptedSymbols ∧
    candidate.evidenceSymbols.length + candidate.excludedSymbols.length ≤
      candidate.attemptedSymbols
  valid : candidate.evidenceSymbols.length ≤ candidate.validSymbols
  trades : progress.tradeCount ≤ candidate.tradeCount

/-- An outage that meets a record it has nothing to tell: the candidate is past exploring, the
reason for an exhausted sample is no new one, and every symbol it names is recorded as not eligible. -/
structure Harmless (candidate : StrategyCandidateRecord) (outage : Outage) : Prop where
  explored : candidate.status ≠ .exploring
  reason : someText outage.progress.sampleExhaustionReason = none ∨
    someText outage.progress.sampleExhaustionReason = candidate.sampleExhaustionReason
  totals : outage.progress.evidenceDetails = none → CoversTotals candidate outage.progress
  details : ∀ details, outage.progress.evidenceDetails = some details →
    candidate.Recounted ∧
      candidate.breadthEvidence.keyList.length ≤ breadthEvidenceSymbolCap ∧
      (∀ symbol ∈ details.keyList, RecordedIneligible candidate symbol) ∧
      ∀ symbol ∈ outage.progress.excludedSymbols, symbol ∈ candidate.breadthEvidence.keyList

/-- The condition on an event of a history: an outage is harmless. -/
def HarmlessEvent (candidate : StrategyCandidateRecord) : HistoryEvent → Prop
  | .outage outage => Harmless candidate outage
  | _ => True

/-- Evidence on the same symbols with the same eligible entries. -/
def SameEligible (left right : BreadthEvidence) : Prop :=
  left.keyList = right.keyList ∧
    ∀ symbol, (left.find? symbol).filter (·.eligible) = (right.find? symbol).filter (·.eligible)

/-- Two records that differ only in what no decision but the cycle cap reads. -/
def SameDecisions (left right : StrategyCandidateRecord) : Prop :=
  ∃ cyclesCompleted updatedAt breadthSummary breadthEvidence,
    SameEligible left.breadthEvidence breadthEvidence ∧
    right = { left with cyclesCompleted, updatedAt, breadthSummary, breadthEvidence }

namespace SameEligible

variable {left right : BreadthEvidence}

theorem refl (evidence : BreadthEvidence) : SameEligible evidence evidence := ⟨rfl, fun _ => rfl⟩

theorem trans {middle : BreadthEvidence} (first : SameEligible left middle)
    (second : SameEligible middle right) : SameEligible left right :=
  ⟨first.1.trans second.1, fun symbol => (first.2 symbol).trans (second.2 symbol)⟩

/-- The rows that meet a condition no ineligible row meets are the same. -/
theorem filter_rows (same : SameEligible left right) {cond : SymbolEvidence → Bool}
    (only : ∀ entry, cond entry → entry.eligible) :
    left.rows.filter cond = right.rows.filter cond := by
  rw [Table.rows_eq_filterMap left, Table.rows_eq_filterMap right, List.filter_filterMap,
    List.filter_filterMap, same.1]
  refine List.filterMap_congr fun symbol _ => ?_
  -- Filtering by eligibility first loses nothing the condition would keep.
  have through : ∀ found : Option SymbolEvidence,
      found.filter cond = (found.filter (·.eligible)).filter cond := by
    intro found
    cases found with
    | none => rfl
    | some entry =>
      by_cases eligible : entry.eligible
      · simp [Option.filter, eligible]
      · have out : cond entry = false := by
          by_contra met
          exact eligible (only entry (by simpa using met))
        simp [Option.filter, eligible, out]
  rw [through (left.find? symbol), through (right.find? symbol), same.2 symbol]

/-- Counted anew, both say the same. -/
theorem counts_eq (same : SameEligible left right) (legacy : Int) :
    right.counts legacy = { left.counts legacy with evidence := right } := by
  have eligible : left.rows.filter (·.eligible) = right.rows.filter (·.eligible) :=
    same.filter_rows fun _ met => met
  have lengths := congrArg List.length same.1
  simp only [Table.keyList, List.length_map] at lengths
  have ineligible : (left.rows.filter (!·.eligible)).map SymbolEvidence.symbol =
      (right.rows.filter (!·.eligible)).map SymbolEvidence.symbol := by
    rw [Table.keys_filter, Table.keys_filter, same.1]
    refine List.filter_congr fun symbol member => ?_
    -- A kept symbol has an entry on both sides, and both are eligible or neither is.
    obtain ⟨entry, found⟩ := Option.isSome_iff_exists.mp
      (Table.mem_keyList_iff.mp (same.1.symm ▸ member))
    obtain ⟨other, there⟩ := Option.isSome_iff_exists.mp (Table.mem_keyList_iff.mp member)
    have agree := same.2 symbol
    rw [found, there] at agree
    rw [found, there]
    cases first : entry.eligible <;> cases second : other.eligible <;>
      simp_all [Option.filter]
  simp only [BreadthEvidence.counts, BreadthEvidence.eligibleTrades, eligible, lengths, ineligible]

/-- The same cycle keeps it. -/
theorem record (same : SameEligible left right) (details : EvidenceDetails)
    (excluded : List String) :
    SameEligible (left.record details excluded) (right.record details excluded) := by
  have keys : (left.record details excluded).keyList = (right.record details excluded).keyList := by
    rw [BreadthEvidence.keyList_record, BreadthEvidence.keyList_record, same.1]
  refine ⟨keys, fun symbol => ?_⟩
  by_cases kept : symbol ∈ (left.record details excluded).keyList
  · rw [BreadthEvidence.find?_record _ _ _ kept, BreadthEvidence.find?_record _ _ _ (keys ▸ kept)]
    cases details.normalized.find? symbol with
    | some entry => rfl
    | none =>
      have known : (left.find? symbol).isSome = (right.find? symbol).isSome := by
        rw [Bool.eq_iff_iff, ← Table.mem_keyList_iff, ← Table.mem_keyList_iff, same.1]
      have agree := same.2 symbol
      cases before : left.find? symbol <;> cases after : right.find? symbol <;>
        simp_all
  · rw [Table.find?_of_not_mem kept, Table.find?_of_not_mem (keys ▸ kept)]

end SameEligible

/-- A record agrees with itself. -/
theorem SameDecisions.refl (candidate : StrategyCandidateRecord) :
    SameDecisions candidate candidate :=
  ⟨_, _, _, _, SameEligible.refl _, rfl⟩

/-- Agreement goes on over two steps. -/
theorem SameDecisions.trans {left middle right : StrategyCandidateRecord}
    (first : SameDecisions left middle)
    (second : SameDecisions middle right) : SameDecisions left right := by
  obtain ⟨_, _, _, _, before, rfl⟩ := first
  obtain ⟨cycles, updated, summary, evidence, after, rfl⟩ := second
  exact ⟨cycles, updated, summary, evidence, before.trans after, rfl⟩

/-- What records that agree count from is the same in both. -/
theorem SameDecisions.seed (agrees : SameDecisions left right) :
    SameEligible (seedBreadthEvidence left) (seedBreadthEvidence right) := by
  obtain ⟨_, _, _, evidence, same, rfl⟩ := agrees
  have empty : left.breadthEvidence.rows = [] ↔ evidence.rows = [] := by
    have keys := same.1
    simp only [Table.keyList] at keys
    constructor
    · intro none
      simpa [none] using keys.symm
    · intro none
      simpa [none] using keys
  unfold seedBreadthEvidence
  by_cases none : left.breadthEvidence.rows = []
  · rw [if_pos none, if_pos (empty.mp none)]
    exact SameEligible.refl _
  · rw [if_neg none, if_neg (empty.not.mp none)]
    exact same

/-- The same breadth cycle keeps agreement. -/
theorem SameDecisions.breadth (agrees : SameDecisions left right) (progress : BreadthProgress) :
    SameDecisions (recordBreadthProgress left progress) (recordBreadthProgress right progress) := by
  have seeds := agrees.seed
  obtain ⟨cycles, updated, summary, evidence, same, rfl⟩ := agrees
  cases given : progress.evidenceDetails with
  | none =>
    refine ⟨cycles + 1, progress.now,
      if progress.breadthSummary = [] then summary else progress.breadthSummary, evidence, ?_, ?_⟩
    · simpa [recordBreadthProgress, breadthCounts, given, mergedCounts] using same
    · simp only [recordBreadthProgress, breadthCounts, given, mergedCounts, breadthProgressed]
  | some details =>
    -- Both sides count from evidence that agrees, so they count the same.
    have next := seeds.record details progress.excludedSymbols
    refine ⟨cycles + 1, progress.now,
      if progress.breadthSummary = [] then summary else progress.breadthSummary,
      (seedBreadthEvidence { left with
        cyclesCompleted := cycles, updatedAt := updated, breadthSummary := summary,
        breadthEvidence := evidence }).record details progress.excludedSymbols, ?_, ?_⟩
    · simpa only [breadthEvidence_recordBreadthProgress _ given] using next
    · simp only [recordBreadthProgress, breadthCounts, given]
      rw [next.counts_eq]
      rfl

/-- The same robustness cycle keeps agreement. -/
theorem SameDecisions.robustness (agrees : SameDecisions left right)
    (progress : RobustnessProgress) :
    SameDecisions (recordRobustnessProgress left progress)
      (recordRobustnessProgress right progress) := by
  obtain ⟨cycles, updated, summary, evidence, same, rfl⟩ := agrees
  exact ⟨cycles + 1, progress.now, summary, evidence, same, rfl⟩

variable {evidence : BreadthEvidence}

/-- Evidence that records every named symbol already, none of the reported ones as eligible, keeps
its eligible entries over a cycle that reports none as eligible. -/
theorem SameEligible.of_known {details : EvidenceDetails}
    {excluded : List String} (within : evidence.keyList.length ≤ breadthEvidenceSymbolCap)
    (reported : ∀ symbol ∈ details.keyList, ∃ entry,
      evidence.find? symbol = some entry ∧ entry.eligible = false)
    (ineligible : ∀ detail ∈ details.rows, detail.eligible = false)
    (known : ∀ symbol ∈ excluded, symbol ∈ evidence.keyList) :
    SameEligible evidence (evidence.record details excluded) := by
  have keys : (evidence.record details excluded).keyList = evidence.keyList := by
    rw [BreadthEvidence.keyList_record, Py.addKeys_eq_self, List.take_of_length_le within]
    intro symbol named
    rcases List.mem_append.mp named with detail | other
    · obtain ⟨entry, found, -⟩ := reported symbol detail
      exact Table.mem_keyList_iff.mpr (by simp [found])
    · exact known symbol other
  refine ⟨keys.symm, fun symbol => ?_⟩
  by_cases kept : symbol ∈ evidence.keyList
  · by_cases named : symbol ∈ details.keyList
    · -- A reported symbol was not eligible before and is not afterwards.
      obtain ⟨entry, found, before⟩ := reported symbol named
      obtain ⟨detail, there⟩ := Option.isSome_iff_exists.mp (Table.mem_keyList_iff.mp named)
      have after := ineligible detail (Table.find?_eq_some_iff.mp there).1
      rw [BreadthEvidence.find?_record_of_reported _ _ _ within kept there, found]
      simp [Option.filter, before, normalizeBreadthEvidenceDetail, after]
    · obtain ⟨entry, found⟩ := Option.isSome_iff_exists.mp (Table.mem_keyList_iff.mp kept)
      rw [BreadthEvidence.find?_record_of_not_reported _ _ _ within found named, found]
  · rw [Table.find?_of_not_mem kept, Table.find?_of_not_mem (keys ▸ kept)]

variable {candidate : StrategyCandidateRecord}

/-- Totals that a record covers leave its counts as they are. -/
theorem mergedCounts_of_covers {outage : Outage} (covers : CoversTotals candidate outage.progress) :
    mergedCounts candidate outage.progress =
      { attempted := candidate.attemptedSymbols, valid := candidate.validSymbols,
        tradeCount := candidate.tradeCount, evidenceSymbols := candidate.evidenceSymbols,
        excludedSymbols := candidate.excludedSymbols, evidence := candidate.breadthEvidence } := by
  obtain ⟨⟨distinct, short⟩, ⟨apart, few⟩, named, ⟨attempted, sum⟩, valid, trades⟩ := covers
  obtain ⟨noneValid, noEvidence⟩ := outage.noneValid
  have evidence : (Py.fromkeys (candidate.evidenceSymbols ++ outage.progress.evidenceSymbols)).take
      breadthEvidenceSymbolCap = candidate.evidenceSymbols := by
    rw [noEvidence, List.append_nil, Py.fromkeys_eq_self distinct, List.take_of_length_le short]
  have excluded : (Py.fromkeys (candidate.excludedSymbols ++ outage.progress.excludedSymbols)).take
      breadthEvidenceSymbolCap = candidate.excludedSymbols := by
    rw [Py.fromkeys, Py.addKeys_append, ← Py.fromkeys, Py.fromkeys_eq_self apart,
      Py.addKeys_eq_self named, List.take_of_length_le few]
  simp only [mergedCounts, evidence, excluded, BreadthCounts.mk.injEq, and_true]
  omega

/-- An outage whose counts are those of the record changes nothing that agreement looks at. -/
theorem recordBreadthProgress_of_unchanged {outage : Outage} (harmless : Harmless candidate outage)
    (unchanged : breadthCounts candidate outage.progress =
      { attempted := candidate.attemptedSymbols, valid := candidate.validSymbols,
        tradeCount := candidate.tradeCount, evidenceSymbols := candidate.evidenceSymbols,
        excludedSymbols := candidate.excludedSymbols, evidence })
    (same : SameEligible candidate.breadthEvidence evidence) :
    SameDecisions candidate (recordBreadthProgress candidate outage.progress) := by
  have reason : (someText outage.progress.sampleExhaustionReason).or
      candidate.sampleExhaustionReason = candidate.sampleExhaustionReason := by
    rcases harmless.reason with none | known
    · rw [none, Option.none_or]
    · rw [known, Option.or_self]
  refine ⟨candidate.cyclesCompleted + 1, outage.progress.now,
    if outage.progress.breadthSummary = [] then candidate.breadthSummary
      else outage.progress.breadthSummary, evidence, same, ?_⟩
  simp [recordBreadthProgress, unchanged, breadthProgressed, outage.blocked, reason,
    harmless.explored]

/-- A harmless outage keeps agreement. -/
theorem SameDecisions.outage (agrees : SameDecisions left right)
    {outage : Outage} (harmless : Harmless right outage) :
    SameDecisions left (recordBreadthProgress right outage.progress) := by
  refine agrees.trans ?_
  cases given : outage.progress.evidenceDetails with
  | none =>
    refine recordBreadthProgress_of_unchanged harmless ?_ (SameEligible.refl _)
    rw [breadthCounts, given]
    exact mergedCounts_of_covers (harmless.totals given)
  | some details =>
    obtain ⟨recounted, within, reported, known⟩ := harmless.details details given
    have same := SameEligible.of_known within reported (outage.noneEligible details given) known
    refine recordBreadthProgress_of_unchanged harmless ?_ same
    rw [breadthCounts, given]
    show BreadthEvidence.counts _ _ = _
    rw [recounted.seed_eq, same.counts_eq, recounted]

/-- Records that agree are worth the same. -/
theorem SameDecisions.economicViability_eq
    (agrees : SameDecisions left right) : economicViability right = economicViability left := by
  obtain ⟨_, _, _, evidence, same, rfl⟩ := agrees
  have sample : left.breadthEvidence.rows.filter SymbolEvidence.hasPerformance =
      evidence.rows.filter SymbolEvidence.hasPerformance := same.filter_rows fun entry measured => by
    simp only [SymbolEvidence.hasPerformance, Bool.and_eq_true] at measured
    exact measured.1.1
  simp only [economicViability, evaluateEconomicViability, candidateCumulativePerformance, sample]

/-- Records that agree have the same next action. -/
theorem SameDecisions.action_eq (agrees : SameDecisions left right) :
    nextBlockerDrivenResearchAction right = nextBlockerDrivenResearchAction left := by
  have worth := agrees.economicViability_eq
  obtain ⟨_, _, _, evidence, same, rfl⟩ := agrees
  -- Nothing else that the planner reads is among the fields that differ.
  simp only [nextBlockerDrivenResearchAction, nextValidationAction, worth]
  rfl

/-- Every event is one more completed cycle. -/
theorem cyclesCompleted_run (start : StrategyCandidateRecord) (events : List HistoryEvent) :
    (candidateHistory.run start events).cyclesCompleted =
      start.cyclesCompleted + events.length := by
  induction events generalizing start with
  | nil => rfl
  | cons event rest ih =>
    have once : (candidateHistory.next start event).cyclesCompleted =
        start.cyclesCompleted + 1 := by
      cases event <;> rfl
    rw [Machine.run_cons, ih, once, List.length_cons]
    omega

/-- Taking harmless outages out of a history leaves a record that agrees. -/
theorem agrees_run {start : StrategyCandidateRecord} {events : List HistoryEvent}
    (harmless : candidateHistory.Guarded HarmlessEvent start events) :
    SameDecisions (candidateHistory.run start (events.filter (·.isCycle)))
      (candidateHistory.run start events) := by
  have guarded : candidateHistory.Guarded
      (fun candidate event => ¬event.isCycle → HarmlessEvent candidate event) start events := by
    refine candidateHistory.guarded_imp ?_ harmless
    intro candidate event met _
    exact met
  refine candidateHistory.related_filter _ ?_ ?_ guarded (SameDecisions.refl start)
  · rintro left right event cycle agrees
    cases event with
    | breadth progress => exact agrees.breadth progress
    | robustness progress => exact agrees.robustness progress
    | outage outage => cases cycle
  · rintro left right event inserted guarded agrees
    cases event with
    | breadth progress => exact absurd rfl inserted
    | robustness progress => exact absurd rfl inserted
    | outage outage => exact agrees.outage guarded

/-- Outages that meet a candidate past exploring, name only symbols it has recorded as not eligible
and leave its number of cycles on the same side of the cap cost it nothing: it ends with the same
status, stagnation, cycles without progress and next action as without them. -/
theorem outage_costs_nothing (start : StrategyCandidateRecord) (events : List HistoryEvent)
    (harmless : candidateHistory.Guarded HarmlessEvent start events)
    (cap : start.cyclesCompleted + events.length < absoluteCandidateCycleCap ∨
      absoluteCandidateCycleCap ≤
        start.cyclesCompleted + (events.filter (·.isCycle)).length) :
    let without := candidateHistory.run start (events.filter (·.isCycle))
    let blocked := candidateHistory.run start events
    blocked.status = without.status ∧ isStagnant blocked = isStagnant without ∧
      blocked.cyclesWithoutProgress = without.cyclesWithoutProgress ∧
      nextBlockerDrivenResearchAction blocked = nextBlockerDrivenResearchAction without := by
  intro without blocked
  have agrees : SameDecisions without blocked := agrees_run harmless
  have action := agrees.action_eq
  have fewer : without.cyclesCompleted = start.cyclesCompleted +
    (events.filter (·.isCycle)).length := cyclesCompleted_run start _
  have more : blocked.cyclesCompleted = start.cyclesCompleted + events.length :=
    cyclesCompleted_run start events
  have shorter : (events.filter (·.isCycle)).length ≤ events.length :=
    List.length_filter_le _ _
  -- The number of cycles is on one side of the cap in both records.
  have side : absoluteCandidateCycleCap ≤ blocked.cyclesCompleted ↔
      absoluteCandidateCycleCap ≤ without.cyclesCompleted := by
    omega
  obtain ⟨_, _, _, _, -, fields⟩ := agrees
  have status : blocked.status = without.status := by rw [fields]
  have stalled : blocked.cyclesWithoutProgress = without.cyclesWithoutProgress := by rw [fields]
  refine ⟨status, ?_, stalled, action⟩
  simp only [isStagnant, status, stalled, side]

/-- A symbol that could not be fetched. -/
def unavailable : EvidenceDetail :=
  { oneTrade "005930" with eligible := false, tradeCount := some 0, totalReturn := none }

/-- A cycle in which the provider delivered nothing for its only symbol. -/
def blockedCycle : Outage where
  progress :=
    { attempted := 1, valid := 0, tradeCount := 0, evidenceSymbols := [],
      excludedSymbols := ["005930"], providerBlocked := true, now := "",
      evidenceDetails := some ⟨[unavailable], List.nodup_singleton _⟩,
      sampleExhaustionReason := none, breadthSummary := [] }
  blocked := rfl
  noneValid := ⟨rfl, rfl⟩
  noneEligible := by
    intro details given detail member
    obtain rfl := Option.some.inj given
    rw [List.mem_singleton.mp member]
    rfl

/-- A second outage on the same symbol costs a candidate nothing, whatever cycle comes next. -/
theorem second_outage_costs_nothing :
    let start := recordBreadthProgress untestedCandidate blockedCycle.progress
    let without := candidateHistory.run start [.breadth wideCycle.progress]
    let blocked := candidateHistory.run start [.outage blockedCycle, .breadth wideCycle.progress]
    blocked.status = without.status ∧ isStagnant blocked = isStagnant without ∧
      blocked.cyclesWithoutProgress = without.cyclesWithoutProgress ∧
      nextBlockerDrivenResearchAction blocked = nextBlockerDrivenResearchAction without := by
  have harmless : Harmless (recordBreadthProgress untestedCandidate blockedCycle.progress)
      blockedCycle := by
    refine ⟨by decide, .inl rfl, fun absent => absurd absent (Option.some_ne_none _), ?_⟩
    intro details given
    obtain rfl := Option.some.inj given
    refine ⟨recounted_recordBreadthProgress _ rfl, by decide, ?_, by decide⟩
    intro symbol named
    rw [List.mem_singleton.mp named]
    exact ⟨normalizeBreadthEvidenceDetail unavailable, by decide +kernel, rfl⟩
  exact outage_costs_nothing (recordBreadthProgress untestedCandidate blockedCycle.progress)
    [.outage blockedCycle, .breadth wideCycle.progress] ⟨harmless, trivial, trivial⟩
    (.inl (by decide))

/-- Twelve outages make a candidate stagnant that nothing else was done with. -/
theorem outages_make_stagnant :
    let start := untestedCandidate
    let events := List.replicate 12 (HistoryEvent.outage blockedCycle)
    isStagnant (candidateHistory.run start (events.filter (·.isCycle))) = false ∧
      isStagnant (candidateHistory.run start events) = true ∧
      (candidateHistory.run start (events.filter (·.isCycle))).status = .exploring ∧
      (candidateHistory.run start events).status = .validating := by
  decide +kernel

end StrategyLab
