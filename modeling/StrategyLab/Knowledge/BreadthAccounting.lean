import StrategyLab.Knowledge.BreadthLaws
import Mathlib.Data.List.Induction

/-! Breadth evidence accounting: what a candidate's trade count is made of after any cycles. -/

variable {symbol : String} {entry : SymbolEvidence}

namespace StrategyLab

/-- A breadth cycle that reports details. -/
structure DetailedProgress where
  progress : BreadthProgress
  details : EvidenceDetails
  given : progress.evidenceDetails = some details

/-- The record after one detailed cycle after the other. -/
def afterCycles (start : StrategyCandidateRecord) (cycles : List DetailedProgress) :
    StrategyCandidateRecord :=
  cycles.foldl (fun candidate cycle => recordBreadthProgress candidate cycle.progress) start

/-- A record to start from: a new one, or one read back that was stored without evidence. -/
inductive AccountingStart (sha : Json → String) : StrategyCandidateRecord → Prop
  | created {family : String} {sequence : Nat} {now : String} {start : StrategyCandidateRecord}
      (built : newCandidate sha family sequence now = some start) : AccountingStart sha start
  | restored {raw : PersistedCandidate} (legacy : raw.breadthEvidence = none) :
      AccountingStart sha (.fromJson raw)

/-- The symbols that a start and the cycles after it name, in their order. -/
def namedSymbols (start : StrategyCandidateRecord) (cycles : List DetailedProgress) :
    List String :=
  start.breadthEvidence.keyList ++
    cycles.flatMap fun cycle => cycle.details.keyList ++ cycle.progress.excludedSymbols

/-- The distinct symbols that evidence is kept of: the first ones, up to the cap. -/
def trackedSymbols (start : StrategyCandidateRecord) (cycles : List DetailedProgress) :
    List String :=
  (Py.fromkeys (namedSymbols start cycles)).take breadthEvidenceSymbolCap

/-- What the last cycle that reports a symbol says of it. -/
def lastReport (cycles : List DetailedProgress) (symbol : String) : Option SymbolEvidence :=
  cycles.reverse.findSome? fun cycle => cycle.details.normalized.find? symbol

/-- What the last cycle that reports a symbol as eligible says of it. -/
def lastEligible (cycles : List DetailedProgress) (symbol : String) : Option SymbolEvidence :=
  cycles.reverse.findSome? fun cycle =>
    (cycle.details.normalized.find? symbol).filter (·.eligible)

/-- The trades that were last reported of a symbol while it was eligible. -/
def lastTrades (cycles : List DetailedProgress) (symbol : String) : Int :=
  ((lastEligible cycles symbol).map (·.tradeCount)).getD 0

/-- The trades a start has counted without saying on which of its symbols. -/
def legacyTrades (start : StrategyCandidateRecord) : Int :=
  if start.breadthEvidence.rows = [] then 0 else start.tradeCount

/-- A symbol is reported as eligible, and in a later cycle as not eligible. -/
def Lapses (earlier later : DetailedProgress) (symbol : String) : Prop :=
  (∃ entry, earlier.details.normalized.find? symbol = some entry ∧ entry.eligible) ∧
    ∃ entry, later.details.normalized.find? symbol = some entry ∧ ¬entry.eligible

/-- No eligible symbol is reported as not eligible later. -/
def NoLapse (cycles : List DetailedProgress) : Prop :=
  cycles.Pairwise fun earlier later => ∀ symbol, ¬Lapses earlier later symbol

/-- No cycle reports a symbol that the start has counted without details. -/
def NoReevaluation (start : StrategyCandidateRecord) (cycles : List DetailedProgress) : Prop :=
  ∀ cycle ∈ cycles, ∀ symbol ∈ start.evidenceSymbols, symbol ∉ cycle.details.keyList

variable {sha : Json → String} {start : StrategyCandidateRecord}

@[simp] theorem afterCycles_snoc (cycles : List DetailedProgress) (last : DetailedProgress) :
    afterCycles start (cycles ++ [last]) =
      recordBreadthProgress (afterCycles start cycles) last.progress := by
  simp [afterCycles, List.foldl_append]

theorem afterCycles_append (first second : List DetailedProgress) :
    afterCycles start (first ++ second) = afterCycles (afterCycles start first) second := by
  simp [afterCycles, List.foldl_append]

@[simp] theorem lastReport_snoc (cycles : List DetailedProgress) (last : DetailedProgress)
    (symbol : String) : lastReport (cycles ++ [last]) symbol =
      (last.details.normalized.find? symbol).or (lastReport cycles symbol) := by
  simp [lastReport, List.findSome?_cons]
  cases last.details.normalized.find? symbol <;> rfl

@[simp] theorem lastEligible_snoc (cycles : List DetailedProgress) (last : DetailedProgress)
    (symbol : String) : lastEligible (cycles ++ [last]) symbol =
      ((last.details.normalized.find? symbol).filter (·.eligible)).or
        (lastEligible cycles symbol) := by
  simp [lastEligible, List.findSome?_cons]
  cases (last.details.normalized.find? symbol).filter (·.eligible) <;> rfl

namespace AccountingStart

section

variable (origin : AccountingStart sha start)

include origin

/-- A start goes on from its own evidence. -/
theorem seed_eq :
    seedBreadthEvidence start = start.breadthEvidence := by
  cases origin with
  | created built =>
    obtain ⟨template, -, rfl⟩ := Option.map_eq_some_iff.mp built
    rfl
  | restored legacy =>
    -- Reading back seeds the evidence from the same two lists.
    unfold seedBreadthEvidence
    split
    · simp [StrategyCandidateRecord.fromJson, legacy]
    · rfl

/-- The trades a start has counted are kept as its legacy. -/
theorem legacy_eq :
    start.breadthLegacyTradeCount = legacyTrades start := by
  cases origin with
  | created built =>
    obtain ⟨template, -, rfl⟩ := Option.map_eq_some_iff.mp built
    rfl
  | restored legacy =>
    simp only [legacyTrades, StrategyCandidateRecord.fromJson, legacy, Option.isSome_none,
      Bool.false_eq_true, if_false, Option.getD_none]

/-- No entry of a start counts trades of its own. -/
theorem tradeCount_eq_zero (found : start.breadthEvidence.find? symbol = some entry) :
    entry.tradeCount = 0 := by
  cases origin with
  | created built =>
    obtain ⟨template, -, rfl⟩ := Option.map_eq_some_iff.mp built
    exact absurd found (by simp [StrategyFamilyTemplate.newRecord])
  | restored legacy =>
    simp only [StrategyCandidateRecord.fromJson, legacy, Option.getD_none, seededEvidence,
      Table.find?_setDefaults, Option.or_eq_some_iff] at found
    -- Both lists of symbols stand for bare entries.
    rcases found with seeded | ⟨-, excluded⟩
    · obtain ⟨symbol, -, rfl⟩ := List.mem_map.mp (Table.mem_of_find?_ofRows seeded)
      rfl
    · obtain ⟨symbol, -, rfl⟩ := List.mem_map.mp (List.mem_of_find?_eq_some excluded)
      rfl

end

end AccountingStart

section

variable (origin : AccountingStart sha start)

include origin

/-- Every record on the way goes on from its own evidence. -/
theorem seed_afterCycles (cycles : List DetailedProgress) :
    seedBreadthEvidence (afterCycles start cycles) =
      (afterCycles start cycles).breadthEvidence := by
  cases cycles using List.reverseRecOn with
  | nil => exact origin.seed_eq
  | append_singleton cycles last =>
    rw [afterCycles_snoc]
    exact (recounted_recordBreadthProgress _ last.given).seed_eq

/-- The evidence after one more cycle. -/
theorem breadthEvidence_afterCycles_snoc
    (cycles : List DetailedProgress) (last : DetailedProgress) :
    (afterCycles start (cycles ++ [last])).breadthEvidence =
      (afterCycles start cycles).breadthEvidence.record last.details
        last.progress.excludedSymbols := by
  rw [afterCycles_snoc, breadthEvidence_recordBreadthProgress _ last.given,
    seed_afterCycles origin]

/-- The symbols with evidence, up to the cap, are the first distinct ones that were named. -/
theorem take_keyList_afterCycles (cycles : List DetailedProgress) :
    (afterCycles start cycles).breadthEvidence.keyList.take breadthEvidenceSymbolCap =
      trackedSymbols start cycles := by
  induction cycles using List.reverseRecOn with
  | nil =>
    have distinct := Py.fromkeys_eq_self (Table.nodup_keyList start.breadthEvidence)
    simp [afterCycles, trackedSymbols, namedSymbols, distinct]
  | append_singleton cycles last ih =>
    have named : namedSymbols start (cycles ++ [last]) = namedSymbols start cycles ++
        (last.details.keyList ++ last.progress.excludedSymbols) := by
      simp [namedSymbols]
    rw [breadthEvidence_afterCycles_snoc origin, BreadthEvidence.keyList_record, List.take_take,
      Nat.min_self]
    -- Cutting before the new symbols are added keeps the same ones.
    generalize last.details.keyList ++ last.progress.excludedSymbols = new at named
    calc (Py.addKeys (afterCycles start cycles).breadthEvidence.keyList new).take
          breadthEvidenceSymbolCap
        = (Py.addKeys (trackedSymbols start cycles) new).take breadthEvidenceSymbolCap := by
          rw [← ih, Py.take_addKeys_take]
      _ = (Py.addKeys (Py.fromkeys (namedSymbols start cycles)) new).take
          breadthEvidenceSymbolCap := by
          rw [trackedSymbols, Py.take_addKeys_take]
      _ = trackedSymbols start (cycles ++ [last]) := by
          rw [trackedSymbols, named, Py.fromkeys, Py.fromkeys, Py.addKeys_append]

end

variable {cycles : List DetailedProgress}

/-- A symbol that was named before is kept later only if it was kept then. -/
theorem mem_trackedSymbols_of_named {last : DetailedProgress}
    (named : symbol ∈ namedSymbols start cycles)
    (kept : symbol ∈ trackedSymbols start (cycles ++ [last])) :
    symbol ∈ trackedSymbols start cycles := by
  have split : namedSymbols start (cycles ++ [last]) = namedSymbols start cycles ++
      (last.details.keyList ++ last.progress.excludedSymbols) := by
    simp [namedSymbols]
  rw [trackedSymbols, split, Py.fromkeys, Py.addKeys_append] at kept
  have distinct : (Py.addKeys (Py.addKeys [] (namedSymbols start cycles))
      (last.details.keyList ++ last.progress.excludedSymbols)).Nodup :=
    Py.nodup_addKeys (Py.nodup_addKeys List.nodup_nil _) _
  -- The new symbols come behind the old ones and are different from them.
  obtain ⟨rest, whole⟩ := Py.prefix_addKeys (Py.addKeys [] (namedSymbols start cycles))
    (last.details.keyList ++ last.progress.excludedSymbols)
  rw [← whole] at kept distinct
  rw [List.take_append, List.mem_append] at kept
  rcases kept with before | new
  · exact before
  · have apart := (List.nodup_append.mp distinct).2.2
    exact absurd rfl (apart symbol (Py.mem_fromkeys.mpr named) symbol (List.mem_of_mem_take new))

/-- A symbol that was reported was named. -/
theorem named_of_lastReport (reported : lastReport cycles symbol = some entry) :
    symbol ∈ namedSymbols start cycles := by
  obtain ⟨cycle, member, found⟩ := List.exists_of_findSome?_eq_some reported
  have there : symbol ∈ cycle.details.normalized.keyList :=
    Table.mem_keyList_iff.mpr (by simp [found])
  rw [EvidenceDetails.keyList_normalized] at there
  refine List.mem_append_right _ (List.mem_flatMap.mpr ⟨cycle, by simpa using member, ?_⟩)
  exact List.mem_append_left _ there

/-- A kept symbol has the entry last reported of it, else one that counts no trades. -/
theorem find?_afterCycles (origin : AccountingStart sha start) (cycles : List DetailedProgress)
    (kept : symbol ∈ (afterCycles start cycles).breadthEvidence.keyList) :
    ∃ fallback : SymbolEvidence, fallback.tradeCount = 0 ∧
      (afterCycles start cycles).breadthEvidence.find? symbol =
        some ((lastReport cycles symbol).getD fallback) := by
  induction cycles using List.reverseRecOn with
  | nil =>
    obtain ⟨entry, found⟩ := Option.isSome_iff_exists.mp (Table.mem_keyList_iff.mp kept)
    exact ⟨entry, origin.tradeCount_eq_zero found, found⟩
  | append_singleton cycles last ih =>
    rw [breadthEvidence_afterCycles_snoc origin] at kept ⊢
    have found := BreadthEvidence.find?_record _ _ _ kept
    rw [found, lastReport_snoc]
    cases reported : last.details.normalized.find? symbol with
    | some entry => exact ⟨.bare symbol false "", rfl, by simp⟩
    | none =>
      rw [Option.none_or, Option.none_or]
      cases before : (afterCycles start cycles).breadthEvidence.find? symbol with
      | some entry =>
        have known := Table.mem_keyList_iff.mpr (by rw [before]; rfl)
        obtain ⟨fallback, none, same⟩ := ih known
        exact ⟨fallback, none, by rw [← before, same]; rfl⟩
      | none =>
        -- What was not kept before but is kept now was never reported: it fills in as excluded.
        have unreported : lastReport cycles symbol = none := by
          by_contra some
          obtain ⟨entry, report⟩ := Option.ne_none_iff_exists'.mp some
          have tracked : symbol ∈ trackedSymbols start (cycles ++ [last]) := by
            rw [← take_keyList_afterCycles origin, breadthEvidence_afterCycles_snoc origin,
              List.take_of_length_le (BreadthEvidence.length_record_le _ _ _)]
            exact kept
          have earlier := mem_trackedSymbols_of_named (named_of_lastReport report) tracked
          rw [← take_keyList_afterCycles origin] at earlier
          have known := Table.mem_keyList_iff.mp (List.mem_of_mem_take earlier)
          rw [before] at known
          cases known
        obtain ⟨entry, there⟩ := Option.isSome_iff_exists.mp (Table.mem_keyList_iff.mp kept)
        rw [found, reported, before, Option.none_or, Option.none_or] at there
        obtain ⟨name, -, rfl⟩ := List.mem_map.mp (List.mem_of_find?_eq_some there)
        exact ⟨_, rfl, by rw [unreported, Option.none_or, there]; rfl⟩

/-- The last report is the last eligible one where it is eligible. -/
theorem lastEligible_of_eligible (reported : lastReport cycles symbol = some entry)
    (eligible : entry.eligible) : lastEligible cycles symbol = some entry := by
  induction cycles using List.reverseRecOn with
  | nil => exact absurd reported (by simp [lastReport])
  | append_singleton cycles last ih =>
    rw [lastReport_snoc] at reported
    rw [lastEligible_snoc]
    cases now : last.details.normalized.find? symbol with
    | some other =>
      rw [now, Option.some_or, Option.some.injEq] at reported
      subst reported
      simp [eligible]
    | none =>
      rw [now, Option.none_or] at reported
      simp [ih reported]

/-- An eligible report is the report of one of the cycles. -/
theorem exists_of_lastEligible (reported : lastEligible cycles symbol = some entry) :
    ∃ cycle ∈ cycles, cycle.details.normalized.find? symbol = some entry ∧ entry.eligible := by
  obtain ⟨cycle, member, found⟩ := List.exists_of_findSome?_eq_some reported
  rw [Option.filter_eq_some_iff] at found
  exact ⟨cycle, by simpa using member, found.1, found.2⟩

/-- Without a lapse a symbol whose last report is not eligible was never reported as eligible. -/
theorem lastEligible_of_not_eligible (steady : NoLapse cycles)
    (reported : lastReport cycles symbol = some entry) (ineligible : ¬entry.eligible) :
    lastEligible cycles symbol = none := by
  induction cycles using List.reverseRecOn with
  | nil => rfl
  | append_singleton cycles last ih =>
    obtain ⟨before, -, across⟩ := List.pairwise_append.mp steady
    rw [lastReport_snoc] at reported
    rw [lastEligible_snoc]
    cases now : last.details.normalized.find? symbol with
    | some other =>
      rw [now, Option.some_or, Option.some.injEq] at reported
      subst reported
      by_contra some
      have dropped : (Option.some other).filter (·.eligible) = none := by
        simpa [Option.filter] using ineligible
      rw [dropped, Option.none_or] at some
      obtain ⟨entry, earlier⟩ := Option.ne_none_iff_exists'.mp some
      obtain ⟨cycle, member, found, eligible⟩ := exists_of_lastEligible earlier
      exact across cycle member last List.mem_cons_self symbol
        ⟨⟨entry, found, eligible⟩, ⟨other, now, ineligible⟩⟩
    | none =>
      rw [now, Option.none_or] at reported
      simp [ih before reported]

/-- What was never reported was never reported as eligible. -/
theorem lastEligible_of_none
    (unreported : lastReport cycles symbol = none) : lastEligible cycles symbol = none := by
  by_contra some
  obtain ⟨entry, reported⟩ := Option.ne_none_iff_exists'.mp some
  obtain ⟨cycle, member, found, -⟩ := exists_of_lastEligible reported
  have none := List.findSome?_eq_none_iff.mp unreported cycle (by simpa using member)
  rw [found] at none
  cases none

/-- What a kept symbol counts is what was last reported of it while it was eligible. -/
theorem eligible_trades_afterCycles (origin : AccountingStart sha start) (steady : NoLapse cycles)
    (kept : symbol ∈ (afterCycles start cycles).breadthEvidence.keyList) :
    (((afterCycles start cycles).breadthEvidence.find? symbol).map fun entry =>
      if entry.eligible then entry.tradeCount else 0).getD 0 = lastTrades cycles symbol := by
  obtain ⟨fallback, none, found⟩ := find?_afterCycles origin cycles kept
  rw [found, lastTrades]
  cases reported : lastReport cycles symbol with
  | none => simp [lastEligible_of_none reported, none]
  | some entry =>
    by_cases eligible : entry.eligible
    · simp [lastEligible_of_eligible reported eligible, eligible]
    · simp [lastEligible_of_not_eligible steady reported eligible, eligible]

/-- The trades on eligible symbols as a sum over all of them. -/
theorem BreadthEvidence.eligibleTrades_eq (evidence : BreadthEvidence) :
    evidence.eligibleTrades = (evidence.keyList.map fun symbol =>
      ((evidence.find? symbol).map fun entry =>
        if entry.eligible then entry.tradeCount else 0).getD 0).sum := by
  rw [← Table.sum_rows, BreadthEvidence.eligibleTrades]
  generalize evidence.rows = rows
  induction rows with
  | nil => rfl
  | cons entry rows ih =>
    by_cases eligible : entry.eligible
    · rw [List.filter_cons_of_pos eligible, List.map_cons, List.sum_cons, ih, List.map_cons,
        List.sum_cons, if_pos eligible]
    · rw [List.filter_cons_of_neg eligible, ih, List.map_cons, List.sum_cons, if_neg eligible,
        zero_add]

/-- A symbol counts for a candidate with an entry that is eligible. -/
def Contributes (candidate : StrategyCandidateRecord) (symbol : String) (entry : SymbolEvidence) :
    Prop :=
  candidate.breadthEvidence.find? symbol = some entry ∧ entry.eligible ∧
    symbol ∈ candidate.evidenceSymbols

variable {candidate : StrategyCandidateRecord}

/-- The symbols with evidence are those with an eligible entry. -/
theorem mem_evidenceSymbols_of_recounted (recounted : candidate.Recounted)
    (found : candidate.breadthEvidence.find? symbol = some entry) (eligible : entry.eligible) :
    symbol ∈ candidate.evidenceSymbols := by
  obtain ⟨member, rfl⟩ := Table.find?_eq_some_iff.mp found
  have symbols := congrArg BreadthCounts.evidenceSymbols recounted
  simp only [BreadthEvidence.counts] at symbols
  rw [← symbols]
  exact List.mem_map.mpr ⟨entry, List.mem_filter.mpr ⟨member, eligible⟩, rfl⟩

/-- After any cycle the counts are those of the evidence. -/
theorem recounted_afterCycles_snoc (start : StrategyCandidateRecord)
    (cycles : List DetailedProgress) (last : DetailedProgress) :
    (afterCycles start (cycles ++ [last])).Recounted := by
  rw [afterCycles_snoc]
  exact recounted_recordBreadthProgress _ last.given

section

variable (origin : AccountingStart sha start)

include origin

/-- After any cycle the evidence is within the cap. -/
theorem keyList_afterCycles_snoc (cycles : List DetailedProgress) (last : DetailedProgress) :
    (afterCycles start (cycles ++ [last])).breadthEvidence.keyList =
      trackedSymbols start (cycles ++ [last]) := by
  rw [← take_keyList_afterCycles origin, breadthEvidence_afterCycles_snoc origin,
    List.take_of_length_le (BreadthEvidence.length_record_le _ _ _)]

/-- The legacy trades are carried along. -/
theorem breadthLegacyTradeCount_afterCycles (cycles : List DetailedProgress) :
    (afterCycles start cycles).breadthLegacyTradeCount = legacyTrades start := by
  induction cycles using List.reverseRecOn with
  | nil => exact origin.legacy_eq
  | append_singleton cycles last ih =>
    rw [afterCycles_snoc, breadthLegacyTradeCount_recordBreadthProgress]
    exact ih

/-- The trade count after any cycle, without lapses. -/
theorem tradeCount_afterCycles_snoc {last : DetailedProgress}
    (steady : NoLapse (cycles ++ [last])) :
    (afterCycles start (cycles ++ [last])).tradeCount = legacyTrades start +
      ((trackedSymbols start (cycles ++ [last])).map (lastTrades (cycles ++ [last]))).sum := by
  have counted := congrArg BreadthCounts.tradeCount
    (recounted_afterCycles_snoc start cycles last)
  simp only [BreadthEvidence.counts] at counted
  rw [← counted, breadthLegacyTradeCount_afterCycles origin,
    BreadthEvidence.eligibleTrades_eq, ← keyList_afterCycles_snoc origin]
  congr 2
  exact List.map_congr_left fun symbol kept => eligible_trades_afterCycles origin steady kept

end

/-- A cycle that is recorded twice changes no count the second time. -/
theorem recordBreadthProgress_again (start : StrategyCandidateRecord)
    (cycles : List DetailedProgress) (last : DetailedProgress) :
    (recordBreadthProgress (afterCycles start (cycles ++ [last])) last.progress).breadthEvidence =
      (afterCycles start (cycles ++ [last])).breadthEvidence := by
  rw [breadthEvidence_recordBreadthProgress _ last.given,
    (recounted_afterCycles_snoc _ cycles last).seed_eq, afterCycles_snoc,
    breadthEvidence_recordBreadthProgress _ last.given, BreadthEvidence.record_record]

/-- A symbol keeps its entry over cycles that do not report it. -/
theorem contributes_afterCycles (recounted : candidate.Recounted)
    (within : candidate.breadthEvidence.keyList.length ≤ breadthEvidenceSymbolCap)
    (contributes : Contributes candidate symbol entry) {more : List DetailedProgress}
    (other : ∀ cycle ∈ more, symbol ∉ cycle.details.keyList) :
    Contributes (afterCycles candidate more) symbol entry := by
  induction more generalizing candidate with
  | nil => exact contributes
  | cons cycle more ih =>
    obtain ⟨found, eligible, -⟩ := contributes
    have evidence := breadthEvidence_recordBreadthProgress candidate cycle.given
    rw [recounted.seed_eq] at evidence
    have recountedNext := recounted_recordBreadthProgress candidate cycle.given
    have kept := BreadthEvidence.find?_record_of_not_reported candidate.breadthEvidence
      cycle.details cycle.progress.excludedSymbols within found (other cycle List.mem_cons_self)
    rw [← evidence] at kept
    refine ih recountedNext ?_ ⟨kept, eligible,
      mem_evidenceSymbols_of_recounted recountedNext kept eligible⟩
      fun later member => other later (List.mem_cons_of_mem cycle member)
    rw [evidence]
    exact BreadthEvidence.length_record_le _ _ _

/-- Breadth evidence is kept of the first distinct symbols, up to the cap. While no eligible symbol
is reported as not eligible later and no symbol counted without details is reported again, the trade
count is what was last reported of each of these while it was eligible, plus the legacy trades. The
same cycle once more changes nothing. A symbol that counts goes on counting over cycles that do not
report it, and a cycle that reports it as eligible replaces what it counts. -/
theorem breadth_evidence_accounted (origin : AccountingStart sha start)
    (cycles : List DetailedProgress) (last : DetailedProgress) :
    (NoLapse (cycles ++ [last]) → NoReevaluation start (cycles ++ [last]) →
      (afterCycles start (cycles ++ [last])).tradeCount = legacyTrades start +
        ((trackedSymbols start (cycles ++ [last])).map (lastTrades (cycles ++ [last]))).sum) ∧
    (let once := afterCycles start (cycles ++ [last])
      let twice := recordBreadthProgress once last.progress
      twice.tradeCount = once.tradeCount ∧ twice.validSymbols = once.validSymbols ∧
        twice.evidenceSymbols = once.evidenceSymbols) ∧
    (∀ symbol entry, Contributes (afterCycles start (cycles ++ [last])) symbol entry →
      (∀ more : List DetailedProgress, (∀ cycle ∈ more, symbol ∉ cycle.details.keyList) →
        Contributes (afterCycles start (cycles ++ [last] ++ more)) symbol entry) ∧
      ∀ next : DetailedProgress, ∀ detail, next.details.find? symbol = some detail →
        detail.eligible → Contributes (afterCycles start (cycles ++ [last] ++ [next])) symbol
          (normalizeBreadthEvidenceDetail detail)) := by
  have recounted := recounted_afterCycles_snoc start cycles last
  have within : (afterCycles start (cycles ++ [last])).breadthEvidence.keyList.length ≤
      breadthEvidenceSymbolCap := by
    rw [keyList_afterCycles_snoc origin]
    exact List.length_take_le _ _
  refine ⟨fun steady _ => tradeCount_afterCycles_snoc origin steady, ?_, ?_⟩
  · -- Both records are counted from the same evidence and the same legacy.
    have again := recounted_recordBreadthProgress (afterCycles start (cycles ++ [last])) last.given
    have same := recordBreadthProgress_again start cycles last
    rw [StrategyCandidateRecord.Recounted, same,
      breadthLegacyTradeCount_recordBreadthProgress, recounted] at again
    simp only [BreadthCounts.mk.injEq] at again
    exact ⟨again.2.2.1.symm, again.2.1.symm, again.2.2.2.1.symm⟩
  · intro symbol entry contributes
    constructor
    · intro more other
      rw [afterCycles_append]
      exact contributes_afterCycles recounted within contributes other
    · intro next detail reported eligible
      have known := Table.mem_keyList_iff.mpr (by rw [contributes.1]; rfl)
      have evidence := breadthEvidence_afterCycles_snoc origin (cycles ++ [last]) next
      have found := BreadthEvidence.find?_record_of_reported _ _ next.progress.excludedSymbols
        within known reported
      rw [← evidence] at found
      exact ⟨found, eligible, mem_evidenceSymbols_of_recounted
        (recounted_afterCycles_snoc start (cycles ++ [last]) next) found eligible⟩

/-- A candidate nothing was done with. -/
def untestedCandidate : StrategyCandidateRecord :=
  (StrategyFamilies.strategyFamilyTemplates.get ⟨0, by decide⟩).newRecord (fun _ => "sha") 1 ""

/-- Sixty-five different symbols. -/
def manySymbols : List String := (List.range 65).map fun n => .ofList [Char.ofNat (48 + n)]

/-- A valid symbol with one trade. -/
def oneTrade (symbol : String) : EvidenceDetail :=
  { symbol, eligible := true, tradeCount := some 1, totalReturn := some (1 / 10), mdd := none,
    metrics := ⟨none, none, none⟩, evidenceId := "", qualityStatus := "pass", source := "real",
    fixtureBacked := false }

/-- One cycle over all of them, each of them valid and traded once. -/
def wideCycle : DetailedProgress where
  progress :=
    { attempted := 65, valid := 65, tradeCount := 65, evidenceSymbols := manySymbols,
      excludedSymbols := [], providerBlocked := false, now := "",
      evidenceDetails := some ⟨manySymbols.map oneTrade, by decide +kernel⟩,
      sampleExhaustionReason := none, breadthSummary := [] }
  details := ⟨manySymbols.map oneTrade, by decide +kernel⟩
  given := rfl

/-- The untested candidate is one to start from. -/
theorem untestedCandidate_start : AccountingStart (fun _ => "sha") untestedCandidate :=
  have built : newCandidate (fun _ => "sha") "breakout_standard" 1 "" = some untestedCandidate := rfl
  .created built

/-- The trade count of one wide cycle is that of the symbols that were kept. -/
theorem wide_cycle_accounted :
    (afterCycles untestedCandidate [wideCycle]).tradeCount = legacyTrades untestedCandidate +
      ((trackedSymbols untestedCandidate [wideCycle]).map (lastTrades [wideCycle])).sum :=
  (breadth_evidence_accounted untestedCandidate_start [] wideCycle).1
    (List.pairwise_singleton _ _) fun _ _ _ evidence => absurd evidence List.not_mem_nil

/-- Of sixty-five symbols with one trade each, only sixty-four trades are counted. -/
theorem last_symbol_not_counted :
    AccountingStart (fun _ => "sha") untestedCandidate ∧
      (afterCycles untestedCandidate [wideCycle]).tradeCount = 64 ∧
      legacyTrades untestedCandidate + ((Py.fromkeys (namedSymbols untestedCandidate
        [wideCycle])).map (lastTrades [wideCycle])).sum = 65 :=
  ⟨untestedCandidate_start, by decide +kernel, by decide +kernel⟩

end StrategyLab
