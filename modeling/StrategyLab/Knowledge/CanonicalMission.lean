import StrategyLab.Knowledge.Portfolio

/-! Missions and candidates that are read back as they are, and the writes that keep them so. -/

namespace StrategyLab

/-- A text is read back as it is unless it is empty. -/
theorem someText_eq_self_iff {text : Option String} : someText text = text ↔ text ≠ some "" := by
  cases text with
  | none => simp [someText]
  | some text => by_cases empty : text = "" <;> simp [someText, empty]

/-- A text that is read back is not empty. -/
theorem someText_ne_empty (text : Option String) : someText text ≠ some "" := by
  cases text with
  | none => simp [someText]
  | some text => by_cases empty : text = "" <;> simp [someText, empty]

/-- A text in front of another one is not empty if neither is. -/
theorem or_ne_empty {first second : Option String} (one : first ≠ some "")
    (other : second ≠ some "") : first.or second ≠ some "" := by
  cases first with
  | none => exact other
  | some text => exact one

/-- The attempts that are remembered are all of them if there are few. -/
theorem lastSlice_eq_self_iff {attempts : List ValidationAttempt} :
    Py.lastSlice actionCycleHistoryCap attempts = attempts ↔ attempts.length ≤ 48 := by
  have cut : Py.lastSlice actionCycleHistoryCap attempts =
      attempts.drop (attempts.length - 48) := rfl
  rw [cut]
  constructor
  · intro same
    have lengths := congrArg List.length same
    rw [List.length_drop] at lengths
    omega
  · intro few
    rw [Nat.sub_eq_zero_of_le few, List.drop_zero]

/-- A record without empty texts and with no more attempts than are remembered. -/
structure StrategyCandidateRecord.Canonical (candidate : StrategyCandidateRecord) : Prop where
  parent : candidate.parentCandidateId ≠ some ""
  action : candidate.lastDirectorAction ≠ some ""
  rejected : candidate.rejectedReason ≠ some ""
  ready : candidate.promotionReadyAt ≠ some ""
  symbol : candidate.lastValidationSymbol ≠ some ""
  reference : candidate.lastValidationReference ≠ some ""
  exhaustion : candidate.sampleExhaustionReason ≠ some ""
  history : candidate.validationAttemptHistory.length ≤ 48

namespace StrategyCandidateRecord

/-- A record is read back as it is exactly if it is canonical. -/
theorem reloaded_eq_self_iff {candidate : StrategyCandidateRecord} :
    candidate.reloaded = candidate ↔ candidate.Canonical := by
  constructor
  · intro same
    exact
      { parent := someText_eq_self_iff.mp (congrArg parentCandidateId same)
        action := someText_eq_self_iff.mp (congrArg lastDirectorAction same)
        rejected := someText_eq_self_iff.mp (congrArg rejectedReason same)
        ready := someText_eq_self_iff.mp (congrArg promotionReadyAt same)
        symbol := someText_eq_self_iff.mp (congrArg lastValidationSymbol same)
        reference := someText_eq_self_iff.mp (congrArg lastValidationReference same)
        exhaustion := someText_eq_self_iff.mp (congrArg sampleExhaustionReason same)
        history := lastSlice_eq_self_iff.mp (congrArg validationAttemptHistory same) }
  · intro canonical
    simp only [reloaded, toJson, fromJson, someText_eq_self_iff.mpr canonical.parent,
      someText_eq_self_iff.mpr canonical.action, someText_eq_self_iff.mpr canonical.rejected,
      someText_eq_self_iff.mpr canonical.ready, someText_eq_self_iff.mpr canonical.symbol,
      someText_eq_self_iff.mpr canonical.reference,
      someText_eq_self_iff.mpr canonical.exhaustion,
      lastSlice_eq_self_iff.mpr canonical.history, Option.isSome_some, if_true, Option.getD_some]

end StrategyCandidateRecord

/-- What is written to a mission between two messages. -/
inductive MissionWrite where
  | cycleResult (researchedSymbols : List String) (now : String)
  | promotionCandidate (strategyFingerprint candidateId now : String)
  | focusSymbol (symbol now : String)
  | clearFocus (now : String)
  | blocked (reason now : String)
  | addCandidate (candidate : StrategyCandidateRecord) (now : String)
  | updateCandidate (candidate : StrategyCandidateRecord) (now : String)
  | activeCandidate (candidateId : Option String) (now : String)

/-- The mission after a write. -/
def MissionWrite.apply (mission : ResearchMission) : MissionWrite → ResearchMission
  | cycleResult researchedSymbols now => mission.recordCycleResult researchedSymbols now
  | promotionCandidate strategyFingerprint candidateId now =>
    mission.recordPromotionCandidate strategyFingerprint candidateId now
  | focusSymbol symbol now => mission.recordFocusSymbol symbol now
  | clearFocus now => mission.clearFocusSymbol now
  | blocked reason now => mission.recordBlocked reason now
  | addCandidate candidate now => mission.addCandidate candidate now
  | updateCandidate candidate now => mission.updateCandidate candidate now
  | activeCandidate candidateId now => mission.setActiveCandidate candidateId now

namespace ResearchMission

/-- Whether the usual target is the least one for a mission. -/
def IsStandard (mission : ResearchMission) : Prop :=
  mission.market = "KR" ∧ mission.universeScope = .marketWide ∧ mission.isStrategyMission

/-- A mission as it is read back. -/
structure Canonical (mission : ResearchMission) : Prop where
  symbols : tupleOfStr mission.symbols = mission.symbols
  exchanges : tupleOfStr mission.exchanges = mission.exchanges
  traded : mission.exchanges ≠ []
  family : mission.strategyFamily ≠ some ""
  baseline : mission.baselineComparison ≠ some ""
  target : mission.canonicalTarget mission.targetPromotionReadyCandidates =
    mission.targetPromotionReadyCandidates
  named : ∀ strategy ∈ mission.promotionReadyCandidates,
    Py.strip strategy.strategyFingerprint ≠ ""
  counted : mission.currentPromotionReadyCandidates =
    mission.distinctPromotionReadyStrategyCount
  explored : tupleOfStr mission.exploredSymbols = mission.exploredSymbols
  awaiting : mission.status = .awaitingHumanApproval →
    targetReached mission.targetPromotionReadyCandidates mission.currentPromotionReadyCandidates
  reason : mission.blockedReason ≠ some ""
  focused : mission.candidates = [] → mission.pendingPromotionSymbol = none
  focus : mission.pendingPromotionSymbol ≠ some ""
  active : mission.activeCandidateId ≠ some ""

end ResearchMission

/-- Texts are read back as they are if none of them is blank or repeated. -/
theorem tupleOfStr_eq_self_iff {texts : List String} :
    tupleOfStr texts = texts ↔ texts.Nodup ∧ ∀ text ∈ texts, ¬Py.isBlank text := by
  constructor
  · intro same
    have distinct : (tupleOfStr texts).Nodup := Py.nodup_addKeys List.nodup_nil _
    refine ⟨same ▸ distinct, fun text member blank => ?_⟩
    rw [← same, tupleOfStr, Py.mem_fromkeys, List.mem_filter, blank] at member
    cases member.2
  · rintro ⟨distinct, solid⟩
    have all : texts.filter (!Py.isBlank ·) = texts := by
      refine List.filter_eq_self.mpr fun text member => ?_
      rw [Bool.not_eq_true']
      exact Bool.eq_false_iff.mpr (solid text member)
    rw [tupleOfStr, all, Py.fromkeys_eq_self distinct]

/-- The exchanges that are read back are the ones that are named, if there are any. -/
theorem exchanges_reloaded_iff {exchanges : List String} :
    (if tupleOfStr exchanges = [] then defaultKrExchanges else tupleOfStr exchanges) = exchanges ↔
      tupleOfStr exchanges = exchanges ∧ exchanges ≠ [] := by
  by_cases empty : tupleOfStr exchanges = []
  · -- The exchanges of a mission that names none would be named.
    rw [if_pos empty]
    constructor
    · rintro rfl
      exact absurd empty (by decide)
    · rintro ⟨same, named⟩
      exact absurd (same.symm.trans empty) named
  · rw [if_neg empty]
    exact ⟨fun same => ⟨same, same ▸ empty⟩, And.left⟩

variable {ready : List PromotionReadyStrategy}

/-- A fingerprint of which something is left is not empty. -/
theorem filter_ne_empty_of_named
    (named : ∀ strategy ∈ ready, Py.strip strategy.strategyFingerprint ≠ "") :
    (ready.map (·.strategyFingerprint)).filter (· ≠ "") = ready.map (·.strategyFingerprint) := by
  refine List.filter_eq_self.mpr fun fingerprint member => decide_eq_true ?_
  obtain ⟨strategy, inside, rfl⟩ := List.mem_map.mp member
  intro empty
  exact named strategy inside (by rw [empty]; decide)

/-- Strategies with fingerprints are all read back. -/
theorem filter_named_eq_self_iff :
    (ready.filter fun strategy => Py.strip strategy.strategyFingerprint ≠ "") = ready ↔
      ∀ strategy ∈ ready, Py.strip strategy.strategyFingerprint ≠ "" := by
  rw [List.filter_eq_self]
  exact forall₂_congr fun _ _ => decide_eq_true_iff

namespace ResearchMission

variable {mission : ResearchMission}

/-- A target is the one that is read back if it is enough for a standard mission. -/
theorem canonicalTarget_eq_self_iff {target : Option Int} :
    mission.canonicalTarget target = target ↔
      (mission.IsStandard → ∃ count, target = some count ∧ 3 ≤ count) := by
  rw [canonicalTarget, IsStandard]
  by_cases standard : mission.market = "KR" ∧ mission.universeScope = .marketWide ∧
      mission.isStrategyMission
  · cases target with
    | none => simp [standard]
    | some count =>
      by_cases enough : count < canonicalPromotionReadyTarget
      · have other : canonicalPromotionReadyTarget ≠ count := fun same => by omega
        have few : ¬3 ≤ count := not_le.mpr enough
        simp [standard, enough, other, few]
      · have many : 3 ≤ count := not_lt.mp enough
        simp [standard, enough, many]
  · have never : ¬(mission.market = "KR" ∧ mission.universeScope = .marketWide ∧
        mission.isStrategyMission ∧ target.all (· < canonicalPromotionReadyTarget)) :=
      fun all => standard ⟨all.1, all.2.1, all.2.2.1⟩
    rw [if_neg never]
    exact iff_of_true rfl fun other => absurd other standard

/-- The usual target is enough. -/
theorem canonicalTarget_canonicalTarget (mission : ResearchMission) (target : Option Int) :
    mission.canonicalTarget (mission.canonicalTarget target) = mission.canonicalTarget target := by
  rw [canonicalTarget_eq_self_iff]
  intro standard
  by_cases same : mission.canonicalTarget target = target
  · rw [same]
    exact canonicalTarget_eq_self_iff.mp same standard
  · -- A target that is not enough is replaced.
    refine ⟨3, ?_, le_refl 3⟩
    rw [canonicalTarget] at same ⊢
    split
    · rfl
    · rename_i other
      exact absurd (if_neg other) same

/-- A mission is read back as it is exactly if it is canonical. -/
theorem reloaded_eq_self_iff :
    mission.reloaded = mission ↔ mission.Canonical := by
  constructor
  · intro same
    have symbols := congrArg symbols same
    have exchanges := exchanges_reloaded_iff.mp (congrArg exchanges same)
    have named := filter_named_eq_self_iff.mp (congrArg promotionReadyCandidates same)
    have counted := congrArg currentPromotionReadyCandidates same
    have pending := congrArg pendingPromotionSymbol same
    have target := congrArg targetPromotionReadyCandidates same
    have status := congrArg status same
    simp only [reloaded] at symbols counted pending target status
    rw [filter_named_eq_self_iff.mpr named] at counted status
    rw [counted, target] at status
    refine
      { symbols, exchanges := exchanges.1, traded := exchanges.2
        family := someText_eq_self_iff.mp (congrArg strategyFamily same)
        baseline := someText_eq_self_iff.mp (congrArg baselineComparison same)
        target
        named
        counted := ?_
        explored := congrArg exploredSymbols same
        awaiting := ?_
        reason := someText_eq_self_iff.mp (congrArg blockedReason same)
        focused := ?_
        focus := ?_
        active := someText_eq_self_iff.mp (congrArg activeCandidateId same) }
    · rw [distinctPromotionReadyStrategyCount, distinctFingerprints,
        filter_ne_empty_of_named named, counted]
    · intro waiting
      by_contra missed
      rw [if_pos ⟨waiting, by simpa using missed⟩, waiting] at status
      cases status
    · intro none
      rw [none] at pending
      exact pending.symm
    · intro empty
      rw [empty] at pending
      split at pending
      · cases pending
      · cases pending
  · intro canonical
    have found : (Py.fromkeys
        (mission.promotionReadyCandidates.map (·.strategyFingerprint))).length =
          mission.currentPromotionReadyCandidates := by
      rw [canonical.counted, distinctPromotionReadyStrategyCount, distinctFingerprints,
        filter_ne_empty_of_named canonical.named]
    have status : (if mission.status = .awaitingHumanApproval ∧
        !targetReached mission.targetPromotionReadyCandidates
          mission.currentPromotionReadyCandidates then MissionStatus.active
        else mission.status) = mission.status := by
      refine if_neg ?_
      rintro ⟨waiting, missed⟩
      rw [canonical.awaiting waiting] at missed
      cases missed
    have pending : (if mission.candidates.isEmpty then none
        else someText mission.pendingPromotionSymbol) = mission.pendingPromotionSymbol := by
      split
      · rename_i empty
        exact (canonical.focused (List.isEmpty_iff.mp empty)).symm
      · exact someText_eq_self_iff.mpr canonical.focus
    simp only [reloaded, filter_named_eq_self_iff.mpr canonical.named, found, canonical.target,
      status, pending, canonical.symbols, canonical.explored,
      exchanges_reloaded_iff.mpr ⟨canonical.exchanges, canonical.traded⟩,
      someText_eq_self_iff.mpr canonical.family, someText_eq_self_iff.mpr canonical.baseline,
      someText_eq_self_iff.mpr canonical.reason, someText_eq_self_iff.mpr canonical.active]

end ResearchMission

/-- Whether a write is read back as it is: it writes no empty text, a symbol to look at only where
there is a candidate, and makes a mission a standard one only with a target that is enough. -/
def MissionWrite.Lasting (mission : ResearchMission) : MissionWrite → Prop
  | cycleResult researchedSymbols _ => ∀ symbol ∈ researchedSymbols, ¬Py.isBlank symbol
  | focusSymbol symbol _ => mission.candidates ≠ [] ∧ symbol ≠ ""
  | blocked reason _ => reason ≠ ""
  | addCandidate candidate _ => mission.getCandidate candidate.candidateId = none →
    candidate.candidateId ≠ "" ∧
      (mission.market = "KR" → mission.universeScope = .marketWide → mission.isStrategyMission ∨
        ∃ count, mission.targetPromotionReadyCandidates = some count ∧ 3 ≤ count)
  | activeCandidate candidateId _ => candidateId ≠ some ""
  | _ => True

/-- With more strategies there are at least as many distinct ones. -/
theorem distinctFingerprints_le_append (ready more : List PromotionReadyStrategy) :
    distinctFingerprints ready ≤ distinctFingerprints (ready ++ more) := by
  rw [distinctFingerprints, distinctFingerprints, List.map_append, List.filter_append,
    Py.fromkeys, Py.fromkeys, Py.addKeys_append]
  exact (Py.prefix_addKeys _ _).length_le

/-- A target that was reached is reached with more strategies. -/
theorem targetReached_mono {target : Option Int} {found more : Nat} (fewer : found ≤ more)
    (reached : targetReached target found) : targetReached target more := by
  cases target with
  | none => exact reached
  | some count =>
    simp only [targetReached, Option.any_some, decide_eq_true_eq] at reached ⊢
    omega

namespace ResearchMission

/-- The symbols after a cycle are read back as they are if those of the cycle are no blank texts. -/
theorem explored_recordCycleResult_iff {explored : List String}
    (known : tupleOfStr explored = explored) (researchedSymbols : List String) :
    tupleOfStr (Py.fromkeys (explored ++ researchedSymbols)) =
        Py.fromkeys (explored ++ researchedSymbols) ↔
      ∀ symbol ∈ researchedSymbols, ¬Py.isBlank symbol := by
  have distinct : (Py.fromkeys (explored ++ researchedSymbols)).Nodup :=
    Py.nodup_addKeys List.nodup_nil _
  rw [tupleOfStr_eq_self_iff]
  constructor
  · rintro ⟨-, solid⟩ symbol member
    exact solid symbol (Py.mem_fromkeys.mpr (List.mem_append_right explored member))
  · intro solid
    refine ⟨distinct, fun symbol member => ?_⟩
    rcases List.mem_append.mp (Py.mem_fromkeys.mp member) with before | now
    · exact (tupleOfStr_eq_self_iff.mp known).2 symbol before
    · exact solid symbol now

variable {mission : ResearchMission}

/-- A strategy that is found ready leaves a mission canonical. -/
theorem Canonical.recordPromotionCandidate
    (canonical : mission.Canonical) (strategyFingerprint candidateId now : String) :
    (mission.recordPromotionCandidate strategyFingerprint candidateId now).Canonical := by
  simp only [ResearchMission.recordPromotionCandidate]
  split
  · exact canonical
  · rename_i fresh
    refine { canonical with named := ?_, counted := rfl, awaiting := ?_ }
    · intro strategy member
      rcases List.mem_append.mp member with before | new
      · exact canonical.named strategy before
      · rw [List.mem_singleton.mp new]
        exact Py.strip_strip_ne_empty fun empty => fresh (.inl empty)
    · -- The mission waits because it reached its target, or because it did so before.
      intro waiting
      split at waiting
      · assumption
      · refine targetReached_mono ?_ (canonical.awaiting waiting)
        rw [canonical.counted]
        exact distinctFingerprints_le_append _ _

/-- A candidate that is added leaves a mission canonical exactly if it has a name and makes the
mission a standard one only with a target that is enough. -/
theorem canonical_addCandidate_iff (canonical : mission.Canonical)
    (candidate : StrategyCandidateRecord) (now : String) :
    (mission.addCandidate candidate now).Canonical ↔
      (MissionWrite.addCandidate candidate now).Lasting mission := by
  simp only [addCandidate, MissionWrite.Lasting]
  split
  · rename_i known
    refine iff_of_true canonical fun unknown => ?_
    rw [unknown] at known
    cases known
  · rename_i unknown
    rw [Option.not_isSome_iff_eq_none] at unknown
    -- With a candidate a mission looks for strategies.
    have standard : ∀ after : ResearchMission, after.market = mission.market →
        after.universeScope = mission.universeScope →
        after.candidates = mission.candidates ++ [candidate.toJson] →
        (after.IsStandard ↔ mission.market = "KR" ∧ mission.universeScope = .marketWide) := by
      intro after market scope stored
      simp [IsStandard, isStrategyMission, market, scope, stored]
    constructor
    · intro after _
      refine ⟨fun empty => after.active (congrArg some empty), fun korean wide => .inr ?_⟩
      exact canonicalTarget_eq_self_iff.mp after.target
        ((standard _ (by rfl) (by rfl) (by rfl)).mpr ⟨korean, wide⟩)
    · intro allowed
      obtain ⟨named, enough⟩ := allowed unknown
      refine { canonical with target := ?_, focused := ?_, active := ?_ }
      · refine canonicalTarget_eq_self_iff.mpr fun after => ?_
        obtain ⟨korean, wide⟩ := (standard _ (by rfl) (by rfl) (by rfl)).mp after
        rcases enough korean wide with before | high
        · exact canonicalTarget_eq_self_iff.mp canonical.target ⟨korean, wide, before⟩
        · exact high
      · intro none
        cases List.append_ne_nil_of_right_ne_nil _ (List.cons_ne_nil _ _) none
      · exact fun empty => named (Option.some.inj empty)

/-- A new record of a candidate leaves a mission canonical. -/
theorem Canonical.updateCandidate (canonical : mission.Canonical)
    (candidate : StrategyCandidateRecord) (now : String) :
    (mission.updateCandidate candidate now).Canonical := by
  rw [ResearchMission.updateCandidate]
  split
  · refine { canonical with target := ?_, focused := ?_ }
    · refine canonicalTarget_eq_self_iff.mpr fun after => ?_
      have before : mission.IsStandard := by
        simpa [IsStandard, isStrategyMission] using after
      exact canonicalTarget_eq_self_iff.mp canonical.target before
    · intro none
      exact canonical.focused (List.map_eq_nil_iff.mp none)
  · exact canonical

/-- A write leaves a canonical mission exactly if it lasts. -/
theorem canonical_write_iff (canonical : mission.Canonical)
    (write : MissionWrite) : (write.apply mission).Canonical ↔ write.Lasting mission := by
  cases write with
  | cycleResult researchedSymbols now =>
    have explored := explored_recordCycleResult_iff canonical.explored researchedSymbols
    exact ⟨fun after => explored.mp after.explored,
      fun solid => { canonical with explored := explored.mpr solid }⟩
  | promotionCandidate strategyFingerprint candidateId now =>
    exact iff_of_true (canonical.recordPromotionCandidate strategyFingerprint candidateId now)
      trivial
  | focusSymbol symbol now =>
    constructor
    · intro after
      exact ⟨fun none => Option.some_ne_none symbol (after.focused none),
        fun empty => after.focus (congrArg some empty)⟩
    · rintro ⟨some, filled⟩
      exact { canonical with
        focused := fun none => absurd none some
        focus := fun empty => filled (Option.some.inj empty) }
  | clearFocus now =>
    exact iff_of_true { canonical with
      focused := fun _ => rfl, focus := (Option.some_ne_none "").symm } trivial
  | blocked reason now =>
    refine ⟨fun after empty => after.reason (congrArg some empty), fun filled => ?_⟩
    exact { canonical with
      reason := fun empty => filled (Option.some.inj empty)
      awaiting := fun waiting => MissionStatus.noConfusion waiting }
  | addCandidate candidate now => exact canonical_addCandidate_iff canonical candidate now
  | updateCandidate candidate now =>
    exact iff_of_true (canonical.updateCandidate candidate now) trivial
  | activeCandidate candidateId now =>
    exact ⟨fun after => after.active, fun filled => { canonical with active := filled }⟩

/-- A target that is canonical is reached if the count is enough for both. -/
theorem targetReached_canonicalTarget_iff {count : Int} {found : Nat} :
    targetReached (mission.canonicalTarget (some count)) found ↔
      count ≤ found ∧ (mission.IsStandard → 3 ≤ found) := by
  by_cases enough : mission.canonicalTarget (some count) = some count
  · have high := canonicalTarget_eq_self_iff.mp enough
    rw [enough, targetReached, Option.any_some, decide_eq_true_eq]
    refine ⟨fun reached => ⟨reached, fun standard => ?_⟩, And.left⟩
    obtain ⟨_, same, least⟩ := high standard
    rw [← Option.some.inj same] at least
    omega
  · -- The usual target takes the place of a smaller one.
    have standard : mission.IsStandard ∧ count < 3 := by
      by_contra other
      refine enough (canonicalTarget_eq_self_iff.mpr fun standard => ⟨count, rfl, ?_⟩)
      exact not_lt.mp fun few => other ⟨standard, few⟩
    have replaced : mission.canonicalTarget (some count) = some canonicalPromotionReadyTarget :=
      if_pos ⟨standard.1.1, standard.1.2.1, standard.1.2.2, decide_eq_true standard.2⟩
    rw [replaced, targetReached, Option.any_some, decide_eq_true_eq, canonicalPromotionReadyTarget]
    constructor
    · intro reached
      exact ⟨by omega, fun _ => by omega⟩
    · intro both
      have three := both.2 standard.1
      omega

end ResearchMission

end StrategyLab
