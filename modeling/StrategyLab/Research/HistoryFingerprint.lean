import StrategyLab.Lib.Lines
import StrategyLab.Research.ResearchDirection

/-! The key of a mission's history: what it tells of the mission, and what the analysis reads. -/

namespace StrategyLab

/-- A text is what it is without a default, also an empty one. -/
theorem textOr_some (text : String) : textOr (some text) "" = text := by
  by_cases empty : text = ""
  · rw [empty]
    rfl
  · simp [textOr, empty]

/-- A text that is stored and read back is what it was. -/
theorem textOr_someText (text : String) : textOr (someText (some text)) "" = text := by
  by_cases empty : text = ""
  · rw [empty]
    rfl
  · simp [textOr, someText, Option.filter, empty]

/-- What the key of a history is told of a candidate. -/
structure KeyedHistory where
  candidateId : String
  status : StrategyCandidateStatus
  reason : String
  deriving DecidableEq

/-- All that an analysis could depend on in a candidate. -/
structure CandidateHistory where
  candidateId : String
  status : StrategyCandidateStatus
  rejectedReason : Option String
  validationStageStatus : StageStatuses
  attemptedSymbols : Int
  validSymbols : Int
  tradeCount : Int

namespace KeyedHistory

/-- The text a candidate has in the key. -/
def text (keyed : KeyedHistory) : String :=
  keyed.candidateId ++ ":" ++ keyed.status.text ++ ":" ++ keyed.reason

/-- Whether the texts hold no separator, apart from those the reason may end with. -/
def Plain (keyed : KeyedHistory) : Prop :=
  ':' ∉ keyed.candidateId.toList ∧ '|' ∉ keyed.candidateId.toList ∧ '|' ∉ keyed.reason.toList

/-- Whether an analysis counts the candidate: it failed, and for a reason that says something. -/
def Counts (keyed : KeyedHistory) : Prop :=
  (keyed.status = .stagnant ∨ keyed.status = .rejected) ∧
    keyed.reason ≠ "" ∧ keyed.reason ∉ nonEvidenceTerminalReasons

instance : Nonempty KeyedHistory := ⟨⟨"", .exploring, ""⟩⟩

instance (keyed : KeyedHistory) : Decidable keyed.Counts :=
  inferInstanceAs (Decidable (_ ∧ _ ∧ _))

/-- The class of failures that the reason alone decides. -/
def reasonClass (keyed : KeyedHistory) : Option FailureClass :=
  if Py.startswith keyed.reason "economic_viability_failed" then some .economicViabilityFailure
  else if keyed.reason = "validation_cycle_exhausted_without_progress" then
    some .validationStagnation
  else if Py.startswith keyed.reason "provider_unavailable" ||
      Py.contains keyed.reason "provider" then
    some .dataProviderLimitation
  else if keyed.reason ∈ insufficientSampleReasons ∨
      Py.startswith keyed.reason "sample_pool_exhausted" then
    some .insufficientSample
  else none

/-- No name of a status holds a separator. -/
theorem status_clean (status : StrategyCandidateStatus) :
    ':' ∉ status.text.toList ∧ '|' ∉ status.text.toList := by
  cases status <;> simp [StrategyCandidateStatus.text]

/-- The names of statuses are different. -/
theorem status_eq {status status' : StrategyCandidateStatus}
    (same : status.text = status'.text) : status = status' := by
  cases status <;> cases status' <;> first | rfl | exact absurd same (by decide)

/-- The text of a plain candidate holds no bar. -/
theorem Plain.text_clean {keyed : KeyedHistory} (plain : keyed.Plain) :
    '|' ∉ keyed.text.toList := by
  obtain ⟨-, name, reason⟩ := plain
  simp [text, name, reason, (status_clean keyed.status).2]

/-- A plain candidate is told by its text. -/
theorem Plain.text_inj {keyed keyed' : KeyedHistory} (plain : keyed.Plain)
    (plain' : keyed'.Plain) (same : keyed.text = keyed'.text) : keyed = keyed' := by
  have chars := congrArg String.toList same
  simp only [text, String.toList_append, List.append_assoc] at chars
  -- The name ends at the first colon, and the status at the second one.
  obtain ⟨name, later⟩ := Lines.cut_unique plain.1 plain'.1 chars
  obtain ⟨status, reason⟩ :=
    Lines.cut_unique (status_clean keyed.status).1 (status_clean keyed'.status).1 later
  obtain ⟨candidateId, kind, why⟩ := keyed
  obtain ⟨candidateId', kind', why'⟩ := keyed'
  obtain rfl := String.toList_inj.mp name
  obtain rfl := status_eq (String.toList_inj.mp status)
  obtain rfl := String.toList_inj.mp reason
  rfl

end KeyedHistory

namespace StrategyCandidateRecord

/-- What the key is told of the candidate. -/
def keyed (candidate : StrategyCandidateRecord) : KeyedHistory :=
  ⟨candidate.candidateId, candidate.status, textOr candidate.rejectedReason ""⟩

/-- What an analysis could depend on in the candidate. -/
def history (candidate : StrategyCandidateRecord) : CandidateHistory :=
  { candidateId := candidate.candidateId
    status := candidate.status
    rejectedReason := candidate.rejectedReason
    validationStageStatus := candidate.validationStageStatus
    attemptedSymbols := candidate.attemptedSymbols
    validSymbols := candidate.validSymbols
    tradeCount := candidate.tradeCount }

/-- The class that the stages and the evidence decide where the reason does not. -/
def evidenceClass (candidate : StrategyCandidateRecord) : FailureClass :=
  if attemptedAndFailed candidate "transaction_cost_stress" then .costSlippageFragility
  else if attemptedAndFailed candidate "regime_validation" then .regimeSensitivity
  else if ["out_of_sample", "walk_forward", "parameter_sensitivity", "monte_carlo"].any
      (attemptedAndFailed candidate) then
    .robustnessFailure
  else if candidate.tradeCount < promotionMinTradeSample ∨
      !candidate.hasSufficientUniverseEvidence then
    .evidenceInsufficiency
  else .unknown

/-- A candidate that counts has the class of its reason, and else that of its evidence. -/
theorem classifyCandidateFailure_eq (candidate : StrategyCandidateRecord) :
    classifyCandidateFailure candidate =
      if candidate.keyed.Counts then
        some (candidate.keyed.reasonClass.getD candidate.evidenceClass)
      else none := by
  have ends : candidate.terminal = true ↔
      candidate.status = .stagnant ∨ candidate.status = .rejected := by
    simp [terminal]
  by_cases counts : candidate.keyed.Counts
  · obtain ⟨failed, filled, telling⟩ := counts
    rw [if_pos ⟨failed, filled, telling⟩]
    have named : ¬(textOr candidate.rejectedReason "" = "" ∨
        textOr candidate.rejectedReason "" ∈ nonEvidenceTerminalReasons) := fun either =>
      either.elim filled telling
    simp only [classifyCandidateFailure, ends.mpr failed, if_neg named, KeyedHistory.reasonClass,
      evidenceClass, keyed, Bool.not_true, Bool.false_eq_true, if_false]
    -- Each branch of the decision is one of the two smaller ones.
    split_ifs <;> simp_all
  · rw [if_neg counts]
    simp only [classifyCandidateFailure]
    by_cases failed : candidate.terminal = true
    · -- It failed for a reason that says nothing.
      have silent : textOr candidate.rejectedReason "" = "" ∨
          textOr candidate.rejectedReason "" ∈ nonEvidenceTerminalReasons := by
        by_contra speaks
        exact counts ⟨ends.mp failed, fun empty => speaks (.inl empty),
          fun listed => speaks (.inr listed)⟩
      simp [failed, silent]
    · simp [failed]

/-- What an analysis notes of the candidate: its class and its name. -/
def failure (candidate : StrategyCandidateRecord) : Option (FailureClass × String) :=
  (classifyCandidateFailure candidate).map fun cls => (cls, candidate.candidateId)

/-- A candidate is noted exactly if it counts. -/
theorem failure_eq (candidate : StrategyCandidateRecord) :
    candidate.failure =
      if candidate.keyed.Counts then
        some (candidate.keyed.reasonClass.getD candidate.evidenceClass, candidate.keyed.candidateId)
      else none := by
  rw [failure, classifyCandidateFailure_eq]
  split_ifs <;> rfl

end StrategyCandidateRecord

section Tally

variable {classes classes' : List FailureClass}

/-- A class is in the tally as often as it occurs, if it does. -/
theorem lookup_failureBreakdown (classes : List FailureClass) (cls : FailureClass) :
    (failureBreakdown classes).lookup cls =
      if cls ∈ classes then some (classes.count cls) else none := by
  unfold failureBreakdown
  by_cases occurs : cls ∈ classes
  · rw [if_pos occurs, List.lookup_graph (classes.count ·) (Py.mem_fromkeys.mpr occurs)]
  · rw [if_neg occurs, List.lookup_eq_none_iff]
    intro row member
    obtain ⟨other, listed, rfl⟩ := List.mem_map.mp member
    have differs : cls ≠ other := fun same => occurs (same ▸ Py.mem_fromkeys.mp listed)
    simp [differs]

/-- The classes that occur most often do not depend on the order. -/
theorem dominantFailureClass_perm (same : classes.Perm classes') :
    dominantFailureClass classes = dominantFailureClass classes' := by
  unfold dominantFailureClass
  have empty : classes = [] ↔ classes' = [] :=
    ⟨fun none_ => (none_ ▸ same).nil_eq.symm, fun none_ => (none_ ▸ same).eq_nil⟩
  have keys : (Py.fromkeys classes).Perm (Py.fromkeys classes') := by
    rw [List.perm_ext_iff_of_nodup (Py.nodup_fromkeys _) (Py.nodup_fromkeys _)]
    intro cls
    rw [Py.mem_fromkeys, Py.mem_fromkeys, same.mem_iff]
  have counts : ∀ cls, classes.count cls = classes'.count cls := fun cls => same.count_eq cls
  -- The largest count is one of the same counts in another order.
  have most : ((failureBreakdown classes).map (·.2)).foldl max 0 =
      ((failureBreakdown classes').map (·.2)).foldl max 0 := by
    refine List.Perm.foldl_eq ?_ 0
    simpa only [failureBreakdown, counts] using
      (keys.map fun cls => (cls, classes'.count cls)).map (·.2)
  simp only [empty, most, counts]

end Tally

/-- What an analysis notes of the candidates of a mission. -/
def ResearchMission.failures (mission : ResearchMission) : List (FailureClass × String) :=
  mission.candidateRecords.filterMap (·.failure)

/-- What the key is told of the candidates of a mission. -/
def ResearchMission.keyed (mission : ResearchMission) : List KeyedHistory :=
  mission.candidateRecords.map (·.keyed)

/-- Whether two analyses conclude the same; tallies are compared as dictionaries. -/
structure SameConclusions (analysis other : FailureAnalysis) : Prop where
  blockedReason : analysis.blockedReason = other.blockedReason
  breakdown : ∀ cls, analysis.breakdown.lookup cls = other.breakdown.lookup cls
  dominantFailureClass : analysis.dominantFailureClass = other.dominantFailureClass
  evidenceCandidateIds : analysis.evidenceCandidateIds = other.evidenceCandidateIds

/-- Whether two missions have the same history, in any order of their candidates. -/
def SameHistory (mission other : ResearchMission) : Prop :=
  mission.blockedReason = other.blockedReason ∧
    (mission.candidateRecords.map (·.history)).Perm (other.candidateRecords.map (·.history))

section

variable {digest : String → String} {mission other : ResearchMission} {sessionRef : String}

/-- An analysis is made of what is noted of the candidates. -/
theorem analyzeMissionFailure_eq (now : String) :
    analyzeMissionFailure digest mission sessionRef now =
      { analysisId := "failure-analysis:" ++ missionHistoryFingerprint digest mission sessionRef
        sessionRef
        blockedReason := textOr mission.blockedReason ""
        breakdown := failureBreakdown (mission.failures.map (·.1))
        dominantFailureClass := dominantFailureClass (mission.failures.map (·.1))
        evidenceCandidateIds := mission.failures.map (·.2)
        fingerprint := missionHistoryFingerprint digest mission sessionRef
        createdAt := now } := by
  have noted : (mission.candidateRecords.filter (·.terminal)).filterMap (fun candidate =>
      (classifyCandidateFailure candidate).map fun cls => (cls, candidate.candidateId)) =
        mission.failures := by
    rw [List.filterMap_filter]
    refine List.filterMap_congr fun candidate _ => ?_
    -- A candidate that did not fail is classified as nothing.
    by_cases failed : candidate.terminal = true
    · rw [if_pos failed]
      rfl
    · rw [if_neg failed]
      simp [StrategyCandidateRecord.failure, classifyCandidateFailure, failed]
  simp only [analyzeMissionFailure, noted]

/-- Analyses conclude the same if they note the same, and the same names in the same order. -/
theorem sameConclusions_of_perm (blocked : textOr mission.blockedReason "" =
      textOr other.blockedReason "") (noted : mission.failures.Perm other.failures)
    (names : mission.failures.map (·.2) = other.failures.map (·.2)) (now now' : String) :
    SameConclusions (analyzeMissionFailure digest mission sessionRef now)
      (analyzeMissionFailure digest other sessionRef now') := by
  have classes := noted.map (·.1)
  rw [analyzeMissionFailure_eq, analyzeMissionFailure_eq]
  refine ⟨blocked, fun cls => ?_, dominantFailureClass_perm classes, names⟩
  simp only [lookup_failureBreakdown, classes.mem_iff, classes.count_eq]

/-- The text of a mission's key without the session. -/
def keyTail (mission : ResearchMission) : List String :=
  textOr mission.blockedReason "" ::
    Py.sortedBy id (mission.keyed.map KeyedHistory.text)

/-- Missions of one session have one key exactly if the rest of their texts is one. -/
theorem fingerprint_eq_iff (collisionFree : Function.Injective digest) :
    missionHistoryFingerprint digest mission sessionRef =
        missionHistoryFingerprint digest other sessionRef ↔
      "|".intercalate (keyTail mission) = "|".intercalate (keyTail other) := by
  have whole (each : ResearchMission) : missionHistoryFingerprint digest each sessionRef =
      digest (sessionRef ++ "|" ++ "|".intercalate (keyTail each)) := by
    simp only [missionHistoryFingerprint, stableHash, keyTail, ResearchMission.keyed,
      List.map_map, String.intercalate_cons_cons]
    rfl
  rw [whole, whole, collisionFree.eq_iff, ← String.toList_inj]
  simp only [String.toList_append, List.append_cancel_left_eq, String.toList_inj]

/-- Missions with the same history have the same key. -/
theorem SameHistory.fingerprint_eq (same : SameHistory mission other) :
    missionHistoryFingerprint digest mission sessionRef =
      missionHistoryFingerprint digest other sessionRef := by
  obtain ⟨blocked, candidates⟩ := same
  have texts := candidates.map fun history =>
    (KeyedHistory.mk history.candidateId history.status (textOr history.rejectedReason "")).text
  rw [List.map_map, List.map_map] at texts
  -- Sorting takes the order away.
  have sorted := @Py.map_key_sortedBy String String _ id _ _ texts
  rw [List.map_id, List.map_id] at sorted
  unfold missionHistoryFingerprint
  rw [blocked]
  exact congrArg (fun parts => stableHash digest (sessionRef :: _ :: parts)) sorted

end

end StrategyLab
