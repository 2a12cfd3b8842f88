import StrategyLab.Research.HistoryFingerprint

/-! When the key of a history stands for that history alone, whatever else has the same key. -/

namespace StrategyLab

section

variable (digest : String → String) (sessionRef : String)

/-- Whether the key of a mission stands for its history: those of some missions that have the key
are analysed alike, and those that have the history have the key. -/
def KeyStandsForHistory (compared : ResearchMission → Prop) (mission : ResearchMission) : Prop :=
  ∀ other, compared other → ∀ now now',
    (missionHistoryFingerprint digest other sessionRef =
        missionHistoryFingerprint digest mission sessionRef →
      SameConclusions (analyzeMissionFailure digest other sessionRef now)
        (analyzeMissionFailure digest mission sessionRef now')) ∧
    (SameHistory other mission →
      missionHistoryFingerprint digest other sessionRef =
        missionHistoryFingerprint digest mission sessionRef)

end

/-- Whether a text ends like a mission's text does: with a bar and a candidate. -/
def EndsWithCandidate (text : String) : Prop :=
  ∃ (before : String) (keyed : KeyedHistory), text = before ++ "|" ++ keyed.text

namespace ResearchMission

/-- Whether the texts of a mission hold no separators. -/
def Plain (mission : ResearchMission) : Prop :=
  '|' ∉ (textOr mission.blockedReason "").toList ∧ ∀ keyed ∈ mission.keyed, keyed.Plain

/-- Whether the reasons decide the classes of all candidates that count. -/
def ReasonsDecide (mission : ResearchMission) : Prop :=
  ∀ keyed ∈ mission.keyed, keyed.Counts → keyed.reasonClass ≠ none

/-- Whether the candidates that count have one name. -/
def OneNameCounts (mission : ResearchMission) : Prop :=
  ∀ keyed ∈ mission.keyed, ∀ keyed' ∈ mission.keyed, keyed.Counts → keyed'.Counts →
    keyed.candidateId = keyed'.candidateId

/-- The mission with other statuses of stages. -/
def restaged (mission : ResearchMission) (stages : StageStatuses) : ResearchMission :=
  { mission with
    candidates := mission.candidates.map fun raw =>
      { raw with fields := { raw.fields with validationStageStatus := stages } } }

/-- The mission with other candidates. -/
def holding (mission : ResearchMission) (candidates : List PersistedCandidate) :
    ResearchMission :=
  { mission with candidates }

/-- A mission with one candidate that the key is told something of, and nothing was done with. -/
def accusing (mission : ResearchMission) (before : String) (keyed : KeyedHistory) :
    ResearchMission :=
  let candidate := StrategyFamilyTemplate.newRecord ⟨"breakout_standard", "", [], [], []⟩
    (fun _ => "sha") 1 "t0"
  { mission with
    blockedReason := some before
    candidates := [StrategyCandidateRecord.toJson
      { candidate with
        candidateId := keyed.candidateId
        status := keyed.status
        rejectedReason := some keyed.reason }] }

variable {mission other : ResearchMission}

/-- Other statuses of stages change nothing else in the candidates. -/
theorem candidateRecords_restaged (mission : ResearchMission) (stages : StageStatuses) :
    (mission.restaged stages).candidateRecords =
      mission.candidateRecords.map ({ · with validationStageStatus := stages }) := by
  simp only [restaged, candidateRecords, List.map_map]
  rfl

/-- The key is not told of statuses of stages. -/
theorem keyed_restaged (mission : ResearchMission) (stages : StageStatuses) :
    (mission.restaged stages).keyed = mission.keyed := by
  simp only [keyed, candidateRecords_restaged, List.map_map]
  rfl

/-- Statuses of stages change neither the key nor what is plain. -/
theorem keyTail_restaged (mission : ResearchMission) (stages : StageStatuses) :
    keyTail (mission.restaged stages) = keyTail mission := by
  unfold keyTail
  rw [keyed_restaged]
  rfl

/-- What is noted of a mission is what the key is told of it, if the reasons decide. -/
theorem failures_eq_keyed (decide_ : mission.ReasonsDecide) :
    mission.failures = mission.keyed.filterMap fun keyed =>
      if keyed.Counts then keyed.reasonClass.map fun cls => (cls, keyed.candidateId) else none := by
  rw [failures, keyed, List.filterMap_map]
  refine List.filterMap_congr fun candidate member => ?_
  rw [StrategyCandidateRecord.failure_eq]
  show _ = if candidate.keyed.Counts then _ else none
  by_cases counts : candidate.keyed.Counts
  · obtain ⟨cls, decided⟩ := Option.ne_none_iff_exists'.mp
      (decide_ _ (List.mem_map_of_mem member) counts)
    rw [if_pos counts, if_pos counts, decided]
    rfl
  · rw [if_neg counts, if_neg counts]

/-- A candidate is noted under its name if it counts. -/
theorem mem_failures_name {row : FailureClass × String} (noted : row ∈ mission.failures) :
    ∃ keyed ∈ mission.keyed, keyed.Counts ∧ keyed.candidateId = row.2 := by
  obtain ⟨candidate, member, failed⟩ := List.mem_filterMap.mp noted
  rw [StrategyCandidateRecord.failure_eq] at failed
  split_ifs at failed with counts
  obtain rfl := Option.some.inj failed
  exact ⟨candidate.keyed, List.mem_map_of_mem member, counts, rfl⟩

/-- Plain missions with one text have the same reason and tell the key the same. -/
theorem Plain.told_of_text (plain : mission.Plain) (plain' : other.Plain)
    (same : "|".intercalate (keyTail other) = "|".intercalate (keyTail mission)) :
    textOr other.blockedReason "" = textOr mission.blockedReason "" ∧
      other.keyed.Perm mission.keyed := by
  have clean (each : ResearchMission) (free : each.Plain) :
      ∀ part ∈ (keyTail each).map String.toList, '|' ∉ part := by
    intro part listed
    obtain ⟨text, member, rfl⟩ := List.mem_map.mp listed
    obtain rfl | inside := List.mem_cons.mp member
    · exact free.1
    · obtain ⟨keyed, told, rfl⟩ := List.mem_map.mp ((Py.mem_sortedBy id).mp inside)
      exact (free.2 keyed told).text_clean
  -- Without bars inside the parts, the bars are where the parts end.
  have chars := congrArg String.toList same
  rw [String.toList_intercalate, String.toList_intercalate] at chars
  have parts : (keyTail other).map String.toList = (keyTail mission).map String.toList :=
    Lines.eq_of_free (clean mission plain) (clean other plain') (by simp [keyTail])
      (by simp [keyTail]) chars
  have parts : keyTail other = keyTail mission :=
    List.map_injective_iff.mpr (fun _ _ => String.toList_inj.mp) parts
  obtain ⟨blocked, sorted⟩ := List.cons.inj parts
  refine ⟨blocked, ?_⟩
  have texts : (other.keyed.map KeyedHistory.text).Perm (mission.keyed.map KeyedHistory.text) :=
    (Py.sortedBy_perm id _).symm.trans (sorted ▸ Py.sortedBy_perm id _)
  -- The text of a plain candidate can be read back, so that the candidates are the same as well.
  have readBack (each : ResearchMission) (free : each.Plain) :
      (each.keyed.map KeyedHistory.text).map
        (Function.invFunOn KeyedHistory.text {keyed | keyed.Plain}) = each.keyed := by
    rw [List.map_map]
    refine (List.map_congr_left fun keyed told => ?_).trans (List.map_id _)
    have injective : Set.InjOn KeyedHistory.text {keyed | keyed.Plain} :=
      fun _ left _ right => left.text_inj right
    exact injective.leftInvOn_invFunOn (free.2 keyed told)
  have back := texts.map (Function.invFunOn KeyedHistory.text {keyed | keyed.Plain})
  rw [readBack other plain', readBack mission plain] at back
  exact back

/-- What a mission notes of its candidates once other stages failed. -/
theorem failures_restaged (mission : ResearchMission) (stages : StageStatuses) :
    (mission.restaged stages).failures = mission.candidateRecords.filterMap fun candidate =>
      StrategyCandidateRecord.failure { candidate with validationStageStatus := stages } := by
  rw [failures, candidateRecords_restaged, List.filterMap_map]
  rfl

/-- The same candidates in another order. -/
theorem holding_perm (mission : ResearchMission) {candidates candidates' : List PersistedCandidate}
    (same : candidates.Perm candidates') :
    SameHistory (mission.holding candidates) (mission.holding candidates') ∧
      (mission.holding candidates).keyed.Perm (mission.holding candidates').keyed :=
  have records := same.map StrategyCandidateRecord.fromJson
  ⟨⟨rfl, records.map StrategyCandidateRecord.history⟩,
    records.map StrategyCandidateRecord.keyed⟩

/-- Candidates in another order are plain if they were. -/
theorem Plain.of_perm {candidates : List PersistedCandidate} (plain : mission.Plain)
    (same : candidates.Perm mission.candidates) : (mission.holding candidates).Plain :=
  ⟨plain.1, fun keyed told =>
    plain.2 keyed ((holding_perm mission same).2.mem_iff.mp told)⟩

end ResearchMission

/-- A status of a stage that says that the costs were too high. -/
def costsFailed : StageStatuses := Table.ofRows [⟨"transaction_cost_stress", "fail"⟩]

/-- No reason says that the costs were too high. -/
theorem KeyedHistory.reasonClass_ne_costs (keyed : KeyedHistory) :
    keyed.reasonClass ≠ some .costSlippageFragility := by
  unfold reasonClass
  split_ifs <;> simp

namespace StrategyCandidateRecord

variable (candidate : StrategyCandidateRecord)

/-- The evidence says so once that stage failed. -/
theorem evidenceClass_costsFailed :
    evidenceClass { candidate with validationStageStatus := costsFailed } =
      .costSlippageFragility := by
  have failed : attemptedAndFailed { candidate with validationStageStatus := costsFailed }
      "transaction_cost_stress" = true := by
    have found : costsFailed.get "transaction_cost_stress" = some "fail" := rfl
    simp [attemptedAndFailed, stageStatus, found, passLikeStageStatuses]
  unfold evidenceClass
  rw [if_pos failed]

/-- It does not while no stage was attempted. -/
theorem evidenceClass_empty_ne_costs :
    evidenceClass { candidate with validationStageStatus := Table.empty } ≠
      .costSlippageFragility := by
  have idle (stage : String) :
      attemptedAndFailed { candidate with validationStageStatus := Table.empty } stage = false := by
    simp [attemptedAndFailed, stageStatus, StageStatuses.get, Table.empty, Table.find?]
  unfold evidenceClass
  simp only [idle, Bool.false_eq_true, if_false, List.any_cons, List.any_nil, Bool.or_self]
  split_ifs <;> simp

end StrategyCandidateRecord

section

variable {digest : String → String} {sessionRef : String} {mission : ResearchMission}

/-- A key that stands for a plain history among others leaves no class to the stages. -/
theorem reasonsDecide_of_stands (collisionFree : Function.Injective digest)
    (plain : mission.Plain)
    (stands : KeyStandsForHistory digest sessionRef ResearchMission.Plain mission) :
    mission.ReasonsDecide := by
  intro keyed told counts undecided
  obtain ⟨candidate, member, rfl⟩ := List.mem_map.mp told
  -- Once the costs failed for all candidates and once for none, the key is that of the mission.
  have conclusions (stages : StageStatuses) :=
    (stands (mission.restaged stages)
      ⟨plain.1, by rw [ResearchMission.keyed_restaged]; exact plain.2⟩ "" "").1
      ((fingerprint_eq_iff collisionFree).mpr (by rw [ResearchMission.keyTail_restaged]))
  have tallies := fun cls =>
    ((conclusions costsFailed).breakdown cls).trans ((conclusions Table.empty).breakdown cls).symm
  have tally := tallies .costSlippageFragility
  simp only [analyzeMissionFailure_eq, lookup_failureBreakdown,
    ResearchMission.failures_restaged] at tally
  rw [if_pos, if_neg] at tally
  · cases tally
  · -- Without a failed stage no candidate is counted for its costs.
    intro counted
    obtain ⟨row, noted, rises⟩ := List.mem_map.mp counted
    obtain ⟨other, -, failed⟩ := List.mem_filterMap.mp noted
    rw [StrategyCandidateRecord.failure_eq] at failed
    split_ifs at failed
    obtain rfl := Option.some.inj failed
    cases decided : KeyedHistory.reasonClass
        (StrategyCandidateRecord.keyed { other with validationStageStatus := Table.empty }) with
    | none => exact other.evidenceClass_empty_ne_costs (by simpa [decided] using rises)
    | some cls =>
      refine KeyedHistory.reasonClass_ne_costs _ (decided.trans (congrArg some ?_))
      simpa [decided] using rises
  · -- With one the undecided candidate is.
    refine List.mem_map.mpr ⟨(.costSlippageFragility, candidate.candidateId), ?_, rfl⟩
    refine List.mem_filterMap.mpr ⟨candidate, member, ?_⟩
    rw [StrategyCandidateRecord.failure_eq]
    have same : StrategyCandidateRecord.keyed
        { candidate with validationStageStatus := costsFailed } = candidate.keyed := rfl
    rw [same, if_pos counts, undecided, candidate.evidenceClass_costsFailed]
    rfl

/-- A key that stands for a plain history among others is that of one failure at most. -/
theorem oneNameCounts_of_stands (plain : mission.Plain)
    (stands : KeyStandsForHistory digest sessionRef ResearchMission.Plain mission) :
    mission.OneNameCounts := by
  -- Each candidate that counts can come first, and its name is then the first one that is noted.
  have first : ∀ keyed ∈ mission.keyed, keyed.Counts →
      (mission.failures.map (·.2)).head? = some keyed.candidateId := by
    intro keyed told counts
    obtain ⟨candidate, member, rfl⟩ := List.mem_map.mp told
    obtain ⟨raw, stored, rfl⟩ := List.mem_map.mp member
    obtain ⟨before, after, split⟩ := List.append_of_mem stored
    have moved : (raw :: (before ++ after)).Perm mission.candidates := by
      rw [split]
      exact List.perm_middle.symm
    have same := ResearchMission.holding_perm mission moved
    have conclusions := stands _ (plain.of_perm moved) "" ""
    have names := (conclusions.1 (conclusions.2 same.1)).evidenceCandidateIds
    rw [analyzeMissionFailure_eq, analyzeMissionFailure_eq] at names
    rw [← show _ = mission.failures.map (·.2) from names]
    simp only [ResearchMission.failures, ResearchMission.candidateRecords,
      ResearchMission.holding, List.map_cons]
    rw [List.filterMap_cons, StrategyCandidateRecord.failure_eq, if_pos counts]
    rfl
  intro keyed told keyed' told' counts counts'
  exact Option.some.inj ((first keyed told counts).symm.trans (first keyed' told' counts'))

section

variable (collisionFree : Function.Injective digest)

include collisionFree

/-- A plain history whose reasons decide, with one failure at most, is told by its key. -/
theorem stands_of_decided (plain : mission.Plain)
    (decided : mission.ReasonsDecide) (oneName : mission.OneNameCounts) :
    KeyStandsForHistory digest sessionRef ResearchMission.Plain mission := by
  intro other plain' now now'
  refine ⟨fun same => ?_, SameHistory.fingerprint_eq⟩
  obtain ⟨blocked, told⟩ := plain.told_of_text plain' ((fingerprint_eq_iff collisionFree).mp same)
  have decided' : other.ReasonsDecide := fun keyed member =>
    decided keyed (told.mem_iff.mp member)
  have noted : other.failures.Perm mission.failures := by
    rw [ResearchMission.failures_eq_keyed decided, ResearchMission.failures_eq_keyed decided']
    exact told.filterMap _
  refine sameConclusions_of_perm blocked noted ?_ now now'
  -- All names are one, so that their order does not matter.
  have always : ∀ names : List String, names.Pairwise fun _ _ => True :=
    fun _ => List.pairwise_of_forall fun _ _ => trivial
  refine (noted.map (·.2)).eq_of_pairwise ?_ (always _) (always _)
  intro name name' left right _ _
  obtain ⟨row, listed, rfl⟩ := List.mem_map.mp left
  obtain ⟨row', listed', rfl⟩ := List.mem_map.mp right
  obtain ⟨keyed, member, counts, named⟩ := ResearchMission.mem_failures_name listed
  obtain ⟨keyed', member', counts', named'⟩ := ResearchMission.mem_failures_name listed'
  rw [← named, ← named']
  exact oneName keyed (told.mem_iff.mp member) keyed' member' counts counts'

/-- Among plain histories, the key of one stands for it exactly if the reasons decide and one
failure at most is noted. -/
theorem stands_among_plain_iff (plain : mission.Plain) :
    KeyStandsForHistory digest sessionRef ResearchMission.Plain mission ↔
      mission.ReasonsDecide ∧ mission.OneNameCounts :=
  ⟨fun stands => ⟨reasonsDecide_of_stands collisionFree plain stands,
      oneNameCounts_of_stands plain stands⟩,
    fun ⟨decided, oneName⟩ => stands_of_decided collisionFree plain decided oneName⟩

/-- A key that stands for its history among all is that of a mission without candidates. -/
theorem candidates_eq_nil_of_stands
    (stands : KeyStandsForHistory digest sessionRef (fun _ => True) mission) :
    mission.candidates = [] := by
  by_contra filled
  -- All of the text can be the reason of a mission without candidates.
  let whole := "|".intercalate (keyTail mission)
  let other : ResearchMission := { mission with candidates := [], blockedReason := some whole }
  have read : textOr (some whole) "" = whole := textOr_some whole
  have tail : keyTail other = [whole] := congrArg (· :: _) read
  have same : missionHistoryFingerprint digest other sessionRef =
      missionHistoryFingerprint digest mission sessionRef := by
    rw [fingerprint_eq_iff collisionFree, tail, String.intercalate_singleton]
  have blocked := ((stands other trivial "" "").1 same).blockedReason
  rw [analyzeMissionFailure_eq, analyzeMissionFailure_eq] at blocked
  have blocked : whole = textOr mission.blockedReason "" := read.symm.trans blocked
  have parts : Py.sortedBy id (mission.keyed.map KeyedHistory.text) ≠ [] := by
    intro none_
    have many := congrArg List.length none_
    simp [ResearchMission.keyed, ResearchMission.candidateRecords, filled] at many
  -- But the reason is shorter than the text, by a bar at least.
  have longer := congrArg String.length blocked
  rw [show whole = textOr mission.blockedReason "" ++ "|" ++ "|".intercalate _ from
    String.intercalate_cons_of_ne_nil parts] at longer
  simp only [String.length_append] at longer
  have bar : ("|" : String).length = 1 := rfl
  omega

/-- Nor does such a mission have a reason that ends with a candidate. -/
theorem not_endsWithCandidate_of_stands
    (stands : KeyStandsForHistory digest sessionRef (fun _ => True) mission) :
    ¬EndsWithCandidate (textOr mission.blockedReason "") := by
  rintro ⟨before, keyed, ends⟩
  have nobody := candidates_eq_nil_of_stands collisionFree stands
  -- A mission that has that candidate, and the rest as its reason, has the same key.
  have tail : keyTail (mission.accusing before keyed) = [before, keyed.text] := by
    have told : (mission.accusing before keyed).keyed = [keyed] := by
      obtain ⟨candidateId, status, reason⟩ := keyed
      exact congrArg (fun text => [KeyedHistory.mk candidateId status text])
        (textOr_someText reason)
    unfold keyTail
    rw [told]
    exact congrArg (· :: _) (textOr_some before)
  have alone : keyTail mission = [textOr mission.blockedReason ""] := by
    simp [keyTail, ResearchMission.keyed, ResearchMission.candidateRecords, nobody, Py.sortedBy]
  have same : missionHistoryFingerprint digest (mission.accusing before keyed) sessionRef =
      missionHistoryFingerprint digest mission sessionRef := by
    rw [fingerprint_eq_iff collisionFree, tail, alone, ends, String.intercalate_cons_cons,
      String.intercalate_singleton, String.intercalate_singleton]
  have blocked := ((stands _ trivial "" "").1 same).blockedReason
  rw [analyzeMissionFailure_eq, analyzeMissionFailure_eq] at blocked
  have blocked : before = textOr mission.blockedReason "" := (textOr_some before).symm.trans blocked
  -- Its reason is shorter, by a bar at least.
  have longer := congrArg String.length (blocked.trans ends)
  simp only [String.length_append] at longer
  have bar : ("|" : String).length = 1 := rfl
  omega

/-- A mission without candidates, whose reason does not end with one, is told by its key. -/
theorem stands_of_nobody (nobody : mission.candidates = [])
    (whole : ¬EndsWithCandidate (textOr mission.blockedReason "")) :
    KeyStandsForHistory digest sessionRef (fun _ => True) mission := by
  intro other _ now now'
  refine ⟨fun same => ?_, SameHistory.fingerprint_eq⟩
  have texts := (fingerprint_eq_iff collisionFree).mp same
  have silent : mission.keyed = [] := by
    simp [ResearchMission.keyed, ResearchMission.candidateRecords, nobody]
  have alone : "|".intercalate (keyTail mission) = textOr mission.blockedReason "" := by
    simp [keyTail, silent, Py.sortedBy]
  rw [alone] at texts
  by_cases none_ : other.candidates = []
  · have silent' : other.keyed = [] := by
      simp [ResearchMission.keyed, ResearchMission.candidateRecords, none_]
    have blocked : textOr other.blockedReason "" = textOr mission.blockedReason "" := by
      rw [← texts]
      simp [keyTail, silent', Py.sortedBy]
    have noted : other.failures = mission.failures := by
      simp [ResearchMission.failures, ResearchMission.candidateRecords, none_, nobody]
    exact sameConclusions_of_perm blocked (.of_eq noted) (by rw [noted]) now now'
  · -- The last candidate of the other mission is what the reason would end with.
    have parts : Py.sortedBy id (other.keyed.map KeyedHistory.text) ≠ [] := by
      intro empty
      have many := congrArg List.length empty
      simp [ResearchMission.keyed, ResearchMission.candidateRecords, none_] at many
    obtain ⟨init, last, split⟩ := List.eq_nil_or_concat _ |>.resolve_left parts
    have listed : last ∈ Py.sortedBy id (other.keyed.map KeyedHistory.text) := by
      rw [split]
      simp
    obtain ⟨keyed, -, rfl⟩ := List.mem_map.mp ((Py.mem_sortedBy id).mp listed)
    refine absurd ⟨"|".intercalate (textOr other.blockedReason "" :: init), keyed, ?_⟩ whole
    rw [← texts]
    unfold keyTail
    rw [split, List.concat_eq_append, ← List.cons_append, String.intercalate_append_of_ne_nil
      (List.cons_ne_nil _ _) (List.cons_ne_nil _ _), String.intercalate_singleton]

end

/-- The key of a mission stands for its history among all missions exactly if it has no candidates
and its reason does not end with one, and that of a plain mission among the plain ones exactly if
the reasons decide the classes and the candidates that count have one name. -/
theorem keyStandsForHistory_iff (collisionFree : Function.Injective digest)
    (sessionRef : String) (mission : ResearchMission) :
    (KeyStandsForHistory digest sessionRef (fun _ => True) mission ↔
      mission.candidates = [] ∧ ¬EndsWithCandidate (textOr mission.blockedReason "")) ∧
    (mission.Plain →
      (KeyStandsForHistory digest sessionRef ResearchMission.Plain mission ↔
        mission.ReasonsDecide ∧ mission.OneNameCounts)) := by
  refine ⟨⟨fun stands => ?_, ?_⟩, stands_among_plain_iff collisionFree⟩
  · exact ⟨candidates_eq_nil_of_stands collisionFree stands,
      not_endsWithCandidate_of_stands collisionFree stands⟩
  · rintro ⟨nobody, whole⟩
    exact stands_of_nobody collisionFree nobody whole

end

/-- The text of the sample missions in one session. -/
def stalledText : String :=
  "telegram:101|strategy_hypothesis_space_exhausted|" ++
    "KR-ST-001:stagnant:stagnation: no measurable progress across bounded cycles"

/-- The SHA-256 of that text, cut off, and another one for each other text. -/
def historyDigest (text : String) : String :=
  if text = stalledText then "dbdc5adc980d839ffb90b8df4828093d" else "-" ++ text

/-- The sample digest tells texts apart. -/
theorem historyDigest_injective : Function.Injective historyDigest := by
  have apart (text : String) : ¬"dbdc5adc980d839ffb90b8df4828093d" = "-" ++ text := by
    intro same
    have heads := congrArg (fun whole => whole.toList.head?) same
    simp at heads
  intro text text' same
  unfold historyDigest at same
  split_ifs at same with left right right
  · rw [left, right]
  · exact absurd same (apart _)
  · exact absurd same.symm (apart _)
  · rw [← String.toList_inj, String.toList_append, String.toList_append] at same
    exact String.toList_inj.mp (List.append_cancel_left same)

/-- What the key is told of a candidate that was given up. -/
def givenUpKeyed : KeyedHistory :=
  ⟨"KR-ST-001", .stagnant, "stagnation: no measurable progress across bounded cycles"⟩

/-- A blocked mission whose one candidate was given up, with some statuses of stages. -/
def givenUpMission (stages : StageStatuses) : ResearchMission :=
  let scope : ResearchMission.ScopeUpdate :=
    { market := "KR", universeScope := .marketWide, symbols := [], exchanges := []
      strategyFamily := none, improveReturn := true, improveSafety := false
      baselineComparison := none, target := none, resumes := true, now := "t0" }
  ((ResearchMission.create scope).accusing "strategy_hypothesis_space_exhausted"
    givenUpKeyed).restaged stages

/-- A mission whose costs failed has the key of one in which nothing was tried. -/
theorem costs_unseen_by_key :
    missionHistoryFingerprint historyDigest (givenUpMission costsFailed) "telegram:101" =
        missionHistoryFingerprint historyDigest (givenUpMission Table.empty) "telegram:101" ∧
      (analyzeMissionFailure historyDigest (givenUpMission costsFailed) "telegram:101"
        "t1").dominantFailureClass = .costSlippageFragility ∧
      (analyzeMissionFailure historyDigest (givenUpMission Table.empty) "telegram:101"
        "t1").dominantFailureClass = .evidenceInsufficiency := by
  decide +kernel

/-- The key is told the same of it with any statuses of stages. -/
theorem keyed_givenUpMission (stages : StageStatuses) :
    (givenUpMission stages).keyed = [givenUpKeyed] := by
  unfold givenUpMission
  rw [ResearchMission.keyed_restaged]
  decide +kernel

/-- Such a mission is not told by its key, not even among the plain ones. -/
theorem givenUp_not_told :
    ¬KeyStandsForHistory historyDigest "telegram:101" (fun _ => True)
        (givenUpMission Table.empty) ∧
      ¬KeyStandsForHistory historyDigest "telegram:101" ResearchMission.Plain
        (givenUpMission Table.empty) := by
  have told := keyed_givenUpMission Table.empty
  obtain ⟨all, plainly⟩ := keyStandsForHistory_iff historyDigest_injective "telegram:101"
    (givenUpMission Table.empty)
  have plain : (givenUpMission Table.empty).Plain := by
    refine ⟨by decide +kernel, fun keyed member => ?_⟩
    rw [told] at member
    obtain rfl := List.mem_singleton.mp member
    exact ⟨by decide +kernel, by decide +kernel, by decide +kernel⟩
  rw [all, plainly plain]
  refine ⟨fun stands => ?_, fun stands => ?_⟩
  · cases stands.1
  · -- The reason says nothing of the class.
    refine stands.1 givenUpKeyed (told ▸ List.mem_singleton_self _) ?_ ?_
    · decide +kernel
    · decide +kernel

end StrategyLab
