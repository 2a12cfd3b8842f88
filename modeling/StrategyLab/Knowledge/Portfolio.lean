import StrategyLab.Knowledge.ResearchMission

/-! Portfolios: the candidates of a mission, the active one, and the strategies found ready. -/

namespace StrategyLab

/-- A record that was stored and read back. -/
def StrategyCandidateRecord.reloaded (candidate : StrategyCandidateRecord) :
    StrategyCandidateRecord :=
  .fromJson candidate.toJson

/-- What of a mission its candidates are decided by. -/
structure Portfolio where
  records : List StrategyCandidateRecord
  active : Option String
  ready : List PromotionReadyStrategy
  sequence : Nat

namespace Portfolio

/-- The portfolio with another record of a candidate. -/
def put (portfolio : Portfolio) (candidate : StrategyCandidateRecord) : Portfolio :=
  { portfolio with
    records := portfolio.records.map fun record =>
      if record.candidateId = candidate.candidateId then candidate.reloaded else record }

/-- The portfolio with another active candidate. -/
def focus (portfolio : Portfolio) (candidateId : Option String) : Portfolio :=
  { portfolio with active := candidateId }

/-- The portfolio with one more candidate, which is the active one. -/
def add (portfolio : Portfolio) (candidate : StrategyCandidateRecord) : Portfolio :=
  { portfolio with
    records := portfolio.records ++ [candidate.reloaded]
    active := some candidate.candidateId
    sequence := max portfolio.sequence (sequenceFromCandidateId candidate.candidateId) }

/-- The portfolio with one more strategy that is ready, unless it is there or has no name. -/
def announce (portfolio : Portfolio) (candidate : StrategyCandidateRecord) (now : String) :
    Portfolio :=
  let fingerprint := Py.strip candidate.strategyFingerprint
  if fingerprint = "" ∨ fingerprint ∈ portfolio.ready.map (·.strategyFingerprint) then portfolio
  else
    { portfolio with
      ready := portfolio.ready ++ [⟨fingerprint, candidate.candidateId, now⟩] }

/-- The portfolio that is read back. -/
def reloaded (portfolio : Portfolio) : Portfolio :=
  { portfolio with
    active := someText portfolio.active
    ready := portfolio.ready.filter fun strategy => Py.strip strategy.strategyFingerprint ≠ "" }

@[simp] theorem put_active (portfolio : Portfolio) (candidate : StrategyCandidateRecord) :
    (portfolio.put candidate).active = portfolio.active := rfl

@[simp] theorem put_ready (portfolio : Portfolio) (candidate : StrategyCandidateRecord) :
    (portfolio.put candidate).ready = portfolio.ready := rfl

@[simp] theorem put_sequence (portfolio : Portfolio) (candidate : StrategyCandidateRecord) :
    (portfolio.put candidate).sequence = portfolio.sequence := rfl

@[simp] theorem focus_records (portfolio : Portfolio) (candidateId : Option String) :
    (portfolio.focus candidateId).records = portfolio.records := rfl

@[simp] theorem focus_active (portfolio : Portfolio) (candidateId : Option String) :
    (portfolio.focus candidateId).active = candidateId := rfl

@[simp] theorem focus_ready (portfolio : Portfolio) (candidateId : Option String) :
    (portfolio.focus candidateId).ready = portfolio.ready := rfl

@[simp] theorem focus_sequence (portfolio : Portfolio) (candidateId : Option String) :
    (portfolio.focus candidateId).sequence = portfolio.sequence := rfl

@[simp] theorem reloaded_records (portfolio : Portfolio) :
    portfolio.reloaded.records = portfolio.records := rfl

@[simp] theorem announce_records (portfolio : Portfolio) (candidate : StrategyCandidateRecord)
    (now : String) : (portfolio.announce candidate now).records = portfolio.records := by
  simp only [announce]
  split <;> rfl

@[simp] theorem announce_active (portfolio : Portfolio) (candidate : StrategyCandidateRecord)
    (now : String) : (portfolio.announce candidate now).active = portfolio.active := by
  simp only [announce]
  split <;> rfl

@[simp] theorem announce_sequence (portfolio : Portfolio) (candidate : StrategyCandidateRecord)
    (now : String) : (portfolio.announce candidate now).sequence = portfolio.sequence := by
  simp only [announce]
  split <;> rfl

/-- Of two records of one candidate, the second one counts. -/
theorem put_put {portfolio : Portfolio} {first second : StrategyCandidateRecord}
    (same : second.candidateId = first.candidateId) :
    (portfolio.put first).put second = portfolio.put second := by
  have once : ∀ record : StrategyCandidateRecord,
      (if (if record.candidateId = first.candidateId then first.reloaded else record).candidateId =
          second.candidateId then second.reloaded
        else if record.candidateId = first.candidateId then first.reloaded else record) =
        if record.candidateId = second.candidateId then second.reloaded else record := by
    intro record
    by_cases hit : record.candidateId = first.candidateId
    · have stored : first.reloaded.candidateId = second.candidateId := same.symm
      rw [if_pos hit, if_pos stored, if_pos (hit.trans same.symm)]
    · have other : record.candidateId ≠ second.candidateId := fun agree => hit (agree.trans same)
      rw [if_neg hit, if_neg other]
  simp only [put, List.map_map, Function.comp_def, once]

end Portfolio

namespace ResearchMission

variable (mission : ResearchMission) (candidate : StrategyCandidateRecord) (now : String)

/-- The portfolio of a mission. -/
def portfolio : Portfolio :=
  { records := mission.candidateRecords
    active := mission.activeCandidateId
    ready := mission.promotionReadyCandidates
    sequence := mission.candidateSequence }

@[simp] theorem portfolio_clearFocusSymbol :
    (mission.clearFocusSymbol now).portfolio = mission.portfolio := rfl

@[simp] theorem portfolio_recordFocusSymbol (symbol : String) :
    (mission.recordFocusSymbol symbol now).portfolio = mission.portfolio := rfl

@[simp] theorem portfolio_recordBlocked (reason : String) :
    (mission.recordBlocked reason now).portfolio = mission.portfolio := rfl

@[simp] theorem portfolio_recordCycleResult (symbols : List String) :
    (mission.recordCycleResult symbols now).portfolio = mission.portfolio := rfl

@[simp] theorem portfolio_setActiveCandidate (candidateId : Option String) :
    (mission.setActiveCandidate candidateId now).portfolio =
      mission.portfolio.focus candidateId := rfl

@[simp] theorem portfolio_updated (update : ScopeUpdate) :
    (mission.updated update).portfolio = mission.portfolio := rfl

@[simp] theorem portfolio_reloaded :
    mission.reloaded.portfolio = mission.portfolio.reloaded := rfl

@[simp] theorem portfolio_create (first : ScopeUpdate) :
    (create first).portfolio = ⟨[], none, [], 0⟩ := rfl

/-- A new record is stored in place of the old one, if there is an old one. -/
@[simp] theorem portfolio_updateCandidate :
    (mission.updateCandidate candidate now).portfolio = mission.portfolio.put candidate := by
  unfold updateCandidate
  split
  · simp only [portfolio, Portfolio.put, candidateRecords, List.map_map, Portfolio.mk.injEq,
      and_true]
    refine List.map_congr_left fun stored _ => ?_
    by_cases named : stored.fields.candidateId = candidate.candidateId
    · rw [Function.comp_apply, Function.comp_apply, if_pos named]
      exact (if_pos named).symm
    · rw [Function.comp_apply, Function.comp_apply, if_neg named]
      exact (if_neg named).symm
  · -- No record has the name, so nothing is replaced on either side.
    rename_i missing
    have untouched : ∀ record ∈ mission.candidateRecords,
        (if record.candidateId = candidate.candidateId then candidate.reloaded else record) =
          record := by
      intro record member
      obtain ⟨stored, inside, rfl⟩ := List.mem_map.mp member
      refine if_neg fun named => missing (List.any_eq_true.mpr ⟨stored, inside, ?_⟩)
      exact decide_eq_true named
    simp only [portfolio, Portfolio.put]
    rw [List.map_congr_left untouched, List.map_id']

/-- A candidate with a new name is stored behind the others. -/
theorem portfolio_addCandidate
    (fresh : candidate.candidateId ∉ mission.portfolio.records.map (·.candidateId)) :
    (mission.addCandidate candidate now).portfolio = mission.portfolio.add candidate := by
  have unknown : ¬(mission.getCandidate candidate.candidateId).isSome := by
    rw [getCandidate, List.find?_isSome]
    rintro ⟨record, member, named⟩
    exact fresh (List.mem_map.mpr ⟨record, member, of_decide_eq_true named⟩)
  rw [addCandidate, if_neg unknown]
  simp only [portfolio, Portfolio.add, candidateRecords, List.map_append, List.map_cons,
    List.map_nil]
  rfl

/-- A strategy is announced under the name of its candidate. -/
@[simp] theorem portfolio_recordPromotionCandidate :
    (mission.recordPromotionCandidate candidate.strategyFingerprint candidate.candidateId
      now).portfolio = mission.portfolio.announce candidate now := by
  simp only [recordPromotionCandidate, Portfolio.announce]
  by_cases known : Py.strip candidate.strategyFingerprint = "" ∨
      Py.strip candidate.strategyFingerprint ∈
        mission.promotionReadyCandidates.map (·.strategyFingerprint)
  · rw [if_pos known]
    exact (if_pos known).symm
  · rw [if_neg known]
    exact (if_neg known).symm

/-- The active candidate is one of the records, under the active name. -/
theorem mem_of_getActiveCandidate {active : StrategyCandidateRecord}
    (found : mission.getActiveCandidate = some active) :
    active ∈ mission.portfolio.records ∧
      mission.portfolio.active = some active.candidateId := by
  obtain ⟨candidateId, named, got⟩ := Option.bind_eq_some_iff.mp found
  have same : active.candidateId = candidateId := by simpa using List.find?_some got
  exact ⟨List.mem_of_find?_eq_some got, same ▸ named⟩

/-- A record is read back as it is. -/
theorem reloaded_of_mem {record : StrategyCandidateRecord}
    (member : record ∈ mission.portfolio.records) : record.reloaded = record := by
  obtain ⟨stored, -, rfl⟩ := List.mem_map.mp member
  have text : ∀ value, someText (someText value) = someText value := by
    intro value
    cases value with
    | none => rfl
    | some value => by_cases empty : value = "" <;> simp [someText, empty]
  have slice : ∀ items : List ValidationAttempt,
      Py.lastSlice actionCycleHistoryCap (Py.lastSlice actionCycleHistoryCap items) =
        Py.lastSlice actionCycleHistoryCap items := by
    intro items
    simp only [Py.lastSlice, actionCycleHistoryCap]
    simp only [Nat.cast_ofNat, Nat.ofNat_pos, if_true, List.length_drop, List.drop_drop]
    congr 1
    omega
  simp only [StrategyCandidateRecord.reloaded, StrategyCandidateRecord.toJson,
    StrategyCandidateRecord.fromJson, text, slice, Option.isSome_some, if_true, Option.getD_some]

end ResearchMission

end StrategyLab
