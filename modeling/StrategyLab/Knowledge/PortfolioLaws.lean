import StrategyLab.Knowledge.Portfolio

/-! Laws of portfolios: their candidates are numbered, of distinct families, and of known rules. -/

namespace StrategyLab

namespace StrategyCandidateRecord

/-- A candidate whose rules, and the fingerprint of them, are those of a template. -/
structure OfTemplate (sha : Json → String) (candidate : StrategyCandidateRecord)
    (template : StrategyFamilyTemplate) : Prop where
  family : candidate.strategyFamily = template.family
  rules : candidate.specRules = template.specRules
  fingerprint : candidate.strategyFingerprint = template.specRules.strategyFamilyFingerprint sha

/-- Two records of one candidate. -/
structure SameIdentity (before after : StrategyCandidateRecord) : Prop where
  candidateId : after.candidateId = before.candidateId
  family : after.strategyFamily = before.strategyFamily
  rules : after.specRules = before.specRules
  fingerprint : after.strategyFingerprint = before.strategyFingerprint

/-- A candidate that can still be validated. -/
def IsOpen (candidate : StrategyCandidateRecord) : Prop :=
  candidate.status = .exploring ∨ candidate.status = .validating ∨ candidate.status = .robustness

/-- A candidate on which a verdict was given. -/
def HasVerdict (candidate : StrategyCandidateRecord) : Prop :=
  candidate.status = .promotionReady ∨ candidate.status = .rejected

variable {candidate : StrategyCandidateRecord}

/-- A verdict ends a candidate's research. -/
theorem HasVerdict.not_isOpen (verdict : candidate.HasVerdict) : ¬candidate.IsOpen := by
  rcases verdict with status | status <;> simp [IsOpen, status]

/-- A candidate without a verdict that was not given up is open. -/
theorem isOpen_of_ne
    (ready : candidate.status ≠ .promotionReady) (rejected : candidate.status ≠ .rejected)
    (stagnant : candidate.status ≠ .stagnant) : candidate.IsOpen := by
  unfold IsOpen
  cases status : candidate.status <;> simp_all

@[simp] theorem reloaded_candidateId (candidate : StrategyCandidateRecord) :
    candidate.reloaded.candidateId = candidate.candidateId := rfl

@[simp] theorem reloaded_status (candidate : StrategyCandidateRecord) :
    candidate.reloaded.status = candidate.status := rfl

@[simp] theorem reloaded_rejectedReason (candidate : StrategyCandidateRecord) :
    candidate.reloaded.rejectedReason = someText candidate.rejectedReason := rfl

@[simp] theorem reloaded_cyclesCompleted (candidate : StrategyCandidateRecord) :
    candidate.reloaded.cyclesCompleted = candidate.cyclesCompleted := rfl

/-- A record that is read back is one of the same candidate. -/
theorem SameIdentity.reloaded {before after : StrategyCandidateRecord}
    (same : SameIdentity before after) : SameIdentity before after.reloaded :=
  ⟨same.candidateId, same.family, same.rules, same.fingerprint⟩

/-- A candidate stays one of its template. -/
theorem OfTemplate.of_sameIdentity {sha : Json → String} {before after : StrategyCandidateRecord}
    {template : StrategyFamilyTemplate} (made : before.OfTemplate sha template)
    (same : SameIdentity before after) : after.OfTemplate sha template :=
  ⟨same.family.trans made.family, same.rules.trans made.rules,
    same.fingerprint.trans made.fingerprint⟩

end StrategyCandidateRecord

/-- The numbers of as many candidates as there are families are read back from their names. -/
theorem sequenceFromCandidateId_candidateId {number : Nat}
    (few : number < StrategyFamilies.templates.length) :
    sequenceFromCandidateId (candidateId (number + 1)) = number + 1 := by
  have all : ∀ number < StrategyFamilies.templates.length,
      sequenceFromCandidateId (candidateId (number + 1)) = number + 1 := by
    decide +kernel
  exact all number few

namespace Portfolio

/-- A portfolio as a mission builds it up: candidates are numbered in the order they are added, and
each is of a template, no two of the same one. -/
structure WellFormed (sha : Json → String) (portfolio : Portfolio) : Prop where
  numbered : portfolio.records.map (·.candidateId) =
    (List.range portfolio.sequence).map fun number => candidateId (number + 1)
  families : (portfolio.records.map (·.strategyFamily)).Nodup
  made : ∀ record ∈ portfolio.records, ∃ template ∈ StrategyFamilies.templates,
    record.OfTemplate sha template

variable {sha : Json → String} {portfolio : Portfolio} {before after : StrategyCandidateRecord}

/-- The records after one of them was replaced. -/
theorem mem_put_iff (known : before ∈ portfolio.records)
    (same : after.candidateId = before.candidateId) {record : StrategyCandidateRecord} :
    record ∈ (portfolio.put after).records ↔
      record = after.reloaded ∨
        record ∈ portfolio.records ∧ record.candidateId ≠ before.candidateId := by
  simp only [put, List.mem_map, same]
  constructor
  · rintro ⟨old, member, rfl⟩
    by_cases named : old.candidateId = before.candidateId
    · exact .inl (if_pos named)
    · rw [if_neg named]
      exact .inr ⟨member, named⟩
  · rintro (rfl | ⟨member, other⟩)
    · exact ⟨before, known, if_pos rfl⟩
    · exact ⟨record, member, if_neg other⟩

namespace WellFormed

variable (formed : portfolio.WellFormed sha)

include formed

/-- There are as many candidates as were numbered. -/
theorem length_records : portfolio.records.length = portfolio.sequence := by
  have lengths := congrArg List.length formed.numbered
  simpa using lengths

/-- There is at most one candidate for each family. -/
theorem sequence_le : portfolio.sequence ≤ StrategyFamilies.templates.length := by
  have known : portfolio.records.map (·.strategyFamily) ⊆
      StrategyFamilies.templates.map (·.family) := by
    intro family member
    obtain ⟨record, inside, rfl⟩ := List.mem_map.mp member
    obtain ⟨template, listed, made⟩ := formed.made record inside
    exact List.mem_map.mpr ⟨template, listed, made.family.symm⟩
  have fewer := (List.subperm_of_subset formed.families known).length_le
  simpa [formed.length_records] using fewer

/-- No two candidates have the same name. -/
theorem nodup_candidateId : (portfolio.records.map (·.candidateId)).Nodup := by
  rw [formed.numbered]
  refine (List.nodup_map_iff_inj_on List.nodup_range).mpr fun first below second under same => ?_
  -- The numbers are read back from the names.
  have bound := formed.sequence_le
  rw [List.mem_range] at below under
  have parsed : sequenceFromCandidateId (candidateId (first + 1)) = first + 1 :=
    sequenceFromCandidateId_candidateId (by omega)
  rw [same, sequenceFromCandidateId_candidateId (by omega)] at parsed
  omega

variable {first second : StrategyCandidateRecord}

/-- A candidate is known by its name. -/
theorem eq_of_candidateId_eq (left : first ∈ portfolio.records)
    (right : second ∈ portfolio.records) (same : first.candidateId = second.candidateId) :
    first = second :=
  List.inj_on_of_nodup_map formed.nodup_candidateId left right same

/-- A candidate is known by its family. -/
theorem eq_of_family_eq (left : first ∈ portfolio.records)
    (right : second ∈ portfolio.records) (same : first.strategyFamily = second.strategyFamily) :
    first = second :=
  List.inj_on_of_nodup_map formed.families left right same

/-- What a new record has in common with the old one stays as it is along the records. -/
theorem map_put (known : before ∈ portfolio.records)
    (same : after.candidateId = before.candidateId) {β : Type} {f : StrategyCandidateRecord → β}
    (kept : f after.reloaded = f before) :
    (portfolio.put after).records.map f = portfolio.records.map f := by
  simp only [put, List.map_map]
  refine List.map_congr_left fun record member => ?_
  by_cases named : record.candidateId = after.candidateId
  · rw [Function.comp_apply, if_pos named, kept,
      formed.eq_of_candidateId_eq known member (named.trans same).symm]
  · rw [Function.comp_apply, if_neg named]

/-- Another record of a candidate keeps a portfolio well formed. -/
theorem put (known : before ∈ portfolio.records)
    (same : before.SameIdentity after) : (portfolio.put after).WellFormed sha where
  numbered := by
    rw [formed.map_put known same.candidateId same.candidateId]
    exact formed.numbered
  families := by
    rw [formed.map_put known same.candidateId same.family]
    exact formed.families
  made := by
    intro record member
    rcases (mem_put_iff known same.candidateId).mp member with rfl | ⟨old, -⟩
    · obtain ⟨template, listed, made⟩ := formed.made before known
      exact ⟨template, listed, made.of_sameIdentity same.reloaded⟩
    · exact formed.made record old

/-- Another active candidate keeps a portfolio well formed. -/
theorem focus (candidateId : Option String) :
    (portfolio.focus candidateId).WellFormed sha :=
  ⟨formed.numbered, formed.families, formed.made⟩

/-- A portfolio that is read back is well formed. -/
theorem reloaded : portfolio.reloaded.WellFormed sha :=
  ⟨formed.numbered, formed.families, formed.made⟩

/-- An announcement keeps a portfolio well formed. -/
theorem announce (candidate : StrategyCandidateRecord)
    (now : String) : (portfolio.announce candidate now).WellFormed sha where
  numbered := by simpa using formed.numbered
  families := by simpa using formed.families
  made := by simpa using formed.made

section Adding

variable {template : StrategyFamilyTemplate} (now : String)

/-- A family that was not tried leaves a number for its candidate. -/
theorem sequence_lt (listed : template ∈ StrategyFamilies.templates)
    (untried : template.family ∉ portfolio.records.map (·.strategyFamily)) :
    portfolio.sequence < StrategyFamilies.templates.length := by
  have known : template.family :: portfolio.records.map (·.strategyFamily) ⊆
      StrategyFamilies.templates.map (·.family) := by
    refine List.cons_subset.mpr ⟨List.mem_map_of_mem listed, fun family member => ?_⟩
    obtain ⟨record, inside, rfl⟩ := List.mem_map.mp member
    obtain ⟨made, there, of⟩ := formed.made record inside
    exact List.mem_map.mpr ⟨made, there, of.family.symm⟩
  have fewer := (List.subperm_of_subset (List.nodup_cons.mpr ⟨untried, formed.families⟩)
    known).length_le
  rw [List.length_cons, List.length_map, List.length_map, formed.length_records] at fewer
  exact fewer

/-- The next name is a new one. -/
theorem next_fresh (listed : template ∈ StrategyFamilies.templates)
    (untried : template.family ∉ portfolio.records.map (·.strategyFamily)) :
    candidateId (portfolio.sequence + 1) ∉ portfolio.records.map (·.candidateId) := by
  rw [formed.numbered]
  intro member
  obtain ⟨number, below, same⟩ := List.mem_map.mp member
  have bound := formed.sequence_lt listed untried
  rw [List.mem_range] at below
  have parsed := sequenceFromCandidateId_candidateId bound
  rw [← same, sequenceFromCandidateId_candidateId (by omega)] at parsed
  omega

/-- A candidate of a family that was not tried keeps a portfolio well formed. -/
theorem add (listed : template ∈ StrategyFamilies.templates)
    (untried : template.family ∉ portfolio.records.map (·.strategyFamily)) :
    (portfolio.add (template.newRecord sha (portfolio.sequence + 1) now)).WellFormed sha where
  numbered := by
    have bound := formed.sequence_lt listed untried
    have number : max portfolio.sequence (sequenceFromCandidateId
        (template.newRecord sha (portfolio.sequence + 1) now).candidateId) =
          portfolio.sequence + 1 := by
      rw [StrategyFamilyTemplate.newRecord, sequenceFromCandidateId_candidateId bound]
      omega
    simp only [Portfolio.add, number, List.map_append, formed.numbered, List.range_succ]
    rfl
  families := by
    simp only [Portfolio.add, List.map_append, List.map_cons, List.map_nil]
    refine List.nodup_append.mpr ⟨formed.families, List.nodup_singleton _, ?_⟩
    intro family tried other new same
    have named : other = template.family := List.mem_singleton.mp new
    exact untried (named ▸ same ▸ tried)
  made := by
    intro record member
    rcases List.mem_append.mp member with old | new
    · exact formed.made record old
    · rw [List.mem_singleton.mp new]
      exact ⟨template, listed, rfl, rfl, rfl⟩

end Adding

end WellFormed

end Portfolio

end StrategyLab
