import StrategyLab.Knowledge.StrategyCandidate

/-! What one breadth cycle does to the evidence: which symbols are kept, and what is found there. -/

namespace StrategyLab

namespace EvidenceDetails

@[simp] theorem keyList_normalized (details : EvidenceDetails) :
    details.normalized.keyList = details.keyList := by
  simp only [normalized, Table.keyList, List.map_map]
  rfl

/-- An entry is found where the detail it was made of is. -/
theorem find?_normalized (details : EvidenceDetails) (symbol : String) :
    details.normalized.find? symbol =
      (details.find? symbol).map normalizeBreadthEvidenceDetail := by
  simp only [normalized, Table.find?, List.find?_map]
  rfl

end EvidenceDetails

namespace BreadthEvidence

variable (evidence : BreadthEvidence) (details : EvidenceDetails) (excluded : List String)

/-- The symbols after a cycle: those of before, the reported ones, the excluded ones, cut. -/
theorem keyList_record : (evidence.record details excluded).keyList =
    (Py.addKeys evidence.keyList (details.keyList ++ excluded)).take breadthEvidenceSymbolCap := by
  have bare : (excluded.map (SymbolEvidence.bare · false "multi_symbol_research")).map
      SymbolEvidence.symbol = excluded := by
    rw [List.map_map]
    exact List.map_id excluded
  rw [record, Table.keyList_take, Table.keyList_setDefaults, Table.keyList_overlay, bare,
    EvidenceDetails.keyList_normalized, Py.addKeys_append]

variable {symbol : String}

/-- A symbol that is kept has its new entry, else its old one, else it is excluded. -/
theorem find?_record (kept : symbol ∈ (evidence.record details excluded).keyList) :
    (evidence.record details excluded).find? symbol =
      ((details.normalized.find? symbol).or (evidence.find? symbol)).or
        ((excluded.map (SymbolEvidence.bare · false "multi_symbol_research")).find?
          fun entry => entry.symbol = symbol) := by
  rw [record, Table.keyList_take] at kept
  rw [record, Table.find?_take, if_pos kept, Table.find?_setDefaults, Table.find?_overlay]

/-- The cap is kept. -/
theorem length_record_le :
    (evidence.record details excluded).keyList.length ≤ breadthEvidenceSymbolCap := by
  rw [keyList_record]
  exact List.length_take_le _ _

section

variable (within : evidence.keyList.length ≤ breadthEvidenceSymbolCap)

include within

/-- A symbol that was kept once is not cut off later. -/
theorem mem_record (known : symbol ∈ evidence.keyList) :
    symbol ∈ (evidence.record details excluded).keyList := by
  obtain ⟨rest, whole⟩ := Py.prefix_addKeys evidence.keyList (details.keyList ++ excluded)
  rw [keyList_record, ← whole, List.take_append, List.take_of_length_le within]
  exact List.mem_append_left _ known

/-- A symbol the cycle reports nothing of keeps its entry. -/
theorem find?_record_of_not_reported {entry : SymbolEvidence}
    (found : evidence.find? symbol = some entry) (other : symbol ∉ details.keyList) :
    (evidence.record details excluded).find? symbol = some entry := by
  have known : symbol ∈ evidence.keyList := Table.mem_keyList_iff.mpr (by simp [found])
  have missing : details.normalized.find? symbol = none :=
    Table.find?_of_not_mem (by simpa using other)
  rw [find?_record evidence details excluded (mem_record evidence details excluded within known),
    missing, found]
  rfl

/-- A kept symbol has the entry that the cycle reports of it. -/
theorem find?_record_of_reported {detail : EvidenceDetail}
    (known : symbol ∈ evidence.keyList) (reported : details.find? symbol = some detail) :
    (evidence.record details excluded).find? symbol =
      some (normalizeBreadthEvidenceDetail detail) := by
  rw [find?_record evidence details excluded (mem_record evidence details excluded within known),
    EvidenceDetails.find?_normalized, reported]
  rfl

end

/-- The same cycle once more changes nothing. -/
theorem record_record : (evidence.record details excluded).record details excluded =
    evidence.record details excluded := by
  have within := length_record_le evidence details excluded
  -- A reported symbol is either there already or was cut off, and then the cap is reached.
  have keys : ((evidence.record details excluded).record details excluded).keyList =
      (evidence.record details excluded).keyList := by
    rw [keyList_record]
    conv_lhs => rw [keyList_record evidence]
    rw [Py.take_addKeys_take, Py.addKeys_eq_self, keyList_record]
    intro symbol member
    exact Py.mem_addKeys.mpr (.inr member)
  refine Table.ext_of_find? keys fun symbol kept => ?_
  rw [find?_record _ details excluded kept]
  rw [keys] at kept
  rw [find?_record evidence details excluded kept]
  -- What the first time found is what the second time falls back to.
  cases details.normalized.find? symbol <;> cases evidence.find? symbol <;> simp

end BreadthEvidence

/-- A record whose counts are those of its evidence. -/
def StrategyCandidateRecord.Recounted (candidate : StrategyCandidateRecord) : Prop :=
  candidate.breadthEvidence.counts candidate.breadthLegacyTradeCount =
    { attempted := candidate.attemptedSymbols, valid := candidate.validSymbols,
      tradeCount := candidate.tradeCount, evidenceSymbols := candidate.evidenceSymbols,
      excludedSymbols := candidate.excludedSymbols, evidence := candidate.breadthEvidence }

/-- Without symbols there is nothing to start from. -/
@[simp] theorem seededEvidence_nil : seededEvidence [] [] = Table.empty := rfl

/-- A recounted record goes on from its own evidence. -/
theorem StrategyCandidateRecord.Recounted.seed_eq {candidate : StrategyCandidateRecord}
    (recounted : candidate.Recounted) :
    seedBreadthEvidence candidate = candidate.breadthEvidence := by
  unfold seedBreadthEvidence
  split
  · rename_i none
    -- An empty table lists no symbols of either kind.
    simp only [Recounted, BreadthEvidence.counts, BreadthCounts.mk.injEq, none] at recounted
    obtain ⟨-, -, -, evidence, excluded, -⟩ := recounted
    rw [← evidence, ← excluded]
    exact Table.ext none.symm
  · rfl

variable {progress : BreadthProgress} {details : EvidenceDetails}

/-- The evidence after a cycle with details. -/
theorem breadthEvidence_recordBreadthProgress (candidate : StrategyCandidateRecord)
    (given : progress.evidenceDetails = some details) :
    (recordBreadthProgress candidate progress).breadthEvidence =
      (seedBreadthEvidence candidate).record details progress.excludedSymbols := by
  simp only [recordBreadthProgress, breadthCounts, given, BreadthEvidence.counts]

@[simp] theorem breadthLegacyTradeCount_recordBreadthProgress
    (candidate : StrategyCandidateRecord) :
    (recordBreadthProgress candidate progress).breadthLegacyTradeCount =
      candidate.breadthLegacyTradeCount := rfl

/-- A cycle with details leaves a record whose counts are those of its evidence. -/
theorem recounted_recordBreadthProgress (candidate : StrategyCandidateRecord)
    (given : progress.evidenceDetails = some details) :
    (recordBreadthProgress candidate progress).Recounted := by
  simp only [StrategyCandidateRecord.Recounted, recordBreadthProgress, breadthCounts, given,
    BreadthEvidence.counts]

end StrategyLab
