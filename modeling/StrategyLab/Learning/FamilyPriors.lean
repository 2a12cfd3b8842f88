import StrategyLab.Knowledge.StrategyFamilies
import StrategyLab.Learning.LearningRecords
import StrategyLab.Lib.Averages
import StrategyLab.Lib.Rounding
import Mathlib.Data.Prod.Lex

/-! Learned family priors: what stored records say of the families of strategies, and the order in
which the families are then tried. -/

namespace StrategyLab.FamilyPriors

open Learning (LearningRecordType)

/-- A confidence and what conflicts take from it, both from zero to one. -/
structure ConfidenceScore where
  value : ℚ
  conflictPenalty : ℚ
  valueUnit : value ∈ Set.Icc 0 1
  penaltyUnit : conflictPenalty ∈ Set.Icc 0 1

/-- What priors are made of in a stored record; times are seconds. -/
structure LearningRecord where
  recordType : LearningRecordType
  strategy : String
  content : String
  confidence : ConfidenceScore
  revalidationDueAt : Int

/-- How much a memory that is overdue still counts. -/
def learningFreshnessMultiplier (record : LearningRecord) (referenceTime : Int) : ℚ :=
  if referenceTime ≤ record.revalidationDueAt then 1
  else
    let overdueDays : ℚ := (referenceTime - record.revalidationDueAt : Int) / 86400
    if overdueDays ≤ 7 then 17 / 20
    else if overdueDays ≤ 30 then 13 / 20
    else if overdueDays ≤ 90 then 2 / 5
    else 1 / 5

/-- The confidence in a memory at a time. -/
def effectiveLearningConfidence (record : LearningRecord) (referenceTime : Int) : ℚ :=
  Py.round 6 (record.confidence.value * learningFreshnessMultiplier record referenceTime)

/-- What is learned of a family. -/
structure FamilyLearningPrior where
  family : String
  score : ℚ
  recordCount : Nat
  successCount : Nat
  failureCount : Nat
  meanConfidence : ℚ
  conflictPenalty : ℚ

/-- How many records are of a type. -/
def countType (recordType : LearningRecordType) (records : List LearningRecord) : Nat :=
  records.countP fun record => record.recordType = recordType

/-- What successes and failures of one family take from each other. -/
def structuralConflict (records : List LearningRecord) : ℚ :=
  let successes := countType .successPattern records
  let failures := countType .failurePattern records
  if successes ≠ 0 ∧ failures ≠ 0 then min (11 / 20) (3 / 20 * (min successes failures : Nat))
  else 0

/-- How much a record counts. -/
def weight (structural : ℚ) (referenceTime : Int) (record : LearningRecord) : ℚ :=
  effectiveLearningConfidence record referenceTime *
    (1 - max record.confidence.conflictPenalty structural)

/-- What a record adds to the score of its family. -/
def contribution (structural : ℚ) (referenceTime : Int) (record : LearningRecord) : ℚ :=
  match record.recordType with
  | .successPattern => weight structural referenceTime record
  | .failurePattern => -weight structural referenceTime record
  | _ =>
    if Py.contains record.content "economic_status=pass" then
      7 / 20 * weight structural referenceTime record
    else if Py.contains record.content "economic_status=fail" then
      -(7 / 20 * weight structural referenceTime record)
    else 0

/-- A sum over some records, for each of them. -/
def mean (amounts : List ℚ) : ℚ := amounts.sum / amounts.length

/-- The score of a family before it is rounded. -/
def exactScore (records : List LearningRecord) (referenceTime : Int) : ℚ :=
  mean (records.map (contribution (structuralConflict records) referenceTime))

/-- The prior of a family with some records. -/
def prior (family : String) (records : List LearningRecord) (referenceTime : Int) :
    FamilyLearningPrior :=
  let confidence := mean (records.map (effectiveLearningConfidence · referenceTime))
  let storedConflict := mean (records.map (·.confidence.conflictPenalty))
  { family
    score := Py.round 6 (exactScore records referenceTime)
    recordCount := records.length
    successCount := countType .successPattern records
    failureCount := countType .failurePattern records
    meanConfidence := Py.round 6 confidence
    conflictPenalty := Py.round 6 (max storedConflict (structuralConflict records)) }

/-- Whether a record tells of a family, and not of what runs. -/
def isFamilyRecord (record : LearningRecord) : Bool :=
  record.strategy ∉ ["execution-cost", "autonomous-research"] &&
    !Py.startswith record.strategy "runtime:"

/-- The records of one family. -/
def recordsOf (records : List LearningRecord) (family : String) : List LearningRecord :=
  (records.filter isFamilyRecord).filter (·.strategy = family)

/-- The priors of all families that the records of a market tell of, the best ones first. -/
def familyPriorDetails (records : List LearningRecord) (referenceTime : Int) :
    List FamilyLearningPrior :=
  let families := ((records.filter isFamilyRecord).map (·.strategy)).eraseDups
  Py.sortedBy (fun found => toLex (-found.score, found.family))
    (families.map fun family => prior family (recordsOf records family) referenceTime)

/-- The scores of the families. -/
def familyPriors (records : List LearningRecord) (referenceTime : Int) : List (String × ℚ) :=
  (familyPriorDetails records referenceTime).map fun found => (found.family, found.score)

/-- The templates in the order of their scores; those with equal ones keep their order. -/
def rankTemplatesByLearning (templates : List StrategyFamilyTemplate)
    (familyPreferences : List (String × ℚ)) : List StrategyFamilyTemplate :=
  if familyPreferences = [] then templates
  else Py.sortedBy (fun template => -((familyPreferences.lookup template.family).getD 0)) templates

/-- What a new record takes from the scores of the others, as more of a conflict. -/
def conflictLoss (records : List LearningRecord) (new : LearningRecord) (referenceTime : Int) : ℚ :=
  (records.map (contribution (structuralConflict records) referenceTime)).sum -
    (records.map (contribution (structuralConflict (new :: records)) referenceTime)).sum

/-- A success counts at least the score of its family and what it takes from the others. -/
def Outweighs (records : List LearningRecord) (new : LearningRecord) (referenceTime : Int) : Prop :=
  exactScore (recordsOf records new.strategy) referenceTime +
      conflictLoss (recordsOf records new.strategy) new referenceTime ≤
    weight (structuralConflict (new :: recordsOf records new.strategy)) referenceTime new

/-- A failure counts against its family at least as much as the score, with what the failure takes
from the others. -/
def Undercuts (records : List LearningRecord) (new : LearningRecord) (referenceTime : Int) : Prop :=
  -weight (structuralConflict (new :: recordsOf records new.strategy)) referenceTime new ≤
    exactScore (recordsOf records new.strategy) referenceTime +
      conflictLoss (recordsOf records new.strategy) new referenceTime

section Bounds

variable {records : List LearningRecord} {referenceTime : Int}

/-- A memory never counts more than when it is fresh. -/
theorem freshness_mem (record : LearningRecord) (referenceTime : Int) :
    learningFreshnessMultiplier record referenceTime ∈ Set.Icc 0 1 := by
  unfold learningFreshnessMultiplier
  dsimp only
  split
  · norm_num
  · split
    · norm_num
    · split
      · norm_num
      · split <;> norm_num

/-- The confidence in a memory is from zero to one at any time. -/
theorem effective_mem (record : LearningRecord) (referenceTime : Int) :
    effectiveLearningConfidence record referenceTime ∈ Set.Icc 0 1 := by
  have value := record.confidence.valueUnit
  have fresh := freshness_mem record referenceTime
  constructor
  · exact Py.le_round (by exact_mod_cast Py.hasDigits_intCast 6 0) (mul_nonneg value.1 fresh.1)
  · exact Py.round_le (by exact_mod_cast Py.hasDigits_intCast 6 1)
      (mul_le_one₀ value.2 fresh.1 fresh.2)

/-- Successes and failures take at most a part of the confidence. -/
theorem structuralConflict_mem (records : List LearningRecord) :
    structuralConflict records ∈ Set.Icc 0 1 := by
  unfold structuralConflict
  dsimp only
  split
  · constructor
    · positivity
    · exact (min_le_left _ _).trans (by norm_num)
  · norm_num

/-- A record counts from zero to one. -/
theorem weight_mem {structural : ℚ} (unit : structural ∈ Set.Icc 0 1) (referenceTime : Int)
    (record : LearningRecord) : weight structural referenceTime record ∈ Set.Icc 0 1 := by
  have confidence := effective_mem record referenceTime
  have penalty := record.confidence.penaltyUnit
  have low : max record.confidence.conflictPenalty structural ≤ 1 := max_le penalty.2 unit.2
  have high : 0 ≤ max record.confidence.conflictPenalty structural :=
    penalty.1.trans (le_max_left _ _)
  exact ⟨mul_nonneg confidence.1 (by linarith),
    mul_le_one₀ confidence.2 (by linarith) (by linarith)⟩

/-- What a record adds is from minus one to one. -/
theorem contribution_mem {structural : ℚ} (unit : structural ∈ Set.Icc 0 1) (referenceTime : Int)
    (record : LearningRecord) : contribution structural referenceTime record ∈ Set.Icc (-1) 1 := by
  obtain ⟨low, high⟩ := weight_mem unit referenceTime record
  unfold contribution
  split
  · constructor <;> linarith
  · constructor <;> linarith
  · split
    · constructor <;> linarith
    · split
      · constructor <;> linarith
      · norm_num

/-- So is the score of a family that has records. -/
theorem exactScore_mem (filled : records ≠ []) :
    exactScore records referenceTime ∈ Set.Icc (-1) 1 := by
  have within : ∀ amount ∈ records.map (contribution (structuralConflict records) referenceTime),
      amount ∈ Set.Icc (-1 : ℚ) 1 := by
    intro amount member
    obtain ⟨record, _, rfl⟩ := List.mem_map.mp member
    exact contribution_mem (structuralConflict_mem records) referenceTime record
  exact Average.mean_mem (by simpa using filled) within

/-- A family with nothing but failures has no positive score. -/
theorem exactScore_failures (failed : ∀ record ∈ records, record.recordType = .failurePattern) :
    exactScore records referenceTime ≤ 0 := by
  have below : ∀ amount ∈ records.map (contribution (structuralConflict records) referenceTime),
      amount ≤ 0 := by
    intro amount member
    obtain ⟨record, inside, rfl⟩ := List.mem_map.mp member
    have bounds := weight_mem (structuralConflict_mem records) referenceTime record
    rw [contribution, failed record inside]
    linarith [bounds.1]
  have total := List.sum_le_card_nsmul _ 0 below
  rw [nsmul_zero] at total
  exact div_nonpos_of_nonpos_of_nonneg total (Nat.cast_nonneg _)

end Bounds

section Order

variable {records more : List LearningRecord} {new : LearningRecord} {referenceTime : Int}

/-- The conflict of records does not depend on their order. -/
theorem structuralConflict_perm (same : more.Perm records) :
    structuralConflict more = structuralConflict records := by
  unfold structuralConflict countType
  rw [same.countP_eq, same.countP_eq]

/-- Nor does the score. -/
theorem exactScore_perm (same : more.Perm records) :
    exactScore more referenceTime = exactScore records referenceTime := by
  unfold exactScore mean
  rw [structuralConflict_perm same, (same.map _).sum_eq, List.length_map, List.length_map,
    same.length_eq]

/-- One more record moves the score by what it adds beyond the score and what it takes from the
others, for each record. -/
theorem exactScore_cons_sub (filled : records ≠ []) (new : LearningRecord) (referenceTime : Int) :
    (exactScore (new :: records) referenceTime - exactScore records referenceTime) *
        (records.length + 1) =
      contribution (structuralConflict (new :: records)) referenceTime new -
        (exactScore records referenceTime + conflictLoss records new referenceTime) := by
  have many : (0 : ℚ) < records.length := by exact_mod_cast List.length_pos_iff.mpr filled
  have before : exactScore records referenceTime * records.length =
      (records.map (contribution (structuralConflict records) referenceTime)).sum := by
    rw [exactScore, mean, List.length_map, div_mul_cancel₀ _ many.ne']
  have after : exactScore (new :: records) referenceTime * (records.length + 1) =
      contribution (structuralConflict (new :: records)) referenceTime new +
        (records.map (contribution (structuralConflict (new :: records)) referenceTime)).sum := by
    rw [exactScore, mean, List.length_map, List.map_cons, List.sum_cons, List.length_cons,
      Nat.cast_add, Nat.cast_one, div_mul_cancel₀ _ (by linarith)]
  rw [sub_mul, after, conflictLoss, ← before]
  ring

/-- One more record does not lower the score exactly if it adds at least the score and what it takes
from the others. -/
theorem exactScore_le_cons_iff (filled : records ≠ []) :
    exactScore records referenceTime ≤ exactScore (new :: records) referenceTime ↔
      exactScore records referenceTime + conflictLoss records new referenceTime ≤
        contribution (structuralConflict (new :: records)) referenceTime new := by
  have moved := exactScore_cons_sub filled new referenceTime
  have many : (0 : ℚ) < records.length + 1 := by positivity
  constructor
  · intro higher
    have product := mul_nonneg (sub_nonneg.mpr higher) many.le
    linarith
  · intro bound
    by_contra lower
    have product := mul_neg_of_neg_of_pos (sub_neg.mpr (not_le.mp lower)) many
    linarith

/-- And does not raise it exactly if it adds at most that. -/
theorem exactScore_cons_le_iff (filled : records ≠ []) :
    exactScore (new :: records) referenceTime ≤ exactScore records referenceTime ↔
      contribution (structuralConflict (new :: records)) referenceTime new ≤
        exactScore records referenceTime + conflictLoss records new referenceTime := by
  have moved := exactScore_cons_sub filled new referenceTime
  have many : (0 : ℚ) < records.length + 1 := by positivity
  constructor
  · intro lower
    have product := mul_nonpos_of_nonpos_of_nonneg (sub_nonpos.mpr lower) many.le
    linarith
  · intro bound
    by_contra higher
    have product := mul_pos (sub_pos.mpr (not_le.mp higher)) many
    linarith

end Order

section Families

variable {records more : List LearningRecord} {new : LearningRecord} {referenceTime : Int}

/-- The priors are those of the families with records. -/
theorem mem_familyPriorDetails {found : FamilyLearningPrior}
    (member : found ∈ familyPriorDetails records referenceTime) :
    found = prior found.family (recordsOf records found.family) referenceTime ∧
      recordsOf records found.family ≠ [] := by
  unfold familyPriorDetails at member
  rw [Py.mem_sortedBy] at member
  obtain ⟨family, inside, rfl⟩ := List.mem_map.mp member
  refine ⟨rfl, ?_⟩
  obtain ⟨record, kept, same⟩ := List.mem_map.mp (List.mem_eraseDups.mp inside)
  have among : record ∈ recordsOf records family :=
    List.mem_filter.mpr ⟨kept, by simpa using same⟩
  exact List.ne_nil_of_mem among

/-- The records of a family are its old ones and the new one. -/
theorem recordsOf_perm (added : more.Perm (new :: records))
    (filled : recordsOf records new.strategy ≠ []) :
    (recordsOf more new.strategy).Perm (new :: recordsOf records new.strategy) := by
  -- The family of a record alone decides whether it counts.
  have counted : isFamilyRecord new := by
    obtain ⟨old, member⟩ := List.exists_mem_of_ne_nil _ filled
    obtain ⟨kept, same⟩ := List.mem_filter.mp member
    have old := (List.mem_filter.mp kept).2
    rw [decide_eq_true_eq] at same
    unfold isFamilyRecord at old ⊢
    rwa [same] at old
  have perm := (added.filter isFamilyRecord).filter fun record => record.strategy = new.strategy
  rwa [List.filter_cons_of_pos counted, List.filter_cons_of_pos (by simp)] at perm

/-- The score that a family is given, if any, is the one in its prior. -/
theorem lookup_familyPriors {family : String} {score : ℚ}
    (found : (familyPriors records referenceTime).lookup family = some score) :
    score = Py.round 6 (exactScore (recordsOf records family) referenceTime) ∧
      recordsOf records family ≠ [] := by
  obtain ⟨before, after, same, _⟩ := List.lookup_eq_some_iff.mp found
  have member : (family, score) ∈ familyPriors records referenceTime := by
    rw [same]
    simp
  obtain ⟨known, inside, equal⟩ := List.mem_map.mp member
  obtain ⟨rfl, rfl⟩ := Prod.mk.inj equal
  obtain ⟨shape, filled⟩ := mem_familyPriorDetails inside
  exact ⟨congrArg FamilyLearningPrior.score shape, filled⟩

/-- The place that learning gives a family which is declared behind another one with no worse score
stays behind it. -/
theorem ranked_behind {templates : List StrategyFamilyTemplate}
    {preferences : List (String × ℚ)} {first second : StrategyFamilyTemplate}
    (declared : [first, second].Sublist templates)
    (scores : (preferences.lookup second.family).getD 0 ≤
      (preferences.lookup first.family).getD 0) :
    [first, second].Sublist (rankTemplatesByLearning templates preferences) := by
  unfold rankTemplatesByLearning
  split
  · exact declared
  · exact List.pair_sublist_insertionSort (neg_le_neg scores) declared

/-- Tenths are from zero to one, up to ten of them. -/
theorem tenths_mem (tenths : Fin 11) : ((tenths : Nat) / 10 : ℚ) ∈ Set.Icc 0 1 := by
  have few : ((tenths : Nat) : ℚ) ≤ 10 := by exact_mod_cast Nat.le_of_lt_succ tenths.isLt
  exact ⟨by positivity, by rw [div_le_one (by norm_num)]; exact few⟩

/-- Nothing is from zero to one. -/
theorem zero_mem : (0 : ℚ) ∈ Set.Icc 0 1 := ⟨le_rfl, zero_le_one⟩

/-- A fresh pattern of the standard breakout, with a confidence in tenths and no conflict. -/
def breakoutPattern (recordType : LearningRecordType) (tenths : Fin 11) : LearningRecord where
  recordType
  strategy := "breakout_standard"
  content := ""
  confidence := ⟨tenths / 10, 0, tenths_mem tenths, zero_mem⟩
  revalidationDueAt := 0

end Families

end StrategyLab.FamilyPriors
